import RepoIdentity.Proofs.Authority
import RepoIdentity.Proofs.Path

/-!
# Network URLs

A URL of a special scheme with a host is read in two halves that do not see each
other: the authority before the slash that begins the path, and the path after it
(`read_authority`). Of the authority only what follows the credentials counts.

* `placeOf` reads host and port from what is left of the authority;
* `readAuthority_network`, `readNetwork_slash` — the two halves, with credentials
  and a slash of either kind; `read_network` for host and port alone;
* `Host.Settled` — the names of hosts that are read as they are written;
* `placeOf_of_settled`, `settled_of_placeOf` — host and port are read back from
  their written form exactly if the name is settled and the port is not the
  usual one.
-/

namespace RepoIdentity.Url

-- ---------------------------------------------------------------------------
-- Ports
-- ---------------------------------------------------------------------------

/-- A port is read from its digits, and refused if something else follows them or if it does not
fit. -/
theorem readPort_digits {scheme digits rest : Text} (hdigits : ∀ c ∈ digits, c.isDigit = true)
    (hrest : ∀ c ∈ rest.head?, c.isDigit = false) :
    readPort scheme (digits ++ rest) =
      if rest.head?.any (fun c => !endsPort c) then .error .invalidPort
      else if digits.isEmpty then .ok (none, rest)
      else if 65535 < Numeral.ofDigits digits then .error .invalidPort
      else .ok (if Scheme.defaultPort? scheme = some (Numeral.ofDigits digits) then none
        else some (Numeral.ofDigits digits), rest) := by
  have htake : rest.takeWhile Char.isDigit = [] := by
    cases rest with
    | nil => rfl
    | cons c rest =>
      rw [List.takeWhile_cons, hrest c rfl]
      rfl
  have hdrop : rest.dropWhile Char.isDigit = rest := by
    cases rest with
    | nil => rfl
    | cons c rest =>
      rw [List.dropWhile_cons, hrest c rfl]
      rfl
  unfold readPort
  rw [List.takeWhile_append_of_pos hdigits, List.dropWhile_append_of_pos hdigits, htake, hdrop,
    List.append_nil]

/-- Every text has a longest part of digits at its beginning. -/
theorem exists_digits (s : Text) :
    ∃ digits rest, s = digits ++ rest ∧ (∀ c ∈ digits, c.isDigit = true) ∧
      ∀ c ∈ rest.head?, c.isDigit = false := by
  refine ⟨s.takeWhile Char.isDigit, s.dropWhile Char.isDigit,
    List.takeWhile_append_dropWhile.symm, List.all_eq_true.mp List.all_takeWhile, fun c hc => ?_⟩
  have hhead := List.head?_dropWhile_not Char.isDigit s
  rw [Option.mem_def.mp hc] at hhead
  simpa using hhead

/-- What ends a port is not a digit. -/
theorem isDigit_of_endsPort {e : Char} (h : endsPort e = true) : e.isDigit = false := by
  rw [Bool.eq_false_iff]
  intro hdigit
  rw [endsPort_of_isHostChar (isHostChar_of_isDigit hdigit)] at h
  cases h

/-- What ends a port is left, and so is all that follows. -/
theorem readPort_append {scheme s : Text} {e : Char} (hends : ∀ c ∈ s, endsPort c = false)
    (he : endsPort e = true) (t : Text) :
    readPort scheme (s ++ e :: t) =
      (readPort scheme s).map fun read => (read.1, read.2 ++ e :: t) := by
  obtain ⟨digits, rest, rfl, hdigits, hrest⟩ := exists_digits s
  rw [List.append_assoc, readPort_digits hdigits hrest]
  cases rest with
  | nil =>
    have hdigit := isDigit_of_endsPort he
    rw [List.nil_append, readPort_digits hdigits (by rintro c ⟨⟩; exact hdigit)]
    simp only [List.head?_cons, List.head?_nil, Option.any_some, Option.any_none, he,
      Bool.not_true, Bool.false_eq_true, if_false]
    by_cases hempty : digits.isEmpty = true
    · rw [if_pos hempty, if_pos hempty]
      rfl
    · rw [if_neg hempty, if_neg hempty]
      by_cases hlarge : 65535 < Numeral.ofDigits digits
      · rw [if_pos hlarge, if_pos hlarge]
        rfl
      · rw [if_neg hlarge, if_neg hlarge]
        rfl
  | cons c rest =>
    have hc : endsPort c = false := hends c (List.mem_append_right _ List.mem_cons_self)
    rw [List.cons_append, readPort_digits hdigits (by rintro d ⟨⟩; exact hrest _ rfl)]
    simp only [List.head?_cons, Option.any_some, hc, Bool.not_false, if_true]
    rfl

/-- A port that is kept is a number of sixteen bits and not the usual one. -/
theorem fits_of_readPort {scheme s rest : Text} {port : Option Nat}
    (h : readPort scheme s = .ok (port, rest)) :
    ∀ n, port = some n → n ≤ 65535 ∧ Scheme.defaultPort? scheme ≠ some n := by
  unfold readPort at h
  dsimp only at h
  split at h
  · cases h
  · split at h
    · cases h
      simp
    · split at h
      · cases h
      · next hle =>
        split at h
        · cases h
          simp
        · next hdefault =>
          cases h
          rintro n ⟨⟩
          exact ⟨Nat.le_of_not_lt hle, hdefault⟩

/-- A port that is kept fits and is not the usual one. -/
theorem fits_of_readPortAfterHost {scheme s rest : Text} {port : Option Nat}
    (h : readPortAfterHost scheme s = .ok (port, rest)) :
    ∀ n, port = some n → n ≤ 65535 ∧ Scheme.defaultPort? scheme ≠ some n := by
  unfold readPortAfterHost at h
  split at h
  · exact fits_of_readPort h
  · cases h
    simp

/-- What a port was read from, if nothing is left: digits, or nothing at all. -/
theorem eq_of_readPort {scheme s rest : Text} {port : Option Nat}
    (hends : ∀ c ∈ s, endsPort c = false) (h : readPort scheme s = .ok (port, rest)) :
    (∀ c ∈ s, c.isDigit = true) ∧ rest = [] ∧
      ∀ n, port = some n → n ≤ 65535 ∧ Scheme.defaultPort? scheme ≠ some n := by
  have hfits := fits_of_readPort h
  obtain ⟨digits, after, rfl, hdigits, hafter⟩ := exists_digits s
  rw [readPort_digits hdigits hafter] at h
  cases after with
  | cons c after =>
    have hc : endsPort c = false := hends c (List.mem_append_right _ List.mem_cons_self)
    simp [hc] at h
  | nil =>
    rw [List.append_nil]
    simp only [List.head?_nil, Option.any_none, Bool.false_eq_true, if_false] at h
    refine ⟨hdigits, ?_, hfits⟩
    split at h
    · cases h
      rfl
    · split at h
      · cases h
      · cases h
        rfl

/-- The port of a scheme that is not its usual one is read as it is written. -/
theorem readPort_decimal {scheme : Text} {n : Nat} (hle : n ≤ 65535)
    (hdefault : Scheme.defaultPort? scheme ≠ some n) :
    readPort scheme (Numeral.decimal n) = .ok (some n, []) := by
  have hempty : (Numeral.decimal n).isEmpty = false :=
    Bool.eq_false_iff.mpr fun h => Numeral.decimal_ne_nil n (List.isEmpty_iff.mp h)
  rw [← List.append_nil (Numeral.decimal n),
    readPort_digits (fun c hc => Numeral.isDigit_of_mem_decimal hc) (by simp)]
  simp only [List.head?_nil, Option.any_none, Bool.false_eq_true, if_false, hempty,
    Numeral.ofDigits_decimal, if_neg (Nat.not_lt.mpr hle), if_neg hdefault]

/-- A port that fits and is not the usual one is read back from its text. -/
theorem readPortAfterHost_portText {scheme : Text} {port : Option Nat}
    (h : ∀ n, port = some n → n ≤ 65535 ∧ Scheme.defaultPort? scheme ≠ some n) :
    readPortAfterHost scheme (portText port) = .ok (port, []) := by
  cases port with
  | none => rfl
  | some n => exact readPort_decimal (h n rfl).1 (h n rfl).2

/-- What ends a port ends the authority, also where there is no port. -/
theorem readPortAfterHost_append {scheme s : Text} {e : Char} (hhead : ∀ c ∈ s.head?, c = ':')
    (hends : ∀ c ∈ s, endsPort c = false) (he : endsPort e = true) (t : Text) :
    readPortAfterHost scheme (s ++ e :: t) =
      (readPortAfterHost scheme s).map fun read => (read.1, read.2 ++ e :: t) := by
  cases s with
  | nil =>
    have hcolon : e ≠ ':' := by
      rintro rfl
      exact absurd he (by decide)
    rw [List.nil_append, readPortAfterHost]
    · rfl
    · rintro s' hs'
      exact hcolon (List.cons.inj hs').1
  | cons c s =>
    obtain rfl : c = ':' := hhead c rfl
    exact readPort_append (fun d hd => hends d (List.mem_cons_of_mem _ hd)) he t

/-- Nothing is left of a port that is not followed by a path. -/
theorem eq_of_readPortAfterHost {scheme s rest : Text} {port : Option Nat}
    (hhead : ∀ c ∈ s.head?, c = ':') (hends : ∀ c ∈ s, endsPort c = false)
    (h : readPortAfterHost scheme s = .ok (port, rest)) :
    rest = [] ∧ (port = none ∧ s = [] ∨ ∃ digits, s = ':' :: digits ∧
      (∀ c ∈ digits, c.isDigit = true) ∧
      ∀ n, port = some n → n ≤ 65535 ∧ Scheme.defaultPort? scheme ≠ some n) := by
  cases s with
  | nil =>
    cases h
    exact ⟨rfl, Or.inl ⟨rfl, rfl⟩⟩
  | cons c s =>
    obtain rfl : c = ':' := hhead c rfl
    obtain ⟨hdigits, hrest, hport⟩ :=
      eq_of_readPort (fun d hd => hends d (List.mem_cons_of_mem _ hd)) h
    exact ⟨hrest, Or.inr ⟨s, rfl, hdigits, hport⟩⟩

-- ---------------------------------------------------------------------------
-- The two halves
-- ---------------------------------------------------------------------------

/-- The host and the port that stand before the path of a network URL. -/
def placeOf (scheme place : Text) : Except Error (Host × Option Nat) :=
  if (spanHost false place).1.isEmpty then .error .emptyHost
  else
    match Host.readSpecial (spanHost false place).1 with
    | .error e => .error e
    | .ok host =>
      match readPortAfterHost scheme (spanHost false place).2 with
      | .error e => .error e
      | .ok (port, _) => .ok (host, port)

/-- A text of characters for hosts holds no other one. -/
theorem not_mem_of_isHostChar {s : Text} {c : Char} (h : ∀ c ∈ s, isHostChar c = true)
    (hc : isHostChar c = false) : c ∉ s := by
  intro hmem
  rw [h c hmem] at hc
  cases hc

/-- What follows the user name is a part of the authority. -/
theorem mem_of_mem_cutCredentials {s : Text} {c : Char} (h : c ∈ (cutCredentials s).2) :
    c ∈ s := by
  unfold cutCredentials at h
  split at h
  · next after before hcut =>
    obtain ⟨hs, -⟩ := Text.eq_of_cutAt hcut
    refine List.mem_reverse.mp ?_
    rw [hs]
    exact List.mem_append_left _ (List.mem_reverse.mp h)
  · exact h

/-- Without an at sign there is no user name. -/
theorem cutCredentials_of_not_mem {s : Text} (h : '@' ∉ s) : cutCredentials s = (none, s) := by
  rw [cutCredentials, Text.cutAt_eq_none_iff.mpr fun hmem => h (List.mem_reverse.mp hmem)]

/-- The last at sign ends the credentials, whatever stands before it. -/
theorem cutCredentials_append (user : Text) {place : Text} (h : '@' ∉ place) :
    cutCredentials (user ++ '@' :: place) = (some user, place) := by
  have hreverse : (user ++ '@' :: place).reverse = place.reverse ++ '@' :: user.reverse := by
    simp
  rw [cutCredentials, hreverse,
    Text.cutAt_append _ fun hmem => h (List.mem_reverse.mp hmem)]
  simp only [List.reverse_reverse]

theorem endsAuthority_network (c : Char) : endsAuthority .network c = endsPort c := by
  simp [endsAuthority, endsPort, Path.isSlash_network]

/-- An authority ends where a port would, and its credentials do not count. -/
theorem readAuthority_network {scheme w path : Text} (hw : ∀ c ∈ w, endsPort c = false)
    (hpath : ∀ c ∈ path.head?, endsPort c = true) :
    readAuthority .network scheme (w ++ path) =
      (placeOf scheme (cutCredentials w).2).map fun read => ⟨some read.1, read.2, path⟩ := by
  have hinside : ∀ c ∈ w, (!endsAuthority .network c) = true := by
    intro c hc
    rw [endsAuthority_network, hw c hc]
    rfl
  -- the authority ends where the path begins
  have htake : (w ++ path).takeWhile (fun c => !endsAuthority .network c) = w := by
    rw [List.takeWhile_append_of_pos hinside]
    cases path with
    | nil => exact List.append_nil w
    | cons e t =>
      rw [List.takeWhile_cons_of_neg (by simp [endsAuthority_network, hpath e rfl]),
        List.append_nil]
  have hdrop : (w ++ path).dropWhile (fun c => !endsAuthority .network c) = path := by
    rw [List.dropWhile_append_of_pos hinside]
    cases path with
    | nil => rfl
    | cons e t => rw [List.dropWhile_cons_of_neg (by simp [endsAuthority_network, hpath e rfl])]
  have hafter := head?_spanHost false (cutCredentials w).2
  have hends : ∀ c ∈ (spanHost false (cutCredentials w).2).2, endsPort c = false := by
    intro c hc
    refine hw c (mem_of_mem_cutCredentials ?_)
    rw [← spanHost_append false (cutCredentials w).2]
    exact List.mem_append_right _ hc
  -- the port is read up to the path, whatever that is
  have hport : readPortAfterHost scheme ((spanHost false (cutCredentials w).2).2 ++ path) =
      (readPortAfterHost scheme (spanHost false (cutCredentials w).2).2).map
        fun read => (read.1, path) := by
    cases path with
    | nil =>
      rw [List.append_nil]
      cases hread : readPortAfterHost scheme (spanHost false (cutCredentials w).2).2 with
      | error e => rfl
      | ok read =>
        obtain ⟨hrest, -⟩ := eq_of_readPortAfterHost hafter hends hread
        rw [Except.map, ← hrest]
    | cons e t =>
      rw [readPortAfterHost_append hafter hends (hpath e rfl)]
      cases hread : readPortAfterHost scheme (spanHost false (cutCredentials w).2).2 with
      | error e => rfl
      | ok read =>
        obtain ⟨hrest, -⟩ := eq_of_readPortAfterHost hafter hends hread
        rw [Except.map, Except.map, hrest, List.nil_append]
  unfold readAuthority placeOf
  simp only [htake, hdrop, readHost, hport]
  by_cases hempty : (spanHost false (cutCredentials w).2).1.isEmpty = true
  · simp [hempty, Except.map]
  · -- a place that is left names a host, so that credentials cannot be too many
    have hplace : (cutCredentials w).2 ≠ [] := by
      intro hnil
      rw [hnil] at hempty
      exact hempty rfl
    cases hhost : Host.readSpecial (spanHost false (cutCredentials w).2).1 with
    | error e => simp [hempty, hplace, Except.map]
    | ok host =>
      cases readPortAfterHost scheme (spanHost false (cutCredentials w).2).2 with
      | error e => simp [hempty, hplace, Except.map]
      | ok read => simp [hempty, hplace, Except.map]

/-- What does not end a port is no slash. -/
theorem isSlash_of_endsPort {c : Char} (h : endsPort c = false) :
    SchemeKind.network.isSlash c = false := by
  simp only [endsPort, Bool.or_eq_false_iff] at h
  rw [Path.isSlash_network, h.1.1, h.1.2]
  rfl

theorem isSlash_of_isHostChar {c : Char} (h : isHostChar c = true) :
    SchemeKind.network.isSlash c = false := isSlash_of_endsPort (endsPort_of_isHostChar h)

/-- Slashes end a port. -/
theorem endsPort_of_isSlash {c : Char} (h : SchemeKind.network.isSlash c = true) :
    endsPort c = true := by
  rw [Path.isSlash_network] at h
  rw [endsPort, h]
  rfl

/-- No slash is skipped in front of an authority. -/
theorem dropWhile_isSlash {w : Text} (hne : w ≠ []) (hw : ∀ c ∈ w, endsPort c = false)
    (t : Text) : (w ++ t).dropWhile SchemeKind.network.isSlash = w ++ t := by
  obtain ⟨c, w, rfl⟩ := List.exists_cons_of_ne_nil hne
  have hc := isSlash_of_endsPort (hw c List.mem_cons_self)
  rw [List.cons_append, List.dropWhile_cons_of_neg (by rw [hc]; exact Bool.false_ne_true)]

/-- A network URL whose path begins with a slash of either kind. -/
theorem readNetwork_slash {scheme w : Text} {e : Char} (hne : w ≠ [])
    (hw : ∀ c ∈ w, endsPort c = false) (he : SchemeKind.network.isSlash e = true) (t : Text) :
    readNetwork scheme (w ++ e :: t) =
      (placeOf scheme (cutCredentials w).2).map fun read =>
        ⟨scheme, some read.1, read.2, networkPath t⟩ := by
  have hpath : ∀ c ∈ (e :: t).head?, endsPort c = true := by
    rintro c ⟨⟩
    exact endsPort_of_isSlash he
  have hkinds : isPathEnd e = false ∧ Ascii.isTabOrNewline e = false := by
    rw [Path.isSlash_network, Bool.or_eq_true, beq_iff_eq, beq_iff_eq] at he
    rcases he with rfl | rfl <;> exact ⟨rfl, rfl⟩
  have hwritten : Path.dropSlash .network (beforeQuery (e :: t)) = beforeQuery t := by
    rw [beforeQuery, List.takeWhile_cons_of_pos (by simp [hkinds.1]), Path.dropSlash,
      Path.afterSlash?, List.dropWhile_cons_of_neg (by simp [hkinds.2])]
    simp [he, beforeQuery]
  rw [readNetwork, dropWhile_isSlash hne hw, readAuthority_network hw hpath]
  cases placeOf scheme (cutCredentials w).2 with
  | error e => rfl
  | ok read => simp [Except.map, hwritten, networkPath]

/-- A network URL that ends with its authority has the root for a path. -/
theorem readNetwork_bare {scheme w : Text} (hne : w ≠ []) (hw : ∀ c ∈ w, endsPort c = false) :
    readNetwork scheme w =
      (placeOf scheme (cutCredentials w).2).map fun read =>
        ⟨scheme, some read.1, read.2, ['/']⟩ := by
  have hauthority : readAuthority .network scheme (w ++ []) = _ :=
    readAuthority_network hw (by simp)
  have hslashes := dropWhile_isSlash hne hw []
  rw [List.append_nil] at hauthority hslashes
  rw [readNetwork, hslashes, hauthority]
  cases placeOf scheme (cutCredentials w).2 <;> rfl

/-- A host with a slash after it is read as the place and the path of a web address. -/
theorem readNetwork_eq {scheme place : Text} (hne : place ≠ [])
    (hplace : ∀ c ∈ place, isHostChar c = true) (t : Text) :
    readNetwork scheme (place ++ '/' :: t) =
      (placeOf scheme place).map fun read => ⟨scheme, some read.1, read.2, networkPath t⟩ := by
  have hends : ∀ c ∈ place, endsPort c = false := fun c hc => endsPort_of_isHostChar (hplace c hc)
  rw [readNetwork_slash hne hends rfl,
    cutCredentials_of_not_mem (not_mem_of_isHostChar hplace rfl)]

/-- Slashes before the host do not count. -/
theorem readNetwork_append {scheme slashes : Text}
    (h : ∀ c ∈ slashes, SchemeKind.network.isSlash c = true) (s : Text) :
    readNetwork scheme (slashes ++ s) = readNetwork scheme s := by
  rw [readNetwork, List.dropWhile_append_of_pos h, ← readNetwork]

/-- The schemes that need a host are read as they are written. -/
theorem ofWritten_of_network {scheme : Text} (h : Scheme.kind scheme = .network) :
    (∀ c ∈ scheme.head?, Ascii.isControlOrSpace c = false) ∧ ':' ∉ scheme ∧
      Scheme.ofWritten (solid scheme) = some scheme := by
  unfold Scheme.kind at h
  split at h
  · cases h
  · split at h
    · next hmem =>
      simp only [List.mem_cons, List.not_mem_nil, or_false] at hmem
      rcases hmem with rfl | rfl | rfl | rfl | rfl <;>
        refine ⟨?_, by decide, by decide⟩ <;>
        · rintro c ⟨⟩
          rfl
    · cases h

/-- A web address is trimmed and freed of tabs and line breaks before it is read. -/
theorem read_of_network {scheme : Text} (hkind : Scheme.kind scheme = .network) (rest : Text) :
    read (scheme ++ ':' :: rest) =
      readNetwork scheme (solid (Text.trimEnd Ascii.isControlOrSpace rest)) := by
  obtain ⟨hhead, hcolon, hwritten⟩ := ofWritten_of_network hkind
  have hstart : Text.trimStart Ascii.isControlOrSpace (scheme ++ ':' :: rest) =
      scheme ++ ':' :: rest := by
    refine Text.trimStart_eq_self fun c hc => ?_
    cases scheme with
    | nil => exact absurd hkind (by decide)
    | cons d scheme => exact hhead c hc
  rw [read, Text.trim, hstart, Text.trimEnd_append _ _ (by decide), Scheme.read,
    Text.cutAt_append _ hcolon]
  simp only [hwritten, Option.map_some, hkind]

/-- What a network URL is read as, if its path begins with a slash. -/
theorem read_authority {scheme w : Text} (hkind : Scheme.kind scheme = .network)
    (hne : solid w ≠ []) (hw : ∀ c ∈ w, endsPort c = false) (t : Text) :
    read (scheme ++ "://".toList ++ w ++ '/' :: t) =
      (placeOf scheme (cutCredentials (solid w)).2).map fun read => ⟨scheme, some read.1, read.2,
        networkPath (solid (Text.trimEnd Ascii.isControlOrSpace t))⟩ := by
  have hwritten : scheme ++ "://".toList ++ w ++ '/' :: t =
      scheme ++ ':' :: ("//".toList ++ w ++ '/' :: t) := by simp
  have hsolid (t : Text) : solid ("//".toList ++ w ++ '/' :: t) =
      "//".toList ++ (solid w ++ '/' :: solid t) := by
    rw [List.append_cons, solid_append, solid_append, solid_append, List.append_assoc,
      List.append_assoc]
    rfl
  have hw' : ∀ c ∈ solid w, endsPort c = false := fun c hc => hw c (mem_solid.mp hc).1
  have hslashes : ∀ c ∈ "//".toList, SchemeKind.network.isSlash c = true :=
    List.all_eq_true.mp rfl
  rw [hwritten, read_of_network hkind, Text.trimEnd_append _ _ (by decide), hsolid,
    readNetwork_append hslashes, readNetwork_slash hne hw' rfl]

/-- What a network URL is read as, if its host and its port are written with host
characters and its path begins with a slash. -/
theorem read_network {scheme place : Text} (hkind : Scheme.kind scheme = .network)
    (hne : place ≠ []) (hplace : ∀ c ∈ place, isHostChar c = true) (t : Text) :
    read (scheme ++ "://".toList ++ place ++ '/' :: t) =
      (placeOf scheme place).map fun read => ⟨scheme, some read.1, read.2,
        networkPath (solid (Text.trimEnd Ascii.isControlOrSpace t))⟩ := by
  have hsolid : solid place = place :=
    solid_eq_self fun c hc => isTabOrNewline_of_isHostChar (hplace c hc)
  have hread := read_authority hkind (hsolid.symm ▸ hne)
    (fun c hc => endsPort_of_isHostChar (hplace c hc)) t
  rwa [hsolid, cutCredentials_of_not_mem (not_mem_of_isHostChar hplace rfl)] at hread

/-- A network URL has a host, which is written with some text. -/
theorem hostText_ne_nil_of_network {scheme rest : Text} {u : Url}
    (hkind : Scheme.kind scheme = .network) (h : read (scheme ++ ':' :: rest) = .ok u) :
    u.hostText ≠ [] := by
  rw [read_of_network hkind] at h
  obtain ⟨hplaced, hhost⟩ := exists_host_of_readNetwork h
  obtain ⟨host, hsome⟩ := Option.ne_none_iff_exists'.mp hhost
  have hne := Host.text_ne_nil (hplaced.isRead host hsome)
  intro hnil
  rw [hostText_eq, hsome] at hnil
  exact hne (List.append_eq_nil_iff.mp hnil).1

-- ---------------------------------------------------------------------------
-- Hosts that are read as they are written
-- ---------------------------------------------------------------------------

namespace Host

/-- An address, or a domain name that is its own ASCII form and is not meant as
an address. -/
def Settled : Host → Prop
  | .domain name => name ≠ [] ∧ Domain.toAscii name = some name ∧ Ipv4.isMeant name = false
  | .ipv4 _ => True
  | .ipv6 _ => True
  | .opaqueName _ => False

/-- A name in ASCII form holds no forbidden character. -/
theorem not_mem_of_toAscii {name ascii : Text} {c : Char} (h : Domain.toAscii name = some ascii)
    (hc : Domain.isForbidden c = true) : c ∉ ascii := by
  intro hmem
  rw [(Domain.mem_toAscii h hmem).2] at hc
  cases hc

/-- A text without a percent sign is decoded as itself. -/
theorem decode_of_not_mem {s : Text} (h : '%' ∉ s) : Utf8.decode (Percent.decode s) = .ok s := by
  rw [Percent.decode_eq_encode (Percent.not_hasEscape_of_not_mem h), Utf8.decode_encode]

theorem head?_ne_of_not_mem {s : Text} {c : Char} (h : c ∉ s) : s.head? ≠ some c :=
  fun hhead => h (List.mem_of_head? hhead)

/-- A name that has an ASCII form and is no address is read as a domain of that form. -/
theorem readSpecial_of_toAscii {name ascii : Text} (hbracket : '[' ∉ name) (hpercent : '%' ∉ name)
    (h : Domain.toAscii name = some ascii) (hne : ascii ≠ [])
    (hmeant : Ipv4.isMeant ascii = false) : readSpecial name = .ok (.domain ascii) := by
  rw [readSpecial, if_neg (head?_ne_of_not_mem hbracket), decode_of_not_mem hpercent]
  obtain ⟨c, rest, rfl⟩ := List.exists_cons_of_ne_nil hne
  simp [h, hmeant]

/-- A domain that is its own ASCII form is read as itself. -/
theorem readSpecial_domain {name : Text} (hne : name ≠ []) (hself : Domain.toAscii name = some name)
    (hmeant : Ipv4.isMeant name = false) : readSpecial name = .ok (.domain name) :=
  readSpecial_of_toAscii (not_mem_of_toAscii hself (by decide))
    (not_mem_of_toAscii hself (by decide)) hself hne hmeant

theorem not_mem_ipv4 {a : Ipv4} {c : Char} (hdigit : c.isDigit = false) (hdot : c ≠ '.') :
    c ∉ a.text := by
  intro hmem
  rcases Ipv4.mem_text hmem with h | h
  · rw [h] at hdigit
    cases hdigit
  · exact hdot h

/-- An address of four bytes is read back from its text. -/
theorem readSpecial_ipv4 (a : Ipv4) : readSpecial a.text = .ok (.ipv4 a) := by
  have hbracket : '[' ∉ a.text := not_mem_ipv4 (by decide) (by decide)
  have hpercent : '%' ∉ a.text := not_mem_ipv4 (by decide) (by decide)
  have hself : Domain.toAscii a.text = some a.text :=
    Domain.toAscii_of_alphanum fun c hc => Or.inr (Ipv4.mem_text hc)
  have hmeant := Ipv4.isMeant_text a
  have hread := Ipv4.read_text a
  have hne := Ipv4.text_ne_nil a
  rw [readSpecial, if_neg (head?_ne_of_not_mem hbracket), decode_of_not_mem hpercent]
  generalize a.text = text at *
  obtain ⟨c, rest, rfl⟩ := List.exists_cons_of_ne_nil hne
  simp [hself, hmeant, hread]

/-- An address of eight groups is read back from its text in brackets. -/
theorem readSpecial_ipv6 (a : Ipv6) : readSpecial ('[' :: a.text ++ [']']) = .ok (.ipv6 a) := by
  have hlast : ('[' :: a.text ++ [']']).getLast? = some ']' := List.getLast?_concat
  have hinner : (('[' :: a.text ++ [']']).drop 1).dropLast = a.text := List.dropLast_concat
  have hhead : ('[' :: a.text ++ [']']).head? = some '[' := rfl
  rw [readSpecial, if_pos hhead, readBracketed, hlast]
  simp only [hinner, Ipv6.read_text]

/-- Every settled host is read back from its text. -/
theorem readSpecial_text {host : Host} (h : host.Settled) : readSpecial host.text = .ok host := by
  cases host with
  | domain name => exact readSpecial_domain h.1 h.2.1 h.2.2
  | ipv4 a => exact readSpecial_ipv4 a
  | ipv6 a => exact readSpecial_ipv6 a
  | opaqueName name => exact h.elim

/-- Only settled hosts are read from their written forms. -/
theorem settled_of_readSpecial {host : Host} (h : readSpecial host.text = .ok host) :
    host.Settled := by
  rcases readSpecial_cases h with ⟨-, a, rfl⟩ | ⟨-, name, ascii, hdecode, hascii, hne, hhost⟩
  · trivial
  · rcases hhost with ⟨a, rfl⟩ | ⟨rfl, hmeant⟩
    · trivial
    · have hpercent := not_mem_of_toAscii hascii (c := '%') (by decide)
      rw [text, decode_of_not_mem hpercent] at hdecode
      cases hdecode
      exact ⟨hne, hascii, hmeant⟩

end Host

/-- In brackets colons belong to the name of a host. -/
theorem spanHost_bracketed {s : Text} (h : ']' ∉ s) (rest : Text) :
    spanHost true (s ++ ']' :: rest) =
      (s ++ ']' :: (spanHost false rest).1, (spanHost false rest).2) := by
  induction s with
  | nil => rw [List.nil_append, spanHost, if_neg (by decide)]; rfl
  | cons c s ih =>
    rw [List.mem_cons, not_or] at h
    have hbracket : (if c = '[' then true else if c = ']' then false else true) = true := by
      rw [if_neg (Ne.symm h.1), ite_self]
    rw [List.cons_append, spanHost, if_neg (by simp)]
    simp only [hbracket, ih h.2]
    rfl

theorem spanHost_portText (port : Option Nat) :
    spanHost false (portText port) = ([], portText port) := by
  cases port <;> rfl

/-- The text of a settled host is told from the port after it. -/
theorem spanHost_text {host : Host} (h : host.Settled) (port : Option Nat) :
    spanHost false (host.text ++ portText port) = (host.text, portText port) := by
  have hplain (name : Text) (hcolon : ':' ∉ name) (hopen : '[' ∉ name) :
      spanHost false (name ++ portText port) = (name, portText port) := by
    cases port with
    | none =>
      rw [portText, List.append_nil, spanHost_of_not_mem hcolon]
    | some n => exact spanHost_append_colon hcolon hopen _
  cases host with
  | domain name =>
    exact hplain name (Host.not_mem_of_toAscii h.2.1 (by decide))
      (Host.not_mem_of_toAscii h.2.1 (by decide))
  | ipv4 a =>
    exact hplain a.text (Host.not_mem_ipv4 (by decide) (by decide))
      (Host.not_mem_ipv4 (by decide) (by decide))
  | ipv6 a =>
    have hclose : ']' ∉ a.text := by
      intro hmem
      rcases Ipv6.mem_text hmem with ⟨d, hd, hdigit⟩ | hcolon
      · have hhex := Numeral.isHexDigit_digit hd
        rw [← hdigit] at hhex
        exact absurd hhex (by decide)
      · exact absurd hcolon (by decide)
    have hwritten : (Host.ipv6 a).text ++ portText port =
        '[' :: (a.text ++ ']' :: portText port) := by
      simp [Host.text]
    rw [hwritten, spanHost, if_neg (by decide)]
    simp only [if_true, spanHost_bracketed hclose, spanHost_portText]
    rfl
  | opaqueName name => exact h.elim

/-- A settled host and a port that is not the usual one are read as they are
written. -/
theorem placeOf_of_settled {scheme : Text} {host : Host} {port : Option Nat} (h : host.Settled)
    (hport : ∀ n, port = some n → n ≤ 65535 ∧ Scheme.defaultPort? scheme ≠ some n) :
    placeOf scheme (host.text ++ portText port) = .ok (host, port) := by
  have hread := Host.readSpecial_text h
  have hne : host.text.isEmpty = false :=
    Bool.eq_false_iff.mpr fun he =>
      Host.text_ne_nil (Or.inl ⟨host.text, hread⟩) (List.isEmpty_iff.mp he)
  rw [placeOf, spanHost_text h]
  simp only [hne, hread, readPortAfterHost_portText hport, Bool.false_eq_true, if_false]

/-- A place is a host, with a port after it that was read. -/
theorem placeOf_cases {scheme place : Text} {host : Host} {port : Option Nat}
    (h : placeOf scheme place = .ok (host, port)) :
    ∃ name after rest, place = name ++ after ∧ (∀ c ∈ after.head?, c = ':') ∧
      Host.readSpecial name = .ok host ∧ readPortAfterHost scheme after = .ok (port, rest) := by
  have hspan := spanHost_append false place
  have hafter := head?_spanHost false place
  unfold placeOf at h
  split at h
  · cases h
  · split at h
    · cases h
    · next host' hhost =>
      split at h
      · cases h
      · next port' rest hport =>
        cases h
        exact ⟨_, _, rest, hspan.symm, hafter, hhost, hport⟩

/-- A host and a port whose written form is what they were read from are settled. -/
theorem settled_of_placeOf {scheme place : Text} {host : Host} {port : Option Nat}
    (hplace : ∀ c ∈ place, isHostChar c = true) (h : placeOf scheme place = .ok (host, port))
    (htext : host.text ++ portText port = place) :
    host.Settled ∧ ∀ n, port = some n → n ≤ 65535 ∧ Scheme.defaultPort? scheme ≠ some n := by
  obtain ⟨name, after, rest, rfl, hafter, hhost, hport⟩ := placeOf_cases h
  have hends : ∀ c ∈ after, endsPort c = false := fun c hc =>
    endsPort_of_isHostChar (hplace c (List.mem_append_right _ hc))
  obtain ⟨-, ⟨rfl, rfl⟩ | ⟨digits, rfl, hdigits, hfits⟩⟩ :=
    eq_of_readPortAfterHost hafter hends hport
  · rw [portText, List.append_nil, List.append_nil] at htext
    rw [← htext] at hhost
    exact ⟨Host.settled_of_readSpecial hhost, by simp⟩
  · have hcolon : ':' ∉ digits := fun hmem => absurd (hdigits _ hmem) (by decide)
    cases port with
    | some n =>
      have hcolon' : ':' ∉ Numeral.decimal n := fun hmem =>
        absurd (Numeral.isDigit_of_mem_decimal hmem) (by decide)
      obtain ⟨hname, -⟩ := Text.eq_of_append_cons_last hcolon' hcolon htext
      rw [← hname] at hhost
      exact ⟨Host.settled_of_readSpecial hhost, hfits⟩
    | none =>
      -- the colon would be in the host itself, which would end in a bracket
      rw [portText, List.append_nil] at htext
      have hmem : ':' ∈ host.text := by
        rw [htext]
        exact List.mem_append_right _ List.mem_cons_self
      obtain ⟨a, rfl⟩ := (Host.isHostChar_text (Or.inl ⟨name, hhost⟩) ':' hmem).2 rfl
      have hlast : (name ++ ':' :: digits).getLast? = some ']' := by
        rw [← htext]
        exact List.getLast?_concat
      have hbracket : ']' ∈ ':' :: digits := by
        rw [List.getLast?_append_cons] at hlast
        exact List.mem_of_getLast? hlast
      rcases List.mem_cons.mp hbracket with hc | hc
      · exact absurd hc (by decide)
      · exact absurd (hdigits _ hc) (by decide)

end RepoIdentity.Url

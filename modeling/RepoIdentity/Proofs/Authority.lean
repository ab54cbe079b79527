import RepoIdentity.Proofs.Host

/-!
# Host and port of a URL

Every kind of URL is read by a reader of its own. What they have in common is
that a host, if there is one, was read from some text, and that a port needs a
host (`Placed`, `placed_of_read`). So host and port together are written with
host characters only, whatever the URL was (`isHostChar_hostText`).
-/

namespace RepoIdentity.Url

-- ---------------------------------------------------------------------------
-- The parts of an authority
-- ---------------------------------------------------------------------------

/-- The host and what follows it are all that was written. -/
theorem spanHost_append (inBrackets : Bool) (s : Text) :
    (spanHost inBrackets s).1 ++ (spanHost inBrackets s).2 = s := by
  fun_induction spanHost inBrackets s with
  | case1 => rfl
  | case2 => rfl
  | case3 inBrackets c rest _ inBrackets' host after hspan ih =>
    rw [hspan] at ih
    rw [List.cons_append, ih]

/-- A host is followed by a colon or by nothing. -/
theorem head?_spanHost (inBrackets : Bool) (s : Text) :
    ∀ c ∈ (spanHost inBrackets s).2.head?, c = ':' := by
  fun_induction spanHost inBrackets s with
  | case1 => simp
  | case2 inBrackets c rest hc =>
    intro d hd
    cases hd
    exact hc.1
  | case3 inBrackets c rest _ inBrackets' host after hspan ih =>
    rw [hspan] at ih
    exact ih

/-- A text without colons is the name of a host. -/
theorem spanHost_of_not_mem {s : Text} (h : ':' ∉ s) (inBrackets : Bool) :
    spanHost inBrackets s = (s, []) := by
  induction s generalizing inBrackets with
  | nil => rfl
  | cons c s ih =>
    rw [List.mem_cons, not_or] at h
    rw [spanHost, if_neg fun hc => h.1 hc.1.symm]
    simp only [ih h.2]

/-- A text without colons and brackets is the name of a host before a colon. -/
theorem spanHost_append_colon {s : Text} (hcolon : ':' ∉ s) (hopen : '[' ∉ s) (rest : Text) :
    spanHost false (s ++ ':' :: rest) = (s, ':' :: rest) := by
  induction s with
  | nil => rw [List.nil_append, spanHost, if_pos ⟨rfl, rfl⟩]
  | cons c s ih =>
    rw [List.mem_cons, not_or] at hcolon hopen
    have hbracket : (if c = '[' then true else if c = ']' then false else false) = false := by
      rw [if_neg (Ne.symm hopen.1), ite_self]
    rw [List.cons_append, spanHost, if_neg fun hc => hcolon.1 hc.1.symm]
    simp only [hbracket, ih hcolon.2 hopen.2]

/-- The written port of a URL, with the colon before it. -/
def portText : Option Nat → Text
  | some port => ':' :: Numeral.decimal port
  | none => []

theorem hostText_eq (u : Url) :
    u.hostText = (u.host.map Host.text).getD [] ++ portText u.port := by
  rw [hostText]
  cases u.port <;> rfl

/-- The text of a port may stand in a host. -/
theorem isHostChar_of_mem_portText {port : Option Nat} {c : Char} (hc : c ∈ portText port) :
    isHostChar c = true := by
  cases port with
  | none => cases hc
  | some p =>
    rcases List.mem_cons.mp hc with rfl | hc
    · rfl
    · exact isHostChar_of_isDigit (Numeral.isDigit_of_mem_decimal hc)

-- ---------------------------------------------------------------------------
-- What all readers keep
-- ---------------------------------------------------------------------------

/-- A host, if there is one, is read from some text, and without a host there is
no port. -/
structure Placed (host : Option Host) (port : Option Nat) : Prop where
  isRead : ∀ h, host = some h → h.IsRead
  port_eq_none : host = none → port = none

theorem placed_none : Placed none none := ⟨by simp, fun _ => rfl⟩

/-- A host is read in one of the two ways. -/
theorem isRead_of_readHost {kind : SchemeKind} {s : Text} {host : Option Host}
    (h : readHost kind s = .ok host) : ∀ h, host = some h → h.IsRead := by
  rintro host' rfl
  unfold readHost at h
  split at h
  · exact Or.inr ⟨s, h⟩
  · split at h
    · cases h
    · obtain ⟨host'', hs, heq⟩ := exists_of_map_eq_ok h
      rw [Option.some.inj heq]
      exact Or.inl ⟨s, hs⟩

theorem not_colon_of_endsAuthority {kind : SchemeKind} {c : Char}
    (h : endsAuthority kind c = true) : c ≠ ':' := by
  rintro rfl
  cases kind <;> exact absurd h (by decide)

/-- The name of the host as it is written, in a text that begins with an authority. -/
def hostName (kind : SchemeKind) (s : Text) : Text :=
  (spanHost false (cutCredentials (s.takeWhile fun c => !endsAuthority kind c)).2).1

/-- What an authority is read from: the name of its host, and after it the port
and the rest. -/
theorem readAuthority_cases {kind : SchemeKind} {scheme s : Text} {a : Authority}
    (h : readAuthority kind scheme s = .ok a) :
    ∃ after path, readHost kind (hostName kind s) = .ok a.host ∧
      (∀ c ∈ after.head?, c = ':' ∧ a.host ≠ none) ∧ (∀ c ∈ path.head?, c ≠ ':') ∧
      readPortAfterHost scheme (after ++ path) = .ok (a.port, a.rest) := by
  unfold readAuthority at h
  unfold hostName
  dsimp only at h
  generalize cutCredentials (s.takeWhile fun c => !endsAuthority kind c) = cut at h ⊢
  split at h
  · cases h
  · split at h
    · cases h
    · next host hhost =>
      split at h
      · cases h
      · next hcolon =>
        split at h
        · cases h
        · next port rest hport =>
          split at h
          · cases h
          · cases h
            -- a colon without a host was refused, and the path begins where the authority ends
            refine ⟨_, _, hhost, ?_, ?_, hport⟩
            · intro c hc
              have hc' := head?_spanHost false cut.2 c hc
              refine ⟨hc', ?_⟩
              rintro rfl
              rw [Option.mem_def.mp hc, hc'] at hcolon
              exact absurd rfl hcolon
            · intro c hc
              have hends := List.head?_dropWhile_not (fun c => !endsAuthority kind c) s
              rw [Option.mem_def.mp hc] at hends
              exact not_colon_of_endsAuthority (by simpa using hends)

/-- What the readers of network URLs and of URLs with an authority keep. -/
theorem placed_of_readAuthority {kind : SchemeKind} {scheme s : Text} {a : Authority}
    (h : readAuthority kind scheme s = .ok a) : Placed a.host a.port := by
  obtain ⟨after, path, hhost, hafter, hpath, hport⟩ := readAuthority_cases h
  refine ⟨isRead_of_readHost hhost, fun hnone => ?_⟩
  -- without a host nothing follows its name but the path, which begins with no colon
  cases after with
  | cons c after => exact absurd hnone (hafter c rfl).2
  | nil =>
    rw [List.nil_append] at hport
    cases path with
    | nil => exact (Prod.mk.inj (Except.ok.inj hport)).1.symm
    | cons c path =>
      rw [readPortAfterHost] at hport
      · exact (Prod.mk.inj (Except.ok.inj hport)).1.symm
      · rintro s' hs'
        exact hpath c rfl (List.cons.inj hs').1

/-- A file URL with a host that was read has a place. -/
theorem placed_fileUrl {host : Option Host} {written : Text}
    (h : ∀ h, host = some h → h.IsRead) :
    Placed (fileUrl host written).host (fileUrl host written).port := by
  refine ⟨?_, fun _ => rfl⟩
  intro host' hhost'
  rw [fileUrl] at hhost'
  dsimp only at hhost'
  split at hhost'
  · cases hhost'
  · exact h host' hhost'

/-- A file URL has no host, or one that is read as that of a special URL. -/
theorem readFile_cases {s : Text} {u : Url} (h : readFile s = .ok u) :
    ∃ host written, u = fileUrl host written ∧
      ∀ found, host = some found → ∃ name, Host.readSpecial name = .ok found := by
  have hnone (written : Text) : ∃ host written', fileUrl none written = fileUrl host written' ∧
      ∀ found, host = some found → ∃ name, Host.readSpecial name = .ok found :=
    ⟨none, written, rfl, by simp⟩
  unfold readFile at h
  split at h
  · cases h
    exact hnone _
  · split at h
    · cases h
      exact hnone _
    · unfold readFileHost at h
      dsimp only at h
      split at h
      · cases h
        exact hnone _
      · split at h
        · cases h
          exact hnone _
        · split at h
          · cases h
          · -- a host that is not the local one is kept as it was read
            next host hhost =>
            split at h
            · cases h
              exact hnone _
            · cases h
              refine ⟨some host, _, rfl, ?_⟩
              rintro found ⟨⟩
              exact ⟨_, hhost⟩

/-- The host and the port of a file URL are a place. -/
theorem placed_of_readFile {s : Text} {u : Url} (h : readFile s = .ok u) :
    Placed u.host u.port := by
  obtain ⟨host, written, rfl, hhost⟩ := readFile_cases h
  exact placed_fileUrl fun found hfound => Or.inl (hhost found hfound)

/-- The host and the port of a URL of another scheme are a place. -/
theorem placed_of_readOther {scheme s : Text} {u : Url} (h : readOther scheme s = .ok u) :
    Placed u.host u.port := by
  unfold readOther at h
  split at h
  · split at h
    · cases h
    · next a ha =>
      cases h
      exact placed_of_readAuthority ha
  · cases h
    exact placed_none
  · cases h
    exact placed_none

/-- A network URL has a host. -/
theorem exists_host_of_readNetwork {scheme s : Text} {u : Url} (h : readNetwork scheme s = .ok u) :
    Placed u.host u.port ∧ u.host ≠ none := by
  unfold readNetwork at h
  split at h
  · cases h
  · next a ha =>
    cases h
    refine ⟨placed_of_readAuthority ha, fun hnone => ?_⟩
    obtain ⟨after, path, hhost, -⟩ := readAuthority_cases ha
    rw [show a.host = none from hnone] at hhost
    unfold readHost at hhost
    split at hhost
    · contradiction
    · split at hhost
      · cases hhost
      · obtain ⟨host, -, heq⟩ := exists_of_map_eq_ok hhost
        cases heq

/-- What every reader of URLs keeps. -/
theorem placed_of_read {s : Text} {u : Url} (h : read s = .ok u) : Placed u.host u.port := by
  unfold read at h
  split at h
  · cases h
  · split at h
    · exact placed_of_readFile h
    · exact (exists_host_of_readNetwork h).1
    · exact placed_of_readOther h

/-- Host and port of a URL are written with host characters. -/
theorem isHostChar_hostText {s : Text} {u : Url} (h : read s = .ok u) :
    ∀ c ∈ u.hostText, isHostChar c = true := by
  intro c hc
  rw [hostText_eq, List.mem_append] at hc
  rcases hc with hc | hc
  · cases hhost : u.host with
    | none =>
      rw [hhost] at hc
      cases hc
    | some host =>
      rw [hhost] at hc
      exact (Host.isHostChar_text ((placed_of_read h).isRead host hhost) c hc).1
  · exact isHostChar_of_mem_portText hc

end RepoIdentity.Url

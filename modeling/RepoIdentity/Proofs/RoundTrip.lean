import RepoIdentity.Proofs.Spelling

/-!
# Reading canonical URLs back

A canonical URL holds the decoded path and is written without a scheme. Read
again, by the legacy grammar, it need not name the repository that it is of: what
was decoded is decoded and resolved once more, and the host is now read as that
of an `https` URL.

* `Hosted.Rereadable` — nothing in the canonical URL is read as anything but
  itself;
* `Grammar.readLegacy_of_rereadable` — then the repository is read back;
* `Grammar.rereadable_of_readLegacy` — and only then. A host with a colon is
  never taken for a scheme without being lost (`Url.hostText_ne_of_read`), and a
  path that is changed at all comes out shorter than it went in
  (`Url.path_of_read_back`).
-/

namespace RepoIdentity

namespace Url

-- ---------------------------------------------------------------------------
-- Hosts taken for schemes
-- ---------------------------------------------------------------------------

/-- A scheme is made of characters for schemes. -/
theorem isInside_of_ofWritten {s scheme : Text} (h : Scheme.ofWritten s = some scheme) :
    ∀ c ∈ s, Scheme.isInside c = true := by
  cases s with
  | nil => cases h
  | cons d s =>
    rw [Scheme.ofWritten] at h
    split at h
    · next hall =>
      obtain ⟨halpha, hinside⟩ := Bool.and_eq_true_iff.mp hall
      intro c hc
      rcases List.mem_cons.mp hc with rfl | hc
      · rw [Scheme.isInside, Ascii.isAlphanum, halpha]
        rfl
      · exact List.all_eq_true.mp hinside c hc
    · cases h

/-- A scheme is what stands before the first colon. -/
theorem scheme_read_cases {s scheme rest : Text} (h : Scheme.read s = some (scheme, rest)) :
    ∃ name, s = name ++ ':' :: rest ∧ ':' ∉ name ∧
      ∀ c ∈ name, Ascii.isTabOrNewline c = false → Scheme.isInside c = true := by
  rw [Scheme.read] at h
  cases hcut : Text.cutAt ':' s with
  | none =>
    rw [hcut] at h
    cases h
  | some pieces =>
    obtain ⟨name, after⟩ := pieces
    rw [hcut] at h
    obtain ⟨hs, hname⟩ := Text.eq_of_cutAt hcut
    obtain ⟨scheme', hwritten, heq⟩ := Option.map_eq_some_iff.mp h
    obtain ⟨-, rfl⟩ := Prod.mk.inj heq
    exact ⟨name, hs, hname, fun c hc htab =>
      isInside_of_ofWritten hwritten c (mem_solid.mpr ⟨hc, htab⟩)⟩

/-- A slash before the first colon, and there is no scheme. -/
theorem scheme_read_of_slash {place rest scheme after : Text} (h : ':' ∉ place) :
    Scheme.read (place ++ '/' :: rest) ≠ some (scheme, after) := by
  intro hread
  obtain ⟨name, heq, -, hinside⟩ := scheme_read_cases hread
  have hslash : '/' ∉ name := fun hmem => absurd (hinside '/' hmem rfl) (by decide)
  rcases List.append_eq_append_iff.mp heq with ⟨a, hname, ha⟩ | ⟨b, hplace, hb⟩
  · cases a with
    | nil => exact absurd (List.cons.inj ha).1 (by decide)
    | cons c a =>
      obtain ⟨rfl, -⟩ := List.cons.inj ha
      exact hslash (hname ▸ List.mem_append_right _ List.mem_cons_self)
  · cases b with
    | nil => exact absurd (List.cons.inj hb).1 (by decide)
    | cons c b =>
      obtain ⟨rfl, -⟩ := List.cons.inj hb
      exact h (hplace ▸ List.mem_append_right _ List.mem_cons_self)

/-- A bracket begins no scheme. -/
theorem scheme_read_of_bracket {s scheme rest : Text} (h : s.head? = some '[') :
    Scheme.read s ≠ some (scheme, rest) := by
  intro hread
  obtain ⟨name, rfl, -, hinside⟩ := scheme_read_cases hread
  cases name with
  | nil => exact absurd (Option.some.inj h) (by decide)
  | cons c name =>
    obtain rfl : c = '[' := Option.some.inj h
    exact absurd (hinside '[' List.mem_cons_self rfl) (by decide)

-- After a scheme, a number before a path is a host of a network URL and nothing
-- of any other.

theorem solid_decimal_append (n : Nat) (t : Text) :
    solid (Numeral.decimal n ++ '/' :: t) = Numeral.decimal n ++ '/' :: solid t := by
  have hdigits : solid (Numeral.decimal n) = Numeral.decimal n := by
    refine solid_eq_self fun c hc => ?_
    exact isTabOrNewline_of_isHostChar (isHostChar_of_isDigit (Numeral.isDigit_of_mem_decimal hc))
  rw [solid_append, hdigits]
  rfl

/-- A file URL whose rest begins with a digit has no host. -/
theorem hostText_of_readFile {d : Char} {rest : Text} {u : Url} (hd : d.isDigit = true)
    (h : readFile (d :: rest) = .ok u) : u.hostText = [] := by
  have htab := isTabOrNewline_of_isHostChar (isHostChar_of_isDigit hd)
  have hslash : SchemeKind.file.isSlash d = false :=
    isSlash_of_isHostChar (isHostChar_of_isDigit hd)
  have hnone : Path.afterSlash? .file (d :: rest) = none := by
    rw [Path.afterSlash?, List.dropWhile_cons_of_neg (by rw [htab]; exact Bool.false_ne_true)]
    simp [hslash]
  rw [readFile, hnone] at h
  cases h
  rw [hostText_eq, fileUrl]
  simp [portText]

/-- A URL of another scheme whose rest begins with a digit has no host. -/
theorem hostText_of_readOther {scheme : Text} {d : Char} {rest : Text} {u : Url}
    (hd : d.isDigit = true) (h : readOther scheme (d :: rest) = .ok u) : u.hostText = [] := by
  have hslash : d ≠ '/' := by
    rintro rfl
    exact absurd hd (by decide)
  unfold readOther at h
  split at h
  · next heq => exact absurd (List.cons.inj heq).1 hslash
  · next heq => exact absurd (List.cons.inj heq).1 hslash
  · cases h
    rfl

/-- A web address that begins with digits and a slash has no port. -/
theorem not_colon_of_readNetwork {scheme digits t : Text} {u : Url} (hne : digits ≠ [])
    (hdigits : ∀ c ∈ digits, c.isDigit = true)
    (h : readNetwork scheme (digits ++ '/' :: t) = .ok u) : ':' ∉ u.hostText := by
  have hchars : ∀ c ∈ digits, isHostChar c = true := fun c hc =>
    isHostChar_of_isDigit (hdigits c hc)
  rw [readNetwork_eq hne hchars] at h
  obtain ⟨⟨host, port⟩, hplace, rfl⟩ := exists_of_map_eq_ok h
  obtain ⟨name, after, rest, rfl, hafter, hhost, hport⟩ := placeOf_cases hplace
  have hnil : after = [] := by
    cases after with
    | nil => rfl
    | cons c after =>
      have hc := hdigits c (List.mem_append_right _ List.mem_cons_self)
      rw [hafter c rfl] at hc
      exact absurd hc (by decide)
  rw [hnil] at hport
  cases hport
  intro hmem
  rw [hostText_eq, portText, List.append_nil] at hmem
  obtain ⟨a, rfl⟩ := (Host.isHostChar_text (Or.inl ⟨name, hhost⟩) ':' hmem).2 rfl
  rcases Host.readSpecial_cases hhost with ⟨hbracket, -⟩ | ⟨-, _, _, -, -, -, ⟨a, ha⟩ | ⟨ha, -⟩⟩
  · have hc := hdigits '[' (List.mem_append_left _ (List.mem_of_head? hbracket))
    exact absurd hc (by decide)
  · cases ha
  · cases ha

/-- A host with a colon is a name and a port, or begins with a bracket. -/
theorem hostText_cases {s : Text} {u : Url} (h : read s = .ok u) (hcolon : ':' ∈ u.hostText) :
    u.hostText.head? = some '[' ∨ ∃ name n, u.hostText = name ++ ':' :: Numeral.decimal n ∧
      ':' ∉ name := by
  have hplaced := placed_of_read h
  rw [hostText_eq] at hcolon ⊢
  cases hhost : u.host with
  | none =>
    rw [hhost, hplaced.port_eq_none hhost] at hcolon
    cases hcolon
  | some host =>
    rw [hhost] at hcolon
    have hread := hplaced.isRead host hhost
    by_cases hmem : ':' ∈ host.text
    · obtain ⟨a, rfl⟩ := (Host.isHostChar_text hread ':' hmem).2 rfl
      exact Or.inl rfl
    · cases hport : u.port with
      | none =>
        rw [hport] at hcolon
        exact absurd hcolon (by simpa [portText] using hmem)
      | some n => exact Or.inr ⟨host.text, n, rfl, hmem⟩

/-- Nothing is trimmed in front of a host. -/
theorem trim_host_path {place : Text} (hchars : ∀ c ∈ place, isHostChar c = true) (t : Text) :
    Text.trim Ascii.isControlOrSpace (place ++ '/' :: t) =
      place ++ '/' :: Text.trimEnd Ascii.isControlOrSpace t := by
  have hstart : Text.trimStart Ascii.isControlOrSpace (place ++ '/' :: t) = place ++ '/' :: t := by
    refine Text.trimStart_eq_self fun c hc => ?_
    cases place with
    | nil =>
      cases hc
      rfl
    | cons d place =>
      cases hc
      exact isControlOrSpace_of_isHostChar (hchars _ List.mem_cons_self)
  rw [Text.trim, hstart, Text.trimEnd_append _ _ (by decide)]

/-- The number that was a port is where a host is looked for behind a scheme. -/
theorem not_colon_of_read {name t : Text} {n : Nat} {u : Url} (hname : ':' ∉ name)
    (hchars : ∀ c ∈ name ++ ':' :: Numeral.decimal n, isHostChar c = true)
    (h : read (name ++ ':' :: Numeral.decimal n ++ '/' :: t) = .ok u) : ':' ∉ u.hostText := by
  have hdigits : ∀ c ∈ Numeral.decimal n, c.isDigit = true :=
    fun c hc => Numeral.isDigit_of_mem_decimal hc
  obtain ⟨d, digits, hd⟩ := List.exists_cons_of_ne_nil (Numeral.decimal_ne_nil n)
  have hdigit : d.isDigit = true := hdigits d (hd ▸ List.mem_cons_self)
  rw [read, trim_host_path hchars] at h
  split at h
  · cases h
  · next scheme rest hscheme =>
    obtain ⟨name', hparts, hname', -⟩ := scheme_read_cases hscheme
    rw [List.append_assoc, List.cons_append] at hparts
    obtain ⟨-, hrest⟩ := Text.eq_of_append_cons hname hname' hparts
    rw [← hrest, solid_decimal_append] at h
    split at h
    · rw [hd] at h
      rw [hostText_of_readFile hdigit h]
      exact List.not_mem_nil
    · exact not_colon_of_readNetwork (Numeral.decimal_ne_nil n) hdigits h
    · rw [hd] at h
      rw [hostText_of_readOther hdigit h]
      exact List.not_mem_nil

/-- A text that begins with the host of a URL and has no scheme before it is not
read as a URL of that host. -/
theorem hostText_ne_of_read {s t : Text} {u u' : Url} (h : read s = .ok u)
    (h' : read (u.hostText ++ '/' :: t) = .ok u') : u'.hostText ≠ u.hostText := by
  intro heq
  have hchars := isHostChar_hostText h
  by_cases hcolon : ':' ∈ u.hostText
  · rcases hostText_cases h hcolon with hbracket | ⟨name, n, htext, hname⟩
    · rw [read, trim_host_path hchars] at h'
      split at h'
      · cases h'
      · next hscheme =>
        refine scheme_read_of_bracket ?_ hscheme
        rw [List.head?_append, hbracket]
        rfl
    · rw [htext] at h' hchars
      exact not_colon_of_read hname hchars h' (by rwa [heq])
  · rw [read, trim_host_path hchars] at h'
    split at h'
    · cases h'
    · next hscheme => exact scheme_read_of_slash hcolon hscheme

-- ---------------------------------------------------------------------------
-- Paths that are read as they are written
-- ---------------------------------------------------------------------------

/-- A path that stands for text begins with a slash, in that text too. -/
theorem exists_of_decode_networkPath {t path : Text} (hne : path ≠ [])
    (h : Utf8.decode (Percent.decode (networkPath t)) = .ok path) :
    ∃ rest, path = '/' :: rest := by
  rcases networkPath_eq_nil_or_cons t with hnil | ⟨more, hmore⟩
  · rw [hnil] at h
    cases h
    exact absurd rfl hne
  · rw [hmore, Percent.decode_cons_of_ne (by decide), Utf8.decode, Utf8.decodeFrom_encodeChar] at h
    obtain ⟨rest, -, hrest⟩ := exists_of_map_eq_ok h
    exact ⟨rest, hrest⟩

/-- A path that keeps all its bytes has nothing in it that reading changes. Here
`w` is what is left of the written path `t` without blanks and line ends, and
`rest` what `w` is decoded to. -/
theorem eq_of_decode_networkPath {t w rest : Text} (hw : w.Sublist t) (ht : t.Sublist rest)
    (hsolid : ∀ c ∈ w, Ascii.isTabOrNewline c = false)
    (hdecode : Percent.decode (networkPath w) = Utf8.encode ('/' :: rest)) :
    w = t ∧ '\\' ∉ t ∧ (∀ c ∈ t, isPathEnd c = false) ∧ ¬ Percent.HasEscape t ∧
      ∀ s ∈ Text.splitOn '/' t, Path.isDots s = false := by
  have hslash (s : Text) : (Utf8.encode ('/' :: s)).length = 1 + (Utf8.encode s).length := by
    rw [Utf8.encode_cons, List.length_append]
    rfl
  have hsize := hslash rest
  have hrest := Utf8.length_encode_le_of_sublist ht
  have hwritten := Utf8.length_encode_le_of_sublist hw
  have hle := Percent.length_decode_le (networkPath w)
  rw [hdecode] at hle
  rcases networkPath_cases hsolid with ⟨hpath, hends, hdots⟩ | hlost
  · have hkept := hslash (Path.withSlashes w)
    rw [← hpath, Path.length_encode_withSlashes] at hkept
    -- all lengths are equal now, so nothing was lost on the way
    have hescape : ¬ Percent.HasEscape (networkPath w) := by
      intro hescape
      have hlt := Percent.length_decode_lt hescape
      rw [hdecode] at hlt
      omega
    obtain rfl : w = t := Utf8.eq_of_sublist_of_length_le hw (by omega)
    have hread : networkPath w = '/' :: rest := by
      rw [Percent.decode_eq_encode hescape] at hdecode
      exact Utf8.encode_injective hdecode
    obtain ⟨-, hslashes⟩ := List.cons.inj (hpath.symm.trans hread)
    have hself : w = Path.withSlashes w := by
      rw [← hslashes] at ht
      exact Utf8.eq_of_sublist_of_length_le ht (Nat.le_of_eq (Path.length_encode_withSlashes w))
    rw [hpath, ← hself] at hescape
    rw [← hself] at hdots
    refine ⟨rfl, ?_, hends, fun h => hescape (Percent.hasEscape_cons_iff.mpr (Or.inr h)), hdots⟩
    rw [hself]
    exact Path.not_mem_withSlashes w
  · omega

/-- A path that is read as what it was decoded to is left as it is written. -/
theorem path_of_read_back {t path : Text} (hne : t ≠ [])
    (hdecode : Utf8.decode (Percent.decode
      (networkPath (solid (Text.trimEnd Ascii.isControlOrSpace t)))) = .ok path)
    (htrim : Text.trim (· == '/') path = t) :
    (∀ c ∈ t, c ≠ '\\' ∧ isPathEnd c = false ∧ Ascii.isTabOrNewline c = false) ∧
      ¬ Percent.HasEscape t ∧ (∀ s ∈ Text.splitOn '/' t, Path.isDots s = false) ∧
      ∀ c ∈ t.getLast?, Ascii.isControlOrSpace c = false := by
  have hpath : path ≠ [] := by
    rintro rfl
    exact hne htrim.symm
  obtain ⟨rest, rfl⟩ := exists_of_decode_networkPath hpath hdecode
  have ht : t.Sublist rest := by
    have hdrop : Text.trim (· == '/') ('/' :: rest) = Text.trim (· == '/') rest := rfl
    rw [← htrim, hdrop]
    exact Text.trim_sublist _ rest
  have hend := Text.trimEnd_sublist Ascii.isControlOrSpace t
  have hsolid : (solid (Text.trimEnd Ascii.isControlOrSpace t)).Sublist
      (Text.trimEnd Ascii.isControlOrSpace t) := List.filter_sublist
  -- nothing that is read back was trimmed, dropped or decoded
  obtain ⟨hwhole, hback, hends, hescape, hdots⟩ := eq_of_decode_networkPath (hsolid.trans hend) ht
    (fun c hc => (mem_solid.mp hc).2) (Utf8.eq_encode_of_decode hdecode)
  have htrimEnd : Text.trimEnd Ascii.isControlOrSpace t = t := by
    refine hend.eq_of_length_le ?_
    rw [← congrArg List.length hwhole]
    exact hsolid.length_le
  refine ⟨fun c hc => ⟨?_, hends c hc, ?_⟩, hescape, hdots, fun c hc => ?_⟩
  · rintro rfl
    exact hback hc
  · rw [← hwhole] at hc
    exact (mem_solid.mp hc).2
  · rw [← htrimEnd] at hc
    exact Text.getLast?_trimEnd hc

end Url

-- ---------------------------------------------------------------------------
-- Canonical URLs that name their repository
-- ---------------------------------------------------------------------------

/-- Owner and name with a slash between them. -/
def Hosted.path (r : Hosted) : Text := r.owner ++ '/' :: r.name

theorem Hosted.canonicalUrl_eq (r : Hosted) : r.canonicalUrl = r.host ++ '/' :: r.path := by
  rw [canonicalUrl, path, List.append_assoc, List.cons_append]

/-- Nothing in the canonical URL of the repository is read as anything but itself. -/
structure Hosted.Rereadable (r : Hosted) : Prop where
  /-- An address or a domain name in its final form, with a port other than that of
  `https`. -/
  host : ∃ (host : Url.Host) (port : Option Nat), r.host = host.text ++ Url.portText port ∧
    host.Settled ∧ ∀ n, port = some n → n ≤ 65535 ∧ n ≠ 443
  /-- No part looks like the end of a scheme. -/
  unmarked : ¬ "://".toList <:+: r.canonicalUrl
  /-- No query, no fragment, no backslash, and no blanks that a URL drops. -/
  plain : ∀ c ∈ r.path, c ∉ ['\\', '?', '#', '\t', '\n', '\r']
  unescaped : ¬ Percent.HasEscape r.path
  undotted : ∀ s ∈ Text.splitOn '/' r.path, s ∉ [".".toList, "..".toList]
  /-- The name does not end in a control character or a space. -/
  ending : ∀ c, r.name.getLast? = some c → 0x20 < c.toNat

namespace Grammar

theorem defaultPort?_defaultScheme (n : Nat) :
    Url.Scheme.defaultPort? defaultScheme ≠ some n ↔ n ≠ 443 := by
  have hdefault : Url.Scheme.defaultPort? defaultScheme = some 443 := by decide
  rw [hdefault, ne_eq, Option.some.injEq, eq_comm]

/-- A canonical URL lacks nothing but a scheme. -/
theorem elaborate_canonicalUrl (r : Hosted) :
    elaborate r.canonicalUrl = .ok (withScheme r.canonicalUrl) := by
  refine elaborate_of_two_le ?_
  rw [Hosted.canonicalUrl_eq, Hosted.path]
  simp only [List.count_append, List.count_cons_self]
  omega

/-- A path ends as the name does. -/
theorem getLast?_path {r : Hosted} (h : r.name ≠ []) : r.path.getLast? = r.name.getLast? := by
  obtain ⟨c, name, hname⟩ := List.exists_cons_of_ne_nil h
  rw [Hosted.path, hname, List.getLast?_append_cons, List.getLast?_cons_cons]

/-- A segment that is dots and has no escapes is written with dots. -/
theorem isDots_eq_false {t : Text} (hescape : ¬ Percent.HasEscape t)
    (hdots : ∀ s ∈ Text.splitOn '/' t, s ∉ [".".toList, "..".toList]) :
    ∀ s ∈ Text.splitOn '/' t, Url.Path.isDots s = false := by
  intro s hs
  rw [Bool.eq_false_iff]
  intro hdotted
  obtain ⟨before, after, ht⟩ := Text.exists_append_of_mem_splitOn hs
  have hescape' : ¬ Percent.HasEscape s := fun h => hescape (ht ▸ h.append before after)
  obtain ⟨dots, hmem, hdecode⟩ := Url.Path.decode_of_isDots hdotted
  rw [Percent.decode_eq_encode hescape'] at hdecode
  rw [← Utf8.encode_injective hdecode] at hmem
  exact hdots s hs hmem

/-- A repository that can be read again is read as itself from its canonical URL. -/
theorem readLegacy_of_rereadable {r : Hosted} (h : r.WellFormed) (hr : r.Rereadable) :
    readLegacy r.canonicalUrl = .ok r := by
  obtain ⟨host, port, hhost, hsettled, hport⟩ := hr.host
  have hmark : Text.hasMark schemeMark r.canonicalUrl = false := by
    rw [Bool.eq_false_iff]
    exact fun hmark => hr.unmarked (Text.hasMark_iff.mp hmark)
  have helaborate : elaborate r.canonicalUrl =
      .ok (defaultScheme ++ schemeMark ++ (host.text ++ Url.portText port) ++ '/' :: r.path) := by
    rw [elaborate_canonicalUrl, withScheme_of_not_hasMark hmark, Hosted.canonicalUrl_eq, hhost]
    simp only [List.append_assoc]
  have hport' : ∀ n, port = some n → n ≤ 65535 ∧
      Url.Scheme.defaultPort? defaultScheme ≠ some n := fun n hn =>
    ⟨(hport n hn).1, (defaultPort?_defaultScheme n).mpr (hport n hn).2⟩
  have hend : ∀ c ∈ r.path.getLast?, Ascii.isControlOrSpace c = false := by
    intro c hc
    rw [getLast?_path h.name_ne_nil] at hc
    rw [Ascii.isControlOrSpace, decide_eq_false_iff_not]
    exact Nat.not_le.mpr (hr.ending c hc)
  have hpath : PathTo r.path r.owner r.name :=
    { chars := fun c hc => Url.not_mem_delimiters_iff.mp (hr.plain c hc)
      dots := isDots_eq_false hr.unescaped hr.undotted
      ending := hend
      decode := Percent.decode_eq_encode hr.unescaped
      owner_ne_nil := h.owner_ne_nil
      slash_not_mem_owner := h.slash_not_mem_owner
      name_ne_nil := h.name_ne_nil
      getLast?_name := h.getLast?_name }
  rw [readLegacy_of_elaborate helaborate, hostedOfUrl_of_settled hsettled hport' hpath, ← hhost]

/-- A repository that comes from a URL and is read back from its canonical URL. -/
theorem rereadable_of_readLegacy {s : Text} {r : Hosted} (h : hostedOfUrl s = .ok r)
    (hback : readLegacy r.canonicalUrl = .ok r) : r.Rereadable := by
  have hwell := wellFormed_of_hostedOfUrl h
  obtain ⟨u, -, hu, -, -, hhost⟩ := hostedOfUrl_cases h
  rw [readLegacy_of_elaborate (elaborate_canonicalUrl r)] at hback
  obtain ⟨u', path, hu', hdecode, hsplit, hhost'⟩ := hostedOfUrl_cases hback
  -- with a mark in it the URL would be read without the scheme that is filled in
  have hunmarked : ¬ schemeMark <:+: r.canonicalUrl := by
    intro hmark
    rw [withScheme, if_pos (Text.hasMark_iff.mpr hmark), Hosted.canonicalUrl_eq, hhost] at hu'
    exact Url.hostText_ne_of_read hu hu' (hhost'.symm.trans hhost)
  have hmark : Text.hasMark schemeMark r.canonicalUrl = false := by
    rw [Bool.eq_false_iff]
    exact fun hmark => hunmarked (Text.hasMark_iff.mp hmark)
  have hkind : Url.Scheme.kind defaultScheme = .network := by decide
  rw [withScheme_of_not_hasMark hmark] at hu'
  have hne : r.host ≠ [] := by
    rw [hhost']
    exact Url.hostText_ne_nil_of_network hkind hu'
  have hchars : ∀ c ∈ r.host, Url.isHostChar c = true := by
    rw [hhost]
    exact Url.isHostChar_hostText hu
  rw [Hosted.canonicalUrl_eq, ← List.append_assoc, schemeMark,
    Url.read_network hkind hne hchars] at hu'
  obtain ⟨⟨host, port⟩, hplace, rfl⟩ := exists_of_map_eq_ok hu'
  rw [Url.hostText_eq] at hhost'
  -- host and port are read back, so they are written as they are read
  obtain ⟨hsettled, hport⟩ := Url.settled_of_placeOf hchars hplace hhost'.symm
  -- the same for the path
  obtain ⟨htrim, -⟩ := splitOwnerName_cases hsplit
  obtain ⟨hplain, hescape, hdots, hend⟩ := Url.path_of_read_back
    (List.append_ne_nil_of_left_ne_nil hwell.owner_ne_nil _) hdecode htrim
  refine ⟨⟨host, port, hhost', hsettled, fun n hn => ?_⟩, hunmarked, fun c hc => ?_, hescape,
    fun s hs => ?_, fun c hc => ?_⟩
  · exact ⟨(hport n hn).1, (defaultPort?_defaultScheme n).mp (hport n hn).2⟩
  · exact Url.not_mem_delimiters_iff.mpr (hplain c hc)
  · intro hmem
    simp only [List.mem_cons, List.not_mem_nil, or_false] at hmem
    have hdotted := hdots s hs
    rcases hmem with rfl | rfl <;> exact absurd hdotted (by decide)
  · have hcontrol := hend c ((getLast?_path hwell.name_ne_nil).trans hc)
    rw [Ascii.isControlOrSpace, decide_eq_false_iff_not] at hcontrol
    exact Nat.lt_of_not_le hcontrol

/-- The canonical URL of a repository that was read names that repository again
exactly if nothing in it is read as anything but itself. -/
theorem readLegacy_canonicalUrl_iff {input : Text} {r : Hosted} (h : readLegacy input = .ok r) :
    readLegacy r.canonicalUrl = .ok r ↔ r.Rereadable := by
  obtain ⟨s, hs⟩ := exists_url_of_readLegacy h
  refine ⟨rereadable_of_readLegacy hs, readLegacy_of_rereadable ?_⟩
  exact wellFormed_of_hostedOfUrl hs

/-- A common reference, with an owner and a name that stand for themselves. -/
theorem readLegacy_canonicalUrl_iff_scorecard :
    readLegacy "github.com/ossf/scorecard".toList =
      .ok ⟨"github.com".toList, "ossf".toList, "scorecard".toList⟩ := by
  have howner : Spelled "ossf".toList "ossf".toList :=
    ⟨Percent.spells_self (by decide), by decide, by decide⟩
  have hname : Spelled "scorecard".toList "scorecard".toList :=
    ⟨Percent.spells_self (by decide), by decide, by decide⟩
  have hread := readLegacy_default howner (by decide) hname (by decide) (by rintro c ⟨⟩; rfl)
  have hurl : "github.com/ossf/scorecard".toList =
      Hosted.canonicalUrl ⟨"github.com".toList, "ossf".toList, "scorecard".toList⟩ := by decide
  rw [hurl]
  refine (readLegacy_canonicalUrl_iff hread).mpr
    ⟨⟨.domain defaultHost, none, rfl, plainHost_defaultHost.settled, by simp⟩, ?_, ?_,
      Percent.not_hasEscape_of_not_mem (by decide), by decide, ?_⟩
  · intro hmark
    exact absurd (hmark.subset List.mem_cons_self) (by decide)
  · have hall : "ossf/scorecard".toList.any
        (['\\', '?', '#', '\t', '\n', '\r'].contains ·) = false := by decide
    exact fun c hc => by simpa using List.any_eq_false.mp hall c hc
  · rintro c ⟨⟩
    decide

/-- A question mark that was written as an escape begins a query when the canonical
URL is read. -/
theorem readLegacy_canonicalUrl_ne_query :
    readLegacy "a/%3Fb".toList = .ok ⟨"github.com".toList, "a".toList, "?b".toList⟩ ∧
      readLegacy (Hosted.canonicalUrl ⟨"github.com".toList, "a".toList, "?b".toList⟩) ≠
        .ok ⟨"github.com".toList, "a".toList, "?b".toList⟩ := by
  have hmark : Percent.Escapes "%3F".toList (String.utf8EncodeChar '?') :=
    .cons (b := 0x3F) (by decide) (by decide) .nil
  have howner : Spelled "a".toList "a".toList :=
    ⟨Percent.spells_self (by decide), by decide, by decide⟩
  have hname : Spelled "%3Fb".toList "?b".toList :=
    ⟨.escaped hmark (.literal (by decide) .nil), by decide, by decide⟩
  have hread := readLegacy_default howner (by decide) hname (by decide) (by rintro c ⟨⟩; rfl)
  have hinput : "a/%3Fb".toList = "a".toList ++ '/' :: "%3Fb".toList := by decide
  rw [hinput]
  refine ⟨hread, fun hback => ?_⟩
  obtain ⟨s, hs⟩ := exists_url_of_readLegacy hread
  exact (rereadable_of_readLegacy hs hback).plain '?' (by decide) (by decide)

end Grammar

end RepoIdentity

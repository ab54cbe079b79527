import RepoIdentity.Proofs.Printable

/-!
# Hosts that keep their case

Capitals are lost in a host where it is made into an address or into the ASCII form of
a domain name, and only the special schemes do that. In a URL of any other scheme the
name of the host is opaque: it is left as it is written, and what cannot be left is
escaped, with capitals among the digits. So the host of a URL has a capital exactly if
it is opaque and was written with a character that brings one.

* `showsCapital` — the characters that bring a capital, and
  `any_isUpper_encodeWhere`, that no others do;
* `opaqueName?` — the opaque name of a URL, as it is written;
* `isUpper_hostText_iff` — hosts with capitals, for all URLs;
* `isUpper_host_iff_of_parse` — the same for the legacy grammar. Without a scheme mark
  there never are capitals in it, since the scheme that is filled in is `https`.
-/

namespace RepoIdentity

namespace Url

-- ---------------------------------------------------------------------------
-- Characters of opaque names
-- ---------------------------------------------------------------------------

/-- Capitals, and what is escaped with a capital among the digits. Outside ASCII that
is so for the first byte of every character. -/
def showsCapital (c : Char) : Bool :=
  c.isUpper || !Ascii.isAscii c || (Ascii.isControl c && decide (10 ≤ c.toNat % 16))

/-- The escape of a high byte holds a capital digit. -/
theorem any_isUpper_escape {b : UInt8} (h : 0xC0 ≤ b.toNat) :
    (Percent.escape b).any Char.isUpper = true := by
  have hdigits : ∀ d < 16, 10 ≤ d → (Numeral.digit d).toUpper.isUpper = true := by decide
  have hlt := b.toNat_lt
  have hhigh := hdigits (b.toNat / 16) (by omega) (by omega)
  refine List.any_eq_true.mpr ⟨_, ?_, hhigh⟩
  simp [Percent.escape]

/-- A character that is not ASCII begins with a high byte. -/
theorem exists_first_byte {c : Char} (h : 0x80 ≤ c.toNat) :
    ∃ b bytes, String.utf8EncodeChar c = b :: bytes ∧ 0xC0 ≤ b.toNat := by
  by_cases htwo : c.toNat < 0x800
  · obtain ⟨b, b₁, hbytes, hb, -⟩ := Utf8.encodeChar_two h htwo
    exact ⟨b, [b₁], hbytes, by omega⟩
  · by_cases hthree : c.toNat < 0x10000
    · obtain ⟨b, b₁, b₂, hbytes, hb, -⟩ := Utf8.encodeChar_three (Nat.le_of_not_lt htwo) hthree
      exact ⟨b, [b₁, b₂], hbytes, by omega⟩
    · obtain ⟨b, b₁, b₂, b₃, hbytes, hb, -⟩ := Utf8.encodeChar_four (Nat.le_of_not_lt hthree)
      exact ⟨b, [b₁, b₂, b₃], hbytes, by omega⟩

/-- What is written for one character of an opaque name. -/
def writtenChar (c : Char) : Text :=
  if Host.isEscaped c then (String.utf8EncodeChar c).flatMap Percent.escape else [c]

theorem any_isUpper_writtenChar (c : Char) :
    (writtenChar c).any Char.isUpper = showsCapital c := by
  by_cases hlt : c.toNat < 128
  · have hall : ∀ n < 128, (writtenChar (Char.ofNat n)).any Char.isUpper =
        showsCapital (Char.ofNat n) := by decide +kernel
    exact Ascii.forall_of_forall_lt
      (P := fun c => (writtenChar c).any Char.isUpper = showsCapital c) hall hlt
  · have hascii : Ascii.isAscii c = false := by
      rw [Ascii.isAscii, decide_eq_false_iff_not]
      exact hlt
    -- the first byte is enough: its high digit is written as a capital
    obtain ⟨b, bytes, hbytes, hb⟩ := exists_first_byte (Nat.le_of_not_lt hlt)
    rw [writtenChar, if_pos (by simp [Host.isEscaped, hascii]), hbytes, List.flatMap_cons,
      List.any_append, any_isUpper_escape hb]
    simp [showsCapital, hascii]

/-- A name is written with a capital if one of its characters shows one. -/
theorem any_isUpper_encodeWhere (s : Text) :
    (Percent.encodeWhere Host.isEscaped s).any Char.isUpper = s.any showsCapital := by
  have hwritten : Percent.encodeWhere Host.isEscaped s = s.flatMap writtenChar := rfl
  rw [hwritten, List.any_flatMap]
  exact congrArg s.any (funext any_isUpper_writtenChar)

-- ---------------------------------------------------------------------------
-- The hosts of URLs
-- ---------------------------------------------------------------------------

/-- What is written of a host, if there is one. -/
def hostPart (host : Option Host) : Text := (host.map Host.text).getD []

/-- Only names that stand in no brackets are opaque, and they keep their capitals. -/
theorem isUpper_hostPart_of_readOpaque {name : Text} {host : Option Host}
    (h : Host.readOpaque name = .ok host) :
    (∃ c ∈ hostPart host, c.isUpper = true) ↔
      name.head? ≠ some '[' ∧ ∃ c ∈ name, showsCapital c = true := by
  unfold Host.readOpaque at h
  split at h
  · next hhead =>
    obtain ⟨found, hfound, rfl⟩ := exists_of_map_eq_ok h
    obtain ⟨a, rfl⟩ := Host.eq_ipv6_of_readBracketed hfound
    refine iff_of_false ?_ fun hname => hname.1 hhead
    rintro ⟨c, hc, hupper⟩
    rw [Host.isUpper_text_of_readSpecial (Host.readSpecial_ipv6 a) c hc] at hupper
    cases hupper
  · next hhead =>
    split at h
    · cases h
    · split at h
      · next hempty =>
        cases h
        rw [List.isEmpty_iff.mp hempty]
        simp [hostPart]
      · cases h
        have hany := any_isUpper_encodeWhere name
        rw [Bool.eq_iff_iff, List.any_eq_true, List.any_eq_true] at hany
        exact hany.trans (and_iff_right hhead).symm

/-- The opaque name of a URL, as it is written: that of its host, if the scheme is not
special and an authority is there, unless the host is an address in brackets. -/
def opaqueName? (s : Text) : Option Text :=
  match Scheme.read (Text.trim Ascii.isControlOrSpace s) with
  | none => none
  | some (scheme, rest) =>
    if Scheme.kind scheme = .other then
      ((Text.dropPrefix? "//".toList (solid rest)).map (hostName .other)).filter
        (·.head? ≠ some '[')
    else none

/-- Without an authority there is no host. -/
theorem readOther_cases {scheme s : Text} {u : Url} (h : readOther scheme s = .ok u) :
    (Text.dropPrefix? "//".toList s = none ∧ u.host = none) ∨
      ∃ rest, Text.dropPrefix? "//".toList s = some rest ∧
        Host.readOpaque (hostName .other rest) = .ok u.host := by
  have hnone {s : Text} (h : ∀ rest, s = '/' :: '/' :: rest → False) :
      Text.dropPrefix? "//".toList s = none := by
    rw [← Option.not_isSome_iff_eq_none, Text.dropPrefix?_isSome_iff]
    rintro ⟨rest, hrest⟩
    exact h rest hrest.symm
  unfold readOther at h
  split at h
  · next rest =>
    split at h
    · cases h
    · next a ha =>
      cases h
      obtain ⟨after, path, hhost, -⟩ := readAuthority_cases ha
      rw [readHost, if_pos rfl] at hhost
      exact Or.inr ⟨rest, Text.dropPrefix?_append "//".toList rest, hhost⟩
  · next rest hmore =>
    cases h
    refine Or.inl ⟨hnone fun rest' heq => ?_, rfl⟩
    exact hmore rest' (List.cons.inj heq).2
  · next hmore =>
    cases h
    exact Or.inl ⟨hnone fun rest heq => hmore _ heq, rfl⟩

/-- The port has no part in the capitals of a host. -/
theorem isUpper_hostText_iff_hostPart (u : Url) :
    (∃ c ∈ u.hostText, c.isUpper = true) ↔ ∃ c ∈ hostPart u.host, c.isUpper = true := by
  rw [hostText_eq]
  constructor
  · rintro ⟨c, hc, hupper⟩
    rcases List.mem_append.mp hc with hc | hc
    · exact ⟨c, hc, hupper⟩
    · rw [isUpper_portText c hc] at hupper
      cases hupper
  · rintro ⟨c, hc, hupper⟩
    exact ⟨c, List.mem_append_left _ hc, hupper⟩

theorem not_isUpper_hostPart {host : Option Host}
    (h : ∀ found, host = some found → ∃ name, Host.readSpecial name = .ok found) :
    ¬ ∃ c ∈ hostPart host, c.isUpper = true := by
  rintro ⟨c, hc, hupper⟩
  cases host with
  | none => cases hc
  | some found =>
    obtain ⟨name, hread⟩ := h found rfl
    rw [Host.isUpper_text_of_readSpecial hread c hc] at hupper
    cases hupper

/-- The host of a URL is written with a capital exactly if it is opaque and one of its
characters brings a capital. -/
theorem isUpper_hostText_iff {s : Text} {u : Url} (h : read s = .ok u) :
    (∃ c ∈ u.hostText, c.isUpper = true) ↔
      ∃ name, opaqueName? s = some name ∧ ∃ c ∈ name, showsCapital c = true := by
  rw [isUpper_hostText_iff_hostPart]
  unfold read at h
  unfold opaqueName?
  cases hscheme : Scheme.read (Text.trim Ascii.isControlOrSpace s) with
  | none =>
    rw [hscheme] at h
    cases h
  | some pieces =>
    obtain ⟨scheme, rest⟩ := pieces
    rw [hscheme] at h
    simp only at h ⊢
    -- only other schemes keep a host as it is written
    cases hkind : Scheme.kind scheme with
    | file =>
      rw [hkind] at h
      obtain ⟨host, written, rfl, hhost⟩ := readFile_cases h
      refine iff_of_false (not_isUpper_hostPart fun found hfound => ?_) (by simp)
      refine hhost found ?_
      rw [fileUrl] at hfound
      dsimp only at hfound
      split at hfound
      · cases hfound
      · exact hfound
    | network =>
      rw [hkind] at h
      obtain ⟨name, found, hread, hhost⟩ := exists_readSpecial_of_readNetwork h
      refine iff_of_false (not_isUpper_hostPart fun found' hfound => ?_) (by simp)
      rw [hhost, Option.some.injEq] at hfound
      exact ⟨name, hfound ▸ hread⟩
    | other =>
      rw [hkind] at h
      rcases readOther_cases h with ⟨hnone, hhost⟩ | ⟨after, hsome, hhost⟩
      · rw [hnone, hhost]
        simp [hostPart]
      · rw [isUpper_hostPart_of_readOpaque hhost, hsome]
        simp [Option.filter_eq_some_iff, and_assoc]

end Url

-- ---------------------------------------------------------------------------
-- The legacy grammar
-- ---------------------------------------------------------------------------

namespace Grammar

/-- A text without a scheme mark stands for an `https` URL, if for any. -/
theorem prefix_of_elaborate {s url : Text} (hmark : Text.hasMark schemeMark s = false)
    (h : elaborate s = .ok url) : "https://".toList <+: url := by
  rcases Nat.lt_or_ge (s.count '/') 2 with hfew | hmany
  · rcases Nat.lt_or_ge (s.count '/') 1 with hnone | hone
    · rw [elaborate, Nat.lt_one_iff.mp hnone] at h
      cases h
    · rw [elaborate_shorthand (Nat.le_antisymm (Nat.le_of_lt_succ hfew) hone)] at h
      cases h
      exact ⟨"github.com/".toList ++ s, rfl⟩
  · rw [elaborate_of_two_le_count hmark hmany] at h
    cases h
    exact ⟨s, rfl⟩

/-- A host that the legacy grammar reads has a capital exactly if it is the opaque host
of the URL that the text stands for, and is written with a character that brings one.
In particular it has none if the text has no scheme mark. -/
theorem isUpper_host_iff_of_parse {s : Text} {r : Hosted}
    (h : Locator.parse s .legacy = .ok (.hosted r)) :
    (∃ url, elaborate s = .ok url ∧
      ((∃ c ∈ r.host, c.isUpper = true) ↔
        ∃ name, Url.opaqueName? url = some name ∧ ∃ c ∈ name, Url.showsCapital c = true)) ∧
    (¬ "://".toList <:+: s → ∀ c ∈ r.host, c.isUpper = false) := by
  have hlegacy : readLegacy s = .ok r := eq_of_map_hosted (read_of_parse h)
  cases helaborate : elaborate s with
  | error reason =>
    rw [readLegacy, helaborate] at hlegacy
    cases hlegacy
  | ok url =>
    rw [readLegacy_of_elaborate helaborate] at hlegacy
    obtain ⟨u, path, hread, -, -, hhost⟩ := hostedOfUrl_cases hlegacy
    rw [hhost]
    refine ⟨⟨url, rfl, Url.isUpper_hostText_iff hread⟩, fun hnone => ?_⟩
    obtain ⟨rest, rfl⟩ :=
      prefix_of_elaborate (Text.hasMark_eq_false_iff.mpr hnone) helaborate
    have hkind : Url.Scheme.kind "https".toList = .network := by decide
    have hcolon : Url.read ("https".toList ++ ':' :: ("//".toList ++ rest)) = .ok u := hread
    exact Url.isUpper_hostText_of_network hkind hcolon

/-- A host with a small letter of two bytes, whose escapes have capitals. -/
theorem isUpper_host_iff_of_parse_escaped :
    Locator.parse "git://é/a/b".toList .legacy =
        .ok (.hosted ⟨"%C3%A9".toList, "a".toList, "b".toList⟩) ∧
      ∃ c ∈ "%C3%A9".toList, c.isUpper = true := by
  have hparse : Locator.parse "git://é/a/b".toList .legacy =
      .ok (.hosted ⟨"%C3%A9".toList, "a".toList, "b".toList⟩) := by decide +kernel
  have hname : Url.opaqueName? "git://é/a/b".toList = some "é".toList := by decide +kernel
  obtain ⟨⟨url, helaborate, hiff⟩, -⟩ := isUpper_host_iff_of_parse hparse
  obtain rfl : "git://é/a/b".toList = url := Except.ok.inj helaborate
  exact ⟨hparse, hiff.mpr ⟨_, hname, 'é', List.mem_cons_self, by decide⟩⟩

/-- Where no special scheme is named the usual host keeps its capitals, and is not taken
for the usual one. -/
theorem isUpper_host_of_parse_git :
    Locator.parse "git://GitHub.com/a/b".toList .legacy =
        .ok (.hosted ⟨"GitHub.com".toList, "a".toList, "b".toList⟩) ∧
      'G' ∈ "GitHub.com".toList ∧ 'G'.isUpper = true ∧
      (Hosted.mk "GitHub.com".toList "a".toList "b".toList).validate =
        .error (.unsupportedHost "GitHub.com".toList) := by
  refine ⟨by decide +kernel, by decide, by decide, by decide⟩

end Grammar

end RepoIdentity

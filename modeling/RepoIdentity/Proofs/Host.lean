import RepoIdentity.Proofs.Address
import RepoIdentity.Proofs.Domain
import RepoIdentity.Proofs.Percent
import RepoIdentity.Url.Basic

/-!
# Hosts as they are written

Whatever a URL is, the host that comes out of reading it is written with visible
ASCII characters other than the delimiters of a URL (`isHostChar`). Nobody checks
this of the result: for domain names it follows from the characters that may not
occur in one, for addresses from their written forms, and for opaque names from
the escapes.

* `Host.IsRead` — the hosts that some text is read as;
* `Host.isHostChar_text`, `Host.text_ne_nil` — their written forms.
-/

namespace RepoIdentity.Url

/-- Visible ASCII characters that neither end nor divide an authority, colons and
brackets aside. -/
def isHostChar (c : Char) : Bool :=
  0x21 ≤ c.toNat && c.toNat ≤ 0x7E && !(['/', '\\', '?', '#', '@'].contains c)

/-- Hexadecimal digits may stand in a host, and are no colons. -/
theorem isHostChar_of_isHexDigit {c : Char} (h : Ascii.isHexDigit c = true) :
    isHostChar c = true ∧ c ≠ ':' := by
  have hlt : c.toNat < 128 := by
    have hle := (Ascii.bounds_of_isHexDigit h).2
    omega
  have hall : ∀ n < 128, Ascii.isHexDigit (Char.ofNat n) = true →
      isHostChar (Char.ofNat n) = true ∧ Char.ofNat n ≠ ':' := by decide
  exact Ascii.forall_of_forall_lt
    (P := fun c => Ascii.isHexDigit c = true → isHostChar c = true ∧ c ≠ ':') hall hlt h

theorem isHexDigit_of_isDigit {c : Char} (h : c.isDigit = true) : Ascii.isHexDigit c = true := by
  rw [Ascii.isHexDigit, Ascii.hexValue?, if_pos h]
  rfl

theorem isHostChar_of_isDigit {c : Char} (h : c.isDigit = true) : isHostChar c = true :=
  (isHostChar_of_isHexDigit (isHexDigit_of_isDigit h)).1

/-- Characters that may stand in a domain name. -/
theorem isHostChar_of_isForbidden {c : Char} (hascii : Ascii.isAscii c = true)
    (h : Domain.isForbidden c = false) : isHostChar c = true ∧ c ≠ ':' := by
  have hall : ∀ n < 128, Domain.isForbidden (Char.ofNat n) = false →
      isHostChar (Char.ofNat n) = true ∧ Char.ofNat n ≠ ':' := by decide
  exact Ascii.forall_of_forall_lt
    (P := fun c => Domain.isForbidden c = false → isHostChar c = true ∧ c ≠ ':') hall
    (by simpa [Ascii.isAscii] using hascii) h

/-- What may stand in a host does not end it. -/
theorem endsPort_of_isHostChar {c : Char} (h : isHostChar c = true) : endsPort c = false := by
  rw [Bool.eq_false_iff]
  intro hends
  have hc : c = '/' ∨ c = '\\' ∨ c = '?' ∨ c = '#' := by
    simpa [endsPort, isPathEnd, or_assoc] using hends
  rcases hc with rfl | rfl | rfl | rfl <;> exact absurd h (by decide)

/-- What may stand in a host is no tab and no line break. -/
theorem isTabOrNewline_of_isHostChar {c : Char} (h : isHostChar c = true) :
    Ascii.isTabOrNewline c = false := by
  rw [Bool.eq_false_iff]
  intro htab
  have hc : c = '\t' ∨ c = '\n' ∨ c = '\r' := by
    simpa [Ascii.isTabOrNewline, or_assoc] using htab
  rcases hc with rfl | rfl | rfl <;> exact absurd h (by decide)

/-- What may stand in a host is neither control nor space. -/
theorem isControlOrSpace_of_isHostChar {c : Char} (h : isHostChar c = true) :
    Ascii.isControlOrSpace c = false := by
  rw [isHostChar, Bool.and_eq_true, Bool.and_eq_true, decide_eq_true_eq] at h
  rw [Ascii.isControlOrSpace, decide_eq_false_iff_not]
  omega

-- ---------------------------------------------------------------------------
-- What a host is read from
-- ---------------------------------------------------------------------------

namespace Host

/-- Some text is read as the host. -/
def IsRead (host : Host) : Prop :=
  (∃ s, readSpecial s = .ok host) ∨ ∃ s, readOpaque s = .ok (some host)

/-- What stands in brackets is an address of eight groups. -/
theorem eq_ipv6_of_readBracketed {s : Text} {host : Host} (h : readBracketed s = .ok host) :
    ∃ a, host = .ipv6 a := by
  unfold readBracketed at h
  split at h
  · split at h
    · next a _ =>
      cases h
      exact ⟨a, rfl⟩
    · cases h
  · cases h

/-- The host of a special URL is an address, in brackets or not, or a name in
ASCII that is not to be read as an address. -/
theorem readSpecial_cases {s : Text} {host : Host} (h : readSpecial s = .ok host) :
    (s.head? = some '[' ∧ ∃ a, host = .ipv6 a) ∨
      (s.head? ≠ some '[' ∧ ∃ name ascii, Utf8.decode (Percent.decode s) = .ok name ∧
        Domain.toAscii name = some ascii ∧ ascii ≠ [] ∧
        ((∃ a, host = .ipv4 a) ∨ (host = .domain ascii ∧ Ipv4.isMeant ascii = false))) := by
  unfold readSpecial at h
  split at h
  · next hhead => exact Or.inl ⟨hhead, eq_ipv6_of_readBracketed h⟩
  · next hhead =>
    refine Or.inr ⟨hhead, ?_⟩
    split at h
    · cases h
    · next name hname =>
      split at h
      · cases h
      · cases h
      · next ascii hne hascii =>
        refine ⟨name, ascii, hname, hascii, hne, ?_⟩
        split at h
        · split at h
          · next a _ =>
            cases h
            exact Or.inl ⟨a, rfl⟩
          · cases h
        · next hmeant =>
          cases h
          exact Or.inr ⟨rfl, by simpa using hmeant⟩

/-- A host of another scheme is an address or an escaped name. -/
theorem readOpaque_cases {s : Text} {host : Host} (h : readOpaque s = .ok (some host)) :
    (∃ a, host = .ipv6 a) ∨
      (s ≠ [] ∧ s.any isForbidden = false ∧
        host = .opaqueName (Percent.encodeWhere isEscaped s)) := by
  unfold readOpaque at h
  split at h
  · obtain ⟨host', hb, heq⟩ := exists_of_map_eq_ok h
    rw [Option.some.inj heq]
    exact Or.inl (eq_ipv6_of_readBracketed hb)
  · split at h
    · cases h
    · next hfree =>
      split at h
      · cases h
      · next hne =>
        cases h
        exact Or.inr ⟨by simpa using hne, by simpa using hfree, rfl⟩

-- ---------------------------------------------------------------------------
-- Written forms
-- ---------------------------------------------------------------------------

/-- Escapes may stand in a host. -/
theorem isHostChar_of_mem_escape {b : UInt8} {c : Char} (hc : c ∈ Percent.escape b) :
    isHostChar c = true ∧ c ≠ ':' := by
  have hdigit : ∀ d < 16, isHostChar (Numeral.digit d).toUpper = true ∧
      (Numeral.digit d).toUpper ≠ ':' := by decide
  have hlt := b.toNat_lt
  simp only [Percent.escape, List.map_cons, List.map_nil, List.mem_cons, List.not_mem_nil,
    or_false] at hc
  rcases hc with rfl | rfl | rfl
  · exact ⟨rfl, by decide⟩
  · exact hdigit _ (by omega)
  · exact hdigit _ (by omega)

/-- A name that is escaped may stand in a host. -/
theorem isHostChar_of_mem_encodeWhere {s : Text} (hfree : s.any isForbidden = false) {c : Char}
    (hc : c ∈ Percent.encodeWhere isEscaped s) : isHostChar c = true ∧ c ≠ ':' := by
  have hall : ∀ n < 128, isForbidden (Char.ofNat n) = false → isEscaped (Char.ofNat n) = false →
      isHostChar (Char.ofNat n) = true ∧ Char.ofNat n ≠ ':' := by decide
  obtain ⟨d, hd, hcd⟩ := List.mem_flatMap.mp hc
  by_cases hesc : isEscaped d = true
  · rw [if_pos hesc] at hcd
    obtain ⟨b, -, hcb⟩ := List.mem_flatMap.mp hcd
    exact isHostChar_of_mem_escape hcb
  · rw [if_neg hesc, List.mem_singleton] at hcd
    subst hcd
    rw [Bool.not_eq_true] at hesc
    have hlt : c.toNat < 128 := by
      simp only [isEscaped, Bool.or_eq_false_iff, Bool.not_eq_false'] at hesc
      simpa [Ascii.isAscii] using hesc.2
    rw [List.any_eq_false] at hfree
    exact Ascii.forall_of_forall_lt (P := fun c => isForbidden c = false → isEscaped c = false →
      isHostChar c = true ∧ c ≠ ':') hall hlt (by simpa using hfree c hd) hesc

/-- A host is written with host characters, and holds a colon only in brackets. -/
theorem isHostChar_text {host : Host} (h : host.IsRead) :
    ∀ c ∈ host.text, isHostChar c = true ∧ (c = ':' → ∃ a, host = .ipv6 a) := by
  have hipv6 (a : Ipv6) : ∀ c ∈ (Host.ipv6 a).text,
      isHostChar c = true ∧ (c = ':' → ∃ a', Host.ipv6 a = .ipv6 a') := by
    intro c hc
    refine ⟨?_, fun _ => ⟨a, rfl⟩⟩
    simp only [text, List.cons_append, List.mem_cons, List.mem_append, List.not_mem_nil,
      or_false] at hc
    rcases hc with rfl | hc | rfl
    · rfl
    · rcases Ipv6.mem_text hc with ⟨d, hd, rfl⟩ | rfl
      · exact (isHostChar_of_isHexDigit (Numeral.isHexDigit_digit hd)).1
      · rfl
    · rfl
  intro c hc
  rcases h with ⟨s, hs⟩ | ⟨s, hs⟩
  · rcases readSpecial_cases hs with ⟨-, a, rfl⟩ | ⟨-, name, ascii, -, hascii, -, hkind⟩
    · exact hipv6 a c hc
    · rcases hkind with ⟨a, rfl⟩ | ⟨rfl, -⟩
      · rcases Ipv4.mem_text hc with hd | rfl
        · obtain ⟨hchar, hcolon⟩ := isHostChar_of_isHexDigit (isHexDigit_of_isDigit hd)
          exact ⟨hchar, fun h => absurd h hcolon⟩
        · exact ⟨rfl, fun h => absurd h (by decide)⟩
      · obtain ⟨hc₁, hc₂⟩ := Domain.mem_toAscii hascii hc
        obtain ⟨hchar, hcolon⟩ := isHostChar_of_isForbidden hc₁ hc₂
        exact ⟨hchar, fun h => absurd h hcolon⟩
  · rcases readOpaque_cases hs with ⟨a, rfl⟩ | ⟨-, hfree, rfl⟩
    · exact hipv6 a c hc
    · obtain ⟨hchar, hcolon⟩ := isHostChar_of_mem_encodeWhere hfree hc
      exact ⟨hchar, fun h => absurd h hcolon⟩

theorem encodeWhere_ne_nil {p : Char → Bool} {s : Text} (h : s ≠ []) :
    Percent.encodeWhere p s ≠ [] := by
  obtain ⟨c, s, rfl⟩ := List.exists_cons_of_ne_nil h
  rw [Percent.encodeWhere, List.flatMap_cons]
  intro happ
  have hfirst := (List.append_eq_nil_iff.mp happ).1
  split at hfirst
  · obtain ⟨b, bs, hbs⟩ := List.exists_cons_of_ne_nil
      (List.ne_nil_of_length_pos (Utf8.length_encodeChar_pos c))
    rw [hbs] at hfirst
    cases hfirst
  · cases hfirst

/-- A host that was read has a text. -/
theorem text_ne_nil {host : Host} (h : host.IsRead) : host.text ≠ [] := by
  rcases h with ⟨s, hs⟩ | ⟨s, hs⟩
  · rcases readSpecial_cases hs with ⟨-, a, rfl⟩ | ⟨-, name, ascii, -, -, hne, hkind⟩
    · exact List.cons_ne_nil _ _
    · rcases hkind with ⟨a, rfl⟩ | ⟨rfl, -⟩
      · exact Ipv4.text_ne_nil a
      · exact hne
  · rcases readOpaque_cases hs with ⟨a, rfl⟩ | ⟨hne, -, rfl⟩
    · exact List.cons_ne_nil _ _
    · exact encodeWhere_ne_nil hne

end Host

end RepoIdentity.Url

import RepoIdentity.Proofs.Utf8
import RepoIdentity.Text.Encoding

/-!
# What percent decoding reads

Decoding takes the escapes of a text, from its beginning on, for the bytes they
spell and leaves all else as it is encoded. So it changes a text exactly if the
text holds an escape, and then makes it shorter.

* `HasEscape` — some percent sign stands before two hexadecimal digits;
* `decode_eq_encode`, `length_decode_lt` — the two cases;
* `mem_decode_iff` — a byte that is not written as it is comes from an escape of it, and
  `hasEscapeOf_iff`, which texts such an escape can be;
* `Spells` — all ways to write a text with literal characters and escapes, and
  `decode_of_spells`, that decoding reads each of them as the text.
-/

namespace RepoIdentity.Percent

-- ---------------------------------------------------------------------------
-- Decoding piece by piece
-- ---------------------------------------------------------------------------

/-- A character that begins no escape is decoded as its bytes. -/
theorem decode_cons_of_ne {c : Char} (h : c ≠ '%') (rest : Text) :
    decode (c :: rest) = String.utf8EncodeChar c ++ decode rest := by
  rw [decode]
  rintro high low rest' rfl
  exact absurd rfl h

/-- An escape is decoded as its byte. -/
theorem decode_escape {high low : Char} {b : UInt8} (h : byte? high low = some b) (rest : Text) :
    decode ('%' :: high :: low :: rest) = b :: decode rest := by
  rw [decode, h]

/-- Two characters stand for a byte if both are hexadecimal digits. -/
theorem byte?_isSome_iff {high low : Char} :
    (byte? high low).isSome ↔ Ascii.isHexDigit high = true ∧ Ascii.isHexDigit low = true := by
  unfold byte? Ascii.isHexDigit
  cases Ascii.hexValue? high <;> cases Ascii.hexValue? low <;> simp

/-- A percent sign stands for itself, unless two digits follow it. -/
theorem decode_cons_of_no_escape {c : Char} {s : Text}
    (h : ∀ high low rest, c = '%' → s = high :: low :: rest → byte? high low = none) :
    decode (c :: s) = String.utf8EncodeChar c ++ decode s := by
  by_cases hc : c = '%'
  · subst hc
    match s with
    | [] => rfl
    | [d] => rfl
    | high :: low :: rest =>
      rw [decode, h high low rest rfl rfl]
      rfl
  · exact decode_cons_of_ne hc s

/-- No escape reaches over a character that is no hexadecimal digit. -/
theorem decode_append {c : Char} (hc : Ascii.isHexDigit c = false) (s t : Text) :
    decode (s ++ c :: t) = decode s ++ decode (c :: t) := by
  fun_induction decode s with
  | case1 => rfl
  | case2 high low rest b hb ih =>
    rw [List.cons_append, List.cons_append, List.cons_append, decode_escape hb, ih]
    rfl
  | case3 high low rest hb ih =>
    rw [List.cons_append, List.cons_append, List.cons_append, decode, hb]
    rw [List.cons_append, List.cons_append] at ih
    simp only [ih]
    rfl
  | case4 d rest hne ih =>
    rw [List.cons_append, decode_cons_of_no_escape, ih, List.append_assoc]
    rintro high low rest' rfl hrest
    -- the sign is one of the last two characters, so that the next ones include `c`
    have hdigits : ¬ (byte? high low).isSome := by
      rw [byte?_isSome_iff]
      rintro ⟨hhigh, hlow⟩
      match rest with
      | [] =>
        rw [List.nil_append, List.cons.injEq] at hrest
        rw [← hrest.1, hc] at hhigh
        cases hhigh
      | [d] =>
        simp only [List.cons_append, List.nil_append, List.cons.injEq] at hrest
        rw [← hrest.2.1, hc] at hlow
        cases hlow
      | d :: e :: rest => exact hne d e rest rfl rfl
    exact Option.not_isSome_iff_eq_none.mp hdigits

-- ---------------------------------------------------------------------------
-- Texts with and without escapes
-- ---------------------------------------------------------------------------

/-- Some percent sign stands before two hexadecimal digits. -/
def HasEscape (s : Text) : Prop :=
  ∃ high low, Ascii.isHexDigit high = true ∧ Ascii.isHexDigit low = true ∧
    ['%', high, low] <:+: s

/-- Some percent sign stands before two digits that spell the byte. -/
def HasEscapeOf (b : UInt8) (s : Text) : Prop :=
  ∃ high low, byte? high low = some b ∧ ['%', high, low] <:+: s

/-- An escape of a byte stands at the front of a text or behind its first character. -/
theorem hasEscapeOf_cons_iff {b : UInt8} {c : Char} {s : Text} :
    HasEscapeOf b (c :: s) ↔
      (∃ high low rest, c = '%' ∧ s = high :: low :: rest ∧ byte? high low = some b) ∨
        HasEscapeOf b s := by
  constructor
  · rintro ⟨high, low, hb, hin⟩
    rcases List.infix_cons_iff.mp hin with ⟨rest, hpre⟩ | hin
    · simp only [List.cons_append, List.nil_append, List.cons.injEq] at hpre
      exact Or.inl ⟨high, low, rest, hpre.1.symm, hpre.2.symm, hb⟩
    · exact Or.inr ⟨high, low, hb, hin⟩
  · rintro (⟨high, low, rest, rfl, rfl, hb⟩ | ⟨high, low, hb, hin⟩)
    · exact ⟨high, low, hb, (List.prefix_append [_, _, _] rest).isInfix⟩
    · exact ⟨high, low, hb, List.infix_cons hin⟩

/-- An escape is an escape of some byte. -/
theorem hasEscape_iff {s : Text} : HasEscape s ↔ ∃ b, HasEscapeOf b s := by
  constructor
  · rintro ⟨high, low, hhigh, hlow, hin⟩
    obtain ⟨b, hb⟩ := Option.isSome_iff_exists.mp (byte?_isSome_iff.mpr ⟨hhigh, hlow⟩)
    exact ⟨b, high, low, hb, hin⟩
  · rintro ⟨b, high, low, hb, hin⟩
    obtain ⟨hhigh, hlow⟩ := byte?_isSome_iff.mp (by rw [hb]; rfl)
    exact ⟨high, low, hhigh, hlow, hin⟩

/-- An escape stands at the front of a text or behind its first character. -/
theorem hasEscape_cons_iff {c : Char} {s : Text} :
    HasEscape (c :: s) ↔
      (∃ high low rest, c = '%' ∧ s = high :: low :: rest ∧ (byte? high low).isSome) ∨
        HasEscape s := by
  simp only [hasEscape_iff, hasEscapeOf_cons_iff, exists_or, Option.isSome_iff_exists]
  refine or_congr_left ⟨?_, ?_⟩
  · rintro ⟨b, high, low, rest, hc, hs, hb⟩
    exact ⟨high, low, rest, hc, hs, b, hb⟩
  · rintro ⟨high, low, rest, hc, hs, b, hb⟩
    exact ⟨b, high, low, rest, hc, hs, hb⟩

/-- A text either has no escape and stands for itself, or has one and stands for
fewer bytes than it is written with. -/
theorem decode_cases (s : Text) :
    (¬ HasEscape s ∧ decode s = Utf8.encode s) ∨
      (HasEscape s ∧ (decode s).length < (Utf8.encode s).length) := by
  fun_induction decode s with
  | case1 =>
    refine Or.inl ⟨?_, rfl⟩
    rintro ⟨high, low, -, -, hin⟩
    simp at hin
  | case2 high low rest b hb ih =>
    refine Or.inr ⟨hasEscape_cons_iff.mpr (Or.inl ⟨high, low, rest, rfl, rfl, by rw [hb]; rfl⟩), ?_⟩
    -- the three characters of an escape are one byte, and the rest is no longer than before
    have hle : (decode rest).length ≤ (Utf8.encode rest).length := by
      rcases ih with ⟨-, heq⟩ | ⟨-, hlt⟩
      · exact Nat.le_of_eq (congrArg List.length heq)
      · exact Nat.le_of_lt hlt
    have hhigh := Utf8.length_encodeChar_pos high
    have hlow := Utf8.length_encodeChar_pos low
    simp only [Utf8.encode_cons, List.length_append, List.length_cons]
    omega
  | case3 high low rest hb ih =>
    -- a sign with no digits after it stands for itself
    have hpercent : String.utf8EncodeChar '%' = [0x25] := rfl
    have hiff : HasEscape ('%' :: high :: low :: rest) ↔ HasEscape (high :: low :: rest) := by
      rw [hasEscape_cons_iff]
      refine or_iff_right ?_
      rintro ⟨high', low', rest', -, hs, hb'⟩
      simp only [List.cons.injEq] at hs
      obtain ⟨rfl, rfl, -⟩ := hs
      rw [hb] at hb'
      exact absurd hb' (by simp)
    rw [hiff, Utf8.encode_cons, hpercent]
    rcases ih with ⟨hno, heq⟩ | ⟨hesc, hlt⟩
    · exact Or.inl ⟨hno, by rw [heq]; rfl⟩
    · exact Or.inr ⟨hesc, by simpa using hlt⟩
  | case4 c rest hne ih =>
    have hiff : HasEscape (c :: rest) ↔ HasEscape rest := by
      rw [hasEscape_cons_iff]
      refine or_iff_right ?_
      rintro ⟨high, low, rest', hc, hs, -⟩
      exact hne high low rest' hc hs
    rw [hiff, Utf8.encode_cons]
    rcases ih with ⟨hno, heq⟩ | ⟨hesc, hlt⟩
    · exact Or.inl ⟨hno, by rw [heq]⟩
    · refine Or.inr ⟨hesc, ?_⟩
      rw [List.length_append, List.length_append]
      omega

/-- A text without escapes is decoded as its own bytes. -/
theorem decode_eq_encode {s : Text} (h : ¬ HasEscape s) : decode s = Utf8.encode s := by
  rcases decode_cases s with ⟨-, heq⟩ | ⟨hesc, -⟩
  · exact heq
  · exact absurd hesc h

/-- Decoding makes a text with escapes shorter. -/
theorem length_decode_lt {s : Text} (h : HasEscape s) :
    (decode s).length < (Utf8.encode s).length := by
  rcases decode_cases s with ⟨hno, -⟩ | ⟨-, hlt⟩
  · exact absurd h hno
  · exact hlt

/-- Decoding makes no text longer. -/
theorem length_decode_le (s : Text) : (decode s).length ≤ (Utf8.encode s).length := by
  rcases decode_cases s with ⟨-, heq⟩ | ⟨-, hlt⟩
  · exact Nat.le_of_eq (congrArg List.length heq)
  · exact Nat.le_of_lt hlt

/-- Without a percent sign there is no escape. -/
theorem not_hasEscape_of_not_mem {s : Text} (h : '%' ∉ s) : ¬ HasEscape s := by
  rintro ⟨high, low, -, -, hin⟩
  exact h (hin.subset (by simp))

/-- An escape in a part of a text is one in the text. -/
theorem HasEscape.append {s : Text} (h : HasEscape s) (before after : Text) :
    HasEscape (before ++ s ++ after) := by
  obtain ⟨high, low, hhigh, hlow, hin⟩ := h
  have hpart : s <:+: before ++ s ++ after := ⟨before, after, rfl⟩
  exact ⟨high, low, hhigh, hlow, hin.trans hpart⟩

-- ---------------------------------------------------------------------------
-- Bytes that come from escapes
-- ---------------------------------------------------------------------------

theorem hasEscapeOf_cons_of_ne {b : UInt8} {c : Char} {s : Text} (h : c ≠ '%') :
    HasEscapeOf b (c :: s) ↔ HasEscapeOf b s := by
  rw [hasEscapeOf_cons_iff]
  refine or_iff_right ?_
  rintro ⟨_, _, _, hc, -, -⟩
  exact h hc

theorem ne_of_isHexDigit {c : Char} (h : Ascii.isHexDigit c = true) : c ≠ '%' := by
  rintro rfl
  exact absurd h (by decide)

/-- A byte that no character of a text brings comes from an escape of it. -/
theorem mem_decode_iff {s : Text} {b : UInt8} (h : b ∉ Utf8.encode s) :
    b ∈ decode s ↔ HasEscapeOf b s := by
  fun_induction decode s with
  | case1 =>
    refine iff_of_false List.not_mem_nil ?_
    rintro ⟨high, low, -, hin⟩
    simp at hin
  | case2 high low rest b' hb' ih =>
    -- no escape begins at one of the two digits
    obtain ⟨hhigh, hlow⟩ := byte?_isSome_iff.mp (by rw [hb']; rfl)
    simp only [Utf8.encode_cons, List.mem_append, not_or] at h
    rw [List.mem_cons, ih h.2.2.2, hasEscapeOf_cons_iff,
      hasEscapeOf_cons_of_ne (ne_of_isHexDigit hhigh), hasEscapeOf_cons_of_ne (ne_of_isHexDigit hlow)]
    refine or_congr_left ?_
    constructor
    · rintro rfl
      exact ⟨high, low, rest, rfl, rfl, hb'⟩
    · rintro ⟨high', low', rest', -, hs, hb⟩
      simp only [List.cons.injEq] at hs
      obtain ⟨rfl, rfl, -⟩ := hs
      exact Option.some.inj (hb.symm.trans hb')
  | case3 high low rest hnone ih =>
    rw [Utf8.encode_cons, List.mem_append, not_or] at h
    have hpercent : b ≠ 0x25 := fun heq => h.1 (List.mem_singleton.mpr heq)
    rw [List.mem_cons, or_iff_right hpercent, ih h.2, hasEscapeOf_cons_iff (c := '%')]
    refine (or_iff_right ?_).symm
    rintro ⟨high', low', rest', -, hs, hb⟩
    simp only [List.cons.injEq] at hs
    obtain ⟨rfl, rfl, -⟩ := hs
    rw [hnone] at hb
    cases hb
  | case4 c rest hne ih =>
    rw [Utf8.encode_cons, List.mem_append, not_or] at h
    rw [List.mem_append, or_iff_right h.1, ih h.2, hasEscapeOf_cons_iff]
    refine (or_iff_right ?_).symm
    rintro ⟨high, low, rest', hc, hs, -⟩
    exact hne high low rest' hc hs

/-- An ASCII character that is in no escape comes from itself or from an escape of it. -/
theorem mem_decode_char_iff {s : Text} {c : Char} {b : UInt8}
    (hb : String.utf8EncodeChar c = [b]) (hascii : b.toNat < 0x80) (hpercent : c ≠ '%')
    (hdigit : Ascii.isHexDigit c = false) : b ∈ decode s ↔ c ∈ s ∨ HasEscapeOf b s := by
  by_cases hmem : c ∈ s
  · refine iff_of_true ?_ (.inl hmem)
    obtain ⟨before, after, rfl⟩ := List.append_of_mem hmem
    rw [decode_append hdigit, decode_cons_of_ne hpercent, hb]
    exact List.mem_append_right _ List.mem_cons_self
  · rw [mem_decode_iff (mt (Utf8.mem_encode_iff hb hascii).mp hmem), or_iff_right hmem]

-- ---------------------------------------------------------------------------
-- How escapes are written
-- ---------------------------------------------------------------------------

/-- The two ways to write a hexadecimal digit. -/
def digitSpellings (v : Nat) : List Char := [Numeral.digit v, (Numeral.digit v).toUpper]

/-- A digit has the value that it is a spelling of. -/
theorem hexValue?_eq_some_iff {c : Char} {v : Nat} (hv : v < 16) :
    Ascii.hexValue? c = some v ↔ c ∈ digitSpellings v := by
  have hread : ∀ n < 128, ∀ v ∈ Ascii.hexValue? (Char.ofNat n), Char.ofNat n ∈ digitSpellings v := by
    decide
  have hwritten : ∀ v < 16, Ascii.hexValue? (Numeral.digit v) = some v ∧
      Ascii.hexValue? (Numeral.digit v).toUpper = some v := by decide
  constructor
  · intro h
    have hdigit : Ascii.isHexDigit c = true := by rw [Ascii.isHexDigit, h]; rfl
    have hle := (Ascii.bounds_of_isHexDigit hdigit).2
    exact Ascii.forall_of_forall_lt
      (P := fun c => ∀ v ∈ Ascii.hexValue? c, c ∈ digitSpellings v) hread (by omega) v h
  · intro h
    rw [digitSpellings, List.mem_pair] at h
    rcases h with rfl | rfl
    · exact (hwritten v hv).1
    · exact (hwritten v hv).2

/-- Two digits with the halves of a byte for their values stand for it. -/
theorem byte?_of_hexValue? {high low : Char} {b : UInt8}
    (hhigh : Ascii.hexValue? high = some (b.toNat / 16))
    (hlow : Ascii.hexValue? low = some (b.toNat % 16)) : byte? high low = some b := by
  rw [byte?, hhigh, hlow]
  have hb : b.toNat / 16 * 16 + b.toNat % 16 = b.toNat := by omega
  simp only [hb, UInt8.ofNat_toNat]

/-- The digits of an escape are those of the number of its byte. -/
theorem byte?_eq_some_iff {high low : Char} {b : UInt8} :
    byte? high low = some b ↔
      Ascii.hexValue? high = some (b.toNat / 16) ∧ Ascii.hexValue? low = some (b.toNat % 16) := by
  refine ⟨fun h => ?_, fun h => byte?_of_hexValue? h.1 h.2⟩
  unfold byte? at h
  split at h
  · next m n hm hn =>
    have hm' := Ascii.hexValue?_lt hm
    have hn' := Ascii.hexValue?_lt hn
    have hsum : m * 16 + n = b.toNat := by
      rw [← Option.some.inj h, Utf8.toNat_ofNat_of_lt (by omega)]
    rw [hm, hn, ← hsum]
    refine ⟨congrArg some ?_, congrArg some ?_⟩ <;> omega
  · cases h

/-- An escape of a byte is written with one of two digits for each of its halves. -/
theorem hasEscapeOf_iff {b : UInt8} {s : Text} :
    HasEscapeOf b s ↔ ∃ high ∈ digitSpellings (b.toNat / 16),
      ∃ low ∈ digitSpellings (b.toNat % 16), ['%', high, low] <:+: s := by
  have hb := UInt8.toNat_lt b
  simp only [HasEscapeOf, byte?_eq_some_iff, hexValue?_eq_some_iff (show b.toNat / 16 < 16 by omega),
    hexValue?_eq_some_iff (show b.toNat % 16 < 16 by omega)]
  constructor
  · rintro ⟨high, low, ⟨hhigh, hlow⟩, hin⟩
    exact ⟨high, hhigh, low, hlow, hin⟩
  · rintro ⟨high, hhigh, low, hlow, hin⟩
    exact ⟨high, low, ⟨hhigh, hlow⟩, hin⟩

/-- There is one way to escape the byte zero. -/
theorem hasEscapeOf_nul_iff {s : Text} : HasEscapeOf 0 s ↔ "%00".toList <:+: s := by
  have hdigits : digitSpellings 0 = ['0', '0'] := rfl
  rw [hasEscapeOf_iff]
  simp [hdigits]

/-- There are two ways to escape a line feed. -/
theorem hasEscapeOf_lineFeed_iff {s : Text} :
    HasEscapeOf 0x0A s ↔ "%0A".toList <:+: s ∨ "%0a".toList <:+: s := by
  have hhigh : digitSpellings 0 = ['0', '0'] := rfl
  have hlow : digitSpellings 10 = ['a', 'A'] := rfl
  rw [hasEscapeOf_iff]
  simp [hhigh, hlow, or_comm]

-- ---------------------------------------------------------------------------
-- Spellings
-- ---------------------------------------------------------------------------

/-- `Escapes e bytes`: the text `e` writes each of the bytes as an escape, with
digits of either case. -/
inductive Escapes : (e : Text) → (bytes : Bytes) → Prop where
  | nil : Escapes [] []
  | cons {high low : Char} {e : Text} {b : UInt8} {bytes : Bytes} :
      Ascii.hexValue? high = some (b.toNat / 16) → Ascii.hexValue? low = some (b.toNat % 16) →
      Escapes e bytes → Escapes ('%' :: high :: low :: e) (b :: bytes)

/-- Characters that a path of a URL cannot hold as they are. -/
def isReserved (c : Char) : Bool :=
  ['/', '\\', '?', '#', '%', '\t', '\n', '\r'].contains c

/-- `Spells w s`: the text `w` writes each character of `s` either as it is or as
the escapes of its bytes. -/
inductive Spells : (w s : Text) → Prop where
  | nil : Spells [] []
  | literal {c : Char} {w s : Text} :
      isReserved c = false → Spells w s → Spells (c :: w) (c :: s)
  | escaped {c : Char} {e w s : Text} :
      Escapes e (String.utf8EncodeChar c) → Spells w s → Spells (e ++ w) (c :: s)

/-- A text without reserved characters is spelt as itself. -/
theorem spells_self {s : Text} (h : s.any isReserved = false) : Spells s s := by
  induction s with
  | nil => exact Spells.nil
  | cons c s ih =>
    rw [List.any_cons, Bool.or_eq_false_iff] at h
    exact Spells.literal h.1 (ih h.2)

/-- Escapes are decoded as their bytes, whatever follows. -/
theorem decode_of_escapes {e rest : Text} {bytes : Bytes} (h : Escapes e bytes) :
    decode (e ++ rest) = bytes ++ decode rest := by
  induction h with
  | nil => rfl
  | cons hhigh hlow _ ih =>
    rw [List.cons_append, List.cons_append, List.cons_append,
      decode_escape (byte?_of_hexValue? hhigh hlow), ih]
    rfl

/-- Decoding reads a spelling of a text as the text. -/
theorem decode_of_spells {w s : Text} (h : Spells w s) (rest : Text) :
    decode (w ++ rest) = Utf8.encode s ++ decode rest := by
  induction h with
  | nil => rfl
  | @literal c w s hc _ ih =>
    have hne : c ≠ '%' := by
      rintro rfl
      exact absurd hc (by decide)
    rw [List.cons_append, decode_cons_of_ne hne, ih, Utf8.encode_cons, List.append_assoc]
  | escaped he _ ih =>
    rw [List.append_assoc, decode_of_escapes he, ih, Utf8.encode_cons, List.append_assoc]

/-- A hexadecimal digit is none of the characters that a spelling avoids. -/
theorem isReserved_of_hexValue? {c : Char} {v : Nat} (h : Ascii.hexValue? c = some v) :
    isReserved c = false := by
  have hdigit : Ascii.isHexDigit c = true := by
    rw [Ascii.isHexDigit, h]
    rfl
  rw [isReserved, List.contains_eq_mem, decide_eq_false_iff_not]
  intro hmem
  simp only [List.mem_cons, List.not_mem_nil, or_false] at hmem
  rcases hmem with rfl | rfl | rfl | rfl | rfl | rfl | rfl | rfl <;>
    exact absurd hdigit (by decide)

/-- Escapes hold no reserved characters but percent signs. -/
theorem isReserved_of_mem_escapes {e : Text} {bytes : Bytes} (h : Escapes e bytes) :
    ∀ c ∈ e, c = '%' ∨ isReserved c = false := by
  induction h with
  | nil => simp
  | cons hhigh hlow _ ih =>
    intro c hc
    rcases List.mem_cons.mp hc with rfl | hc
    · exact Or.inl rfl
    rcases List.mem_cons.mp hc with rfl | hc
    · exact Or.inr (isReserved_of_hexValue? hhigh)
    rcases List.mem_cons.mp hc with rfl | hc
    · exact Or.inr (isReserved_of_hexValue? hlow)
    · exact ih c hc

/-- Of the reserved characters a spelling holds only percent signs. -/
theorem isReserved_of_mem_spells {w s : Text} (h : Spells w s) :
    ∀ c ∈ w, c = '%' ∨ isReserved c = false := by
  induction h with
  | nil => simp
  | literal hc _ ih =>
    intro c hmem
    rcases List.mem_cons.mp hmem with rfl | hmem
    · exact Or.inr hc
    · exact ih c hmem
  | escaped he _ ih =>
    intro c hmem
    rcases List.mem_append.mp hmem with hmem | hmem
    · exact isReserved_of_mem_escapes he c hmem
    · exact ih c hmem

/-- Only the empty text is spelt by nothing. -/
theorem ne_nil_of_spells {w s : Text} (h : Spells w s) (hs : s ≠ []) : w ≠ [] := by
  rintro rfl
  have hdecode := decode_of_spells h []
  rw [List.append_nil, show decode [] = [] from rfl, List.append_nil] at hdecode
  exact hs (Utf8.encode_injective hdecode.symm)

end RepoIdentity.Percent

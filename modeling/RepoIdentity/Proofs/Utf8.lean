import RepoIdentity.Proofs.Text
import RepoIdentity.Text.Encoding

/-!
# Decoding undoes encoding

The bytes of a text are read as that text, and no other bytes are read as it:
overlong forms and surrogates are refused where they begin.

* `encodeChar_one`, …, `encodeChar_four` — the bytes of a character by the
  number of the character;
* `encodeChar_of_one`, …, `encodeChar_of_four` — the character of one to four
  bytes that decoding accepts has these bytes;
* `decode_encode`, `eq_encode_of_decode` — the two directions for whole texts;
* `exists_fault_iff` — what is refused is no encoding.
-/

namespace RepoIdentity.Utf8

-- ---------------------------------------------------------------------------
-- Bytes by their numbers
-- ---------------------------------------------------------------------------

theorem width?_eq (b : UInt8) :
    width? b =
      if b.toNat < 0x80 then some 1
      else if 0xC2 ≤ b.toNat ∧ b.toNat ≤ 0xDF then some 2
      else if 0xE0 ≤ b.toNat ∧ b.toNat ≤ 0xEF then some 3
      else if 0xF0 ≤ b.toNat ∧ b.toNat ≤ 0xF4 then some 4
      else none := rfl

/-- The bytes that go on a character. -/
theorem isContinuation_iff {b : UInt8} :
    isContinuation b = true ↔ 0x80 ≤ b.toNat ∧ b.toNat ≤ 0xBF := by
  rw [isContinuation, Bool.and_eq_true, decide_eq_true_eq, decide_eq_true_eq]
  exact Iff.rfl

/-- The second byte of a character is bounded more closely after some first ones. -/
theorem isSecond_iff {first second : UInt8} :
    isSecond first second = true ↔
      (0x80 ≤ second.toNat ∧ second.toNat ≤ 0xBF) ∧
      (first.toNat = 0xE0 → 0xA0 ≤ second.toNat) ∧ (first.toNat = 0xED → second.toNat ≤ 0x9F) ∧
      (first.toNat = 0xF0 → 0x90 ≤ second.toNat) ∧ (first.toNat = 0xF4 → second.toNat ≤ 0x8F) := by
  have hne (k : UInt8) : (first != k) = true ↔ first.toNat ≠ k.toNat := by
    rw [bne_iff_ne, ne_eq, ← UInt8.toNat_inj]
  have hle (a b : UInt8) : decide (a ≤ b) = true ↔ a.toNat ≤ b.toNat := by
    rw [decide_eq_true_eq]
    exact Iff.rfl
  simp only [isSecond, Bool.and_eq_true, Bool.or_eq_true, isContinuation_iff, hne, hle,
    UInt8.reduceToNat]
  omega

-- ---------------------------------------------------------------------------
-- The bytes of one character
-- ---------------------------------------------------------------------------

theorem toNat_ofNat_of_lt {n : Nat} (h : n < 256) : (UInt8.ofNat n).toNat = n := by
  rw [UInt8.toNat_ofNat']
  omega

/-- A character below 0x80 is one byte. -/
theorem encodeChar_one {c : Char} (h : c.toNat < 0x80) :
    ∃ b₀, String.utf8EncodeChar c = [b₀] ∧ b₀.toNat = c.toNat := by
  refine ⟨UInt8.ofNat c.toNat, ?_, toNat_ofNat_of_lt (by omega)⟩
  rw [String.utf8EncodeChar, if_pos (by show c.toNat ≤ _; omega)]
  rfl

/-- A character from 0x80 to 0x7FF is two bytes. -/
theorem encodeChar_two {c : Char} (h : 0x80 ≤ c.toNat) (h' : c.toNat < 0x800) :
    ∃ b₀ b₁, String.utf8EncodeChar c = [b₀, b₁] ∧
      b₀.toNat = c.toNat / 64 + 0xC0 ∧ b₁.toNat = c.toNat % 64 + 0x80 := by
  refine ⟨UInt8.ofNat (c.toNat / 64 % 0x20 + 0xC0), UInt8.ofNat (c.toNat % 64 + 0x80), ?_, ?_, ?_⟩
  · rw [String.utf8EncodeChar, if_neg (by show ¬ c.toNat ≤ _; omega),
      if_pos (by show c.toNat ≤ _; omega)]
    rfl
  · rw [toNat_ofNat_of_lt (by omega)]
    omega
  · rw [toNat_ofNat_of_lt (by omega)]

/-- A character from 0x800 to 0xFFFF is three bytes. -/
theorem encodeChar_three {c : Char} (h : 0x800 ≤ c.toNat) (h' : c.toNat < 0x10000) :
    ∃ b₀ b₁ b₂, String.utf8EncodeChar c = [b₀, b₁, b₂] ∧
      b₀.toNat = c.toNat / 4096 + 0xE0 ∧ b₁.toNat = c.toNat / 64 % 64 + 0x80 ∧
      b₂.toNat = c.toNat % 64 + 0x80 := by
  refine ⟨UInt8.ofNat (c.toNat / 4096 % 0x10 + 0xE0), UInt8.ofNat (c.toNat / 64 % 64 + 0x80),
    UInt8.ofNat (c.toNat % 64 + 0x80), ?_, ?_, ?_, ?_⟩
  · rw [String.utf8EncodeChar, if_neg (by show ¬ c.toNat ≤ _; omega),
      if_neg (by show ¬ c.toNat ≤ _; omega), if_pos (by show c.toNat ≤ _; omega)]
    rfl
  · rw [toNat_ofNat_of_lt (by omega)]
    omega
  · rw [toNat_ofNat_of_lt (by omega)]
  · rw [toNat_ofNat_of_lt (by omega)]

/-- A character is no surrogate and no higher than the last code point. -/
theorem toNat_lt (c : Char) : c.toNat < 0xD800 ∨ 0xDFFF < c.toNat ∧ c.toNat < 0x110000 := c.valid

/-- A character from 0x10000 on is four bytes. -/
theorem encodeChar_four {c : Char} (h : 0x10000 ≤ c.toNat) :
    ∃ b₀ b₁ b₂ b₃, String.utf8EncodeChar c = [b₀, b₁, b₂, b₃] ∧
      b₀.toNat = c.toNat / 262144 + 0xF0 ∧ b₁.toNat = c.toNat / 4096 % 64 + 0x80 ∧
      b₂.toNat = c.toNat / 64 % 64 + 0x80 ∧ b₃.toNat = c.toNat % 64 + 0x80 := by
  have hlt := toNat_lt c
  refine ⟨UInt8.ofNat (c.toNat / 262144 % 8 + 0xF0), UInt8.ofNat (c.toNat / 4096 % 64 + 0x80),
    UInt8.ofNat (c.toNat / 64 % 64 + 0x80), UInt8.ofNat (c.toNat % 64 + 0x80), ?_, ?_, ?_, ?_, ?_⟩
  · rw [String.utf8EncodeChar, if_neg (by show ¬ c.toNat ≤ _; omega),
      if_neg (by show ¬ c.toNat ≤ _; omega), if_neg (by show ¬ c.toNat ≤ _; omega)]
    rfl
  · rw [toNat_ofNat_of_lt (by omega)]
    omega
  · rw [toNat_ofNat_of_lt (by omega)]
  · rw [toNat_ofNat_of_lt (by omega)]
  · rw [toNat_ofNat_of_lt (by omega)]

/-- The character of a number that is one. -/
theorem toNat_charOfNat {n : Nat} (h : n < 0xD800 ∨ 0xDFFF < n ∧ n < 0x110000) :
    (Char.ofNat n).toNat = n := by
  have hv : n.isValidChar := h
  rw [Char.ofNat, dif_pos hv]
  rfl

-- ---------------------------------------------------------------------------
-- Reading what was written
-- ---------------------------------------------------------------------------

/-- The bytes of a character are read as that character. -/
theorem decodeFrom_encodeChar (index : Nat) (c : Char) (rest : Bytes) :
    decodeFrom index (String.utf8EncodeChar c ++ rest) =
      (decodeFrom (index + (String.utf8EncodeChar c).length) rest).map (c :: ·) := by
  have hlt := toNat_lt c
  have hc : Char.ofNat c.toNat = c := Char.ofNat_toNat c
  -- one case for each width; the first byte tells which it is
  rcases Nat.lt_or_ge c.toNat 0x80 with h₁ | h₁
  · obtain ⟨b₀, he, h₀⟩ := encodeChar_one h₁
    have hw : width? b₀ = some 1 := by rw [width?_eq, h₀, if_pos h₁]
    rw [he, List.cons_append, List.nil_append, decodeFrom, hw]
    simp only [h₀, hc, List.length_cons, List.length_nil]
  rcases Nat.lt_or_ge c.toNat 0x800 with h₂ | h₂
  · obtain ⟨b₀, b₁, he, hb₀, hb₁⟩ := encodeChar_two h₁ h₂
    have hw : width? b₀ = some 2 := by
      rw [width?_eq, if_neg (by omega), if_pos (by omega)]
    have hs : isSecond b₀ b₁ = true := by
      rw [isSecond_iff]
      omega
    have hv : b₀.toNat % 32 * 64 + payload b₁ = c.toNat := by
      unfold payload
      omega
    simp only [he, List.cons_append, List.nil_append, decodeFrom, hw, hs, hv, hc,
      List.length_cons, List.length_nil, Bool.not_true, Bool.false_eq_true, if_false, if_true]
  rcases Nat.lt_or_ge c.toNat 0x10000 with h₃ | h₃
  · obtain ⟨b₀, b₁, b₂, he, hb₀, hb₁, hb₂⟩ := encodeChar_three h₂ h₃
    have hw : width? b₀ = some 3 := by
      rw [width?_eq, if_neg (by omega), if_neg (by omega), if_pos (by omega)]
    have hs : isSecond b₀ b₁ = true := by
      rw [isSecond_iff]
      omega
    have hk : isContinuation b₂ = true := by
      rw [isContinuation_iff]
      omega
    have hv : (b₀.toNat % 16 * 64 + payload b₁) * 64 + payload b₂ = c.toNat := by
      unfold payload
      omega
    simp only [he, List.cons_append, List.nil_append, decodeFrom, hw, hs, hk, hv, hc,
      List.length_cons, List.length_nil, Bool.not_true, Bool.false_eq_true, if_false, if_true,
      Nat.reduceEqDiff]
  · obtain ⟨b₀, b₁, b₂, b₃, he, hb₀, hb₁, hb₂, hb₃⟩ := encodeChar_four h₃
    have hw : width? b₀ = some 4 := by
      rw [width?_eq, if_neg (by omega), if_neg (by omega), if_neg (by omega), if_pos (by omega)]
    have hs : isSecond b₀ b₁ = true := by
      rw [isSecond_iff]
      omega
    have hk : isContinuation b₂ = true := by
      rw [isContinuation_iff]
      omega
    have hk' : isContinuation b₃ = true := by
      rw [isContinuation_iff]
      omega
    have hv : ((b₀.toNat % 8 * 64 + payload b₁) * 64 + payload b₂) * 64 + payload b₃ = c.toNat := by
      unfold payload
      omega
    simp only [he, List.cons_append, List.nil_append, decodeFrom, hw, hs, hk, hk', hv, hc,
      List.length_cons, List.length_nil, Bool.not_true, Bool.false_eq_true, if_false,
      Nat.reduceEqDiff]

theorem decodeFrom_encode (index : Nat) (s : Text) : decodeFrom index (encode s) = .ok s := by
  induction s generalizing index with
  | nil => rfl
  | cons c s ih =>
    rw [show encode (c :: s) = String.utf8EncodeChar c ++ encode s from rfl,
      decodeFrom_encodeChar, ih]
    rfl

/-- An encoded text is decoded as itself. -/
theorem decode_encode (s : Text) : decode (encode s) = .ok s := decodeFrom_encode 0 s

-- ---------------------------------------------------------------------------
-- Only what was written is read
-- ---------------------------------------------------------------------------

/-- What a leading byte tells by its width. -/
theorem width?_eq_some {b : UInt8} {w : Nat} (h : width? b = some w) :
    (w = 1 ∧ b.toNat < 0x80) ∨ (w = 2 ∧ 0xC2 ≤ b.toNat ∧ b.toNat ≤ 0xDF) ∨
      (w = 3 ∧ 0xE0 ≤ b.toNat ∧ b.toNat ≤ 0xEF) ∨ (w = 4 ∧ 0xF0 ≤ b.toNat ∧ b.toNat ≤ 0xF4) := by
  rw [width?_eq] at h
  split at h
  · cases h; omega
  · split at h
    · cases h; omega
    · split at h
      · cases h; omega
      · split at h
        · cases h; omega
        · cases h

theorem eq_of_toNat_eq {a b : UInt8} (h : a.toNat = b.toNat) : a = b := UInt8.toNat_inj.mp h

/-- A byte that stands alone is the encoding of its character. -/
theorem encodeChar_of_one {b₀ : UInt8} (hw : width? b₀ = some 1) :
    String.utf8EncodeChar (Char.ofNat b₀.toNat) = [b₀] := by
  have hb := width?_eq_some hw
  have hv : (Char.ofNat b₀.toNat).toNat = b₀.toNat := toNat_charOfNat (by omega)
  obtain ⟨a₀, he, h₀⟩ := encodeChar_one (c := Char.ofNat b₀.toNat) (by omega)
  rw [he, eq_of_toNat_eq (h₀.trans hv)]

/-- Two bytes that fit together are the encoding of the character that they make. -/
theorem encodeChar_of_two {b₀ b₁ : UInt8} (hw : width? b₀ = some 2)
    (hs : isSecond b₀ b₁ = true) :
    String.utf8EncodeChar (Char.ofNat (b₀.toNat % 32 * 64 + payload b₁)) = [b₀, b₁] := by
  have hb := width?_eq_some hw
  rw [isSecond_iff] at hs
  unfold payload
  have hv := toNat_charOfNat (n := b₀.toNat % 32 * 64 + b₁.toNat % 64) (by omega)
  generalize Char.ofNat (b₀.toNat % 32 * 64 + b₁.toNat % 64) = c at *
  obtain ⟨a₀, a₁, he, h₀, h₁⟩ := encodeChar_two (c := c) (by omega) (by omega)
  rw [he, eq_of_toNat_eq (show a₀.toNat = b₀.toNat by omega),
    eq_of_toNat_eq (show a₁.toNat = b₁.toNat by omega)]

/-- Three bytes that fit together are the encoding of the character that they make. -/
theorem encodeChar_of_three {b₀ b₁ b₂ : UInt8} (hw : width? b₀ = some 3)
    (hs : isSecond b₀ b₁ = true) (hk : isContinuation b₂ = true) :
    String.utf8EncodeChar (Char.ofNat ((b₀.toNat % 16 * 64 + payload b₁) * 64 + payload b₂)) =
      [b₀, b₁, b₂] := by
  have hb := width?_eq_some hw
  rw [isSecond_iff] at hs
  rw [isContinuation_iff] at hk
  unfold payload
  have hv := toNat_charOfNat
    (n := (b₀.toNat % 16 * 64 + b₁.toNat % 64) * 64 + b₂.toNat % 64) (by omega)
  generalize Char.ofNat ((b₀.toNat % 16 * 64 + b₁.toNat % 64) * 64 + b₂.toNat % 64) = c at *
  obtain ⟨a₀, a₁, a₂, he, h₀, h₁, h₂⟩ := encodeChar_three (c := c) (by omega) (by omega)
  rw [he, eq_of_toNat_eq (show a₀.toNat = b₀.toNat by omega),
    eq_of_toNat_eq (show a₁.toNat = b₁.toNat by omega),
    eq_of_toNat_eq (show a₂.toNat = b₂.toNat by omega)]

/-- Four bytes that fit together are the encoding of the character that they make. -/
theorem encodeChar_of_four {b₀ b₁ b₂ b₃ : UInt8} (hw : width? b₀ = some 4)
    (hs : isSecond b₀ b₁ = true) (hk : isContinuation b₂ = true)
    (hk' : isContinuation b₃ = true) :
    String.utf8EncodeChar
        (Char.ofNat (((b₀.toNat % 8 * 64 + payload b₁) * 64 + payload b₂) * 64 + payload b₃)) =
      [b₀, b₁, b₂, b₃] := by
  have hb := width?_eq_some hw
  rw [isSecond_iff] at hs
  rw [isContinuation_iff] at hk hk'
  unfold payload
  have hv := toNat_charOfNat
    (n := ((b₀.toNat % 8 * 64 + b₁.toNat % 64) * 64 + b₂.toNat % 64) * 64 + b₃.toNat % 64)
    (by omega)
  generalize Char.ofNat
    (((b₀.toNat % 8 * 64 + b₁.toNat % 64) * 64 + b₂.toNat % 64) * 64 + b₃.toNat % 64) = c at *
  obtain ⟨a₀, a₁, a₂, a₃, he, h₀, h₁, h₂, h₃⟩ := encodeChar_four (c := c) (by omega)
  rw [he, eq_of_toNat_eq (show a₀.toNat = b₀.toNat by omega),
    eq_of_toNat_eq (show a₁.toNat = b₁.toNat by omega),
    eq_of_toNat_eq (show a₂.toNat = b₂.toNat by omega),
    eq_of_toNat_eq (show a₃.toNat = b₃.toNat by omega)]

/-- Bytes that are decoded are the encoding of the text, wherever they stand. -/
theorem eq_encode_of_decodeFrom {index : Nat} {bytes : Bytes} {s : Text}
    (h : decodeFrom index bytes = .ok s) : bytes = encode s := by
  fun_induction decodeFrom index bytes generalizing s with
  | case1 => rw [← Except.ok.inj h]; rfl
  | case3 _ _ _ hw ih =>
    obtain ⟨t, ht, rfl⟩ := exists_of_map_eq_ok h
    rw [encode, List.flatMap_cons, encodeChar_of_one hw, ih ht]
    rfl
  | case6 _ _ _ _ hs _ hw ih =>
    obtain ⟨t, ht, rfl⟩ := exists_of_map_eq_ok h
    rw [encode, List.flatMap_cons, encodeChar_of_two hw (by simpa using hs), ih ht]
    rfl
  | case9 _ _ _ hs _ _ hk _ hw _ ih =>
    obtain ⟨t, ht, rfl⟩ := exists_of_map_eq_ok h
    rw [encode, List.flatMap_cons,
      encodeChar_of_three hw (by simpa using hs) (by simpa using hk), ih ht]
    rfl
  | case12 _ b₀ w hne₁ hw _ hs hne₂ _ hk hne₃ _ _ hk' ih =>
    obtain ⟨t, ht, rfl⟩ := exists_of_map_eq_ok h
    have hfour : w = 4 := by
      have hcases := width?_eq_some hw
      have hne : w ≠ 1 := hne₁
      omega
    subst hfour
    rw [encode, List.flatMap_cons, encodeChar_of_four hw (by simpa using hs) (by simpa using hk)
      (by simpa using hk'), ih ht]
    rfl
  | _ => cases h

theorem eq_encode_of_decode {bytes : Bytes} {s : Text} (h : decode bytes = .ok s) :
    bytes = encode s := eq_encode_of_decodeFrom h

/-- Decoding succeeds on the encodings of texts and on no other bytes. -/
theorem decode_eq_ok_iff {bytes : Bytes} {s : Text} : decode bytes = .ok s ↔ bytes = encode s := by
  constructor
  · exact eq_encode_of_decode
  · rintro rfl
    exact decode_encode s

/-- Decoding fails on what is not the encoding of a text, and on nothing else. -/
theorem exists_fault_iff {bytes : Bytes} :
    (∃ fault, decode bytes = .error fault) ↔ ∀ s, bytes ≠ encode s := by
  -- decoding fails where it does not succeed
  constructor
  · rintro ⟨fault, hfault⟩ s rfl
    rw [decode_encode] at hfault
    cases hfault
  · intro h
    cases hdecode : decode bytes with
    | error fault => exact ⟨fault, rfl⟩
    | ok s => exact absurd (eq_encode_of_decode hdecode) (h s)

/-- Different texts have different encodings. -/
theorem encode_injective {s t : Text} (h : encode s = encode t) : s = t := by
  have hs := decode_encode s
  rw [h, decode_encode] at hs
  exact (Except.ok.inj hs).symm

-- ---------------------------------------------------------------------------
-- Encoding piece by piece
-- ---------------------------------------------------------------------------

@[simp] theorem encode_nil : encode [] = [] := rfl

@[simp] theorem encode_cons (c : Char) (s : Text) :
    encode (c :: s) = String.utf8EncodeChar c ++ encode s := rfl

@[simp] theorem encode_append (s t : Text) : encode (s ++ t) = encode s ++ encode t :=
  List.flatMap_append

/-- A byte of a character is all of it, or neither ASCII nor one that UTF-8 leaves out. -/
theorem mem_encodeChar_cases {c : Char} {b : UInt8} (h : b ∈ String.utf8EncodeChar c) :
    (c.toNat < 0x80 ∧ b.toNat = c.toNat) ∨ (0x80 ≤ b.toNat ∧ b.toNat < 0xF5) := by
  have hlt := toNat_lt c
  by_cases hone : c.toNat < 0x80
  · obtain ⟨b₀, hc, h₀⟩ := encodeChar_one hone
    simp only [hc, List.mem_singleton] at h
    exact .inl ⟨hone, h ▸ h₀⟩
  right
  by_cases htwo : c.toNat < 0x800
  · obtain ⟨b₀, b₁, hc, h₀, h₁⟩ := encodeChar_two (by omega) htwo
    simp only [hc, List.mem_cons, List.not_mem_nil, or_false] at h
    rcases h with rfl | rfl <;> omega
  by_cases hthree : c.toNat < 0x10000
  · obtain ⟨b₀, b₁, b₂, hc, h₀, h₁, h₂⟩ := encodeChar_three (by omega) hthree
    simp only [hc, List.mem_cons, List.not_mem_nil, or_false] at h
    rcases h with rfl | rfl | rfl <;> omega
  · obtain ⟨b₀, b₁, b₂, b₃, hc, h₀, h₁, h₂, h₃⟩ := encodeChar_four (c := c) (by omega)
    simp only [hc, List.mem_cons, List.not_mem_nil, or_false] at h
    rcases h with rfl | rfl | rfl | rfl <;> omega

/-- No byte of a character is as great as those that UTF-8 leaves out. -/
theorem toNat_lt_of_mem_encodeChar {c : Char} {b : UInt8} (h : b ∈ String.utf8EncodeChar c) :
    b.toNat < 0xF5 := by
  rcases mem_encodeChar_cases h with ⟨hlt, heq⟩ | ⟨-, hlt⟩ <;> omega

/-- No byte of an encoded text is 0xF5 or above. -/
theorem toNat_lt_of_mem_encode {s : Text} {b : UInt8} (h : b ∈ encode s) : b.toNat < 0xF5 := by
  obtain ⟨c, -, hb⟩ := List.mem_flatMap.mp h
  exact toNat_lt_of_mem_encodeChar hb

/-- An ASCII character is in a text exactly if its byte is in the encoding. -/
theorem mem_encode_iff {s : Text} {c : Char} {b : UInt8} (hb : String.utf8EncodeChar c = [b])
    (hascii : b.toNat < 0x80) : b ∈ encode s ↔ c ∈ s := by
  have hnumber {d : Char} (hd : b ∈ String.utf8EncodeChar d) : d.toNat = b.toNat := by
    rcases mem_encodeChar_cases hd with ⟨-, heq⟩ | ⟨hge, -⟩ <;> omega
  have hc : b ∈ String.utf8EncodeChar c := hb ▸ List.mem_singleton_self b
  constructor
  · intro h
    obtain ⟨d, hd, hmem⟩ := List.mem_flatMap.mp h
    have heq : d = c := Char.toNat_inj.mp ((hnumber hmem).trans (hnumber hc).symm)
    rwa [← heq]
  · intro h
    exact List.mem_flatMap.mpr ⟨c, h, hc⟩

/-- The bytes of a text are those of its characters. -/
theorem length_encode_cons (c : Char) (s : Text) :
    (encode (c :: s)).length = c.utf8Size + (encode s).length := by
  rw [encode_cons, List.length_append, String.length_utf8EncodeChar]

/-- No character is without bytes. -/
theorem length_encodeChar_pos (c : Char) : 0 < (String.utf8EncodeChar c).length := by
  rw [String.length_utf8EncodeChar]
  exact Char.utf8Size_pos c

/-- A part of a text has no more bytes than the text. -/
theorem length_encode_le_of_sublist {s t : Text} (h : s.Sublist t) :
    (encode s).length ≤ (encode t).length := by
  induction h with
  | slnil => exact Nat.le_refl _
  | cons c _ ih =>
    rw [encode_cons, List.length_append]
    omega
  | cons_cons c _ ih =>
    rw [encode_cons, encode_cons, List.length_append, List.length_append]
    omega

/-- A part of a text with as many bytes is the text. -/
theorem eq_of_sublist_of_length_le {s t : Text} (h : s.Sublist t)
    (hle : (encode t).length ≤ (encode s).length) : s = t := by
  induction h with
  | slnil => rfl
  | cons c hst ih =>
    have hsub := length_encode_le_of_sublist hst
    have hpos := length_encodeChar_pos c
    rw [encode_cons, List.length_append] at hle
    omega
  | cons_cons c hst ih =>
    rw [encode_cons, encode_cons, List.length_append, List.length_append] at hle
    rw [ih (by omega)]

end RepoIdentity.Utf8

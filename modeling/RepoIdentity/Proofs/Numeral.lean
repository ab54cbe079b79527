import RepoIdentity.Text.Ascii

/-!
# Numerals denote their numbers

A numeral is written digit by digit from the last one backwards (`ofNat_eq`).
From this equation follow its length, that it has no leading zero, and that its
digits denote the number it was written for, in the decimal reading of ports and
IPv4 addresses as in the hexadecimal one of IPv6 groups.
-/

namespace RepoIdentity.Numeral

/-- The last digit of a numeral, and what stands before it. -/
theorem ofNat_eq {b : Nat} (hb : 2 ≤ b) (n : Nat) :
    ofNat b n = (if n < b then [] else ofNat b (n / b)) ++ [digit (n % b)] := by
  rw [ofNat]
  by_cases h : n < b
  · rw [dif_pos (Or.inl h), if_pos h, Nat.mod_eq_of_lt h]
    rfl
  · rw [dif_neg (by omega), if_neg h]

/-- Every number has a digit. -/
theorem ofNat_ne_nil {b : Nat} (hb : 2 ≤ b) (n : Nat) : ofNat b n ≠ [] := by
  rw [ofNat_eq hb]
  simp

/-- Every character of a numeral is the digit of a value below the base. -/
theorem mem_ofNat {b : Nat} (hb : 2 ≤ b) {n : Nat} {c : Char} (hc : c ∈ ofNat b n) :
    ∃ d < b, c = digit d := by
  induction n using Nat.strongRecOn with
  | ind n ih =>
    rw [ofNat_eq hb, List.mem_append, List.mem_singleton] at hc
    rcases hc with hc | rfl
    · by_cases h : n < b
      · simp [h] at hc
      · rw [if_neg h] at hc
        exact ih (n / b) (Nat.div_lt_self (by omega) (by omega)) hc
    · exact ⟨n % b, Nat.mod_lt n (by omega), rfl⟩

/-- A number below a power has no more digits than that. -/
theorem length_ofNat_le {b : Nat} (hb : 2 ≤ b) {n k : Nat} (hk : 1 ≤ k) (h : n < Nat.pow b k) :
    (ofNat b n).length ≤ k := by
  induction k generalizing n with
  | zero => omega
  | succ k ih =>
    rw [ofNat_eq hb, List.length_append, List.length_singleton]
    by_cases hn : n < b
    · rw [if_pos hn, List.length_nil]
      omega
    · rw [if_neg hn]
      have hpow : Nat.pow b (k + 1) = Nat.pow b k * b := rfl
      have hdiv : n / b < Nat.pow b k := by
        rw [Nat.div_lt_iff_lt_mul (by omega), ← hpow]
        exact h
      have hk' : 1 ≤ k := by
        rcases Nat.eq_zero_or_pos k with rfl | hpos
        · have hone : Nat.pow b 0 = 1 := rfl
          rw [hpow, hone] at h
          omega
        · exact hpos
      have := ih hk' hdiv
      omega

/-- A digit at the end counts once, and the others count more. -/
theorem valueOf_append (b : Nat) (ds : List Nat) (d : Nat) :
    valueOf b (ds ++ [d]) = valueOf b ds * b + d := by
  rw [valueOf, List.foldl_append]
  rfl

/-- The digits of a numeral denote its number, for every reading of digits that
undoes the writing of them. -/
theorem valueOf_ofNat {b : Nat} (hb : 2 ≤ b) {value : Char → Nat}
    (hvalue : ∀ d < b, value (digit d) = d) (n : Nat) :
    valueOf b ((ofNat b n).map value) = n := by
  induction n using Nat.strongRecOn with
  | ind n ih =>
    rw [ofNat_eq hb, List.map_append, List.map_singleton, valueOf_append,
      hvalue _ (Nat.mod_lt n (by omega))]
    by_cases h : n < b
    · rw [if_pos h, Nat.mod_eq_of_lt h]
      show valueOf b [] * b + n = n
      rw [show valueOf b [] = 0 from rfl, Nat.zero_mul, Nat.zero_add]
    · rw [if_neg h, ih (n / b) (Nat.div_lt_self (by omega) (by omega)), Nat.mul_comm,
        Nat.div_add_mod]

/-- Only the numeral of zero begins with a zero. -/
theorem eq_zero_of_head?_ofNat {b : Nat} (hb : 2 ≤ b) (hb' : b ≤ 16) {n : Nat}
    (h : (ofNat b n).head? = some '0') : n = 0 := by
  have hdigit : ∀ d < 16, digit d = '0' → d = 0 := by decide
  induction n using Nat.strongRecOn with
  | ind n ih =>
    rw [ofNat_eq hb] at h
    by_cases hn : n < b
    · rw [if_pos hn, Nat.mod_eq_of_lt hn, List.nil_append, List.head?_cons, Option.some.injEq] at h
      exact hdigit n (by omega) h
    · rw [if_neg hn, List.head?_append] at h
      obtain ⟨c, hc⟩ : ∃ c, (ofNat b (n / b)).head? = some c :=
        ⟨_, List.head?_eq_some_head (ofNat_ne_nil hb (n / b))⟩
      rw [hc, Option.some_or, ← hc] at h
      have hzero := ih (n / b) (Nat.div_lt_self (by omega) (by omega)) h
      rw [Nat.div_eq_zero_iff] at hzero
      omega

-- ---------------------------------------------------------------------------
-- Decimal numerals
-- ---------------------------------------------------------------------------

/-- A decimal is made of digits. -/
theorem isDigit_of_mem_decimal {n : Nat} {c : Char} (hc : c ∈ decimal n) : c.isDigit = true := by
  have hdigit : ∀ d < 10, (digit d).isDigit = true := by decide
  obtain ⟨d, hd, rfl⟩ := mem_ofNat (by omega) hc
  exact hdigit d hd

/-- Decimal numerals are the usual ones. -/
theorem decimal_eq_toDigits (n : Nat) : decimal n = Nat.toDigits 10 n := by
  have hdigit : ∀ d < 10, digit d = Nat.digitChar d := by decide
  unfold decimal
  induction n using Nat.strongRecOn with
  | ind n ih =>
    rw [ofNat_eq (by omega)]
    by_cases h : n < 10
    · rw [if_pos h, Nat.toDigits_of_lt_base h, Nat.mod_eq_of_lt h, hdigit n h]
      rfl
    · rw [if_neg h, Nat.toDigits_of_base_le (by omega) (by omega),
        ih (n / 10) (by omega), hdigit (n % 10) (by omega)]

theorem decimal_ne_nil (n : Nat) : decimal n ≠ [] := ofNat_ne_nil (by omega) n

/-- A number is read back from its decimal. -/
theorem ofDigits_decimal (n : Nat) : ofDigits (decimal n) = n := by
  have hvalue : ∀ d < 10, digitValue (digit d) = d := by decide
  exact valueOf_ofNat (by omega) hvalue n

-- ---------------------------------------------------------------------------
-- Hexadecimal numerals
-- ---------------------------------------------------------------------------

theorem isHexDigit_digit {d : Nat} (h : d < 16) : Ascii.isHexDigit (digit d) = true := by
  have hdigit : ∀ d < 16, Ascii.isHexDigit (digit d) = true := by decide
  exact hdigit d h

/-- A number is written in hexadecimal digits. -/
theorem isHexDigit_of_mem_ofNat {n : Nat} {c : Char} (hc : c ∈ ofNat 16 n) :
    Ascii.isHexDigit c = true := by
  obtain ⟨d, hd, rfl⟩ := mem_ofNat (by omega) hc
  exact isHexDigit_digit hd

/-- A number is read back from its hexadecimal digits. -/
theorem valueOf_hex (n : Nat) :
    valueOf 16 ((ofNat 16 n).map fun c => (Ascii.hexValue? c).getD 0) = n := by
  have hvalue : ∀ d < 16, (Ascii.hexValue? (digit d)).getD 0 = d := by decide
  exact valueOf_ofNat (by omega) hvalue n

end RepoIdentity.Numeral

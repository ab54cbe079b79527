import RepoIdentity.Text.Basic

/-!
# ASCII classes and numerals

The character classes of the URL and TOML grammars, all of them subsets of ASCII
whatever their names mean elsewhere: a digit is one of ten characters. Natural
numbers are written to a base of at most sixteen, without leading zeros, and read
back from their digits.
-/

/-! ## Character classes -/

namespace RepoIdentity.Ascii

/-- Whether a character is ASCII. -/
def isAscii (c : Char) : Bool := c.toNat < 0x80

/-- The C0 controls and DEL. -/
def isControl (c : Char) : Bool := c.toNat < 0x20 || c.toNat == 0x7F

/-- The C0 controls and the space, which a URL may carry at its ends. -/
def isControlOrSpace (c : Char) : Bool := c.toNat ≤ 0x20

/-- Tab, line feed and carriage return, which a URL may carry anywhere. -/
def isTabOrNewline (c : Char) : Bool := c == '\t' || c == '\n' || c == '\r'

/-- A letter or a digit. -/
def isAlphanum (c : Char) : Bool := c.isAlpha || c.isDigit

/-- The value of a hexadecimal digit of either case. -/
def hexValue? (c : Char) : Option Nat :=
  if c.isDigit then some (c.toNat - 0x30)
  else if 'a' ≤ c ∧ c ≤ 'f' then some (c.toNat - 0x61 + 10)
  else if 'A' ≤ c ∧ c ≤ 'F' then some (c.toNat - 0x41 + 10)
  else none

/-- Whether a character is a hexadecimal digit. -/
def isHexDigit (c : Char) : Bool := (hexValue? c).isSome

/-- The text with its ASCII capitals made small. -/
def lower (s : Text) : Text := s.map Char.toLower

theorem hexValue?_lt {c : Char} {v : Nat} (h : hexValue? c = some v) : v < 16 := by
  unfold hexValue? at h
  have hc (a : Char) : c ≤ a ↔ c.toNat ≤ a.toNat := Iff.rfl
  split at h
  · next hd =>
    simp only [Char.isDigit, ge_iff_le, Bool.and_eq_true, decide_eq_true_eq] at hd
    have hle : c.toNat ≤ 57 := hd.2
    simp only [Option.some.injEq] at h
    omega
  · split at h
    · next hd =>
      have hle : c.toNat ≤ 102 := hd.2
      simp only [Option.some.injEq] at h
      omega
    · split at h
      · next hd =>
        have hle : c.toNat ≤ 70 := hd.2
        simp only [Option.some.injEq] at h
        omega
      · simp at h

end RepoIdentity.Ascii

/-! ## Numerals -/

namespace RepoIdentity.Numeral

/-- The digit of value `d`; small letters stand for ten to fifteen. -/
def digit (d : Nat) : Char :=
  if d < 10 then Char.ofNat (0x30 + d) else Char.ofNat (0x61 + d - 10)

/-- The numeral of `n` to the base `b`. -/
def ofNat (b n : Nat) : Text :=
  if _h : n < b ∨ b < 2 then [digit n]
  else ofNat b (n / b) ++ [digit (n % b)]
termination_by n
decreasing_by
  have _hb : 2 ≤ b ∧ b ≤ n := by omega
  exact Nat.div_lt_self (by omega) (by omega)

/-- The decimal numeral of `n`. -/
def decimal (n : Nat) : Text := ofNat 10 n

/-- The number that a list of digit values denotes to the base `b`. -/
def valueOf (b : Nat) (digits : List Nat) : Nat := digits.foldl (fun n d => n * b + d) 0

/-- The value of a decimal digit. -/
def digitValue (c : Char) : Nat := c.toNat - 0x30

/-- The number that decimal digits denote. -/
def ofDigits (s : Text) : Nat := valueOf 10 (s.map digitValue)

end RepoIdentity.Numeral

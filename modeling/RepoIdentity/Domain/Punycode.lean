import RepoIdentity.Text.Basic

/-!
# Punycode

A label with characters beyond ASCII is written in ASCII: its ASCII characters
in order, a hyphen, and then, for the other characters in ascending order, how
far to count until each is inserted, as numbers of variable length to the base
36 (RFC 3492).

* `encode` writes the extended form, without the `xn--` that marks it;
* `decode` reads it back, refusing what counts past the last character.
-/

namespace RepoIdentity.Domain.Punycode

-- ---------------------------------------------------------------------------
-- Digits and thresholds
-- ---------------------------------------------------------------------------

/-- The digit of value `d`: letters for 0 to 25, then figures. -/
def digit (d : Nat) : Char :=
  if d < 26 then Char.ofNat (0x61 + d) else Char.ofNat (0x30 + d - 26)

/-- The value of a digit; capital letters count as small ones. -/
def digitValue? (c : Char) : Option Nat :=
  let n := c.toNat
  if 0x61 ≤ n ∧ n ≤ 0x7A then some (n - 0x61)
  else if 0x41 ≤ n ∧ n ≤ 0x5A then some (n - 0x41)
  else if 0x30 ≤ n ∧ n ≤ 0x39 then some (n - 0x30 + 26)
  else none

/-- A digit below the threshold of its position ends the number. -/
def threshold (position bias : Nat) : Nat :=
  if position ≤ bias then 1 else if bias + 26 ≤ position then 26 else position - bias

theorem threshold_pos (position bias : Nat) : 1 ≤ threshold position bias := by
  unfold threshold
  split
  · omega
  · split <;> omega

theorem threshold_le (position bias : Nat) : threshold position bias ≤ 26 := by
  unfold threshold
  split
  · omega
  · split <;> omega

/-- Divides by 35 until 455 is not exceeded, counting 36 for each division. -/
def shrink (delta count : Nat) : Nat × Nat :=
  if _h : 455 < delta then shrink (delta / 35) (count + 36) else (delta, count)
termination_by delta
decreasing_by exact Nat.div_lt_self (by omega) (by omega)

/-- The bias for the number after one of size `delta`, when `length` characters
are in place. -/
def adapt (delta length : Nat) (first : Bool) : Nat :=
  let scaled := if first then delta / 700 else delta / 2
  let (delta, count) := shrink (scaled + scaled / length) 0
  count + 36 * delta / (delta + 38)

-- ---------------------------------------------------------------------------
-- Writing
-- ---------------------------------------------------------------------------

/-- A number as digits, lowest first. -/
def numberDigits (bias position n : Nat) : Text :=
  let t := threshold position bias
  if n < t then [digit n]
  else digit (t + (n - t) % (36 - t)) :: numberDigits bias (position + 36) ((n - t) / (36 - t))
termination_by n
decreasing_by
  have h₁ := threshold_pos position bias
  have h₂ := threshold_le position bias
  calc (n - threshold position bias) / (36 - threshold position bias)
      ≤ n - threshold position bias := Nat.div_le_self _ _
    _ < n := by omega

/-- What writing has produced so far. -/
structure Writer where
  output : Text
  /-- How far to count until the next insertion. -/
  delta : Nat
  bias : Nat
  /-- How many characters are in place. -/
  length : Nat

/-- Passes one character of the label while those numbered `n` are inserted. -/
def Writer.pass (basic n : Nat) (w : Writer) (c : Char) : Writer :=
  if c.toNat < n then { w with delta := w.delta + 1 }
  else if c.toNat = n then
    { output := w.output ++ numberDigits w.bias 36 w.delta
      delta := 0
      bias := adapt w.delta (w.length + 1) (w.length == basic)
      length := w.length + 1 }
  else w

/-- Inserts the characters of each number, given in ascending order. -/
def Writer.insertAll (label : Text) (basic : Nat) : List Nat → Nat → Writer → Writer
  | [], _, w => w
  | n :: ns, next, w =>
    let w := { w with delta := w.delta + (n - next) * (w.length + 1) }
    let w := label.foldl (Writer.pass basic n) w
    insertAll label basic ns (n + 1) { w with delta := w.delta + 1 }

/-- The numbers of the characters beyond ASCII, ascending and each once. -/
def extendedNumbers (label : Text) : List Nat :=
  (((label.map Char.toNat).filter (0x80 ≤ ·)).mergeSort (· ≤ ·)).eraseDups

/-- The extended form of a label. -/
def encode (label : Text) : Text :=
  let basic := label.filter fun c => c.toNat < 0x80
  let lead := if basic.isEmpty then [] else basic ++ ['-']
  lead ++ (Writer.insertAll label basic.length (extendedNumbers label) 0x80
    ⟨[], 0, 72, basic.length⟩).output

-- ---------------------------------------------------------------------------
-- Reading
-- ---------------------------------------------------------------------------

/-- Numbers and weights are kept below this bound. -/
def bound : Nat := 0x100000000

/-- Reads one number, adding it to `n`; gives the sum and the rest. -/
def readNumber (bias : Nat) : (position weight n : Nat) → Text → Option (Nat × Text)
  | _, _, _, [] => none
  | position, weight, n, c :: rest =>
    match digitValue? c with
    | none => none
    | some d =>
      let sum := n + d * weight
      let t := threshold position bias
      if bound ≤ sum then none
      else if d < t then some (sum, rest)
      else if bound ≤ weight * (36 - t) then none
      else readNumber bias (position + 36) (weight * (36 - t)) sum rest

theorem readNumber_length {bias position weight n sum : Nat} {s rest : Text}
    (h : readNumber bias position weight n s = some (sum, rest)) : rest.length < s.length := by
  induction s generalizing position weight n with
  | nil => simp [readNumber] at h
  | cons c s ih =>
    unfold readNumber at h
    split at h
    · simp at h
    · dsimp only at h
      split at h
      · simp at h
      · split at h
        · simp only [Option.some.injEq, Prod.mk.injEq] at h
          obtain ⟨-, rfl⟩ := h
          simp
        · split at h
          · simp at h
          · have := ih h
            simp only [List.length_cons]
            omega

/-- The character of a number, unless it is a surrogate or past the last one. -/
def charOf? (n : Nat) : Option Char := if n.isValidChar then some (Char.ofNat n) else none

/-- Inserts the characters that the digits in `s` tell of: the next is numbered
at least `n`, and counting stands at `i`. -/
def insertRead (label : Text) (n i bias : Nat) (s : Text) : Option Text :=
  match s with
  | [] => some label
  | c :: s =>
    match _h : readNumber bias 36 1 i (c :: s) with
    | none => none
    | some (sum, rest) =>
      let length := label.length + 1
      let n := n + sum / length
      match charOf? n with
      | none => none
      | some inserted =>
        insertRead (label.insertIdx (sum % length) inserted) n (sum % length + 1)
          (adapt (sum - i) length (i == 0)) rest
termination_by s.length
decreasing_by exact readNumber_length ‹_›

/-- The label whose extended form is `s`. -/
def decode (s : Text) : Option Text :=
  match Text.cutAt '-' s.reverse with
  | some (digits, basic) =>
    if basic.isEmpty then insertRead [] 0x80 0 72 s
    else insertRead basic.reverse 0x80 0 72 digits.reverse
  | none => insertRead [] 0x80 0 72 s

end RepoIdentity.Domain.Punycode

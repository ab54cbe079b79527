import RepoIdentity.Toml.Lexeme

/-!
# Numbers, dates and truth values of TOML

Readers of the values that hold no other values (`scalar?`). A number has no
leading zeros, and an underscore only between two digits. An integer has 64 bits
with a sign; a float is the nearest one to its decimal and must not overflow
upwards. Dates and times are checked and not kept.
-/

namespace RepoIdentity.Toml

-- ---------------------------------------------------------------------------
-- Digits
-- ---------------------------------------------------------------------------

/-- The digits of class `p` at the beginning, each of which an underscore may
precede, and the rest. -/
def moreDigits (p : Char → Bool) : Text → Text × Text
  | [] => ([], [])
  | '_' :: c :: rest =>
    if p c then
      let (digits, rest) := moreDigits p rest
      (c :: digits, rest)
    else ([], '_' :: c :: rest)
  | c :: rest =>
    if p c then
      let (digits, rest) := moreDigits p rest
      (c :: digits, rest)
    else ([], c :: rest)

/-- Digits of class `p`, at least one, without the underscores between them. -/
def digits? (p : Char → Bool) : Text → Read Text
  | [] => none
  | c :: rest =>
    if p c then
      let (digits, rest) := moreDigits p rest
      some (c :: digits, rest)
    else none

/-- Decimal digits without a leading zero. -/
def wholeDigits? : Text → Read Text
  | '0' :: rest => some (['0'], rest)
  | s => digits? Char.isDigit s

/-- Whether there is a minus sign, and the text after the sign. -/
def sign : Text → Bool × Text
  | '-' :: rest => (true, rest)
  | '+' :: rest => (false, rest)
  | s => (false, s)

-- ---------------------------------------------------------------------------
-- Integers
-- ---------------------------------------------------------------------------

/-- Whether a number is one of 64 bits with a sign. -/
def fitsInteger (n : Int) : Bool := -0x8000000000000000 ≤ n && n < 0x8000000000000000

/-- An integer to the base `b`, after the letters that name the base. -/
def basedInteger? (b : Nat) (s : Text) : Read Int :=
  (digits? (fun c => (Ascii.hexValue? c).any (· < b)) s).bind fun (digits, rest) =>
    let n : Int := Numeral.valueOf b (digits.map fun c => (Ascii.hexValue? c).getD 0)
    if fitsInteger n then some (n, rest) else none

def decimalInteger? (s : Text) : Read Int :=
  let (negative, s) := sign s
  (wholeDigits? s).bind fun (digits, rest) =>
    let size : Int := Numeral.ofDigits digits
    let n := if negative then -size else size
    if fitsInteger n then some (n, rest) else none

def integer? : Text → Read Int
  | '0' :: 'x' :: rest => basedInteger? 16 rest
  | '0' :: 'o' :: rest => basedInteger? 8 rest
  | '0' :: 'b' :: rest => basedInteger? 2 rest
  | s => decimalInteger? s

-- ---------------------------------------------------------------------------
-- Floats
-- ---------------------------------------------------------------------------

/-- The digits after a point, if there is one. -/
def fraction? : Text → Read Text
  | '.' :: rest => digits? Char.isDigit rest
  | _ => none

/-- The exponent, if there is one. -/
def exponent? : Text → Read Int
  | c :: rest =>
    if c = 'e' ∨ c = 'E' then
      let (negative, rest) := sign rest
      (digits? Char.isDigit rest).map fun (digits, rest) =>
        let size : Int := Numeral.ofDigits digits
        (if negative then -size else size, rest)
    else none
  | [] => none

/-- A float with a point, an exponent or both. -/
def decimalFloat? (s : Text) : Read Binary64 :=
  let (negative, s) := sign s
  (wholeDigits? s).bind fun (whole, rest) =>
    let read : Read (Text × Int) :=
      match fraction? rest with
      | some (after, rest) =>
        match exponent? rest with
        | some (e, rest) => some ((after, e), rest)
        | none => some ((after, 0), rest)
      | none => (exponent? rest).map fun (e, rest) => (([], e), rest)
    read.bind fun ((after, e), rest) =>
      match Binary64.nearest negative (Numeral.ofDigits (whole ++ after)) (e - after.length) with
      | .infinite false => none
      | x => some (x, rest)

/-- An infinity, or the absence of a number. -/
def specialFloat? (s : Text) : Read Binary64 :=
  let (negative, s) := sign s
  match s with
  | 'i' :: 'n' :: 'f' :: rest => some (.infinite negative, rest)
  | 'n' :: 'a' :: 'n' :: rest => some (.notANumber, rest)
  | _ => none

-- ---------------------------------------------------------------------------
-- Dates and times
-- ---------------------------------------------------------------------------

/-- A number of exactly `width` digits between two bounds. -/
def bounded? (width low high : Nat) (s : Text) : Read Nat :=
  let digits := s.take width
  let n := Numeral.ofDigits digits
  if digits.length = width ∧ digits.all Char.isDigit ∧ low ≤ n ∧ n ≤ high then
    some (n, s.drop width)
  else none

/-- The text after a character, if it begins with it. -/
def after? (c : Char) : Text → Option Text
  | d :: rest => if d = c then some rest else none
  | [] => none

/-- The number of days of a month. -/
def daysIn (year month : Nat) : Nat :=
  if month = 2 then
    if year % 4 = 0 ∧ (year % 100 ≠ 0 ∨ year % 400 = 0) then 29 else 28
  else if month ∈ [4, 6, 9, 11] then 30
  else 31

def date? (s : Text) : Option Text := do
  let (year, s) ← bounded? 4 0 9999 s
  let s ← after? '-' s
  let (month, s) ← bounded? 2 1 12 s
  let s ← after? '-' s
  let (_, s) ← bounded? 2 1 (daysIn year month) s
  return s

/-- The text after a fraction of a second, if it begins with one. -/
def secondFraction (s : Text) : Text :=
  match s with
  | '.' :: c :: rest => if c.isDigit then rest.dropWhile Char.isDigit else s
  | _ => s

/-- The text after a time of day; a second may be a leap second. -/
def time? (s : Text) : Option Text := do
  let (_, s) ← bounded? 2 0 23 s
  let s ← after? ':' s
  let (_, s) ← bounded? 2 0 59 s
  let s ← after? ':' s
  let (_, s) ← bounded? 2 0 60 s
  return secondFraction s

/-- The text after a distance from universal time. -/
def offset? : Text → Option Text
  | c :: s =>
    if c = 'Z' ∨ c = 'z' then some s
    else if c = '+' ∨ c = '-' then do
      let (_, s) ← bounded? 2 0 23 s
      let s ← after? ':' s
      let (_, s) ← bounded? 2 0 59 s
      return s
    else none
  | [] => none

/-- The text after the time that may follow a date. -/
def timeOfDate? : Text → Option Text
  | c :: s =>
    if c = 'T' ∨ c = 't' ∨ c = ' ' then (time? s).map fun s => (offset? s).getD s
    else none
  | [] => none

/-- The text after a date, a time, or both. -/
def dateTime? (s : Text) : Option Text :=
  match date? s with
  | some s => some ((timeOfDate? s).getD s)
  | none => time? s

-- ---------------------------------------------------------------------------
-- All of them
-- ---------------------------------------------------------------------------

def boolean? (s : Text) : Read Bool :=
  match Text.dropPrefix? "true".toList s with
  | some rest => some (true, rest)
  | none => (Text.dropPrefix? "false".toList s).map (false, ·)

/-- A value that holds no other values. -/
def scalar? (s : Text) : Read Value :=
  (string? s).map (fun (t, rest) => (.string t, rest))
    <|> (boolean? s).map (fun (b, rest) => (.boolean b, rest))
    <|> (dateTime? s).map (.dateTime, ·)
    <|> (decimalFloat? s).map (fun (x, rest) => (.float x, rest))
    <|> (specialFloat? s).map (fun (x, rest) => (.float x, rest))
    <|> (integer? s).map (fun (n, rest) => (.integer n, rest))

end RepoIdentity.Toml

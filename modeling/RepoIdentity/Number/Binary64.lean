import RepoIdentity.Text.Ascii

/-!
# Binary numbers of 64 bits

The numbers of the double-precision format, as exact integers times powers of
two, and the two conversions between them and decimals: the nearest number to a
decimal, and the shortest decimal that only this number is nearest to.

* `Binary64.nearest` rounds a decimal, a tie going to the even significand;
* `Binary64.shortest` finds the fewest digits that read back;
* `Binary64.text` writes them positionally, with a point in every finite number.
-/

namespace RepoIdentity

/-- A number of the double-precision format. -/
inductive Binary64 where
  /-- `significand * 2 ^ exponent`, with at most 53 bits and an exponent of at
  least -1074; 53 bits unless the exponent is the least. -/
  | finite (negative : Bool) (significand : Nat) (exponent : Int)
  | infinite (negative : Bool)
  | notANumber
deriving DecidableEq, Repr

namespace Binary64

-- ---------------------------------------------------------------------------
-- Scales
-- ---------------------------------------------------------------------------

/-- The power of two with a positive exponent; one for any other. -/
def two (exponent : Int) : Nat := Nat.pow 2 exponent.toNat

/-- The power of ten with a positive exponent; one for any other. -/
def ten (exponent : Int) : Nat := Nat.pow 10 exponent.toNat

-- ---------------------------------------------------------------------------
-- From decimals
-- ---------------------------------------------------------------------------

/-- The quotient rounded to the nearest integer, a tie going to the even one. -/
def roundDiv (n d : Nat) : Nat :=
  let q := n / d
  let r := n % d
  if d < 2 * r ∨ (2 * r = d ∧ q % 2 = 1) then q + 1 else q

/-- The power of two that the quotient of two positive numbers reaches. -/
def log2Div (n d : Nat) : Int :=
  let k : Int := n.log2 - d.log2
  if n * two (-k) < d * two k then k - 1 else k

/-- The number nearest to a positive quotient. -/
def nearestDiv (negative : Bool) (n d : Nat) : Binary64 :=
  let exponent := max (-1074) (log2Div n d - 52)
  let significand := roundDiv (n * two (-exponent)) (d * two exponent)
  let (significand, exponent) :=
    if significand = two 53 then (two 52, exponent + 1) else (significand, exponent)
  if 971 < exponent then .infinite negative else .finite negative significand exponent

/-- The number nearest to `digits * 10 ^ exponent`. Decimals far beyond either
end of the format are not computed. -/
def nearest (negative : Bool) (digits : Nat) (exponent : Int) : Binary64 :=
  if digits = 0 then .finite negative 0 (-1074)
  else
    let size : Int := (Numeral.decimal digits).length + exponent
    if 400 < size then .infinite negative
    else if size < -400 then .finite negative 0 (-1074)
    else nearestDiv negative (digits * ten exponent) (ten (-exponent))

-- ---------------------------------------------------------------------------
-- To decimals
-- ---------------------------------------------------------------------------

/-- The number of digits before the point, negative for zeros after it, of a
positive quotient not below `10 ^ -400`. -/
def pointPlace (n d : Nat) : Int := (Numeral.decimal (n * ten 400 / d)).length - 400

/-- Whether a decimal on the grid `10 ^ place` reads back as the number. Its
bounds lie halfway to its neighbours and belong to it if its significand is
even; a power of two has its lower neighbour at half the distance. -/
def readsBack (significand : Nat) (exponent : Int) (count : Nat) (place : Int) : Bool :=
  let quarter : Int := exponent - 2
  let value := count * ten place * two (-quarter)
  let unit := ten (-place) * two quarter
  let lower := 4 * significand - (if significand = two 52 ∧ -1074 < exponent then 1 else 2)
  let upper := 4 * significand + 2
  if significand % 2 = 0 then lower * unit ≤ value && value ≤ upper * unit
  else lower * unit < value && value < upper * unit

/-- The neighbour of the quotient on the grid `10 ^ place` that reads back, if
one does; of two the nearer, and the upper of two equally near. -/
def onGrid? (significand : Nat) (exponent : Int) (n d : Nat) (place : Int) : Option Nat :=
  let top := n * ten (-place)
  let bottom := d * ten place
  let below := top / bottom
  let nearer := if bottom ≤ 2 * (top % bottom) then [below + 1, below] else [below, below + 1]
  nearer.find? fun count => readsBack significand exponent count place

/-- The digits, as a number, and their place on the grid, for the fewest digits
that read back. -/
def shortest (significand : Nat) (exponent : Int) : Nat × Int :=
  let n := significand * two exponent
  let d := two (-exponent)
  let point := pointPlace n d
  ((List.range 17).findSome? fun i =>
    let place := point - (i + 1 : Nat)
    (onGrid? significand exponent n d place).map (·, place)).getD (n, 0)

/-- `count * 10 ^ place` without an exponent, and with a point. -/
def positional (count : Nat) (place : Int) : Text :=
  let digits := Numeral.decimal count
  if 0 ≤ place then digits ++ List.replicate place.toNat '0' ++ ['.', '0']
  else
    let after := (-place).toNat
    let padded := List.replicate (after + 1 - digits.length) '0' ++ digits
    let whole := padded.take (padded.length - after)
    let fraction := ((padded.drop (padded.length - after)).reverse.dropWhile (· == '0')).reverse
    whole ++ '.' :: (if fraction.isEmpty then ['0'] else fraction)

/-- The text of a number. -/
def text : Binary64 → Text
  | .notANumber => "NaN".toList
  | .infinite negative => (if negative then ['-'] else []) ++ "inf".toList
  | .finite negative significand exponent =>
    (if negative then ['-'] else [])
      ++ (if significand = 0 then "0.0".toList
          else
            let (count, place) := shortest significand exponent
            positional count place)

end Binary64

end RepoIdentity

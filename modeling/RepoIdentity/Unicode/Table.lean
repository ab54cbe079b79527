import RepoIdentity.Text.Ascii

/-!
# Tables of code points

Properties of characters are kept as rows of text (`Unicode/Rows`), each for a
code point, a range, or every second code point of a range. A `Table` holds the
rows in ascending order, and a look-up halves it until one row is left.

* `Table.ofRows` reads the rows;
* `Table.row?` finds the row that covers a character;
* `Row.imageOf` tells what that row takes the character to.
-/

namespace RepoIdentity.Unicode

/-- What is stated of the code points `first`, `first + step`, … up to `last`. -/
structure Row where
  first : Nat
  last : Nat
  step : Nat
  /-- What `first` is taken to; empty where only membership is stated. -/
  image : List Nat

/-- Rows in ascending order, no two of which cover one code point. -/
abbrev Table := Array Row

-- ---------------------------------------------------------------------------
-- Reading rows
-- ---------------------------------------------------------------------------

/-- The words of a text, which blanks and line ends divide. -/
def words (s : Text) : List Text :=
  let (word, rest) := s.foldr (fun c (word, rest) =>
    if c = ' ' ∨ c = '\n' then ([], if word.isEmpty then rest else word :: rest)
    else (c :: word, rest)) (([], []) : Text × List Text)
  if word.isEmpty then rest else word :: rest

def hexNumber (s : Text) : Nat :=
  s.foldl (fun n c => n * 16 + (Ascii.hexValue? c).getD 0) 0

def Row.ofWord (w : Text) : Row :=
  let (codes, image) := match Text.cutAt '>' w with
    | some (codes, image) => (codes, (Text.splitOn '.' image).map hexNumber)
    | none => (w, [])
  match Text.cutAt '-' codes, Text.cutAt '=' codes with
  | some (a, b), _ => ⟨hexNumber a, hexNumber b, 1, image⟩
  | none, some (a, b) => ⟨hexNumber a, hexNumber b, 2, image⟩
  | none, none => ⟨hexNumber codes, hexNumber codes, 1, image⟩

def Table.ofRows (rows : String) : Table := ((words rows.toList).map Row.ofWord).toArray

-- ---------------------------------------------------------------------------
-- Look-up
-- ---------------------------------------------------------------------------

def Row.covers (r : Row) (n : Nat) : Bool :=
  r.first ≤ n && n ≤ r.last && (n - r.first) % r.step == 0

/-- The last row between `lo` and `hi` that starts at or before the code point. -/
def Table.lastUpTo (t : Table) (n lo hi : Nat) : Option Row :=
  if _h : lo < hi then
    match t[(lo + hi) / 2]? with
    | none => none
    | some r =>
      if r.first ≤ n then (t.lastUpTo n ((lo + hi) / 2 + 1) hi).or (some r)
      else t.lastUpTo n lo ((lo + hi) / 2)
  else none
termination_by hi - lo
decreasing_by all_goals omega

def Table.row? (t : Table) (c : Char) : Option Row :=
  (t.lastUpTo c.toNat 0 t.size).filter (·.covers c.toNat)

def Table.has (t : Table) (c : Char) : Bool := (t.row? c).isSome

/-- What a row takes the character to: an image of one code point moves along
with the range, a longer one belongs to the first code point. -/
def Row.imageOf (r : Row) (c : Char) : Text :=
  match r.image with
  | [n] => [Char.ofNat (n + (c.toNat - r.first))]
  | ns => ns.map Char.ofNat

end RepoIdentity.Unicode

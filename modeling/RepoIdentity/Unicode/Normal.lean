import RepoIdentity.Unicode.Table
import RepoIdentity.Unicode.Rows.Decomposition
import RepoIdentity.Unicode.Rows.Property
import Std.Data.HashMap

/-!
# Normalization Form C

Canonically equivalent texts have one composed spelling. It is reached in three
steps: every character is taken apart (`decompose`), runs of marks are put in
the order of their combining classes (`reorder`), and what can be put together
again is (`compose`). Hangul syllables follow from arithmetic and need no rows.

* `combiningClass` orders the marks after a base character;
* `normalize` is the composed spelling of a text; below U+0300 it is the text
  itself, since no such character is a mark or decomposes differently.
-/

namespace RepoIdentity.Unicode

/-- The rows of combining classes. -/
def combiningClassTable : Table := Table.ofRows Rows.combiningClass

/-- The canonical combining class; zero for a character that starts anew. -/
def combiningClass (c : Char) : Nat :=
  if c.toNat < 0x300 then 0
  else
    match combiningClassTable.row? c with
    | some { image := [n], .. } => n
    | _ => 0

/-- Whether the mark joins the consonant before it (a virama). -/
def isVirama (c : Char) : Bool := combiningClass c == 9

-- ---------------------------------------------------------------------------
-- Hangul syllables
-- ---------------------------------------------------------------------------

/-- The parts of a Hangul syllable. -/
def hangulParts? (c : Char) : Option Text :=
  let n := c.toNat
  if 0xAC00 ≤ n ∧ n < 0xAC00 + 11172 then
    let i := n - 0xAC00
    let leading := Char.ofNat (0x1100 + i / 588)
    let vowel := Char.ofNat (0x1161 + i % 588 / 28)
    if i % 28 = 0 then some [leading, vowel]
    else some [leading, vowel, Char.ofNat (0x11A7 + i % 28)]
  else none

/-- The Hangul syllable of a leading consonant and a vowel, or of a syllable
without a final consonant and one. -/
def hangulPair? (a b : Char) : Option Char :=
  let m := a.toNat
  let n := b.toNat
  if 0x1100 ≤ m ∧ m < 0x1113 ∧ 0x1161 ≤ n ∧ n < 0x1176 then
    some (Char.ofNat (0xAC00 + ((m - 0x1100) * 21 + (n - 0x1161)) * 28))
  else if 0xAC00 ≤ m ∧ m < 0xAC00 + 11172 ∧ (m - 0xAC00) % 28 = 0 ∧ 0x11A8 ≤ n ∧ n < 0x11C3 then
    some (Char.ofNat (m + (n - 0x11A7)))
  else none

-- ---------------------------------------------------------------------------
-- Taking apart and putting together
-- ---------------------------------------------------------------------------

/-- The rows of composed characters. -/
def compositeTable : Table := Table.ofRows Rows.composites

/-- The rows of characters that are taken apart for good. -/
def oneWayTable : Table := Table.ofRows Rows.oneWay

/-- The composed characters by their two parts. -/
def compositeOf : Std.HashMap (Nat × Nat) Char :=
  compositeTable.foldl (fun found r =>
    match r.image with
    | [a, b] => found.insert (a, b) (Char.ofNat r.first)
    | _ => found) ∅

/-- The parts of a character that is taken apart for good. -/
def oneWayParts? (c : Char) : Option Text :=
  (oneWayTable.row? c).map fun r => r.image.map Char.ofNat

/-- The two parts of a composed character. -/
def pairOf? (c : Char) : Option (Char × Char) :=
  (compositeTable.row? c).bind fun r =>
    match r.image with
    | [a, b] => some (Char.ofNat a, Char.ofNat b)
    | _ => none

/-- The parts of a character by two functions that take one apart, for good or into
two, at most `depth` times: the first of the two may be composed itself. -/
def partsBy (oneWay? : Char → Option Text) (pair? : Char → Option (Char × Char)) :
    (depth : Nat) → Char → Text
  | 0, c => [c]
  | depth + 1, c =>
    match hangulParts? c with
    | some parts => parts
    | none =>
      match oneWay? c with
      | some parts => parts
      | none =>
        match pair? c with
        | some (a, b) => partsBy oneWay? pair? depth a ++ [b]
        | none => [c]

/-- The parts of a character, by the rows. -/
def partsOf (depth : Nat) (c : Char) : Text := partsBy oneWayParts? pairOf? depth c

/-- The character that two others compose. -/
def composePair? (a b : Char) : Option Char :=
  (hangulPair? a b).or compositeOf[(a.toNat, b.toNat)]?

/-- Every character taken apart; none is composed more than four levels deep. -/
def decompose (s : Text) : Text := s.flatMap (partsOf 4)

/-- Puts a mark before the marks of a higher class that follow it. -/
def insertMark (c : Char) : Text → Text
  | [] => [c]
  | d :: rest =>
    if 0 < combiningClass d ∧ combiningClass d < combiningClass c then d :: insertMark c rest
    else c :: d :: rest

/-- Every run of marks in ascending order of class, equal classes as they were. -/
def reorder (s : Text) : Text :=
  s.foldr (fun c rest => if combiningClass c = 0 then c :: rest else insertMark c rest) []

/-- Composes the starter with what follows it. `kept` holds, last first, the
marks since the starter that did not compose with it; the last of them blocks
a character whose class is not higher than its own. -/
def composeFrom (starter : Char) (kept : Text) : Text → Text
  | [] => starter :: kept.reverse
  | d :: rest =>
    let blocked := match kept with
      | [] => false
      | k :: _ => combiningClass d ≤ combiningClass k
    match if blocked then none else composePair? starter d with
    | some composed => composeFrom composed kept rest
    | none =>
      if combiningClass d = 0 then starter :: kept.reverse ++ composeFrom d [] rest
      else composeFrom starter (d :: kept) rest

/-- Everything put together that can be. -/
def compose : Text → Text
  | [] => []
  | c :: rest => if combiningClass c = 0 then composeFrom c [] rest else c :: compose rest

/-- The composed spelling of a text. -/
def normalize (s : Text) : Text :=
  if s.all fun c => c.toNat < 0x300 then s else compose (reorder (decompose s))

theorem normalize_of_lt {s : Text} (h : ∀ c ∈ s, c.toNat < 0x300) : normalize s = s := by
  unfold normalize
  rw [if_pos]
  simpa [List.all_eq_true] using h

end RepoIdentity.Unicode

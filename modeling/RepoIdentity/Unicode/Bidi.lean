import RepoIdentity.Unicode.Table
import RepoIdentity.Unicode.Rows.Property

/-!
# Right-to-left labels

A domain name that holds a character written from right to left is displayed
unambiguously only if each of its labels keeps to one direction. The rule is
stated on bidirectional classes.

* `bidiClass` is the class of a character;
* `Label` direction: `keepsDirection` decides whether one label follows the
  rule for its direction;
* `bidiFits` asks that of all labels once one of them runs from right to left.
-/

namespace RepoIdentity.Unicode

/-- The bidirectional classes that characters of domain names have. -/
inductive BidiClass where
  | L | R | AL | AN | EN | ES | CS | ET | ON | BN | NSM
deriving DecidableEq, Repr

/-- The rows of each class but `L`, which is the class of all others. -/
def bidiTables : List (Table × BidiClass) :=
  [(Table.ofRows Rows.bidiNSM, .NSM), (Table.ofRows Rows.bidiR, .R),
   (Table.ofRows Rows.bidiAL, .AL), (Table.ofRows Rows.bidiAN, .AN),
   (Table.ofRows Rows.bidiEN, .EN), (Table.ofRows Rows.bidiON, .ON),
   (Table.ofRows Rows.bidiET, .ET), (Table.ofRows Rows.bidiES, .ES),
   (Table.ofRows Rows.bidiCS, .CS), (Table.ofRows Rows.bidiBN, .BN)]

/-- The bidirectional class of a character of a domain name. -/
def bidiClass (c : Char) : BidiClass :=
  if Ascii.isAscii c then
    if c.isAlpha then .L
    else if c.isDigit then .EN
    else if c = '+' ∨ c = '-' then .ES
    else if c = ',' ∨ c = '.' ∨ c = '/' ∨ c = ':' then .CS
    else if c = '#' ∨ c = '$' ∨ c = '%' then .ET
    else .ON
  else ((bidiTables.find? fun (t, _) => t.has c).map (·.2)).getD .L

/-- Classes that make a whole domain name subject to the rule. -/
def BidiClass.isRightToLeft : BidiClass → Bool
  | .R | .AL | .AN => true
  | _ => false

/-- Classes allowed anywhere in a label of the direction. -/
def BidiClass.isInside (rightToLeft : Bool) : BidiClass → Bool
  | .EN | .ES | .CS | .ET | .ON | .BN | .NSM => true
  | .R | .AL | .AN => rightToLeft
  | .L => !rightToLeft

/-- Classes that a label of the direction may end with. -/
def BidiClass.isFinal (rightToLeft : Bool) : BidiClass → Bool
  | .EN => true
  | .R | .AL | .AN => rightToLeft
  | .L => !rightToLeft
  | _ => false

/-- Whether a label begins with a letter, ends with a letter or number of its
direction but for trailing marks, holds nothing of the other direction, and,
from right to left, no numbers of both kinds. -/
def keepsDirection (label : Text) : Bool :=
  match label.map bidiClass with
  | [] => true
  | first :: rest =>
    let rightToLeft := first == .R || first == .AL
    (rightToLeft || first == .L)
      && (first :: rest).all (·.isInside rightToLeft)
      && (match (first :: rest).reverse.dropWhile (· == .NSM) with
          | last :: _ => last.isFinal rightToLeft
          | [] => true)
      && !(rightToLeft && rest.contains .EN && rest.contains .AN)

/-- Whether the labels of a domain name may stand together. -/
def bidiFits (labels : List Text) : Bool :=
  !(labels.any fun l => l.any fun c => (bidiClass c).isRightToLeft) || labels.all keepsDirection

end RepoIdentity.Unicode

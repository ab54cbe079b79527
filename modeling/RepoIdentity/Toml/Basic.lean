import RepoIdentity.Number.Binary64

/-!
# TOML documents

The values of a TOML document and the places where they are written. A place is
told by the text that is left: the number of characters from its beginning, and
from its end, to the end of the document.

* `Toml.Span` is a place, `Toml.Key` a name with its place;
* `Toml.Value` is a value; a table lists its entries in the order in which they
  came to be, each with the place of its value if it has one;
* `Definition` records how a table was defined, which decides what may still be
  added to it.
-/

namespace RepoIdentity.Toml

/-- A place in a document, by the characters left at its beginning and its end. -/
structure Span where
  leftAtStart : Nat
  leftAtEnd : Nat
deriving DecidableEq, Repr

/-- The place of what was read, given what was left before and after. -/
def spanOf (before after : Text) : Span := ⟨before.length, after.length⟩

/-- The place from the beginning of one to the end of the other. -/
def Span.upTo (a b : Span) : Span := ⟨a.leftAtStart, b.leftAtEnd⟩

/-- A name and the place where it is written. -/
structure Key where
  name : Text
  span : Span
deriving DecidableEq, Repr

/-- How a table came to be. -/
inductive Definition where
  /-- By a header of its own, between braces, or as the document. -/
  | explicit
  /-- By the header of a table inside it. -/
  | implied
  /-- By a dotted key. -/
  | dotted
deriving DecidableEq, Repr

/-- A value of a document. -/
inductive Value where
  | string (s : Text)
  | integer (n : Int)
  | float (x : Binary64)
  | boolean (b : Bool)
  | dateTime
  /-- Values between brackets. -/
  | array (items : List (Span × Value))
  /-- A table between braces, closed to all that follows. -/
  | inlineTable (entries : List (Key × Option Span × Value))
  /-- A table with a header, or one that a header or a dotted key brings about. -/
  | table (definition : Definition) (entries : List (Key × Option Span × Value))
  /-- Tables that share a header in double brackets, each with its place. -/
  | tables (elements : List (Span × List (Key × Option Span × Value)))

/-- The entries of a table, each with the place of its value if it has one. -/
abbrev Entries := List (Key × Option Span × Value)

end RepoIdentity.Toml

import RepoIdentity.Text.Encoding
import RepoIdentity.Toml.Basic
import RepoIdentity.Unicode.Rows.Display
import RepoIdentity.Unicode.Table

/-!
# Messages about documents

What a message tells about a value is its shape. A text that a message quotes is
written between double quotes, with escapes for whatever would not be seen: controls,
separators, unassigned characters, and characters that only extend the one before
them. A message about a place in a document names its line and column, shows the line,
and marks the place with carets under it. Columns count characters.

* `Quoted.quote` is the quotation of a text;
* `Toml.Value.shape` is the shape of a value, `Toml.Shape.text` its wording;
* `Toml.excerpt` shows the place that a reason is about.
-/

/-! ## Quotations -/

namespace RepoIdentity.Quoted

/-- Characters that extend the one before them. -/
def extendTable : Unicode.Table := Unicode.Table.ofRows Unicode.Rows.graphemeExtend

/-- Characters that leave no mark of their own. -/
def unprintableTable : Unicode.Table := Unicode.Table.ofRows Unicode.Rows.unprintable

/-- An escape by number, in hexadecimal between braces. -/
def numberEscape (c : Char) : Text :=
  "\\u\x7b".toList ++ Numeral.ofNat 16 c.toNat ++ "\x7d".toList

/-- A character as it stands in a quotation. -/
def escapeChar (c : Char) : Text :=
  if c = '\x00' then "\\0".toList
  else if c = '\t' then "\\t".toList
  else if c = '\r' then "\\r".toList
  else if c = '\n' then "\\n".toList
  else if c = '"' then "\\\"".toList
  else if c = '\\' then "\\\\".toList
  else if extendTable.has c || unprintableTable.has c then numberEscape c
  else [c]

/-- The quotation of a text. -/
def quote (s : Text) : Text := '"' :: s.flatMap escapeChar ++ ['"']

end RepoIdentity.Quoted

/-! ## Shapes and excerpts -/

namespace RepoIdentity.Toml

/-- What a message tells about a value. -/
inductive Shape where
  | string (s : Text)
  | integer (n : Int)
  | float (x : Binary64)
  | boolean (b : Bool)
  | sequence
  | map
deriving DecidableEq, Repr

/-- The shape of a value. A date counts as a map. -/
def Value.shape : Value → Shape
  | .string s => .string s
  | .integer n => .integer n
  | .float x => .float x
  | .boolean b => .boolean b
  | .dateTime => .map
  | .array _ => .sequence
  | .tables _ => .sequence
  | .inlineTable _ => .map
  | .table _ _ => .map

/-- The place of a value that has none of its own: that of the first to the last
of tables that share a header. -/
def Value.place? : Value → Option Span
  | .tables elements =>
    match elements.head?, elements.getLast? with
    | some (first, _), some (last, _) => some (first.upTo last)
    | _, _ => none
  | _ => none

def integerText (n : Int) : Text :=
  if n < 0 then '-' :: Numeral.decimal n.natAbs else Numeral.decimal n.natAbs

def Shape.text : Shape → Text
  | .string s => "string ".toList ++ Quoted.quote s
  | .integer n => "integer `".toList ++ integerText n ++ "`".toList
  | .float x => "floating point `".toList ++ x.text ++ "`".toList
  | .boolean true => "boolean `true`".toList
  | .boolean false => "boolean `false`".toList
  | .sequence => "sequence".toList
  | .map => "map".toList

/-- The text before a place. -/
def Span.before (source : Text) (span : Span) : Text :=
  source.take (source.length - span.leftAtStart)

/-- The text at a place. -/
def Span.content (source : Text) (span : Span) : Text :=
  (source.drop (source.length - span.leftAtStart)).take (span.leftAtStart - span.leftAtEnd)

/-- The number of lines before the one where a place begins. -/
def Span.line (source : Text) (span : Span) : Nat := (span.before source).count '\n'

/-- The number of characters on its line before a place. -/
def Span.column (source : Text) (span : Span) : Nat :=
  ((span.before source).reverse.takeWhile (· != '\n')).length

/-- A reason with an excerpt that shows its place. There are as many carets as
the place has bytes, but no more than the line has after it, and at least one. -/
def excerpt (source : Text) (span : Span) (reason : Text) : Text :=
  let column := span.column source
  let shown := ((Text.splitOn '\n' source)[span.line source]?).getD []
  let number := Numeral.decimal (span.line source + 1)
  let margin := List.replicate (number.length + 1) ' ' ++ ['|']
  let width := (Utf8.encode (span.content source)).length
  let carets := max 1 (min width ((Utf8.encode shown).length - column))
  "TOML parse error at line ".toList ++ number
    ++ ", column ".toList ++ Numeral.decimal (column + 1) ++ ['\n']
    ++ margin ++ ['\n']
    ++ number ++ " | ".toList ++ shown ++ ['\n']
    ++ margin ++ List.replicate (column + 1) ' ' ++ List.replicate carets '^' ++ ['\n']
    ++ reason ++ ['\n']

end RepoIdentity.Toml

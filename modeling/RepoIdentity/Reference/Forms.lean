import RepoIdentity.Reference.Basic

/-!
# Written forms of references

A reference is written in two ways: for a reader, as one line for each field that
applies to its kind, and for a machine, as a JSON document that tells its kind, its
locator with a tag for the kind of locator, the canonical URL if it is hosted, the
display key and the tags. A document has two spaces of indentation for each level,
every item and every field on a line of its own, and escapes for quotes, backslashes
and control characters alone.

* `Json` is a value, `Json.print` its document;
* `Reference.toJson` is a reference as a value;
* `Reference.lines` are the lines for a reader, `Reference.describe` is their text.
-/

/-! ## JSON documents -/

namespace RepoIdentity

/-- A JSON value made of texts. -/
inductive Json where
  | text (s : Text)
  | array (items : List Json)
  /-- Fields in the order in which they are written. -/
  | object (fields : List (Text × Json))

namespace Json

/-- A character as it stands between quotes. -/
def escapeChar (c : Char) : Text :=
  if c = '"' then "\\\"".toList
  else if c = '\\' then "\\\\".toList
  else if c = '\n' then "\\n".toList
  else if c = '\r' then "\\r".toList
  else if c = '\t' then "\\t".toList
  else if c = '\x08' then "\\b".toList
  else if c = '\x0c' then "\\f".toList
  else if c.toNat < 0x20 then
    "\\u00".toList ++ [Numeral.digit (c.toNat / 16), Numeral.digit (c.toNat % 16)]
  else [c]

def quote (s : Text) : Text := '"' :: s.flatMap escapeChar ++ ['"']

/-- A new line with the indentation of the level. -/
def newline (level : Nat) : Text := '\n' :: List.replicate (2 * level) ' '

/-- Entries between two brackets, each on a line of its own one level deeper. -/
def enclose (opening closing : Char) (level : Nat) (entries : List Text) : Text :=
  if entries.isEmpty then [opening, closing]
  else
    opening :: newline (level + 1)
      ++ Text.join (',' :: newline (level + 1)) entries ++ newline level ++ [closing]

mutual

/-- A value printed at a level of indentation. -/
def printAt (level : Nat) : Json → Text
  | .text s => quote s
  | .array items => enclose '[' ']' level (printItems (level + 1) items)
  | .object fields => enclose '\x7b' '\x7d' level (printFields (level + 1) fields)

def printItems (level : Nat) : List Json → List Text
  | [] => []
  | item :: items => printAt level item :: printItems level items

def printFields (level : Nat) : List (Text × Json) → List Text
  | [] => []
  | (key, value) :: fields =>
    (quote key ++ ": ".toList ++ printAt level value) :: printFields level fields

end

/-- A value as a document, without a line feed at its end. -/
def print (j : Json) : Text := printAt 0 j

end Json

end RepoIdentity

/-! ## References as JSON documents -/

namespace RepoIdentity

/-- A locator as a JSON object. -/
def Locator.toJson : Locator → Json
  | .directory path =>
    .object [("type".toList, .text "local".toList), ("path".toList, .text path)]
  | .hosted r =>
    .object [("type".toList, .text "hosted".toList), ("host".toList, .text r.host),
      ("owner".toList, .text r.owner), ("name".toList, .text r.name)]

/-- A reference as a JSON object. -/
def Reference.toJson (r : Reference) : Json :=
  .object (
    [("kind".toList, .text r.kind.tag), ("locator".toList, r.locator.toJson)]
      ++ (match r.canonicalUrl? with
          | some url => [("url".toList, .text url)]
          | none => [])
      ++ [("key".toList, .text r.displayKey),
          ("metadata".toList, .array (r.metadata.map .text))])

end RepoIdentity

/-! ## References as lines of text -/

namespace RepoIdentity.Reference

/-- A field and its value. -/
def fieldLine (field : String) (value : Text) : Text := field.toList ++ ": ".toList ++ value

/-- The lines that describe a reference; tags have one only if there are any. -/
def lines (r : Reference) : List Text :=
  [fieldLine "kind" r.kind.name]
    ++ (match r.locator with
        | .hosted repository =>
          [fieldLine "host" repository.host, fieldLine "owner" repository.owner,
           fieldLine "name" repository.name, fieldLine "url" repository.canonicalUrl]
        | .directory path => [fieldLine "path" path])
    ++ [fieldLine "key" r.displayKey]
    ++ (if r.metadata.isEmpty then []
        else [fieldLine "metadata" (Text.join ", ".toList r.metadata)])

/-- The description of a reference, without a line feed at its end. -/
def describe (r : Reference) : Text := Text.join ['\n'] r.lines

end RepoIdentity.Reference

import RepoIdentity.Toml.Scalar

/-!
# Lines of TOML

Values, the fields that give them names, and the lines of a document: a field or
the header of a table. Arrays may run over several lines, tables between braces
may not.

* `value?` reads a value that nests at most a given number of levels deep;
* `field?` reads a key, an equals sign and a value;
* `Entries.addField?` puts a field into a table;
* `lines?` reads all lines of a document.
-/

namespace RepoIdentity.Toml

/-- A value with the path of keys to it and the name at the end of the path. -/
structure Field where
  path : List Key
  key : Key
  span : Span
  value : Value

/-- The header of a table, or of one more element of a list of tables. -/
structure Header where
  isElement : Bool
  path : List Key
  key : Key
deriving DecidableEq, Repr

inductive Line where
  | field (f : Field)
  | header (h : Header) (span : Span)

-- ---------------------------------------------------------------------------
-- Adding to a table
-- ---------------------------------------------------------------------------

/-- The entries with the value under a key changed, or else, if there is a fresh
value, with it at the end. -/
def Entries.alter? (key : Key) (fresh : Option Value) (change : Value → Option Value) :
    Entries → Option Entries
  | [] => fresh.map fun v => [(key, none, v)]
  | (k, span, v) :: entries =>
    if k.name = key.name then (change v).map fun v => (k, span, v) :: entries
    else (Entries.alter? key fresh change entries).map ((k, span, v) :: ·)

/-- The entries with one more at the end, if its name is new. -/
def Entries.add? (key : Key) (span : Option Span) (value : Value) (entries : Entries) :
    Option Entries :=
  if entries.any fun (k, _) => k.name = key.name then none
  else some (entries ++ [(key, span, value)])

/-- The last element of a list changed. -/
def alterLast? (change : α → Option α) : List α → Option (List α)
  | [] => none
  | [a] => (change a).map ([·])
  | a :: as => (alterLast? change as).map (a :: ·)

/-- The entries changed inside the table at the end of a path. A table missing on
the way comes to be by `means`, which says whether the path is one of a header or
of a dotted key; a dotted key enters no table that has a header. Of tables that
share a header the last is meant. What is done at the end may depend on how the
table there came to be. -/
def Entries.inside? (means : Definition) (act : Definition → Entries → Option Entries) :
    List Key → Definition → Entries → Option Entries
  | [], definition, entries => act definition entries
  | key :: path, _, entries =>
    entries.alter? key
      ((Entries.inside? means act path means []).map (.table means))
      fun
        | .table definition inner =>
          if means = .dotted ∧ definition = .explicit then none
          else (Entries.inside? means act path definition inner).map (.table definition)
        | .tables elements =>
          (alterLast? (fun (span, inner) =>
            (Entries.inside? means act path .explicit inner).map (span, ·)) elements).map .tables
        | _ => none

/-- The entries with a field added. The table that a dotted key leads to must be
one that dotted keys brought about. -/
def Entries.addField? (entries : Entries) (f : Field) : Option Entries :=
  Entries.inside? .dotted
    (fun definition inner =>
      if f.path ≠ [] ∧ definition ≠ .dotted then none
      else Entries.add? f.key (some f.span) f.value inner)
    f.path .explicit entries

/-- The entries with fields added one after the other. -/
def Entries.addFields? : List Field → Entries → Option Entries
  | [], entries => some entries
  | f :: fs, entries => (entries.addField? f).bind (Entries.addFields? fs)

-- ---------------------------------------------------------------------------
-- Values
-- ---------------------------------------------------------------------------

/-- A key, an equals sign, and a value that `read?` reads. -/
def field? (read? : Text → Read Value) (s : Text) : Read Field :=
  match key? s with
  | some ((path, key), '=' :: rest) =>
    let start := skipBlanks rest
    (read? start).map fun (v, rest) => (⟨path, key, spanOf start rest, v⟩, rest)
  | _ => none

/-- Items with commas between them, and perhaps after the last, up to the closing
bracket. -/
def items? (read? : Text → Read Value) (s : Text) : Read (List (Span × Value)) :=
  match skipLines s with
  | none => none
  | some (']' :: rest) => some ([], rest)
  | some start =>
    match read? start with
    | none => none
    | some (v, after) =>
      match skipLines after with
      | some (']' :: rest) => some ([(spanOf start after, v)], rest)
      | some (',' :: rest) =>
        if _h : rest.length < s.length then
          (items? read? rest).map fun (items, rest) => ((spanOf start after, v) :: items, rest)
        else none
      | _ => none
termination_by s.length

/-- Fields with commas between them, at least one, up to the closing brace. -/
def fields? (read? : Text → Read Value) (s : Text) : Read (List Field) :=
  match field? read? s with
  | none => none
  | some (f, after) =>
    match skipBlanks after with
    | '\x7d' :: rest => some ([f], rest)
    | ',' :: rest =>
      if _h : rest.length < s.length then
        (fields? read? rest).map fun (fs, rest) => (f :: fs, rest)
      else none
    | _ => none
termination_by s.length

/-- The entries of a table between braces, after the first brace. -/
def inlineEntries? (read? : Text → Read Value) (s : Text) : Read Entries :=
  match skipBlanks s with
  | '\x7d' :: rest => some ([], rest)
  | s =>
    (fields? read? s).bind fun (fs, rest) => (Entries.addFields? fs []).map fun entries =>
      (entries, rest)

/-- A value in which arrays and tables nest at most `depth` levels deep. -/
def value? : (depth : Nat) → Text → Read Value
  | depth + 1, '[' :: s => (items? (value? depth) s).map fun (items, rest) => (.array items, rest)
  | depth + 1, '\x7b' :: s =>
    (inlineEntries? (value? depth) s).map fun (entries, rest) => (.inlineTable entries, rest)
  | _, s => scalar? s

-- ---------------------------------------------------------------------------
-- Lines
-- ---------------------------------------------------------------------------

/-- The header of one more element of a list of tables. -/
def elementHeader? (s : Text) : Read Header :=
  match s with
  | '[' :: '[' :: s =>
    match key? s with
    | some ((path, key), ']' :: ']' :: rest) => some (⟨true, path, key⟩, rest)
    | _ => none
  | _ => none

def tableHeader? (s : Text) : Read Header :=
  match s with
  | '[' :: s =>
    match key? s with
    | some ((path, key), ']' :: rest) => some (⟨false, path, key⟩, rest)
    | _ => none
  | _ => none

/-- What a line says, if it says anything, and the lines after it. -/
def line? (s : Text) : Read (Option Line) :=
  match s with
  | '#' :: _ => (lineEnd? (comment s)).map (none, ·)
  | '\n' :: _ => (newline? s).map (none, ·)
  | '\r' :: _ => (newline? s).map (none, ·)
  | '[' :: after =>
    let header := if after.head? = some '[' then elementHeader? s else tableHeader? s
    header.bind fun (h, rest) =>
      (lineRest? rest).map (some (.header h (spanOf s rest)), ·)
  | _ =>
    (field? (value? (maxDepth - 1)) s).bind fun (f, rest) =>
      (lineRest? rest).map (some (.field f), ·)

def linesFrom? (s : Text) : Option (List Line) :=
  match skipBlanks s with
  | [] => some []
  | start =>
    match line? start with
    | none => none
    | some (said, rest) =>
      if _h : rest.length < s.length then (linesFrom? rest).map (said.toList ++ ·) else none
termination_by s.length

/-- The mark that may stand before a document and does not belong to it. -/
def byteOrderMark : Char := '\ufeff'

def lines? : Text → Option (List Line)
  | c :: s => if c = byteOrderMark then linesFrom? s else linesFrom? (c :: s)
  | [] => some []

end RepoIdentity.Toml

import RepoIdentity.Toml.Line

/-!
# Documents of TOML

A document is a table: the fields before the first header, and a table for each
header with the fields after it. No name is defined twice, but a table that a
header only implies may have one of its own later, and then keeps what it holds.

* `Section` is a header with the fields after it;
* `Entries.addSection?` puts one into a document;
* `ofText?` reads a document, or tells that the text is none.
-/

namespace RepoIdentity.Toml

/-- A header, its place, and the fields after it. -/
structure Section where
  header : Header
  span : Span
  fields : List Field

/-- The fields before the first header, and the sections. -/
def sections : List Line → List Field × List Section
  | [] => ([], [])
  | .field f :: lines =>
    let (fields, rest) := sections lines
    (f :: fields, rest)
  | .header h span :: lines =>
    let (fields, rest) := sections lines
    ([], ⟨h, span, fields⟩ :: rest)

/-- The place of a section, from its header to the last of its values. -/
def Section.place (s : Section) : Span :=
  match s.fields.getLast? with
  | some f => s.span.upTo f.span
  | none => s.span

/-- The entries without those under a name. -/
def Entries.without (name : Text) (entries : Entries) : Entries :=
  entries.filter fun (k, _) => k.name ≠ name

def Entries.find? (name : Text) (entries : Entries) : Option Value :=
  (List.find? (fun (k, _) => k.name = name) entries).map fun (_, _, v) => v

/-- The entries of a table with the table of a section added at the end. It takes
the place of one that only headers below it have implied. -/
def Entries.addTable? (s : Section) (entries : Entries) : Option Entries :=
  let name := s.header.key.name
  let held : Option Entries :=
    match entries.find? name with
    | none => some []
    | some (.table .implied inner) => some inner
    | some _ => none
  (held.bind (Entries.addFields? s.fields)).map fun inner =>
    entries.without name ++ [(s.header.key, some s.place, .table .explicit inner)]

/-- The entries of a table with the table of a section as the last element of the
list of its name. -/
def Entries.addElement? (s : Section) (entries : Entries) : Option Entries :=
  (Entries.addFields? s.fields []).bind fun inner =>
    entries.alter? s.header.key (some (.tables [(s.place, inner)]))
      fun
        | .tables elements => some (.tables (elements ++ [(s.place, inner)]))
        | _ => none

def Entries.addSection? (entries : Entries) (s : Section) : Option Entries :=
  Entries.inside? .implied
    (fun _ inner => if s.header.isElement then inner.addElement? s else inner.addTable? s)
    s.header.path .explicit entries

/-- The entries of a document with sections added one after the other. -/
def Entries.addSections? : List Section → Entries → Option Entries
  | [], entries => some entries
  | s :: ss, entries => (entries.addSection? s).bind (Entries.addSections? ss)

def ofText? (s : Text) : Option Entries :=
  (lines? s).bind fun lines =>
    let (fields, rest) := sections lines
    (Entries.addFields? fields []).bind (Entries.addSections? rest)

end RepoIdentity.Toml

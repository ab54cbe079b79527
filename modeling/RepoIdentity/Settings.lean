import RepoIdentity.Toml.Document
import RepoIdentity.Toml.Message

/-!
# Settings

What a configuration file can say: which grammar to use, whether to validate what was
parsed, and which tags to attach. Whatever is left out is decided elsewhere, so
leaving out is told apart from saying no. Every name in a document of settings must be
one of the three fields, and every value must have the shape that its field needs. The
first entry at fault decides.

* `Settings.ofEntries` takes a document apart, `Settings.ofDocument` reads one;
* `DocumentFault` tells why a text holds no settings. Why a text is no document at all
  is worded by whatever reads documents, so a message is made with that wording.
-/

namespace RepoIdentity

/-- The contents of a configuration file. -/
structure Settings where
  /-- Whether to use the strict grammar. -/
  strict : Option Bool
  /-- Whether to check the naming rules after parsing. -/
  validate : Option Bool
  /-- Tags for every reference. -/
  metadata : List Text
deriving DecidableEq, Repr

namespace Settings

/-- The settings of a file that says nothing. -/
def empty : Settings := ⟨none, none, []⟩

/-- Whether every tag has a character that is not white space. -/
def hasNoBlankTag (s : Settings) : Bool := s.metadata.all fun tag => !Text.isBlank tag

-- ---------------------------------------------------------------------------
-- Faults
-- ---------------------------------------------------------------------------

/-- What a field, or an item of a field, needs. -/
inductive Expected where
  | boolean
  | sequence
  | string
deriving DecidableEq, Repr

def Expected.text : Expected → Text
  | .boolean => "a boolean".toList
  | .sequence => "a sequence".toList
  | .string => "a string".toList

/-- Why the entries of a document are no settings. -/
inductive EntryFault where
  | unknownField (place : Toml.Span) (name : Text)
  | wrongType (place : Toml.Span) (found : Toml.Shape) (expected : Expected)
deriving DecidableEq, Repr

def EntryFault.place : EntryFault → Toml.Span
  | .unknownField place _ => place
  | .wrongType place _ _ => place

def strictField : Text := "strict".toList

def validateField : Text := "validate".toList

def metadataField : Text := "metadata".toList

def EntryFault.reason : EntryFault → Text
  | .unknownField _ name =>
    "unknown field `".toList ++ name ++ "`, expected one of `".toList ++ strictField
      ++ "`, `".toList ++ validateField ++ "`, `".toList ++ metadataField ++ "`".toList
  | .wrongType _ found expected =>
    "invalid type: ".toList ++ found.text ++ ", expected ".toList ++ expected.text

/-- Why a text holds no settings. -/
inductive DocumentFault where
  /-- The text `source` is no document of TOML. -/
  | malformed (source : Text)
  /-- The document `source` has an entry at fault. -/
  | misfit (source : Text) (fault : EntryFault)
deriving DecidableEq, Repr

/-- The wording of a fault, with the line that it is about. What is wrong with a text
that is no document is told by `syntaxFault`. -/
def DocumentFault.message (syntaxFault : Text → Text) : DocumentFault → Text
  | .malformed source => syntaxFault source
  | .misfit source fault => Toml.excerpt source fault.place fault.reason

-- ---------------------------------------------------------------------------
-- Decoding
-- ---------------------------------------------------------------------------

/-- The truth value that an entry holds. -/
def decodeBoolean (place : Toml.Span) : Toml.Value → Except EntryFault Bool
  | .boolean b => .ok b
  | v => .error (.wrongType place v.shape .boolean)

/-- The tags in the items of an array. -/
def decodeTags : List (Toml.Span × Toml.Value) → Except EntryFault (List Text)
  | [] => .ok []
  | (place, v) :: items =>
    match v with
    | .string s => (decodeTags items).map (s :: ·)
    | v => .error (.wrongType place v.shape .string)

/-- The tags that an entry holds. Tables in a list are items, and none is a tag. -/
def decodeMetadata (place : Toml.Span) : Toml.Value → Except EntryFault (List Text)
  | .array items => decodeTags items
  | .tables ((place, _) :: _) => .error (.wrongType place .map .string)
  | .tables [] => .ok []
  | v => .error (.wrongType place v.shape .sequence)

/-- Settings with what one entry says. -/
def withEntry (s : Settings) (key : Toml.Key) (span : Option Toml.Span) (v : Toml.Value) :
    Except EntryFault Settings :=
  let place := (span <|> v.place?).getD key.span
  if key.name = strictField then
    (decodeBoolean place v).map fun b => { s with strict := some b }
  else if key.name = validateField then
    (decodeBoolean place v).map fun b => { s with validate := some b }
  else if key.name = metadataField then
    (decodeMetadata place v).map fun tags => { s with metadata := tags }
  else .error (.unknownField key.span key.name)

/-- Settings with what entries say, one after the other. -/
def withEntries (s : Settings) : Toml.Entries → Except EntryFault Settings
  | [] => .ok s
  | (key, span, v) :: entries =>
    match s.withEntry key span v with
    | .ok s => s.withEntries entries
    | .error fault => .error fault

/-- The settings that the entries of a document hold. -/
def ofEntries (entries : Toml.Entries) : Except EntryFault Settings := empty.withEntries entries

def ofDocument (source : Text) : Except DocumentFault Settings :=
  match Toml.ofText? source with
  | none => .error (.malformed source)
  | some entries => (ofEntries entries).mapError (.misfit source)

end Settings

end RepoIdentity

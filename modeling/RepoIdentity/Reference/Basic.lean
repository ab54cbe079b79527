import RepoIdentity.Grammar

/-!
# References

A reference is a locator with free-form tags. Tags keep their order and may repeat,
but two references are the same if their locators are equal and they have the same
tags, in whatever order and number. A reference to a hosted repository can be checked
against the naming rules of GitHub: for its host, then its owner, then its name. A user
name has one to thirty-nine letters, digits and hyphens; a hyphen stands alone and not
at an end.

* `Hosted.validate` is the check;
* `Reference.parse`, `Reference.ofDirectory` and `Reference.ofLocator` make a reference;
* `Reference.sameAs` and `Reference.fingerprint` compare references, and
  `Reference.distinct` keeps one of each;
* `Method` is what changes a reference in place, and may fail halfway;
* `Change` lists what can be asked of a reference once it exists, and
  `Reference.after` is what a whole run of requests leaves behind.
-/

/-! ## Naming rules -/

namespace RepoIdentity

namespace Username

/-- The greatest length of a user name. -/
def maxLength : Nat := 39

/-- Characters of a user name. -/
def isInside (c : Char) : Bool := Ascii.isAlphanum c || c == '-'

/-- Whether a text is a user name. -/
def isValid (s : Text) : Bool :=
  s.all isInside && 1 ≤ s.length && s.length ≤ maxLength
    && s.head?.all Ascii.isAlphanum && s.getLast?.all Ascii.isAlphanum
    && !Text.hasMark "--".toList s

end Username

/-- Checks a hosted repository against the naming rules. -/
def Hosted.validate (r : Hosted) : Except Fault Unit :=
  if r.host ≠ Grammar.defaultHost then .error (.unsupportedHost r.host)
  else if !Username.isValid r.owner then .error (.invalidOwner r.owner)
  else if Text.isBlank r.owner || Text.isBlank r.name then .error (.invalidIdentity r.canonicalUrl)
  else .ok ()

/-! ## References -/

/-- A repository and the tags attached to it. -/
structure Reference where
  locator : Locator
  metadata : List Text
deriving DecidableEq, Repr

namespace Reference

-- ---------------------------------------------------------------------------
-- Making references
-- ---------------------------------------------------------------------------

def ofLocator (locator : Locator) : Reference := ⟨locator, []⟩

/-- The reference that a text names by the grammar of the mode. -/
def parse (input : Text) (mode : Mode) : Except Fault Reference :=
  (Locator.parse input mode).map ofLocator

/-- The reference that a text names by the legacy grammar. -/
def ofText (input : Text) : Except Fault Reference := parse input .legacy

/-- A reference to a directory, whose path is kept as it is given. -/
def ofDirectory (path : Text) : Reference := ofLocator (.directory path)

-- ---------------------------------------------------------------------------
-- Views
-- ---------------------------------------------------------------------------

def kind (r : Reference) : Kind := r.locator.kind

def hosted? (r : Reference) : Option Hosted := r.locator.hosted?

def path? (r : Reference) : Option Text := r.locator.path?

def canonicalUrl? (r : Reference) : Option Text := r.hosted?.map Hosted.canonicalUrl

/-- The display key of a hosted repository, the path of a local one. -/
def displayKey (r : Reference) : Text := r.locator.displayKey

def typeName : Text := "repo".toList

-- ---------------------------------------------------------------------------
-- Operations
-- ---------------------------------------------------------------------------

/-- Checks a hosted repository against the naming rules. -/
def validate (r : Reference) : Except Fault Unit :=
  match r.locator with
  | .hosted repository => repository.validate
  | .directory _ => .error (.wrongKind .url .localDirectory)

def setMetadata (r : Reference) (tags : List Text) : Reference := { r with metadata := tags }

def appendMetadata (r : Reference) (tags : List Text) : Reference :=
  { r with metadata := r.metadata ++ tags }

-- ---------------------------------------------------------------------------
-- Sameness
-- ---------------------------------------------------------------------------

/-- Puts a tag into its place in an ascending list, unless it is there. -/
def insertTag (tag : Text) : List Text → List Text
  | [] => [tag]
  | t :: ts =>
    if tag = t then t :: ts
    else if tag < t then tag :: t :: ts
    else t :: insertTag tag ts

/-- The tags in ascending order, each once. -/
def tagSet (tags : List Text) : List Text := tags.foldr insertTag []

/-- All that sameness depends on: the locator and the set of tags. -/
def fingerprint (r : Reference) : Locator × List Text := (r.locator, tagSet r.metadata)

/-- Whether two references have the same locator and the same tags. -/
def sameAs (a b : Reference) : Bool :=
  a.locator == b.locator && tagSet a.metadata == tagSet b.metadata

/-- The references without those that are the same as an earlier one. -/
def distinct (rs : List Reference) : List Reference :=
  (rs.foldl (fun kept r => if kept.any (·.sameAs r) then kept else r :: kept) []).reverse

-- ---------------------------------------------------------------------------
-- Small facts
-- ---------------------------------------------------------------------------

@[simp] theorem mem_insertTag {t tag : Text} {ts : List Text} :
    t ∈ insertTag tag ts ↔ t = tag ∨ t ∈ ts := by
  induction ts with
  | nil => simp [insertTag]
  | cons u us ih =>
    unfold insertTag
    split
    · next h => subst h; simp
    · split
      · simp
      · simp only [List.mem_cons, ih]
        exact or_left_comm

@[simp] theorem mem_tagSet {t : Text} {ts : List Text} : t ∈ tagSet ts ↔ t ∈ ts := by
  induction ts with
  | nil => simp [tagSet]
  | cons u us ih =>
    have : tagSet (u :: us) = insertTag u (tagSet us) := rfl
    simp [this, ih]

theorem sameAs_eq_true_iff {a b : Reference} : a.sameAs b = true ↔ a.fingerprint = b.fingerprint := by
  simp [sameAs, fingerprint]

end Reference

/-! ## Changes -/

/-- A method of a reference. It may change the reference, and gives something in the end
or fails; what it changed before it failed stays changed. -/
abbrev Method (α : Type) := ExceptT Fault (StateM Reference) α

namespace Method

/-- The result of what does not look at the reference. -/
def ofExcept {α : Type} (result : Except Fault α) : Method α := ExceptT.mk (pure result)

/-- Fails for references of another kind. -/
def requireKind (expected : Kind) : Method Unit := do
  let found := (← get).kind
  if found = expected then pure () else throw (.wrongKind expected found)

/-- Points a reference to a hosted repository elsewhere. -/
def setUrl (input : Text) (mode : Mode) : Method Unit := do
  requireKind .url
  let locator ← ofExcept (Locator.parse input mode)
  modify fun r => { r with locator }

def setMetadata (tags : List Text) : Method Unit := modify fun r => r.setMetadata tags

def appendMetadata (tags : List Text) : Method Unit := modify fun r => r.appendMetadata tags

/-- Checks a hosted repository against the naming rules. -/
def validate : Method Unit := do
  ofExcept (← get).validate

end Method

/-- What can be asked of a reference. -/
inductive Change where
  | setUrl (input : Text) (mode : Mode)
  | setMetadata (tags : List Text)
  | appendMetadata (tags : List Text)
  | validate
deriving DecidableEq, Repr

/-- The method that answers a request. -/
def Change.method : Change → Method Unit
  | .setUrl input mode => .setUrl input mode
  | .setMetadata tags => .setMetadata tags
  | .appendMetadata tags => .appendMetadata tags
  | .validate => .validate

/-- What a method comes to for a reference: how it ends, and the reference after it. -/
def Method.on {α : Type} (m : Method α) (r : Reference) : Except Fault α × Reference :=
  (ExceptT.run m).run r

/-- The reference after a request, and the fault if the request failed. -/
def Change.apply (r : Reference) (change : Change) : Reference × Option Fault :=
  match change.method.on r with
  | (.ok (), after) => (after, none)
  | (.error fault, after) => (after, some fault)

/-- The reference after a run of requests, whether they succeed or fail. -/
def Reference.after (r : Reference) (changes : List Change) : Reference :=
  changes.foldl (fun r change => (change.apply r).1) r

end RepoIdentity

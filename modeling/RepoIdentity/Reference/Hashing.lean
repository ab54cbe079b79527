import RepoIdentity.Reference.Basic

/-!
# Hashing references

A hash function is given a reference item by item: which kind of locator it has,
the texts of the locator, the number of its different tags and these tags in
ascending order. Numbers have eight bytes, and a text is followed by a byte that
occurs in no text.

* `Reference.hashInputs` are the items, `Reference.hashBytes` their bytes;
* `Reference.Keyed` is a reference as an element of hash sets, by sameness and by
  any hash function on the items;
* `Reference.hashSet` is the hash set of references that are inserted one after the
  other.
-/

namespace RepoIdentity

/-- One item that a hash function is given. -/
inductive HashInput where
  | word (n : Nat)
  | text (t : Text)
deriving DecidableEq, Repr

namespace HashInput

/-- The last `k` bytes of a number, the lowest first. -/
def lowBytes : (k n : Nat) → Bytes
  | 0, _ => []
  | k + 1, n => UInt8.ofNat n :: lowBytes k (n / 256)

/-- The byte after a text. -/
def terminator : UInt8 := 0xFF

def bytes : HashInput → Bytes
  | .word n => lowBytes 8 n
  | .text t => Utf8.encode t ++ [terminator]

end HashInput

/-- The items of a locator: its kind by a number, and its texts. -/
def Locator.hashInputs : Locator → List HashInput
  | .directory path => [.word 0, .text path]
  | .hosted r => [.word 1, .text r.host, .text r.owner, .text r.name]

namespace Reference

/-- The items of a reference. -/
def hashInputs (r : Reference) : List HashInput :=
  r.locator.hashInputs ++ .word (tagSet r.metadata).length :: (tagSet r.metadata).map .text

/-- All that a hash function reads of a reference. -/
def hashBytes (r : Reference) : Bytes := r.hashInputs.flatMap HashInput.bytes

-- ---------------------------------------------------------------------------
-- Hash sets
-- ---------------------------------------------------------------------------

/-- A reference as an element of sets that hash by `hash`. -/
structure Keyed (hash : List HashInput → UInt64) where
  reference : Reference

variable {hash : List HashInput → UInt64}

instance : BEq (Keyed hash) := ⟨fun a b => a.reference.sameAs b.reference⟩

instance : Hashable (Keyed hash) := ⟨fun a => hash a.reference.hashInputs⟩

/-- The hash set of references, inserted in the order of the list. -/
def hashSet (hash : List HashInput → UInt64) (rs : List Reference) : Std.HashSet (Keyed hash) :=
  rs.foldl (fun set r => set.insert ⟨r⟩) ∅

/-- The references that a hash set holds, in no particular order. -/
def elements (set : Std.HashSet (Keyed hash)) : List Reference := set.toList.map Keyed.reference

end Reference

end RepoIdentity

import RepoIdentity.Proofs.Hosted
import RepoIdentity.Proofs.Percent

/-!
# Paths made of an owner and a name

A path is trimmed of the slashes at its ends and then cut at the first slash that is left.
What this finds can be said without trimming and cutting: an owner without slashes, a slash
and a name, with any number of slashes before and after. The slash after the owner is the
first one that follows another character, so that further slashes there begin the name,
and those at the end are not the name's, so that it ends in another character. This leaves no
choice of owner and name.

* `MadeOf` — the paths of an owner and a name;
* `madeOf_of_splitOwnerName`, `MadeOf.splitOwnerName_eq` — what is found, and that it is;
* `splitOwnerName_iff_madeOf` — both, and that there is one owner and name at most;
* `mem_owner_or_name_iff`, `slash_not_mem_name_iff` — which characters get into owner and
  name out of a path that is percent-decoded.
-/

namespace RepoIdentity.Grammar

-- ---------------------------------------------------------------------------
-- Slashes at the ends
-- ---------------------------------------------------------------------------

/-- Slashes at the end do not count. -/
theorem splitOwnerName_append_slashes (path : Text) (k : Nat) :
    splitOwnerName (path ++ List.replicate k '/') = splitOwnerName path := by
  rw [splitOwnerName, Text.trim_append path fun c hc => ?_, ← splitOwnerName]
  rw [List.eq_of_mem_replicate hc]
  rfl

/-- Slashes at the front do not count. -/
theorem splitOwnerName_slashes_append (k : Nat) (path : Text) :
    splitOwnerName (List.replicate k '/' ++ path) = splitOwnerName path := by
  rw [splitOwnerName, Text.trim_append_left path fun c hc => ?_, ← splitOwnerName]
  rw [List.eq_of_mem_replicate hc]
  rfl

-- ---------------------------------------------------------------------------
-- Owner and name
-- ---------------------------------------------------------------------------

/-- `MadeOf path owner name`: the path is slashes, the owner, a slash, the name, slashes. The
owner is not empty and has no slash; the name is not empty and does not end in one. -/
structure MadeOf (path owner name : Text) : Prop where
  owner_ne_nil : owner ≠ []
  slash_not_mem_owner : '/' ∉ owner
  name_ne_nil : name ≠ []
  getLast?_name : name.getLast? ≠ some '/'
  written : ∃ i j, path = List.replicate i '/' ++ (owner ++ '/' :: name) ++ List.replicate j '/'

variable {path owner name : Text}

/-- A path is made of the parts that it is split into. -/
theorem madeOf_of_splitOwnerName (h : splitOwnerName path = some (owner, name)) :
    MadeOf path owner name := by
  obtain ⟨htrim, howner, hslash, hname, hlast⟩ := splitOwnerName_cases h
  refine ⟨howner, hslash, hname, hlast, ?_⟩
  rw [← htrim]
  exact Text.exists_replicate_trim '/' path

/-- A path is split into the parts that it is made of. -/
theorem MadeOf.splitOwnerName_eq (h : MadeOf path owner name) :
    splitOwnerName path = some (owner, name) := by
  obtain ⟨i, j, rfl⟩ := h.written
  rw [splitOwnerName_append_slashes, splitOwnerName_slashes_append,
    ← splitOwnerName_slashes_append 1]
  exact Grammar.splitOwnerName_eq h.owner_ne_nil h.slash_not_mem_owner h.name_ne_nil
    h.getLast?_name

/-- A path is made of one owner and one name at most. -/
theorem MadeOf.unique {owner' name' : Text} (h : MadeOf path owner name)
    (h' : MadeOf path owner' name') : owner = owner' ∧ name = name' := by
  have heq := h.splitOwnerName_eq.symm.trans h'.splitOwnerName_eq
  rwa [Option.some.injEq, Prod.mk.injEq] at heq

/-- Owner and name are found in a path exactly if it is made of them. There are one owner and
one name at most, and where there are none nothing is found. -/
theorem splitOwnerName_iff_madeOf (path : Text) :
    (∀ owner name, splitOwnerName path = some (owner, name) ↔ MadeOf path owner name) ∧
    (∀ owner owner' name name', MadeOf path owner name → MadeOf path owner' name' →
      owner = owner' ∧ name = name') ∧
    (splitOwnerName path = none ↔ ¬ ∃ owner name, MadeOf path owner name) := by
  refine ⟨fun _ _ => ⟨madeOf_of_splitOwnerName, MadeOf.splitOwnerName_eq⟩,
    fun _ _ _ _ => MadeOf.unique, ?_⟩
  constructor
  · rintro hnone ⟨owner, name, h⟩
    rw [h.splitOwnerName_eq] at hnone
    cases hnone
  · intro hnot
    cases hsplit : splitOwnerName path with
    | none => rfl
    | some pieces => exact absurd ⟨_, _, madeOf_of_splitOwnerName hsplit⟩ hnot

/-- Of the slashes after the owner all but the first are the name's. -/
theorem splitOwnerName_iff_madeOf_runs :
    splitOwnerName "//o///n/ //".toList = some ("o".toList, "//n/ ".toList) := by
  have hmade : MadeOf "//o///n/ //".toList "o".toList "//n/ ".toList :=
    ⟨by decide, by decide, by decide, by decide, 2, 2, rfl⟩
  exact ((splitOwnerName_iff_madeOf "//o///n/ //".toList).1 _ _).mpr hmade

-- ---------------------------------------------------------------------------
-- Characters of owner and name
-- ---------------------------------------------------------------------------

/-- The name has no slash exactly if only one is left when those at the ends are gone. -/
theorem slash_not_mem_name_iff (h : splitOwnerName path = some (owner, name)) :
    '/' ∉ name ↔ (Text.trim (· == '/') path).count '/' = 1 := by
  obtain ⟨htrim, -, hslash, -⟩ := splitOwnerName_cases h
  rw [htrim, List.count_append, List.count_cons_self, List.count_eq_zero.mpr hslash,
    ← List.count_eq_zero]
  omega

/-- A character that is in no escape gets into owner or name out of a decoded path as it is or
by an escape of it. -/
theorem mem_owner_or_name_iff {written : Text} {c : Char} {b : UInt8}
    (hb : String.utf8EncodeChar c = [b]) (hascii : b.toNat < 0x80) (hslash : c ≠ '/')
    (hpercent : c ≠ '%') (hdigit : Ascii.isHexDigit c = false)
    (hpath : Percent.decode written = Utf8.encode path)
    (hsplit : splitOwnerName path = some (owner, name)) :
    (c ∈ owner ∨ c ∈ name) ↔ c ∈ written ∨ Percent.HasEscapeOf b written := by
  have hends : (c == '/') = false := beq_eq_false_iff_ne.mpr hslash
  calc (c ∈ owner ∨ c ∈ name) ↔ c ∈ Text.trim (· == '/') path := by
        rw [(splitOwnerName_cases hsplit).1, List.mem_append, List.mem_cons, or_iff_right hslash]
    _ ↔ c ∈ path := Text.mem_trim_iff hends
    _ ↔ b ∈ Percent.decode written := by rw [hpath, Utf8.mem_encode_iff hb hascii]
    _ ↔ c ∈ written ∨ Percent.HasEscapeOf b written :=
        Percent.mem_decode_char_iff hb hascii hpercent hdigit

end RepoIdentity.Grammar

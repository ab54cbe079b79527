import RepoIdentity.Proofs.Utf8
import RepoIdentity.Reference.Hashing

/-!
# Sameness and hashing

Sameness compares the tags of references as sets, hashing reads them as an ascending
list. The two agree because the ascending list of different tags is the only one with
its members (`tagSet_eq_iff`), and because no hash input is read in two ways: each
text ends where its terminator stands (`hashBytes_eq_iff`). So a hash set of
references, whatever its hash function, holds one of each class of the same
references and no more.

* `tagSet_eq_iff` — the tag set is a canonical form of the tags;
* `hashInputs_eq_iff`, `hashBytes_eq_iff` — the same items, or only the same bytes,
  and the references are the same;
* `Represents` — a list that holds one of each class;
* `represents_distinct`, `represents_hashSet` — the list and the hash set do.
-/

namespace RepoIdentity

namespace Reference

-- ---------------------------------------------------------------------------
-- Tag sets
-- ---------------------------------------------------------------------------

/-- Inserting a tag keeps the tags in order and each of them single. -/
theorem pairwise_insertTag {tag : Text} {tags : List Text} (h : tags.Pairwise (· < ·)) :
    (insertTag tag tags).Pairwise (· < ·) := by
  induction tags with
  | nil => simp [insertTag]
  | cons t ts ih =>
    obtain ⟨hfirst, hrest⟩ := List.pairwise_cons.mp h
    unfold insertTag
    split
    · exact h
    · next hne =>
      split
      · next hlt =>
        refine List.pairwise_cons.mpr ⟨?_, h⟩
        intro u hu
        rcases List.mem_cons.mp hu with rfl | hu
        · exact hlt
        · exact List.lt_trans hlt (hfirst u hu)
      · next hnlt =>
        refine List.pairwise_cons.mpr ⟨?_, ih hrest⟩
        intro u hu
        rcases mem_insertTag.mp hu with rfl | hu
        · -- neither equal nor smaller, so greater
          by_contra hnlt'
          exact hne (List.le_antisymm (List.not_lt.mp hnlt') (List.not_lt.mp hnlt))
        · exact hfirst u hu

/-- A tag set is in order and holds each tag once. -/
theorem pairwise_tagSet (tags : List Text) : (tagSet tags).Pairwise (· < ·) := by
  induction tags with
  | nil => exact List.Pairwise.nil
  | cons t ts ih => exact pairwise_insertTag ih

/-- The tag set is the one ascending list with the members of the tags. -/
theorem tagSet_eq_iff {a b : List Text} : tagSet a = tagSet b ↔ ∀ t, t ∈ a ↔ t ∈ b := by
  constructor
  · intro h t
    calc t ∈ a ↔ t ∈ tagSet a := mem_tagSet.symm
      _ ↔ t ∈ tagSet b := by rw [h]
      _ ↔ t ∈ b := mem_tagSet
  · intro h
    have hnodup (ts : List Text) : (tagSet ts).Nodup := by
      refine (pairwise_tagSet ts).imp ?_
      rintro t u hlt rfl
      exact List.lt_irrefl t hlt
    have hperm : (tagSet a).Perm (tagSet b) := by
      rw [List.perm_ext_iff_of_nodup (hnodup a) (hnodup b)]
      intro t
      rw [mem_tagSet, mem_tagSet, h t]
    refine hperm.eq_of_pairwise ?_ (pairwise_tagSet a) (pairwise_tagSet b)
    intro s t _ _ hst hts
    exact absurd hts (List.lt_asymm hst)

/-- Two references are the same if they point to the same place and have the same
tags, however often and in whatever order. -/
theorem sameAs_iff {a b : Reference} :
    a.sameAs b = true ↔ a.locator = b.locator ∧ ∀ t, t ∈ a.metadata ↔ t ∈ b.metadata := by
  rw [sameAs_eq_true_iff, fingerprint, fingerprint, Prod.mk.injEq, tagSet_eq_iff]

/-- Being the same is an equivalence. -/
theorem sameAs_equivalence : Equivalence fun a b : Reference => a.sameAs b = true where
  refl _ := sameAs_eq_true_iff.mpr rfl
  symm h := sameAs_eq_true_iff.mpr (sameAs_eq_true_iff.mp h).symm
  trans h h' := sameAs_eq_true_iff.mpr ((sameAs_eq_true_iff.mp h).trans (sameAs_eq_true_iff.mp h'))

end Reference

-- ---------------------------------------------------------------------------
-- Items
-- ---------------------------------------------------------------------------

/-- The items of a locator tell where they end. -/
theorem Locator.hashInputs_append_inj {a b : Locator} {xs ys : List HashInput}
    (h : a.hashInputs ++ xs = b.hashInputs ++ ys) : a = b ∧ xs = ys := by
  cases a with
  | directory path =>
    cases b with
    | directory path' => simpa [hashInputs] using h
    | hosted r => simp [hashInputs] at h
  | hosted r =>
    cases b with
    | directory path => simp [hashInputs] at h
    | hosted r' =>
      obtain ⟨host, owner, name⟩ := r
      obtain ⟨host', owner', name'⟩ := r'
      simpa [hashInputs, and_assoc] using h

/-- References give the same items to a hash exactly if they are the same. -/
theorem Reference.hashInputs_eq_iff {a b : Reference} :
    a.hashInputs = b.hashInputs ↔ a.sameAs b = true := by
  rw [sameAs_eq_true_iff]
  constructor
  · intro h
    obtain ⟨hlocator, hrest⟩ := Locator.hashInputs_append_inj h
    obtain ⟨-, htags⟩ := List.cons.inj hrest
    have hset : tagSet a.metadata = tagSet b.metadata :=
      List.map_injective_iff.mpr (fun _ _ => HashInput.text.inj) htags
    rw [fingerprint, fingerprint, hlocator, hset]
  · intro h
    obtain ⟨hlocator, hset⟩ := Prod.mk.inj h
    rw [hashInputs, hashInputs, hlocator, hset]

-- ---------------------------------------------------------------------------
-- Bytes
-- ---------------------------------------------------------------------------

namespace HashInput

/-- A word has the number of bytes that it is written with. -/
theorem length_lowBytes (k n : Nat) : (lowBytes k n).length = k := by
  induction k generalizing n with
  | zero => rfl
  | succ k ih => rw [lowBytes, List.length_cons, ih]

/-- Numbers of one width end alike, whatever they are. -/
theorem bytes_append_inj_word {m n : Nat} {xs ys : Bytes}
    (h : (word m).bytes ++ xs = (word n).bytes ++ ys) :
    (word m).bytes = (word n).bytes ∧ xs = ys := by
  refine List.append_inj h ?_
  rw [bytes, bytes, length_lowBytes, length_lowBytes]

/-- No encoded text holds the byte that ends it. -/
theorem terminator_not_mem (s : Text) : terminator ∉ Utf8.encode s := by
  intro h
  exact absurd (Utf8.toNat_lt_of_mem_encode h) (by decide)

/-- Texts that are ended by a byte they do not hold can be told apart. -/
theorem eq_of_append_terminator {a a' b b' : Bytes} (ha : terminator ∉ a) (ha' : terminator ∉ a')
    (h : a ++ terminator :: b = a' ++ terminator :: b') : a = a' ∧ b = b' := by
  induction a generalizing a' with
  | nil =>
    cases a' with
    | nil => exact ⟨rfl, (List.cons.inj h).2⟩
    | cons x a' => exact absurd ((List.cons.inj h).1 ▸ List.mem_cons_self) ha'
  | cons x a ih =>
    cases a' with
    | nil => exact absurd ((List.cons.inj h).1 ▸ List.mem_cons_self) ha
    | cons x' a' =>
      simp only [List.mem_cons, not_or] at ha ha'
      obtain ⟨rfl, hrest⟩ := List.cons.inj h
      obtain ⟨rfl, hb⟩ := ih ha.2 ha'.2 hrest
      exact ⟨rfl, hb⟩

/-- A text ends at the first terminator. -/
theorem bytes_append_inj_text {s t : Text} {xs ys : Bytes}
    (h : (text s).bytes ++ xs = (text t).bytes ++ ys) : s = t ∧ xs = ys := by
  simp only [bytes, List.append_assoc, List.singleton_append] at h
  obtain ⟨hencode, hrest⟩ :=
    eq_of_append_terminator (terminator_not_mem s) (terminator_not_mem t) h
  exact ⟨Utf8.encode_injective hencode, hrest⟩

/-- The bytes of a list of texts tell which texts these are. -/
theorem flatMap_bytes_inj {ss ts : List Text}
    (h : (ss.map text).flatMap bytes = (ts.map text).flatMap bytes) : ss = ts := by
  have hne (t : Text) (rest : Bytes) : (text t).bytes ++ rest ≠ [] := by simp [bytes]
  induction ss generalizing ts with
  | nil =>
    cases ts with
    | nil => rfl
    | cons t ts => exact absurd h.symm (hne t _)
  | cons s ss ih =>
    cases ts with
    | nil => exact absurd h (hne s _)
    | cons t ts =>
      simp only [List.map_cons, List.flatMap_cons] at h
      obtain ⟨rfl, hrest⟩ := bytes_append_inj_text h
      rw [ih hrest]

end HashInput

/-- The bytes of a locator tell where they end. -/
theorem Locator.hashBytes_append_inj {a b : Locator} {xs ys : Bytes}
    (h : a.hashInputs.flatMap HashInput.bytes ++ xs = b.hashInputs.flatMap HashInput.bytes ++ ys) :
    a = b ∧ xs = ys := by
  have hkinds : (HashInput.word 0).bytes ≠ (HashInput.word 1).bytes := by decide
  cases a with
  | directory path =>
    cases b with
    | directory path' =>
      -- the kind is a word of fixed length, and each text ends itself
      simp only [hashInputs, List.flatMap_cons, List.flatMap_nil, List.append_assoc,
        List.nil_append] at h
      obtain ⟨-, htexts⟩ := HashInput.bytes_append_inj_word h
      obtain ⟨rfl, hrest⟩ := HashInput.bytes_append_inj_text htexts
      exact ⟨rfl, hrest⟩
    | hosted r =>
      simp only [hashInputs, List.flatMap_cons, List.append_assoc] at h
      exact absurd (HashInput.bytes_append_inj_word h).1 hkinds
  | hosted r =>
    cases b with
    | directory path =>
      simp only [hashInputs, List.flatMap_cons, List.append_assoc] at h
      exact absurd (HashInput.bytes_append_inj_word h).1.symm hkinds
    | hosted r' =>
      obtain ⟨host, owner, name⟩ := r
      obtain ⟨host', owner', name'⟩ := r'
      simp only [hashInputs, List.flatMap_cons, List.flatMap_nil, List.append_assoc,
        List.nil_append] at h
      obtain ⟨-, htexts⟩ := HashInput.bytes_append_inj_word h
      obtain ⟨hhost, htexts⟩ := HashInput.bytes_append_inj_text htexts
      obtain ⟨howner, htexts⟩ := HashInput.bytes_append_inj_text htexts
      obtain ⟨hname, hrest⟩ := HashInput.bytes_append_inj_text htexts
      rw [hhost, howner, hname]
      exact ⟨rfl, hrest⟩

namespace Reference

/-- The bytes alone tell references apart that are not the same. -/
theorem hashBytes_eq_iff {a b : Reference} : a.hashBytes = b.hashBytes ↔ a.sameAs b = true := by
  constructor
  · intro h
    simp only [hashBytes, hashInputs, List.flatMap_append, List.flatMap_cons] at h
    obtain ⟨hlocator, hrest⟩ := Locator.hashBytes_append_inj h
    obtain ⟨-, htags⟩ := HashInput.bytes_append_inj_word hrest
    rw [sameAs_eq_true_iff, fingerprint, fingerprint, hlocator, HashInput.flatMap_bytes_inj htags]
  · intro h
    rw [hashBytes, hashBytes, hashInputs_eq_iff.mpr h]

-- ---------------------------------------------------------------------------
-- One of each class
-- ---------------------------------------------------------------------------

/-- A list of references that holds exactly one of each class of the same references
that another list has. -/
structure Represents (kept rs : List Reference) : Prop where
  one : ∀ r ∈ rs, kept.countP (·.sameAs r) = 1
  no_more : ∀ k ∈ kept, ∃ r ∈ rs, k.sameAs r = true

/-- No two of the references are the same. -/
def Apart (rs : List Reference) : Prop := rs.Pairwise fun a b => a.sameAs b = false

/-- Sameness does not depend on the order. -/
theorem sameAs_comm (a b : Reference) : a.sameAs b = b.sameAs a := by
  rw [Bool.eq_iff_iff]
  exact ⟨sameAs_equivalence.symm, sameAs_equivalence.symm⟩

/-- Among references that are apart there is at most one that is the same as a given one. -/
theorem countP_sameAs_of_apart {kept : List Reference} (h : Apart kept) {k r : Reference}
    (hk : k ∈ kept) (hr : k.sameAs r = true) : kept.countP (·.sameAs r) = 1 := by
  induction kept with
  | nil => cases hk
  | cons first rest ih =>
    obtain ⟨hfirst, hrest⟩ := List.pairwise_cons.mp h
    rw [List.countP_cons]
    rcases List.mem_cons.mp hk with rfl | hk
    · have hnone : rest.countP (·.sameAs r) = 0 := by
        rw [List.countP_eq_zero]
        intro x hx hxr
        have hsame := sameAs_equivalence.trans hr (sameAs_equivalence.symm hxr)
        rw [hfirst x hx] at hsame
        cases hsame
      rw [hnone, if_pos hr]
    · have hother : ¬ first.sameAs r = true := by
        intro hfr
        have hsame := sameAs_equivalence.trans hfr (sameAs_equivalence.symm hr)
        rw [hfirst k hk] at hsame
        cases hsame
      rw [ih hrest hk, if_neg hother]

/-- References that are apart represent those that have the same classes. -/
theorem represents_of_apart {kept rs : List Reference} (h : Apart kept)
    (hany : ∀ x, kept.any (·.sameAs x) = rs.any (·.sameAs x)) : Represents kept rs where
  one := by
    intro r hr
    have hsome : rs.any (·.sameAs r) = true :=
      List.any_eq_true.mpr ⟨r, hr, sameAs_equivalence.refl r⟩
    rw [← hany] at hsome
    obtain ⟨k, hk, hkr⟩ := List.any_eq_true.mp hsome
    exact countP_sameAs_of_apart h hk hkr
  no_more := by
    intro k hk
    have hsome : kept.any (·.sameAs k) = true :=
      List.any_eq_true.mpr ⟨k, hk, sameAs_equivalence.refl k⟩
    rw [hany] at hsome
    obtain ⟨r, hr, hrk⟩ := List.any_eq_true.mp hsome
    exact ⟨r, hr, sameAs_equivalence.symm hrk⟩

/-- Only the members of a list count for what represents it. -/
theorem Represents.of_perm {kept rs rs' : List Reference} (h : Represents kept rs)
    (hperm : rs.Perm rs') : Represents kept rs' where
  one := by
    intro r hr
    exact h.one r (hperm.mem_iff.mpr hr)
  no_more := by
    intro k hk
    obtain ⟨r, hr, hsame⟩ := h.no_more k hk
    exact ⟨r, hperm.mem_iff.mp hr, hsame⟩

/-- References that are apart and cover the same are of the same number. -/
theorem length_eq_of_apart {xs ys : List Reference} (hxs : Apart xs) (hys : Apart ys)
    (hany : ∀ r, xs.any (·.sameAs r) = ys.any (·.sameAs r)) : xs.length = ys.length := by
  have hnodup {zs : List Reference} (h : Apart zs) : (zs.map fingerprint).Nodup := by
    refine List.pairwise_map.mpr (h.imp ?_)
    intro a b hab heq
    rw [sameAs_eq_true_iff.mpr heq] at hab
    cases hab
  have hmem (r : Reference) (zs : List Reference) :
      r.fingerprint ∈ zs.map fingerprint ↔ zs.any (·.sameAs r) = true := by
    simp only [List.mem_map, List.any_eq_true, sameAs_eq_true_iff]
  have hperm : (xs.map fingerprint).Perm (ys.map fingerprint) := by
    rw [List.perm_ext_iff_of_nodup (hnodup hxs) (hnodup hys)]
    intro f
    constructor
    · intro hf
      obtain ⟨r, -, rfl⟩ := List.mem_map.mp hf
      rwa [hmem, ← hany, ← hmem]
    · intro hf
      obtain ⟨r, -, rfl⟩ := List.mem_map.mp hf
      rwa [hmem, hany, ← hmem]
  simpa using hperm.length_eq

-- ---------------------------------------------------------------------------
-- The list without repetitions
-- ---------------------------------------------------------------------------

/-- One more reference, unless the same is kept already. -/
def keep (kept : List Reference) (r : Reference) : List Reference :=
  if kept.any (·.sameAs r) then kept else r :: kept

/-- Keeping what is new leaves references apart. -/
theorem apart_keep {kept : List Reference} (h : Apart kept) (r : Reference) :
    Apart (keep kept r) := by
  unfold keep
  split
  · exact h
  · next hnone =>
    refine List.pairwise_cons.mpr ⟨?_, h⟩
    intro k hk
    rw [sameAs_comm, Bool.eq_false_iff]
    exact fun hsame => hnone (List.any_eq_true.mpr ⟨k, hk, hsame⟩)

/-- What is kept covers what was covered, and the new reference. -/
theorem any_keep (kept : List Reference) (r x : Reference) :
    (keep kept r).any (·.sameAs x) = (kept.any (·.sameAs x) || r.sameAs x) := by
  unfold keep
  split
  · next hsome =>
    obtain ⟨k, hk, hkr⟩ := List.any_eq_true.mp hsome
    cases hrx : r.sameAs x with
    | false => rw [Bool.or_false]
    | true =>
      rw [Bool.or_true]
      exact List.any_eq_true.mpr ⟨k, hk, sameAs_equivalence.trans hkr hrx⟩
  · rw [List.any_cons, Bool.or_comm]

theorem distinct_eq (rs : List Reference) : distinct rs = (rs.foldl keep []).reverse := rfl

/-- References stay apart along a whole list. -/
theorem apart_foldl_keep {kept : List Reference} (h : Apart kept) (rs : List Reference) :
    Apart (rs.foldl keep kept) := by
  induction rs generalizing kept with
  | nil => exact h
  | cons r rs ih => exact ih (apart_keep h r)

/-- Along a whole list all of its references come to be covered. -/
theorem any_foldl_keep (kept rs : List Reference) (x : Reference) :
    (rs.foldl keep kept).any (·.sameAs x) =
      (kept.any (·.sameAs x) || rs.any (·.sameAs x)) := by
  induction rs generalizing kept with
  | nil => simp
  | cons r rs ih => rw [List.foldl_cons, ih, any_keep, List.any_cons, Bool.or_assoc]

/-- Distinct references are apart. -/
theorem apart_distinct (rs : List Reference) : Apart (distinct rs) := by
  rw [distinct_eq, Apart, List.pairwise_reverse]
  refine (apart_foldl_keep List.Pairwise.nil rs).imp ?_
  intro a b hab
  rwa [sameAs_comm]

/-- Distinct references cover what the list covers. -/
theorem any_distinct (rs : List Reference) (x : Reference) :
    (distinct rs).any (·.sameAs x) = rs.any (·.sameAs x) := by
  rw [distinct_eq, List.any_reverse, any_foldl_keep, List.any_nil, Bool.false_or]

theorem represents_distinct (rs : List Reference) : Represents (distinct rs) rs :=
  represents_of_apart (apart_distinct rs) (any_distinct rs)

-- ---------------------------------------------------------------------------
-- Hash sets
-- ---------------------------------------------------------------------------

section HashSets

variable {hash : List HashInput → UInt64}

theorem Keyed.beq_eq (a b : Keyed hash) : (a == b) = a.reference.sameAs b.reference := rfl

instance : EquivBEq (Keyed hash) where
  rfl := sameAs_equivalence.refl _
  symm h := sameAs_equivalence.symm h
  trans h h' := sameAs_equivalence.trans h h'

/-- References that are the same have the same hash, whatever the hash function. -/
instance : LawfulHashable (Keyed hash) where
  hash_eq _ _ h := congrArg hash (hashInputs_eq_iff.mpr h)

/-- A hash set contains what was inserted into it, up to sameness. -/
theorem contains_foldl_insert (set : Std.HashSet (Keyed hash)) (rs : List Reference)
    (x : Reference) :
    (rs.foldl (fun set r => set.insert ⟨r⟩) set).contains ⟨x⟩ =
      (set.contains ⟨x⟩ || rs.any (·.sameAs x)) := by
  induction rs generalizing set with
  | nil => simp
  | cons r rs ih =>
    rw [List.foldl_cons, ih, Std.HashSet.contains_insert, Keyed.beq_eq, List.any_cons,
      Bool.or_comm (r.sameAs x), Bool.or_assoc]

/-- The elements of a hash set are apart. -/
theorem apart_elements (set : Std.HashSet (Keyed hash)) : Apart (elements set) :=
  List.pairwise_map.mpr Std.HashSet.distinct_toList

/-- The elements of a hash set cover what it contains. -/
theorem any_elements (set : Std.HashSet (Keyed hash)) (x : Reference) :
    (elements set).any (·.sameAs x) = set.contains ⟨x⟩ := by
  rw [← Std.HashSet.contains_toList, List.contains_eq_any_beq, elements, List.any_map]
  congr 1
  funext k
  exact sameAs_comm k.reference x

/-- The elements of a hash set cover what was inserted. -/
theorem any_hashSet (hash : List HashInput → UInt64) (rs : List Reference) (x : Reference) :
    (elements (hashSet hash rs)).any (·.sameAs x) = rs.any (·.sameAs x) := by
  rw [any_elements, hashSet, contains_foldl_insert, Std.HashSet.contains_empty, Bool.false_or]

/-- A hash set holds one of each class of the references that were inserted. -/
theorem represents_hashSet (hash : List HashInput → UInt64) (rs : List Reference) :
    Represents (elements (hashSet hash rs)) rs :=
  represents_of_apart (apart_elements _) (any_hashSet hash rs)

end HashSets

/-- Sameness and hashing agree. References are the same if they point to the same
place and have the same set of tags, which is an equivalence, and exactly then a hash
function is given the same to read, item by item or only by the bytes. So a hash set
holds exactly one of each class of the same references, whatever its hash function
and whatever the order in which they were inserted. -/
theorem sameness_agrees_with_hashing :
    (∀ a b : Reference, a.sameAs b = true ↔
      a.locator = b.locator ∧ ∀ t, t ∈ a.metadata ↔ t ∈ b.metadata) ∧
    (Equivalence fun a b : Reference => a.sameAs b = true) ∧
    (∀ a b : Reference, (a.sameAs b = true ↔ a.hashInputs = b.hashInputs) ∧
      (a.sameAs b = true ↔ a.hashBytes = b.hashBytes)) ∧
    ∀ (hash : List HashInput → UInt64) (rs inserted : List Reference), inserted.Perm rs →
      Represents (elements (hashSet hash inserted)) rs ∧
      (hashSet hash inserted).size = (distinct rs).length := by
  refine ⟨fun a b => sameAs_iff, sameAs_equivalence,
    fun a b => ⟨hashInputs_eq_iff.symm, hashBytes_eq_iff.symm⟩, ?_⟩
  intro hash rs inserted hperm
  refine ⟨(represents_hashSet hash inserted).of_perm hperm, ?_⟩
  have hany (x : Reference) : (elements (hashSet hash inserted)).any (·.sameAs x) =
      (distinct rs).any (·.sameAs x) := by
    rw [any_hashSet, any_distinct]
    exact hperm.any_eq
  have hlength := length_eq_of_apart (apart_elements _) (apart_distinct rs) hany
  rwa [elements, List.length_map, Std.HashSet.length_toList] at hlength

/-- Two of three references are the same but for the order of their tags and a
repetition. A hash set holds two even if all hashes collide. -/
theorem sameness_agrees_with_hashing_collision :
    (hashSet (fun _ => 0) [⟨.directory "d".toList, ["y".toList, "x".toList, "x".toList]⟩,
      ⟨.directory "d".toList, ["x".toList]⟩,
      ⟨.directory "d".toList, ["x".toList, "y".toList]⟩]).size = 2 := by
  have hrepresents := sameness_agrees_with_hashing.2.2.2 (fun _ => 0)
    [⟨.directory "d".toList, ["x".toList, "y".toList]⟩, ⟨.directory "d".toList, ["x".toList]⟩,
      ⟨.directory "d".toList, ["y".toList, "x".toList, "x".toList]⟩] _ (List.reverse_perm _)
  exact hrepresents.2.trans (by decide)

end Reference

end RepoIdentity

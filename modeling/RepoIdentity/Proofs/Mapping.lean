import RepoIdentity.Proofs.Domain
import RepoIdentity.Proofs.Utf8

/-!
# Mapping leaves no capitals

Mapping makes capitals small, but that none comes back when the mapped name is
composed is not checked anywhere: it rests on the rows of four tables. A capital
in the composed name would have to be a part of a mapped character, and no such
character is in the image of the mapping (`Plain`, `plain_of_mapName`). What is
composed anew is no ASCII character.

* `Table.forall_mem_ofBlocks` — what is checked block by block holds of all rows;
* `isUpper_normalize` — plain text is composed without capitals;
* `Domain.isUpper_toAscii` — an ASCII form has no capitals.
-/

namespace RepoIdentity

namespace Unicode

-- ---------------------------------------------------------------------------
-- Rows in blocks
-- ---------------------------------------------------------------------------

/-- One character before what has been divided into words so far. -/
def scanWord (c : Char) (scanned : Text × List Text) : Text × List Text :=
  if c = ' ' ∨ c = '\n' then
    ([], if scanned.1.isEmpty then scanned.2 else scanned.1 :: scanned.2)
  else (c :: scanned.1, scanned.2)

theorem words_eq (s : Text) :
    words s = (scanWord '\n' (s.foldr scanWord ([], []))).2 := rfl

/-- Words that were found later are kept as they are. -/
theorem foldr_scanWord (s : Text) (later : List Text) :
    s.foldr scanWord ([], later) =
      ((s.foldr scanWord ([], [])).1, (s.foldr scanWord ([], [])).2 ++ later) := by
  induction s with
  | nil => rfl
  | cons c s ih =>
    rw [List.foldr_cons, List.foldr_cons, ih]
    unfold scanWord
    split
    · split <;> rfl
    · rfl

/-- A line break keeps the words on its sides apart. -/
theorem words_append (s t : Text) : words (s ++ '\n' :: t) = words s ++ words t := by
  have hline : scanWord '\n' (t.foldr scanWord ([], [])) = ([], words t) := rfl
  rw [words_eq, List.foldr_append, List.foldr_cons, hline, foldr_scanWord, words_eq s]
  unfold scanWord
  simp only [or_true, if_true]
  split <;> rfl

/-- The words of joined lines are those of the lines. -/
theorem words_join (pieces : List Text) :
    words (Text.join ['\n'] pieces) = pieces.flatMap words := by
  induction pieces with
  | nil => rfl
  | cons s rest ih =>
    cases rest with
    | nil => rw [Text.join, List.intercalate_singleton, List.flatMap_singleton]
    | cons t rest =>
      rw [Text.join, List.intercalate_cons_cons, List.append_assoc, List.singleton_append,
        words_append, List.flatMap_cons, ← ih]
      rfl

/-- Whether a class of rows holds all rows of a text. -/
def allRows (p : Row → Bool) (s : Text) : Bool := (words s).all fun w => p (Row.ofWord w)

/-- A block that is written down is checked character by character. -/
theorem allRows_ofList {p : Row → Bool} {s : Text} (h : allRows p s = true) :
    allRows p (String.ofList s).toList = true := by
  rw [String.toList_ofList]
  exact h

/-- What holds of the rows of every block holds of all rows of a table. -/
theorem Table.forall_mem_ofBlocks {p : Row → Bool} {blocks : List String}
    (h : ∀ b ∈ blocks, allRows p b.toList = true) :
    ∀ r ∈ Table.ofRows ("\n".intercalate blocks), p r = true := by
  intro r hr
  rw [Table.ofRows, List.mem_toArray, String.toList_intercalate] at hr
  obtain ⟨w, hw, rfl⟩ := List.mem_map.mp hr
  have hwords : words ("\n".toList.intercalate (blocks.map String.toList)) =
      (blocks.map String.toList).flatMap words := words_join _
  rw [hwords] at hw
  obtain ⟨s, hs, hws⟩ := List.mem_flatMap.mp hw
  obtain ⟨b, hb, rfl⟩ := List.mem_map.mp hs
  exact List.all_eq_true.mp (h b hb) w hws

-- ---------------------------------------------------------------------------
-- Capitals and what they are parts of
-- ---------------------------------------------------------------------------

/-- The ASCII capitals, and characters beyond ASCII that have one as a part. -/
def capitalRows : List Row :=
  [⟨0x41, 0x5A, 1, []⟩, ⟨0xC0, 0xD6, 1, []⟩, ⟨0xD9, 0xDD, 1, []⟩, ⟨0x100, 0x136, 2, []⟩,
    ⟨0x139, 0x147, 2, []⟩, ⟨0x14C, 0x178, 2, []⟩, ⟨0x179, 0x17D, 2, []⟩, ⟨0x1A0, 0x1A0, 1, []⟩,
    ⟨0x1AF, 0x1AF, 1, []⟩, ⟨0x1CD, 0x1DB, 2, []⟩, ⟨0x1DE, 0x1EC, 2, []⟩, ⟨0x1F4, 0x232, 2, []⟩,
    ⟨0x1E00, 0x1E94, 2, []⟩, ⟨0x1EA0, 0x1EF8, 2, []⟩, ⟨0x212A, 0x212B, 1, []⟩]

def hasCapital (n : Nat) : Bool := n ≤ 0x212B && capitalRows.any (·.covers n)

/-- A character that is no capital and has none as a part. -/
def Plain (c : Char) : Prop := hasCapital c.toNat = false

/-- Whether the places of a row, moved to begin at `start`, hold no capital. -/
def Row.isPlainFrom (r : Row) (start : Nat) : Bool :=
  0x212B < start || capitalRows.all fun capitals =>
    start + (r.last - r.first) < capitals.first || capitals.last < start ||
      (List.range (r.last - r.first + 1)).all fun k =>
        k % r.step != 0 || !capitals.covers (start + k)

/-- Whether all that a row takes characters to is plain. -/
def Row.hasPlainImage (r : Row) : Bool :=
  match r.image with
  | [n] => r.isPlainFrom n
  | ns => ns.all fun n => !hasCapital n

/-- Whether a row is for one character beyond ASCII, and has plain parts if that is
plain. -/
def Row.hasPlainParts (r : Row) : Bool :=
  r.first == r.last && 0x80 ≤ r.first &&
    (hasCapital r.first || r.image.all fun n => !hasCapital n)

set_option maxRecDepth 10000 in
/-- Nothing in the table is mapped to a capital. -/
theorem hasPlainImage_of_mem_mappedTable : ∀ r ∈ mappedTable, r.hasPlainImage = true := by
  unfold mappedTable Rows.mapped
  refine Table.forall_mem_ofBlocks ?_
  repeat
    refine List.forall_mem_cons.mpr ⟨?_, ?_⟩
    · apply allRows_ofList
      decide +kernel
  exact List.forall_mem_nil _

set_option maxRecDepth 10000 in
/-- No capital is valid as it is. -/
theorem isPlainFrom_of_mem_validTable : ∀ r ∈ validTable, r.isPlainFrom r.first = true := by
  unfold validTable Rows.valid
  refine Table.forall_mem_ofBlocks (p := fun r => r.isPlainFrom r.first) ?_
  repeat
    refine List.forall_mem_cons.mpr ⟨?_, ?_⟩
    · apply allRows_ofList
      decide +kernel
  exact List.forall_mem_nil _

set_option maxRecDepth 10000 in
/-- Composites take plain characters apart into plain ones. -/
theorem hasPlainParts_of_mem_compositeTable : ∀ r ∈ compositeTable, r.hasPlainParts = true := by
  unfold compositeTable Rows.composites
  refine Table.forall_mem_ofBlocks ?_
  repeat
    refine List.forall_mem_cons.mpr ⟨?_, ?_⟩
    · apply allRows_ofList
      decide +kernel
  exact List.forall_mem_nil _

set_option maxRecDepth 10000 in
/-- Parts that are never put together again are plain for plain characters. -/
theorem hasPlainParts_of_mem_oneWayTable : ∀ r ∈ oneWayTable, r.hasPlainParts = true := by
  unfold oneWayTable Rows.oneWay
  refine Table.forall_mem_ofBlocks ?_
  repeat
    refine List.forall_mem_cons.mpr ⟨?_, ?_⟩
    · apply allRows_ofList
      decide +kernel
  exact List.forall_mem_nil _

-- ---------------------------------------------------------------------------
-- Plain characters
-- ---------------------------------------------------------------------------

/-- A row that is found stands in the table and covers the character. -/
theorem Table.mem_of_row? {t : Table} {c : Char} {r : Row} (h : t.row? c = some r) :
    r ∈ t ∧ r.covers c.toNat = true := by
  obtain ⟨hfound, hcovers⟩ := Option.filter_eq_some_iff.mp h
  exact ⟨(Table.lastUpTo_spec hfound).1, hcovers⟩

/-- Capitals as code points. -/
theorem isUpper_iff {c : Char} : c.isUpper = true ↔ 65 ≤ c.toNat ∧ c.toNat ≤ 90 := by
  have hupper : c.isUpper = decide (65 ≤ c.val ∧ c.val ≤ 90) := rfl
  rw [hupper, decide_eq_true_eq, UInt32.le_iff_toNat_le,
    UInt32.le_iff_toNat_le]
  rfl

/-- A plain character is no capital. -/
theorem isUpper_of_plain {c : Char} (h : Plain c) : c.isUpper = false := by
  rw [Bool.eq_false_iff]
  intro hupper
  have hle := isUpper_iff.mp hupper
  have hcovers : (⟨0x41, 0x5A, 1, []⟩ : Row).covers c.toNat = true := by
    simp [Row.covers, hle, Nat.mod_one]
  have hcapital : hasCapital c.toNat = true :=
    Bool.and_eq_true_iff.mpr ⟨decide_eq_true (by omega),
      List.any_eq_true.mpr ⟨_, List.mem_cons_self, hcovers⟩⟩
  rw [h] at hcapital
  cases hcapital

theorem plain_ofNat {n : Nat} (h : hasCapital n = false) : Plain (Char.ofNat n) := by
  unfold Plain
  by_cases hvalid : n.isValidChar
  · rwa [Utf8.toNat_charOfNat hvalid]
  · rw [Char.ofNat, dif_neg hvalid]
    decide

/-- An ASCII character that is no capital is plain. -/
theorem plain_of_lt {c : Char} (hlt : c.toNat < 0x80) (h : c.isUpper = false) : Plain c := by
  have hall : ∀ n < 128, (Char.ofNat n).isUpper = false →
      hasCapital (Char.ofNat n).toNat = false := by decide
  exact Ascii.forall_of_forall_lt (P := fun c => c.isUpper = false → Plain c) hall hlt h

/-- In a range that is plain no character has a capital. -/
theorem hasCapital_of_isPlainFrom {r : Row} {start : Nat} {c : Char}
    (hplain : r.isPlainFrom start = true) (hcovers : r.covers c.toNat = true) :
    hasCapital (start + (c.toNat - r.first)) = false := by
  simp only [Row.covers, Bool.and_eq_true, decide_eq_true_eq, beq_iff_eq] at hcovers
  obtain ⟨⟨hfirst, hlast⟩, hstep⟩ := hcovers
  rw [hasCapital, Bool.and_eq_false_iff, decide_eq_false_iff_not, List.any_eq_false]
  rw [Row.isPlainFrom, Bool.or_eq_true, decide_eq_true_eq] at hplain
  rcases hplain with hbeyond | hrows
  · exact Or.inl (by omega)
  · refine Or.inr fun capitals hmem hcapital => ?_
    have hapart := List.all_eq_true.mp hrows capitals hmem
    simp only [Bool.or_eq_true, decide_eq_true_eq, or_assoc] at hapart
    rcases hapart with hbelow | habove | hplaces
    · simp only [Row.covers, Bool.and_eq_true, decide_eq_true_eq] at hcapital
      omega
    · simp only [Row.covers, Bool.and_eq_true, decide_eq_true_eq] at hcapital
      omega
    · have hplace := List.all_eq_true.mp hplaces (c.toNat - r.first) (List.mem_range.mpr (by omega))
      rw [hstep, hcapital] at hplace
      cases hplace

/-- A row with a plain image maps the characters that it covers to plain ones. -/
theorem plain_of_mem_imageOf {r : Row} {c d : Char} (hplain : r.hasPlainImage = true)
    (hcovers : r.covers c.toNat = true) (hd : d ∈ r.imageOf c) : Plain d := by
  unfold Row.hasPlainImage at hplain
  unfold Row.imageOf at hd
  split at hd
  · next n himage =>
    rw [himage] at hplain
    rw [List.mem_singleton] at hd
    subst hd
    exact plain_ofNat (hasCapital_of_isPlainFrom hplain hcovers)
  · next himage =>
    split at hplain
    · next n hone => exact absurd hone (himage n)
    · obtain ⟨n, hn, rfl⟩ := List.mem_map.mp hd
      exact plain_ofNat (by simpa using List.all_eq_true.mp hplain n hn)

/-- What is left of a character is plain. -/
def Treatment.IsPlain (c : Char) : Treatment → Prop
  | .valid => Plain c
  | .ignored => True
  | .mapped image => ∀ d ∈ image, Plain d
  | .disallowed => True

/-- Every character is treated plainly. -/
theorem isPlain_treatment (c : Char) : (treatment c).IsPlain c := by
  unfold treatment
  by_cases hascii : Ascii.isAscii c = true
  · have hlt : c.toNat < 0x80 := by simpa [Ascii.isAscii] using hascii
    rw [if_pos hascii]
    cases hupper : c.isUpper with
    | true =>
      -- the capitals are mapped to small letters
      have hall : ∀ n < 128, (Char.ofNat n).isUpper = true →
          hasCapital (Char.ofNat n).toLower.toNat = false := by decide
      intro d hd
      rw [List.mem_singleton] at hd
      rw [hd]
      exact Ascii.forall_of_forall_lt
        (P := fun c => c.isUpper = true → Plain c.toLower) hall hlt hupper
    | false => exact plain_of_lt hlt hupper
  · rw [if_neg hascii]
    cases hmapped : mappedTable.row? c with
    | some r =>
      obtain ⟨hr, hcovers⟩ := Table.mem_of_row? hmapped
      exact fun d hd => plain_of_mem_imageOf (hasPlainImage_of_mem_mappedTable r hr) hcovers hd
    | none =>
      cases hignored : ignoredTable.has c with
      | true => trivial
      | false =>
        cases hvalid : validTable.has c with
        | false => trivial
        | true =>
          -- what is valid is kept, and no capital is in that table
          obtain ⟨r, hrow⟩ := Option.isSome_iff_exists.mp hvalid
          obtain ⟨hr, hcovers⟩ := Table.mem_of_row? hrow
          have hplain := hasCapital_of_isPlainFrom (isPlainFrom_of_mem_validTable r hr) hcovers
          simp only [Row.covers, Bool.and_eq_true, decide_eq_true_eq] at hcovers
          rwa [show r.first + (c.toNat - r.first) = c.toNat by omega] at hplain

/-- What mapping makes of a name is plain. -/
theorem plain_of_mapName {s mapped : Text} (h : mapName s = some mapped) :
    ∀ d ∈ mapped, Plain d := by
  induction s generalizing mapped with
  | nil =>
    cases h
    simp
  | cons c rest ih =>
    have hplain := isPlain_treatment c
    rw [mapName] at h
    cases htreatment : treatment c with
    | valid =>
      rw [htreatment] at h hplain
      obtain ⟨m, hm, rfl⟩ := Option.map_eq_some_iff.mp h
      exact List.forall_mem_cons.mpr ⟨hplain, ih hm⟩
    | ignored =>
      rw [htreatment] at h
      exact ih h
    | mapped image =>
      rw [htreatment] at h hplain
      obtain ⟨m, hm, rfl⟩ := Option.map_eq_some_iff.mp h
      exact List.forall_mem_append.mpr ⟨hplain, ih hm⟩
    | disallowed =>
      rw [htreatment] at h
      cases h

-- ---------------------------------------------------------------------------
-- Taking apart and putting together
-- ---------------------------------------------------------------------------

/-- The parts of Hangul syllables are far from capitals. -/
theorem plain_of_mem_hangulParts? {c d : Char} {parts : Text} (h : hangulParts? c = some parts)
    (hd : d ∈ parts) : Plain d := by
  unfold hangulParts? at h
  dsimp only at h
  split at h
  · next hin =>
    have hpart : ∃ n, d = Char.ofNat n ∧ 0x1100 ≤ n ∧ n < 0x1200 := by
      split at h
      · cases h
        simp only [List.mem_cons, List.not_mem_nil, or_false] at hd
        rcases hd with hd | hd
        · exact ⟨_, hd, by omega, by omega⟩
        · exact ⟨_, hd, by omega, by omega⟩
      · cases h
        simp only [List.mem_cons, List.not_mem_nil, or_false] at hd
        rcases hd with hd | hd | hd
        · exact ⟨_, hd, by omega, by omega⟩
        · exact ⟨_, hd, by omega, by omega⟩
        · exact ⟨_, hd, by omega, by omega⟩
    have hall : ∀ k < 0x100, hasCapital (0x1100 + k) = false := by decide +kernel
    obtain ⟨n, rfl, hle, hlt⟩ := hpart
    obtain ⟨k, rfl⟩ := Nat.exists_eq_add_of_le hle
    exact plain_ofNat (hall k (by omega))
  · cases h

/-- A row with plain parts takes plain characters apart into plain ones. -/
theorem hasCapital_of_hasPlainParts {r : Row} {c : Char} (hparts : r.hasPlainParts = true)
    (hcovers : r.covers c.toNat = true) (h : Plain c) : ∀ n ∈ r.image, hasCapital n = false := by
  simp only [Row.hasPlainParts, Bool.and_eq_true, beq_iff_eq, Bool.or_eq_true] at hparts
  simp only [Row.covers, Bool.and_eq_true, decide_eq_true_eq] at hcovers
  have hfirst : r.first = c.toNat := by omega
  rw [hfirst, h] at hparts
  rcases hparts.2 with hcapital | hall
  · cases hcapital
  · intro n hn
    simpa using List.all_eq_true.mp hall n hn

/-- The parts of a plain character are plain, whether they are put together again or not. -/
theorem plain_of_oneWayParts? {c d : Char} {parts : Text} (h : Plain c)
    (hparts : oneWayParts? c = some parts) (hd : d ∈ parts) : Plain d := by
  obtain ⟨r, hrow, rfl⟩ := Option.map_eq_some_iff.mp hparts
  obtain ⟨hr, hcovers⟩ := Table.mem_of_row? hrow
  have hplain := hasCapital_of_hasPlainParts (hasPlainParts_of_mem_oneWayTable r hr) hcovers h
  obtain ⟨n, hn, rfl⟩ := List.mem_map.mp hd
  exact plain_ofNat (hplain n hn)

/-- Both halves of a plain character are plain. -/
theorem plain_of_pairOf? {c a b : Char} (h : Plain c) (hpair : pairOf? c = some (a, b)) :
    Plain a ∧ Plain b := by
  obtain ⟨r, hrow, himage⟩ := Option.bind_eq_some_iff.mp hpair
  obtain ⟨hr, hcovers⟩ := Table.mem_of_row? hrow
  have hplain := hasCapital_of_hasPlainParts (hasPlainParts_of_mem_compositeTable r hr) hcovers h
  split at himage
  · next m n hparts =>
    rw [Option.some.injEq, Prod.mk.injEq] at himage
    obtain ⟨rfl, rfl⟩ := himage
    rw [hparts] at hplain
    exact ⟨plain_ofNat (hplain m (by simp)), plain_ofNat (hplain n (by simp))⟩
  · cases himage

/-- Parts are plain if what a character is taken into is plain, by whatever functions
it is taken apart. -/
theorem plain_of_mem_partsBy {oneWay? : Char → Option Text} {pair? : Char → Option (Char × Char)}
    (honeWay : ∀ {c d parts}, Plain c → oneWay? c = some parts → d ∈ parts → Plain d)
    (hpair : ∀ {c a b}, Plain c → pair? c = some (a, b) → Plain a ∧ Plain b)
    {depth : Nat} {c d : Char} (h : Plain c) (hd : d ∈ partsBy oneWay? pair? depth c) :
    Plain d := by
  induction depth generalizing c d with
  | zero =>
    rw [partsBy, List.mem_singleton] at hd
    rwa [hd]
  | succ depth ih =>
    rw [partsBy] at hd
    split at hd
    · next parts hparts => exact plain_of_mem_hangulParts? hparts hd
    · split at hd
      · next parts hparts => exact honeWay h hparts hd
      · split at hd
        · next a b hab =>
          obtain ⟨ha, hb⟩ := hpair h hab
          rcases List.mem_append.mp hd with hd | hd
          · exact ih ha hd
          · rw [List.mem_singleton] at hd
            rwa [hd]
        · rw [List.mem_singleton] at hd
          rwa [hd]

/-- Taking a plain text apart leaves it plain. -/
theorem plain_of_mem_decompose {s : Text} (h : ∀ c ∈ s, Plain c) : ∀ d ∈ decompose s, Plain d := by
  intro d hd
  obtain ⟨c, hc, hdc⟩ := List.mem_flatMap.mp hd
  exact plain_of_mem_partsBy plain_of_oneWayParts? plain_of_pairOf? (h c hc) hdc

theorem mem_insertMark {c d : Char} {s : Text} (h : d ∈ insertMark c s) : d = c ∨ d ∈ s := by
  induction s with
  | nil => exact Or.inl (List.mem_singleton.mp h)
  | cons e rest ih =>
    rw [insertMark] at h
    split at h
    · rcases List.mem_cons.mp h with rfl | h
      · exact Or.inr List.mem_cons_self
      · exact (ih h).imp_right (List.mem_cons_of_mem e)
    · exact List.mem_cons.mp h

/-- Reordering brings in no characters. -/
theorem mem_reorder {c : Char} {s : Text} (h : c ∈ reorder s) : c ∈ s := by
  induction s with
  | nil => exact h
  | cons d rest ih =>
    rw [reorder, List.foldr_cons] at h
    split at h
    · exact (List.mem_cons.mp h).elim (fun he => he ▸ List.mem_cons_self)
        fun h => List.mem_cons_of_mem d (ih h)
    · exact (mem_insertMark h).elim (fun he => he ▸ List.mem_cons_self)
        fun h => List.mem_cons_of_mem d (ih h)

/-- A composed character is written down in a row. -/
theorem exists_row_of_compositeOf {key : Nat × Nat} {c : Char} (h : compositeOf[key]? = some c) :
    ∃ r ∈ compositeTable, c = Char.ofNat r.first := by
  revert key c
  rw [compositeOf, ← Array.foldl_toList]
  -- every row that is put in is one of the table
  refine List.foldlRecOn (motive := fun found : Std.HashMap (Nat × Nat) Char =>
    ∀ {key : Nat × Nat} {c : Char}, found[key]? = some c →
      ∃ r ∈ compositeTable, c = Char.ofNat r.first) _ _ (by simp) ?_
  intro found hfound r hr key c hc
  split at hc
  · rw [Std.HashMap.getElem?_insert] at hc
    split at hc
    · exact ⟨r, Array.mem_toList_iff.mp hr, (Option.some.inj hc).symm⟩
    · exact hfound hc
  · exact hfound hc

theorem isUpper_ofNat {n : Nat} (h : 0x80 ≤ n) : (Char.ofNat n).isUpper = false := by
  rw [Bool.eq_false_iff]
  intro hupper
  have hle := isUpper_iff.mp hupper
  by_cases hvalid : n.isValidChar
  · rw [Utf8.toNat_charOfNat hvalid] at hle
    omega
  · rw [Char.ofNat, dif_neg hvalid] at hle
    exact absurd hle.1 (by decide)

/-- No capital is put together from two characters. -/
theorem isUpper_of_composePair? {a b c : Char} (h : composePair? a b = some c) :
    c.isUpper = false := by
  rcases Option.or_eq_some_iff.mp h with h | ⟨-, h⟩
  · unfold hangulPair? at h
    dsimp only at h
    split at h
    · rw [← Option.some.inj h]
      exact isUpper_ofNat (by omega)
    · split at h
      · rw [← Option.some.inj h]
        exact isUpper_ofNat (by omega)
      · cases h
  · obtain ⟨r, hr, rfl⟩ := exists_row_of_compositeOf h
    have hparts := hasPlainParts_of_mem_compositeTable r hr
    simp only [Row.hasPlainParts, Bool.and_eq_true, decide_eq_true_eq] at hparts
    exact isUpper_ofNat hparts.1.2

/-- Composing brings in no capitals, from any state on. -/
theorem isUpper_composeFrom {starter : Char} {kept s : Text} (hstarter : starter.isUpper = false)
    (hkept : ∀ c ∈ kept, c.isUpper = false) (hs : ∀ c ∈ s, c.isUpper = false) :
    ∀ c ∈ composeFrom starter kept s, c.isUpper = false := by
  induction s generalizing starter kept with
  | nil =>
    intro c hc
    rw [composeFrom] at hc
    rcases List.mem_cons.mp hc with rfl | hc
    · exact hstarter
    · exact hkept c (List.mem_reverse.mp hc)
  | cons d rest ih =>
    have hd := hs d List.mem_cons_self
    have hrest := fun c hc => hs c (List.mem_cons_of_mem d hc)
    rw [composeFrom.eq_def]
    dsimp only
    split
    · next composed hpair =>
      -- a character is put together with the one before it, if nothing is in between
      have hopen (blocked : Bool)
          (h : (if blocked = true then none else composePair? starter d) = some composed) :
          composed.isUpper = false := by
        cases blocked with
        | true => cases h
        | false => exact isUpper_of_composePair? h
      exact ih (hopen _ hpair) hkept hrest
    · split
      · intro c hc
        rcases List.mem_append.mp hc with hc | hc
        · rcases List.mem_cons.mp hc with rfl | hc
          · exact hstarter
          · exact hkept c (List.mem_reverse.mp hc)
        · exact ih hd (by simp) hrest c hc
      · refine ih hstarter ?_ hrest
        intro c hc
        rcases List.mem_cons.mp hc with rfl | hc
        · exact hd
        · exact hkept c hc

theorem isUpper_compose {s : Text} (h : ∀ c ∈ s, c.isUpper = false) :
    ∀ c ∈ compose s, c.isUpper = false := by
  induction s with
  | nil => exact h
  | cons c rest ih =>
    have hrest := fun d hd => h d (List.mem_cons_of_mem c hd)
    rw [compose]
    split
    · exact isUpper_composeFrom (h c List.mem_cons_self) (by simp) hrest
    · intro d hd
      rcases List.mem_cons.mp hd with rfl | hd
      · exact h d List.mem_cons_self
      · exact ih hrest d hd

/-- Plain text is composed without capitals. -/
theorem isUpper_normalize {s : Text} (h : ∀ c ∈ s, Plain c) :
    ∀ c ∈ normalize s, c.isUpper = false := by
  unfold normalize
  split
  · exact fun c hc => isUpper_of_plain (h c hc)
  · refine isUpper_compose fun c hc => ?_
    exact isUpper_of_plain (plain_of_mem_decompose h c (mem_reorder hc))

end Unicode

namespace Domain

/-- An ASCII form has no capitals. -/
theorem isUpper_toAscii {name ascii : Text} (h : toAscii name = some ascii) :
    ∀ c ∈ ascii, c.isUpper = false := by
  intro c hc
  obtain ⟨mapped, hmapped, -, -, hfrom⟩ := exists_of_mem_toAscii h hc
  rcases hfrom with hcm | rfl | ⟨d, hd, rfl⟩ | hmark | rfl
  · exact Unicode.isUpper_normalize (Unicode.plain_of_mapName hmapped) c hcm
  · rfl
  · have hall : ∀ d < 36, (Punycode.digit d).isUpper = false := by decide
    exact hall d hd
  · have hall : punycodeMark.any Char.isUpper = false := by decide
    simpa using List.any_eq_false.mp hall c hmark
  · rfl

end Domain

end RepoIdentity

import RepoIdentity.Domain.Name
import RepoIdentity.Proofs.Text

/-!
# The ASCII form of a domain name

What comes out of `Domain.toAscii`, and which names it leaves alone.

* `Unicode.isMark_of_lt` — no mark is numbered below U+0300, a fact about the
  rows of the table;
* `Punycode.mem_encode` — Punycode is written with the ASCII characters of the
  label, hyphens and digits;
* `mem_toAscii` — an ASCII form is ASCII and holds no delimiter;
* `toAscii_eq_self` — a name without capitals whose labels are not marked as
  Punycode is its own ASCII form.
-/

namespace RepoIdentity

-- ---------------------------------------------------------------------------
-- Tables
-- ---------------------------------------------------------------------------

namespace Unicode

/-- A row that is found stands in the table and begins at or before the code
point. -/
theorem Table.lastUpTo_spec {t : Table} {n lo hi : Nat} {r : Row}
    (h : t.lastUpTo n lo hi = some r) : r ∈ t ∧ r.first ≤ n := by
  fun_induction Table.lastUpTo t n lo hi with
  | case1 => cases h
  | case2 lo hi _ found hfound hle ih =>
    rw [Option.or_eq_some_iff] at h
    rcases h with h | ⟨-, h⟩
    · exact ih h
    · cases h
      exact ⟨Array.mem_of_getElem? hfound, hle⟩
  | case3 _ _ _ _ _ _ ih => exact ih h
  | case4 => cases h

/-- A character is in no table whose rows all begin after it. -/
theorem Table.has_eq_false {t : Table} {c : Char} (h : ∀ r ∈ t, c.toNat < r.first) :
    t.has c = false := by
  rw [Table.has, Table.row?, Option.isSome_eq_false_iff, Option.isNone_iff_eq_none,
    Option.filter_eq_none_iff]
  intro r hr
  obtain ⟨hmem, hle⟩ := Table.lastUpTo_spec hr
  have := h r hmem
  omega

/-- What holds of all words of a text holds of all rows that they state. -/
theorem Table.forall_mem_ofRows {l : Text} {p : Row → Bool}
    (h : ((words l).map Row.ofWord).all p = true) :
    ∀ r ∈ Table.ofRows (String.ofList l), p r = true := by
  intro r hr
  rw [Table.ofRows, String.toList_ofList, List.mem_toArray] at hr
  exact List.all_eq_true.mp h r hr

set_option maxRecDepth 100000 in
theorem le_first_of_mem_markTable : ∀ r ∈ markTable, decide (0x300 ≤ r.first) = true :=
  Table.forall_mem_ofRows (by decide +kernel)

/-- No mark is numbered below U+0300. -/
theorem isMark_of_lt {c : Char} (h : c.toNat < 0x300) : isMark c = false := by
  refine Table.has_eq_false fun r hr => ?_
  have := of_decide_eq_true (le_first_of_mem_markTable r hr)
  omega

/-- A text without joiners has none out of place. -/
theorem joinersFit_of_isAscii {s : Text} (h : ∀ c ∈ s, Ascii.isAscii c = true) (before : Text) :
    joinersFit before s = true := by
  induction s generalizing before with
  | nil => rfl
  | cons c s ih =>
    have hc : c.toNat < 0x80 := by simpa [Ascii.isAscii] using h c List.mem_cons_self
    unfold joinersFit
    rw [ih (fun d hd => h d (List.mem_cons_of_mem c hd)), Bool.and_true]
    split <;> first | rfl | omega

/-- No ASCII character is written from right to left. -/
theorem isRightToLeft_bidiClass {c : Char} (h : Ascii.isAscii c = true) :
    (bidiClass c).isRightToLeft = false := by
  rw [bidiClass, if_pos h]
  repeat' split
  all_goals rfl

theorem bidiFits_of_isAscii {labels : List Text}
    (h : ∀ l ∈ labels, ∀ c ∈ l, Ascii.isAscii c = true) : bidiFits labels = true := by
  have hnone : (labels.any fun l => l.any fun c => (bidiClass c).isRightToLeft) = false := by
    rw [List.any_eq_false]
    intro l hl
    rw [Bool.not_eq_true, List.any_eq_false]
    intro c hc
    rw [isRightToLeft_bidiClass (h l hl c hc)]
    simp
  rw [bidiFits, hnone]
  rfl

/-- Small ASCII characters stand for themselves. -/
theorem mapName_eq_self {s : Text}
    (h : ∀ c ∈ s, Ascii.isAscii c = true ∧ c.isUpper = false) : mapName s = some s := by
  induction s with
  | nil => rfl
  | cons c s ih =>
    obtain ⟨hascii, hsmall⟩ := h c List.mem_cons_self
    have hvalid : treatment c = .valid := by rw [treatment, if_pos hascii, hsmall]; rfl
    rw [mapName, hvalid, ih fun d hd => h d (List.mem_cons_of_mem c hd)]
    rfl

end Unicode

namespace Domain

-- ---------------------------------------------------------------------------
-- Characters of Punycode
-- ---------------------------------------------------------------------------

namespace Punycode

/-- The digits of Punycode. -/
def IsDigit (c : Char) : Prop := ∃ d < 36, c = digit d

/-- A number is written in digits of the code. -/
theorem isDigit_of_mem_numberDigits {bias position n : Nat} {c : Char}
    (hc : c ∈ numberDigits bias position n) : IsDigit c := by
  have hle := threshold_le position bias
  fun_induction numberDigits bias position n with
  | case1 position n t hlt =>
    rw [List.mem_singleton] at hc
    exact ⟨n, by omega, hc⟩
  | case2 position n t hlt ih =>
    rcases List.mem_cons.mp hc with rfl | hc
    · have hmod := Nat.mod_lt (n - t) (show 0 < 36 - t by omega)
      exact ⟨_, by omega, rfl⟩
    · exact ih hc (threshold_le _ bias)

/-- What is written while one character is passed consists of digits. -/
theorem Writer.isDigit_pass {basic n : Nat} {w : Writer} (h : ∀ c ∈ w.output, IsDigit c)
    (d : Char) : ∀ c ∈ (w.pass basic n d).output, IsDigit c := by
  unfold Writer.pass
  split
  · exact h
  · split
    · intro c hc
      rcases List.mem_append.mp hc with hc | hc
      · exact h c hc
      · exact isDigit_of_mem_numberDigits hc
    · exact h

/-- So does what is written while the whole label is passed. -/
theorem Writer.isDigit_foldl_pass {basic n : Nat} (label : Text) {w : Writer}
    (h : ∀ c ∈ w.output, IsDigit c) :
    ∀ c ∈ (label.foldl (Writer.pass basic n) w).output, IsDigit c := by
  induction label generalizing w with
  | nil => exact h
  | cons d label ih => exact ih (Writer.isDigit_pass h d)

/-- And what is written for all numbers. -/
theorem Writer.isDigit_insertAll {label : Text} {basic : Nat} (ns : List Nat) {next : Nat}
    {w : Writer} (h : ∀ c ∈ w.output, IsDigit c) :
    ∀ c ∈ (Writer.insertAll label basic ns next w).output, IsDigit c := by
  induction ns generalizing next w with
  | nil => exact h
  | cons n ns ih =>
    refine ih ?_
    exact Writer.isDigit_foldl_pass label
      (w := { w with delta := w.delta + (n - next) * (w.length + 1) }) h

/-- The characters that the extended form of a label is written with. -/
theorem mem_encode {label : Text} {c : Char} (h : c ∈ encode label) :
    (c ∈ label ∧ Ascii.isAscii c = true) ∨ c = '-' ∨ IsDigit c := by
  rw [encode, List.mem_append] at h
  rcases h with h | h
  · have hbasic : c ∈ label.filter (fun c => c.toNat < 0x80) ∨ c = '-' := by
      split at h
      · cases h
      · simpa using h
    rcases hbasic with hc | hc
    · exact Or.inl (by simpa [Ascii.isAscii] using hc)
    · exact Or.inr (Or.inl hc)
  · exact Or.inr (Or.inr (Writer.isDigit_insertAll _ (by simp) c h))

end Punycode

-- ---------------------------------------------------------------------------
-- Characters of ASCII forms
-- ---------------------------------------------------------------------------

/-- Every digit of Punycode may stand in a domain name. -/
theorem isForbidden_of_isDigit {c : Char} (h : Punycode.IsDigit c) :
    Ascii.isAscii c = true ∧ isForbidden c = false := by
  have hall : ∀ d < 36, Ascii.isAscii (Punycode.digit d) = true ∧
      isForbidden (Punycode.digit d) = false := by decide
  obtain ⟨d, hd, rfl⟩ := h
  exact hall d hd

/-- A code that is read is ASCII. -/
theorem isAscii_of_readPunycode {code meaning : Text} (h : readPunycode code = some meaning) :
    ∀ c ∈ code, Ascii.isAscii c = true := by
  unfold readPunycode at h
  split at h
  · cases h
  · next hcode =>
    simp only [Bool.or_eq_true, Bool.not_eq_true', not_or, Bool.not_eq_false] at hcode
    exact List.all_eq_true.mp hcode.1.1

/-- The characters of a label in ASCII are those of the label as it was spelled,
if they are ASCII, and digits and hyphens of Punycode. -/
theorem Label.mem_ascii {s : Text} {l : Label} (h : Label.read s = some l) {c : Char}
    (hc : c ∈ l.ascii) :
    Ascii.isAscii c = true ∧ (c ∈ s ∨ c = '-' ∨ Punycode.IsDigit c ∨ c ∈ punycodeMark) := by
  have hmark : ∀ d ∈ punycodeMark, Ascii.isAscii d = true :=
    List.all_eq_true.mp (show punycodeMark.all Ascii.isAscii = true by decide)
  unfold Label.read at h
  split at h
  · -- a label that was spelled in Punycode is kept
    next code hcode =>
    split at h
    · next meaning hmeaning =>
      split at h
      · cases h
        refine ⟨?_, Or.inl hc⟩
        rw [Text.eq_append_of_dropPrefix? hcode] at hc
        rcases List.mem_append.mp hc with hc | hc
        · exact hmark c hc
        · exact isAscii_of_readPunycode hmeaning c hc
      · cases h
    · cases h
  · split at h
    · cases h
    · split at h
      · -- an ASCII label is kept too, and any other is written in Punycode
        next hall =>
        cases h
        exact ⟨List.all_eq_true.mp hall c hc, Or.inl hc⟩
      · cases h
        rcases List.mem_append.mp hc with hc | hc
        · exact ⟨hmark c hc, Or.inr (Or.inr (Or.inr hc))⟩
        · rcases Punycode.mem_encode hc with ⟨hs, hascii⟩ | rfl | hdigit
          · exact ⟨hascii, Or.inl hs⟩
          · exact ⟨rfl, Or.inr (Or.inl rfl)⟩
          · exact ⟨(isForbidden_of_isDigit hdigit).1, Or.inr (Or.inr (Or.inl hdigit))⟩

/-- Every label comes from one of the texts. -/
theorem Label.exists_of_mem_readAll {pieces : List Text} {labels : List Label}
    (h : Label.readAll pieces = some labels) {l : Label} (hl : l ∈ labels) :
    ∃ s ∈ pieces, Label.read s = some l := by
  induction pieces generalizing labels with
  | nil =>
    cases h
    cases hl
  | cons s rest ih =>
    unfold Label.readAll at h
    split at h
    · next l' ls hl' hls =>
      cases h
      rcases List.mem_cons.mp hl with rfl | hl
      · exact ⟨s, by simp, hl'⟩
      · obtain ⟨s', hs', hread⟩ := ih hls hl
        exact ⟨s', List.mem_cons_of_mem s hs', hread⟩
    · cases h

/-- Where a character of an ASCII form comes from: the mapped and composed name, a
label in Punycode, or the dot between two labels. -/
theorem exists_of_mem_toAscii {name ascii : Text} (h : toAscii name = some ascii) {c : Char}
    (hc : c ∈ ascii) :
    ∃ mapped, Unicode.mapName name = some mapped ∧
      (∀ d ∈ Unicode.normalize mapped, isForbidden d = false) ∧ Ascii.isAscii c = true ∧
      (c ∈ Unicode.normalize mapped ∨ c = '-' ∨ Punycode.IsDigit c ∨ c ∈ punycodeMark ∨
        c = '.') := by
  unfold toAscii at h
  split at h
  · cases h
  · next mapped hmapped =>
    dsimp only at h
    split at h
    · cases h
    · next hfree =>
      split at h
      · cases h
      · next labels hlabels =>
        split at h
        · cases h
          refine ⟨mapped, hmapped, fun d hd => ?_, ?_⟩
          · rw [Bool.not_eq_true, List.any_eq_false] at hfree
            simpa using hfree d hd
          · -- between the labels, or in one of them
            rcases Text.mem_of_mem_join hc with hc | ⟨p, hp, hcp⟩
            · rw [List.mem_singleton] at hc
              subst hc
              simp [Ascii.isAscii]
            · obtain ⟨l, hl, rfl⟩ := List.mem_map.mp hp
              obtain ⟨s, hs, hread⟩ := Label.exists_of_mem_readAll hlabels hl
              obtain ⟨hascii, hfrom⟩ := Label.mem_ascii hread hcp
              refine ⟨hascii, ?_⟩
              rcases hfrom with hcs | hhyphen | hdigit | hmark
              · exact Or.inl (Text.mem_of_mem_splitOn hs hcs)
              · exact Or.inr (Or.inl hhyphen)
              · exact Or.inr (Or.inr (Or.inl hdigit))
              · exact Or.inr (Or.inr (Or.inr (Or.inl hmark)))
        · cases h

/-- The characters of an ASCII form are ASCII and none of the delimiters. -/
theorem mem_toAscii {name ascii : Text} (h : toAscii name = some ascii) {c : Char}
    (hc : c ∈ ascii) : Ascii.isAscii c = true ∧ isForbidden c = false := by
  obtain ⟨mapped, -, hfree, hascii, hfrom⟩ := exists_of_mem_toAscii h hc
  refine ⟨hascii, ?_⟩
  rcases hfrom with hcm | rfl | hdigit | hmark | rfl
  · exact hfree c hcm
  · rfl
  · exact (isForbidden_of_isDigit hdigit).2
  · have hall : punycodeMark.any isForbidden = false := by decide
    simpa using List.any_eq_false.mp hall c hmark
  · rfl

-- ---------------------------------------------------------------------------
-- Names that are their own ASCII form
-- ---------------------------------------------------------------------------

/-- An ASCII label that is not marked as Punycode stands for itself. -/
theorem Label.read_eq_self {s : Text} (hascii : ∀ c ∈ s, Ascii.isAscii c = true)
    (hmark : ¬ punycodeMark <+: s) : Label.read s = some ⟨s, s⟩ := by
  have hdrop : Text.dropPrefix? punycodeMark s = none := by
    rw [← Option.not_isSome_iff_eq_none, Text.dropPrefix?_isSome_iff]
    exact hmark
  have hall : s.all Ascii.isAscii = true := List.all_eq_true.mpr hascii
  have hfit : charactersFit s = true := by
    unfold charactersFit
    rw [hall, Unicode.joinersFit_of_isAscii hascii]
    cases s with
    | nil => rfl
    | cons c s =>
      have hc : c.toNat < 0x80 := by simpa [Ascii.isAscii] using hascii c List.mem_cons_self
      simp only [Unicode.isMark_of_lt (show c.toNat < 0x300 by omega)]
      rfl
  rw [Label.read, hdrop, hfit, hall]
  rfl

theorem Label.readAll_eq_self {pieces : List Text}
    (h : ∀ s ∈ pieces, Label.read s = some ⟨s, s⟩) :
    Label.readAll pieces = some (pieces.map fun s => ⟨s, s⟩) := by
  induction pieces with
  | nil => rfl
  | cons s rest ih =>
    rw [Label.readAll, h s List.mem_cons_self, ih fun s' hs' => h s' (List.mem_cons_of_mem s hs')]
    rfl

/-- A name of small ASCII characters, none of them a delimiter, whose labels are
not marked as Punycode is its own ASCII form. -/
theorem toAscii_eq_self {name : Text}
    (hchars : ∀ c ∈ name, Ascii.isAscii c = true ∧ c.isUpper = false ∧ isForbidden c = false)
    (hmark : ∀ l ∈ Text.splitOn '.' name, ¬ punycodeMark <+: l) : toAscii name = some name := by
  have hmap : Unicode.mapName name = some name :=
    Unicode.mapName_eq_self fun c hc => ⟨(hchars c hc).1, (hchars c hc).2.1⟩
  have hnormal : Unicode.normalize name = name := by
    refine Unicode.normalize_of_lt fun c hc => ?_
    have hlt : c.toNat < 0x80 := by simpa [Ascii.isAscii] using (hchars c hc).1
    omega
  have hfree : name.any isForbidden = false := by
    rw [List.any_eq_false]
    intro c hc
    simp [(hchars c hc).2.2]
  have hascii : ∀ l ∈ Text.splitOn '.' name, ∀ c ∈ l, Ascii.isAscii c = true :=
    fun l hl c hc => (hchars c (Text.mem_of_mem_splitOn hl hc)).1
  have hlabels := Label.readAll_eq_self fun l hl => Label.read_eq_self (hascii l hl) (hmark l hl)
  have hmeanings : ((Text.splitOn '.' name).map fun s => (⟨s, s⟩ : Label)).map (·.meaning) =
      Text.splitOn '.' name := by
    rw [List.map_map]
    exact List.map_id _
  have hasciis : ((Text.splitOn '.' name).map fun s => (⟨s, s⟩ : Label)).map (·.ascii) =
      Text.splitOn '.' name := by
    rw [List.map_map]
    exact List.map_id _
  rw [toAscii, hmap]
  simp only [hnormal, hfree, hlabels, hmeanings, hasciis, Unicode.bidiFits_of_isAscii hascii,
    Text.join_splitOn, Bool.false_eq_true, if_false, if_true]

/-- A name of small letters, figures and dots is its own ASCII form. -/
theorem toAscii_of_alphanum {name : Text}
    (h : ∀ c ∈ name, c.isLower = true ∨ c.isDigit = true ∨ c = '.') :
    toAscii name = some name := by
  have hclass : ∀ n < 128, (Char.ofNat n).isLower = true ∨ (Char.ofNat n).isDigit = true ∨
      Char.ofNat n = '.' → Ascii.isAscii (Char.ofNat n) = true ∧ (Char.ofNat n).isUpper = false ∧
        isForbidden (Char.ofNat n) = false ∧ Char.ofNat n ≠ '-' := by decide
  have hchars : ∀ c ∈ name, Ascii.isAscii c = true ∧ c.isUpper = false ∧ isForbidden c = false ∧
      c ≠ '-' := by
    intro c hc
    have hlt : c.toNat < 128 := by
      rcases h c hc with hl | hd | rfl
      · exact Ascii.toNat_lt_of_isLower hl
      · exact Ascii.toNat_lt_of_isDigit hd
      · decide
    exact Ascii.forall_of_forall_lt (P := fun c => c.isLower = true ∨ c.isDigit = true ∨ c = '.' →
      Ascii.isAscii c = true ∧ c.isUpper = false ∧ isForbidden c = false ∧ c ≠ '-') hclass hlt
        (h c hc)
  refine toAscii_eq_self (fun c hc => ?_) fun l hl hmark => ?_
  · obtain ⟨hascii, hupper, hfree, -⟩ := hchars c hc
    exact ⟨hascii, hupper, hfree⟩
  · have hhyphen : '-' ∈ name :=
      Text.mem_of_mem_splitOn hl (hmark.subset (by decide : '-' ∈ punycodeMark))
    exact (hchars '-' hhyphen).2.2.2 rfl

end Domain

end RepoIdentity

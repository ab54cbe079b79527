import Mathlib.Data.List.DropRight
import RepoIdentity.Text.Ascii

/-!
# Cutting and joining texts

The laws behind every reader of the library: a text is cut where a character
first stands and nowhere else, pieces are joined and split again without loss,
and trimming touches only the ends.

* `cutAt_append`, `eq_of_append_cons` — the first occurrence of a character
  divides a text in one way, and `append_cons_eq_append_cons_iff`, in which ways any
  occurrence does;
* `cutAround_eq_some_iff` — a text is cut around the first of its marks;
* `splitOn_join`, `join_splitOn` — splitting and joining undo each other;
* `nil_mem_splitOn_iff` — when there is nothing between two cuts;
* `hasMark_iff` — a mark occurs in a text exactly if it is an infix of it;
* `trimEnd_append`, `trim_cons` — what trimming leaves of a longer text, and
  `exists_replicate_trim`, what it takes away.
-/

namespace RepoIdentity

/-- A result that was mapped is the image of a result. -/
theorem exists_of_map_eq_ok {ε α β : Type} {f : α → β} {x : Except ε α} {b : β}
    (h : x.map f = .ok b) : ∃ a, x = .ok a ∧ b = f a := by
  cases x with
  | error e => cases h
  | ok a => exact ⟨a, rfl, (Except.ok.inj h).symm⟩

-- ---------------------------------------------------------------------------
-- ASCII characters
-- ---------------------------------------------------------------------------

namespace Ascii

/-- What holds of the first 128 code points holds of every ASCII character. -/
theorem forall_of_forall_lt {P : Char → Prop} (h : ∀ n < 128, P (Char.ofNat n)) {c : Char}
    (hc : c.toNat < 128) : P c := by
  have hp := h c.toNat hc
  rwa [Char.ofNat_toNat] at hp

theorem toNat_lt_of_isLower {c : Char} (h : c.isLower = true) : c.toNat < 128 := by
  obtain ⟨-, hz⟩ := Bool.and_eq_true_iff.mp h
  have hle : c.toNat ≤ 122 := of_decide_eq_true hz
  omega

theorem toNat_lt_of_isDigit {c : Char} (h : c.isDigit = true) : c.toNat < 128 := by
  simp only [Char.isDigit, ge_iff_le, Bool.and_eq_true, decide_eq_true_eq] at h
  have hle : c.toNat ≤ 57 := h.2
  omega

/-- Letters and digits are ASCII. -/
theorem toNat_lt_of_isAlphanum {c : Char} (h : isAlphanum c = true) : c.toNat < 128 := by
  have hkinds : ((c.isUpper || c.isLower) || c.isDigit) = true := h
  rw [Bool.or_eq_true, Bool.or_eq_true] at hkinds
  rcases hkinds with (h | h) | h
  · obtain ⟨-, hz⟩ := of_decide_eq_true h
    have hle : c.toNat ≤ 90 := hz
    omega
  · exact toNat_lt_of_isLower h
  · exact toNat_lt_of_isDigit h

/-- Hexadecimal digits stand between the digit zero and the small letter f. -/
theorem bounds_of_isHexDigit {c : Char} (h : isHexDigit c = true) :
    0x30 ≤ c.toNat ∧ c.toNat ≤ 0x66 := by
  have hle (a b : Char) : a ≤ b ↔ a.toNat ≤ b.toNat := Iff.rfl
  rw [isHexDigit, hexValue?] at h
  split at h
  · next hd =>
    simp only [Char.isDigit, ge_iff_le, Bool.and_eq_true, decide_eq_true_eq] at hd
    have hlow : 48 ≤ c.toNat := hd.1
    have hhigh : c.toNat ≤ 57 := hd.2
    omega
  · split at h
    · next hd =>
      have hlow : 97 ≤ c.toNat := (hle _ _).mp hd.1
      have hhigh : c.toNat ≤ 102 := (hle _ _).mp hd.2
      omega
    · split at h
      · next hd =>
        have hlow : 65 ≤ c.toNat := (hle _ _).mp hd.1
        have hhigh : c.toNat ≤ 70 := (hle _ _).mp hd.2
        omega
      · cases h

/-- Only an e of either case becomes a small e; the dot, the percent sign and the
digit stay what they are. -/
theorem eq_of_toLower {c : Char} :
    (c.toLower = '.' → c = '.') ∧ (c.toLower = '%' → c = '%') ∧ (c.toLower = '2' → c = '2') ∧
      (c.toLower = 'e' → c = 'e' ∨ c = 'E') := by
  by_cases hlt : c.toNat < 128
  · exact forall_of_forall_lt (P := fun c =>
      (c.toLower = '.' → c = '.') ∧ (c.toLower = '%' → c = '%') ∧ (c.toLower = '2' → c = '2') ∧
        (c.toLower = 'e' → c = 'e' ∨ c = 'E')) (by decide) hlt
  · have hself : c.toLower = c := by
      refine dif_neg ?_
      rintro ⟨-, hle⟩
      have hsmall : c.toNat ≤ 90 := hle
      omega
    rw [hself]
    exact ⟨id, id, id, Or.inl⟩

end Ascii

namespace Text

-- ---------------------------------------------------------------------------
-- Cutting
-- ---------------------------------------------------------------------------

/-- A text is cut at the first place where the character stands. -/
theorem cutAt_append {c : Char} {before : Text} (after : Text) (h : c ∉ before) :
    cutAt c (before ++ c :: after) = some (before, after) := by
  induction before with
  | nil => simp [cutAt]
  | cons d before ih =>
    rw [List.mem_cons, not_or] at h
    rw [List.cons_append, cutAt, if_neg (Ne.symm h.1), ih h.2]
    rfl

/-- The first occurrence of a character divides a text in one way. -/
theorem eq_of_append_cons {c : Char} {a a' b b' : Text} (ha : c ∉ a) (ha' : c ∉ a')
    (h : a ++ c :: b = a' ++ c :: b') : a = a' ∧ b = b' := by
  have hcut : cutAt c (a ++ c :: b) = cutAt c (a' ++ c :: b') := by rw [h]
  rw [cutAt_append b ha, cutAt_append b' ha'] at hcut
  simpa using hcut

/-- The last occurrence of a character divides a text in one way. -/
theorem eq_of_append_cons_last {c : Char} {a a' b b' : Text} (hb : c ∉ b) (hb' : c ∉ b')
    (h : a ++ c :: b = a' ++ c :: b') : a = a' ∧ b = b' := by
  have hrev : b.reverse ++ c :: a.reverse = b'.reverse ++ c :: a'.reverse := by
    simpa using congrArg List.reverse h
  obtain ⟨h₁, h₂⟩ := eq_of_append_cons (by simpa using hb) (by simpa using hb') hrev
  exact ⟨List.reverse_inj.mp h₂, List.reverse_inj.mp h₁⟩

/-- A text that is divided at a character in two ways is divided at the same place, or the
place of one cut lies before that of the other. -/
theorem append_cons_eq_append_cons_iff {c : Char} {a a' b b' : Text} :
    a ++ c :: b = a' ++ c :: b' ↔ (a = a' ∧ b = b') ∨
      (∃ m, a' = a ++ c :: m ∧ b = m ++ c :: b') ∨ ∃ m, a = a' ++ c :: m ∧ b' = m ++ c :: b := by
  constructor
  · intro h
    rcases List.append_eq_append_iff.mp h with ⟨m, rfl, hm⟩ | ⟨m, rfl, hm⟩
    · cases m with
      | nil => exact .inl ⟨(List.append_nil a).symm, (List.cons.inj hm).2⟩
      | cons d m =>
        obtain ⟨rfl, hb⟩ := List.cons.inj hm
        exact .inr (.inl ⟨m, rfl, hb⟩)
    · cases m with
      | nil => exact .inl ⟨List.append_nil a', (List.cons.inj hm).2.symm⟩
      | cons d m =>
        obtain ⟨rfl, hb⟩ := List.cons.inj hm
        exact .inr (.inr ⟨m, rfl, hb⟩)
  · rintro (⟨rfl, rfl⟩ | ⟨m, rfl, rfl⟩ | ⟨m, rfl, rfl⟩)
    · rfl
    · rw [List.append_assoc, List.cons_append]
    · rw [List.append_assoc, List.cons_append]

/-- A mark can be dropped from the texts that begin with it. -/
theorem dropPrefix?_isSome_iff {mark s : Text} : (dropPrefix? mark s).isSome ↔ mark <+: s := by
  constructor
  · intro h
    obtain ⟨rest, hrest⟩ := Option.isSome_iff_exists.mp h
    rw [eq_append_of_dropPrefix? hrest]
    exact List.prefix_append mark rest
  · rintro ⟨rest, rfl⟩
    rw [dropPrefix?_append]
    rfl

/-- A text has the mark if that occurs in it. -/
theorem hasMark_iff {mark s : Text} : hasMark mark s = true ↔ mark <:+: s := by
  induction s with
  | nil =>
    rw [hasMark, cutAround, Option.isSome_map, dropPrefix?_isSome_iff, List.prefix_nil,
      List.infix_nil]
  | cons c rest ih =>
    rw [List.infix_cons_iff, ← dropPrefix?_isSome_iff, ← ih, hasMark, hasMark, cutAround]
    cases h : dropPrefix? mark (c :: rest) with
    | some after => simp
    | none => simp

theorem hasMark_eq_false_iff {mark s : Text} : hasMark mark s = false ↔ ¬ mark <:+: s := by
  rw [← hasMark_iff, Bool.not_eq_true]

/-- Cutting loses nothing but the mark cut around. -/
theorem eq_of_cutAround {mark s before after : Text}
    (h : cutAround mark s = some (before, after)) : s = before ++ mark ++ after := by
  induction s generalizing before with
  | nil =>
    obtain ⟨rest, hrest, heq⟩ := Option.map_eq_some_iff.mp h
    obtain ⟨rfl, rfl⟩ := Prod.mk.inj heq
    exact eq_append_of_dropPrefix? hrest
  | cons c s ih =>
    rw [cutAround] at h
    cases hpre : dropPrefix? mark (c :: s) with
    | some rest =>
      simp only [hpre, Option.some.injEq, Prod.mk.injEq] at h
      obtain ⟨rfl, rfl⟩ := h
      exact eq_append_of_dropPrefix? hpre
    | none =>
      simp only [hpre, Option.map_eq_some_iff, Prod.mk.injEq] at h
      obtain ⟨⟨b, a⟩, hcut, rfl, rfl⟩ := h
      rw [ih hcut]
      rfl

/-- The text has the mark after `before`, and nowhere earlier. -/
structure FirstMark (mark s before after : Text) : Prop where
  eq : s = before ++ mark ++ after
  length_le : ∀ before' after', s = before' ++ mark ++ after' → before.length ≤ before'.length

/-- A text is cut around the first mark. -/
theorem firstMark_of_cutAround {mark s before after : Text}
    (h : cutAround mark s = some (before, after)) : FirstMark mark s before after := by
  refine ⟨eq_of_cutAround h, ?_⟩
  induction s generalizing before with
  | nil =>
    obtain ⟨rest, -, heq⟩ := Option.map_eq_some_iff.mp h
    obtain ⟨rfl, -⟩ := Prod.mk.inj heq
    exact fun _ _ _ => Nat.zero_le _
  | cons c s ih =>
    rw [cutAround] at h
    cases hpre : dropPrefix? mark (c :: s) with
    | some rest =>
      simp only [hpre, Option.some.injEq, Prod.mk.injEq] at h
      obtain ⟨rfl, -⟩ := h
      exact fun _ _ _ => Nat.zero_le _
    | none =>
      simp only [hpre, Option.map_eq_some_iff, Prod.mk.injEq] at h
      obtain ⟨⟨b, a⟩, hcut, rfl, rfl⟩ := h
      intro before' after' heq
      cases before' with
      | nil =>
        rw [heq, List.nil_append, dropPrefix?_append] at hpre
        cases hpre
      | cons d before' =>
        obtain ⟨-, hrest⟩ := List.cons_eq_cons.mp heq
        exact Nat.succ_le_succ (ih hcut before' after' hrest)

/-- A text is cut around the first of its marks. -/
theorem cutAround_eq_some_iff {mark s before after : Text} :
    cutAround mark s = some (before, after) ↔ FirstMark mark s before after := by
  refine ⟨firstMark_of_cutAround, fun h => ?_⟩
  have hmark : hasMark mark s = true := hasMark_iff.mpr ⟨before, after, h.eq.symm⟩
  obtain ⟨⟨before', after'⟩, hcut⟩ := Option.isSome_iff_exists.mp hmark
  have h' := firstMark_of_cutAround hcut
  have hlength : before.length = before'.length :=
    Nat.le_antisymm (h.length_le _ _ h'.eq) (h'.length_le _ _ h.eq)
  have heq := h.eq.symm.trans h'.eq
  rw [List.append_assoc, List.append_assoc] at heq
  obtain ⟨rfl, hrest⟩ := List.append_inj heq hlength
  rw [hcut, List.append_cancel_left hrest]

/-- The cut around a mark that does not begin earlier. -/
theorem cutAround_append {mark before : Text} (after : Text)
    (h : ¬ mark <:+: before ++ mark.dropLast) :
    cutAround mark (before ++ mark ++ after) = some (before, after) := by
  induction before with
  | nil =>
    rw [List.nil_append]
    cases mark with
    | nil => exact absurd ⟨[], _, rfl⟩ h
    | cons m mark => rw [List.cons_append, cutAround, ← List.cons_append, dropPrefix?_append]
  | cons d before ih =>
    have hrest : ¬ mark <:+: before ++ mark.dropLast := fun hin =>
      h (by rw [List.cons_append]; exact List.infix_cons hin)
    have hd : dropPrefix? mark (d :: (before ++ mark ++ after)) = none := by
      rw [← Option.not_isSome_iff_eq_none, dropPrefix?_isSome_iff]
      intro hpre
      -- a mark here would end before the last character of the other one
      have hshort : (d :: before) ++ mark.dropLast <+: d :: (before ++ mark ++ after) := by
        rw [List.cons_append, List.append_assoc]
        refine List.cons_prefix_cons.mpr ⟨rfl, List.prefix_append_right_inj before |>.mpr ?_⟩
        exact (List.dropLast_prefix mark).trans (List.prefix_append mark after)
      refine h (List.prefix_of_prefix_length_le hpre hshort ?_).isInfix
      rw [List.length_append, List.length_cons, List.length_dropLast]
      omega
    rw [List.cons_append, List.cons_append, cutAround, hd]
    simp only [ih hrest, Option.map_some]

/-- The cut around a mark whose first character does not stand before it. -/
theorem cutAround_append_of_not_mem {m : Char} {mark before : Text} (after : Text)
    (h : m ∉ before) :
    cutAround (m :: mark) (before ++ m :: mark ++ after) = some (before, after) := by
  refine cutAround_append after ?_
  rintro ⟨s, t, hst⟩
  have hshort : s.length < before.length := by
    have hlen := congrArg List.length hst
    simp only [List.length_append, List.length_cons, List.length_dropLast,
      Nat.add_sub_cancel] at hlen
    omega
  have hget : (s ++ (m :: mark ++ t))[s.length]? = before[s.length]? := by
    rw [← List.append_assoc, hst, List.getElem?_append_left hshort]
  rw [List.getElem?_append_right (Nat.le_refl _), Nat.sub_self] at hget
  exact h (List.mem_of_getElem? hget.symm)

/-- A doubled character is not made by joining two texts with it, unless the
second begins with it. -/
theorem not_doubled_append {c : Char} {a b : Text} (ha : c ∉ a) (hb : b.head? ≠ some c)
    (h : ¬ [c, c] <:+: b) : ¬ [c, c] <:+: a ++ c :: b := by
  rintro ⟨before, after, heq⟩
  rw [List.append_assoc] at heq
  cases hcut : cutAt c before with
  | none =>
    obtain ⟨-, hrest⟩ := eq_of_append_cons (cutAt_eq_none_iff.mp hcut) ha heq
    rw [← hrest] at hb
    exact hb rfl
  | some pieces =>
    obtain ⟨hbefore, hnot⟩ := eq_of_cutAt hcut
    rw [hbefore, List.append_assoc] at heq
    obtain ⟨-, hrest⟩ := eq_of_append_cons hnot ha heq
    exact h ⟨pieces.2, after, by rw [← hrest, List.append_assoc]; rfl⟩

/-- A mark that occurs in two joined texts occurs in the second, unless the first
holds its first character. -/
theorem infix_of_infix_append {m : Char} {mark a b : Text} (ha : m ∉ a)
    (h : m :: mark <:+: a ++ b) : m :: mark <:+: b := by
  induction a with
  | nil => simpa using h
  | cons d a ih =>
    simp only [List.mem_cons, not_or] at ha
    rw [List.cons_append, List.infix_cons_iff] at h
    rcases h with hpre | hin
    · exact absurd (List.cons_prefix_cons.mp hpre).1 ha.1
    · exact ih ha.2 hin

-- ---------------------------------------------------------------------------
-- Splitting and joining
-- ---------------------------------------------------------------------------

/-- The pieces are those of the general splitting of lists. -/
theorem splitOn_eq (c : Char) (s : Text) : splitOn c s = List.splitOn c s := by
  induction s with
  | nil => simp [splitOn]
  | cons d rest ih =>
    rw [splitOn, List.splitOn_cons_eq_if_modifyHead]
    by_cases hd : d = c
    · rw [if_pos hd, if_pos (by simpa using hd), ih]
    · rw [if_neg hd, if_neg (by simpa using hd), ih]
      cases h : List.splitOn c rest with
      | nil => exact absurd h (List.splitOn_ne_nil c rest)
      | cons piece pieces => rfl

/-- There is at least one piece. -/
theorem splitOn_ne_nil (c : Char) (s : Text) : splitOn c s ≠ [] := by
  rw [splitOn_eq]
  exact List.splitOn_ne_nil c s

/-- A text without the separator is one piece. -/
theorem splitOn_of_not_mem {c : Char} {s : Text} (h : c ∉ s) : splitOn c s = [s] := by
  rw [splitOn_eq, List.splitOn_eq_singleton h]

/-- The first piece ends at the first separator. -/
theorem splitOn_append {c : Char} {a : Text} (b : Text) (h : c ∉ a) :
    splitOn c (a ++ c :: b) = a :: splitOn c b := by
  rw [splitOn_eq, splitOn_eq, List.splitOn_append_cons_self_of_not_mem h]

/-- A separator keeps the pieces on its sides apart. -/
theorem splitOn_append_cons (c : Char) (a b : Text) :
    splitOn c (a ++ c :: b) = splitOn c a ++ splitOn c b := by
  rw [splitOn_eq, splitOn_eq, splitOn_eq, List.splitOn_append_cons_self]

/-- There is one piece more than there are places to split at. -/
theorem length_splitOn (c : Char) (s : Text) : (splitOn c s).length = s.count c + 1 := by
  induction s with
  | nil => rfl
  | cons d rest ih =>
    rw [splitOn]
    by_cases hd : d = c
    · rw [if_pos hd, List.length_cons, ih, hd, List.count_cons_self]
    · rw [if_neg hd, List.count_cons_of_ne hd, ← ih]
      cases hpieces : splitOn c rest with
      | nil => exact absurd hpieces (splitOn_ne_nil c rest)
      | cons piece pieces => rfl

/-- Joining the pieces gives the text back. -/
theorem join_splitOn (c : Char) (s : Text) : join [c] (splitOn c s) = s := by
  rw [splitOn_eq, join, List.intercalate_splitOn]

/-- Pieces without the separator are got back from what they are joined to. -/
theorem splitOn_join {c : Char} {pieces : List Text} (hne : pieces ≠ [])
    (h : ∀ p ∈ pieces, c ∉ p) : splitOn c (join [c] pieces) = pieces := by
  rw [splitOn_eq, join, List.splitOn_intercalate c h hne]

/-- A joined text holds characters of the separator and of the pieces. -/
theorem mem_of_mem_join {sep : Text} {pieces : List Text} {x : Char} (h : x ∈ join sep pieces) :
    x ∈ sep ∨ ∃ p ∈ pieces, x ∈ p := by
  induction pieces with
  | nil => simp [join] at h
  | cons p rest ih =>
    cases rest with
    | nil => exact Or.inr ⟨p, by simp, by simpa [join] using h⟩
    | cons q rest =>
      rw [join, List.intercalate_cons_cons, List.mem_append, List.mem_append] at h
      rcases h with (h | h) | h
      · exact Or.inr ⟨p, by simp, h⟩
      · exact Or.inl h
      · rcases ih h with h | ⟨p', hp', hx⟩
        · exact Or.inl h
        · exact Or.inr ⟨p', List.mem_cons_of_mem p hp', hx⟩

/-- Joining keeps the characters of every piece. -/
theorem mem_join_of_mem {sep piece : Text} {pieces : List Text} {x : Char}
    (hp : piece ∈ pieces) (hx : x ∈ piece) : x ∈ join sep pieces := by
  induction pieces with
  | nil => simp at hp
  | cons p rest ih =>
    cases rest with
    | nil =>
      rw [List.mem_singleton] at hp
      subst hp
      simpa [join] using hx
    | cons q rest =>
      rw [join, List.intercalate_cons_cons, List.mem_append, List.mem_append]
      rcases List.mem_cons.mp hp with rfl | hp
      · exact Or.inl (Or.inl hx)
      · exact Or.inr (ih hp)

/-- Pieces hold characters of the text alone. -/
theorem mem_of_mem_splitOn {c x : Char} {s piece : Text} (hp : piece ∈ splitOn c s)
    (hx : x ∈ piece) : x ∈ s := by
  rw [← join_splitOn c s]
  exact mem_join_of_mem hp hx

/-- A piece stands somewhere in the text. -/
theorem exists_append_of_mem_splitOn {c : Char} {s piece : Text} (h : piece ∈ splitOn c s) :
    ∃ before after, s = before ++ piece ++ after := by
  cases hcut : cutAt c s with
  | none =>
    rw [splitOn_of_not_mem (cutAt_eq_none_iff.mp hcut), List.mem_singleton] at h
    exact ⟨[], [], by rw [h]; simp⟩
  | some pieces =>
    obtain ⟨hs, hnot⟩ := eq_of_cutAt hcut
    rw [hs, splitOn_append _ hnot] at h
    rcases List.mem_cons.mp h with rfl | h
    · exact ⟨[], c :: pieces.2, by rw [hs]; simp⟩
    · have hlt : pieces.2.length < s.length := by
        rw [hs, List.length_append, List.length_cons]
        omega
      obtain ⟨before, after, heq⟩ := exists_append_of_mem_splitOn h
      refine ⟨pieces.1 ++ c :: before, after, ?_⟩
      rw [hs, heq]
      simp
termination_by s.length

/-- No piece holds the character that a text is split at. -/
theorem not_mem_of_mem_splitOn {c : Char} {s piece : Text} (h : piece ∈ splitOn c s) :
    c ∉ piece := by
  induction s generalizing piece with
  | nil =>
    rw [splitOn, List.mem_singleton] at h
    rw [h]
    exact List.not_mem_nil
  | cons d rest ih =>
    rw [splitOn] at h
    by_cases hd : d = c
    · rw [if_pos hd] at h
      rcases List.mem_cons.mp h with rfl | h
      · exact List.not_mem_nil
      · exact ih h
    · rw [if_neg hd] at h
      cases hpieces : splitOn c rest with
      | nil => exact absurd hpieces (splitOn_ne_nil c rest)
      | cons first others =>
        rw [hpieces] at h ih
        rcases List.mem_cons.mp h with rfl | h
        · rw [List.mem_cons, not_or]
          exact ⟨Ne.symm hd, ih List.mem_cons_self⟩
        · exact ih (List.mem_cons_of_mem first h)

/-- More text after the last piece leaves every piece the beginning of one. -/
theorem exists_prefix_of_mem_splitOn {c : Char} {s t piece : Text} (ht : c ∉ t)
    (h : piece ∈ splitOn c s) : ∃ longer ∈ splitOn c (s ++ t), piece <+: longer := by
  cases hcut : cutAt c s with
  | none =>
    have hs := cutAt_eq_none_iff.mp hcut
    rw [splitOn_of_not_mem hs, List.mem_singleton] at h
    have hst : c ∉ s ++ t := fun hmem => (List.mem_append.mp hmem).elim hs ht
    rw [splitOn_of_not_mem hst, h]
    exact ⟨s ++ t, List.mem_singleton_self _, List.prefix_append s t⟩
  | some pieces =>
    obtain ⟨before, after⟩ := pieces
    obtain ⟨rfl, hnot⟩ := eq_of_cutAt hcut
    rw [splitOn_append _ hnot] at h
    rw [List.append_assoc, List.cons_append, splitOn_append _ hnot]
    rcases List.mem_cons.mp h with rfl | h
    · exact ⟨piece, List.mem_cons_self, List.prefix_refl piece⟩
    · obtain ⟨longer, hlonger, hstarts⟩ := exists_prefix_of_mem_splitOn ht h
      exact ⟨longer, List.mem_cons_of_mem _ hlonger, hstarts⟩
termination_by s.length

/-- A piece is empty exactly if the text is, or if the character stands at an end of it
or next to itself. -/
theorem nil_mem_splitOn_iff {c : Char} {s : Text} :
    [] ∈ splitOn c s ↔ s = [] ∨ s.head? = some c ∨ s.getLast? = some c ∨ [c, c] <:+: s := by
  cases hcut : cutAt c s with
  | none =>
    have hnot := cutAt_eq_none_iff.mp hcut
    rw [splitOn_of_not_mem hnot, List.mem_singleton, eq_comm]
    refine ⟨Or.inl, ?_⟩
    rintro (hnil | hhead | hlast | hin)
    · exact hnil
    · exact absurd (List.mem_of_head? hhead) hnot
    · exact absurd (List.mem_of_getLast? hlast) hnot
    · exact absurd (hin.subset List.mem_cons_self) hnot
  | some pieces =>
    obtain ⟨before, after⟩ := pieces
    obtain ⟨rfl, hnot⟩ := eq_of_cutAt hcut
    -- the first piece is empty if nothing stands before the cut
    have hhead : (before ++ c :: after).head? = some c ↔ before = [] := by
      cases before with
      | nil => simp
      | cons d before => simpa using fun heq : d = c => hnot (heq ▸ List.mem_cons_self)
    have hlast : (before ++ c :: after).getLast? = some c ↔
        after = [] ∨ after.getLast? = some c := by
      rw [List.getLast?_append_cons]
      cases after with
      | nil => simp
      | cons d after => rw [List.getLast?_cons_cons]; simp
    -- a doubled character is at the cut or behind it
    have hdoubled : [c, c] <:+: before ++ c :: after ↔
        after.head? = some c ∨ [c, c] <:+: after := by
      constructor
      · intro hin
        by_contra hnone
        rw [not_or] at hnone
        exact not_doubled_append hnot hnone.1 hnone.2 hin
      · rintro (hnext | hin)
        · obtain ⟨rest, rfl⟩ := List.head?_eq_some_iff.mp hnext
          exact ⟨before, rest, by simp⟩
        · exact hin.trans ⟨before ++ [c], [], by simp⟩
    have hlt : after.length < (before ++ c :: after).length := by
      rw [List.length_append, List.length_cons]
      omega
    rw [splitOn_append after hnot, List.mem_cons, nil_mem_splitOn_iff, hhead, hlast, hdoubled]
    simp only [List.append_eq_nil_iff, reduceCtorEq, and_false, false_or, eq_comm]
    tauto
termination_by s.length

-- ---------------------------------------------------------------------------
-- Trimming
-- ---------------------------------------------------------------------------

theorem trimEnd_eq_rdropWhile (p : Char → Bool) (s : Text) : trimEnd p s = s.rdropWhile p := rfl

/-- There is nothing to trim at the end of a text that ends with something else. -/
theorem trimEnd_eq_self {p : Char → Bool} {s : Text} (h : ∀ c ∈ s.getLast?, p c = false) :
    trimEnd p s = s := by
  rw [trimEnd_eq_rdropWhile, List.rdropWhile_eq_self_iff]
  intro hs
  rw [h (s.getLast hs) (List.getLast?_eq_some_getLast hs)]
  simp

/-- There is nothing to trim at the front of a text that begins with something else. -/
theorem trimStart_eq_self {p : Char → Bool} {s : Text} (h : ∀ c ∈ s.head?, p c = false) :
    trimStart p s = s := by
  cases s with
  | nil => rfl
  | cons c s => rw [trimStart, List.dropWhile_cons_of_neg (by simp [h c (by simp)])]

/-- Trimming stops at the last character that stays. -/
theorem trimEnd_append {p : Char → Bool} {c : Char} (s t : Text) (hc : p c = false) :
    trimEnd p (s ++ c :: t) = s ++ c :: trimEnd p t := by
  unfold trimEnd
  rw [List.reverse_append, List.reverse_cons, List.append_assoc, List.dropWhile_append]
  split
  · next h =>
    rw [List.isEmpty_iff] at h
    simp [h, hc]
  · next h => simp

/-- The last character left by trimming is one that stays. -/
theorem getLast?_trimEnd {p : Char → Bool} {s : Text} {c : Char}
    (h : c ∈ (trimEnd p s).getLast?) : p c = false := by
  have hne : s.rdropWhile p ≠ [] := by
    rintro he
    rw [trimEnd_eq_rdropWhile, he] at h
    simp at h
  have hlast := List.rdropWhile_last_not p s hne
  rw [trimEnd_eq_rdropWhile, List.getLast?_eq_some_getLast hne, Option.mem_some_iff] at h
  rw [h] at hlast
  simpa using hlast

/-- The first character left by trimming is one that stays. -/
theorem head?_trim {p : Char → Bool} {s : Text} {c : Char} (h : c ∈ (trim p s).head?) :
    p c = false := by
  have hpre : trim p s <+: trimStart p s := List.rdropWhile_prefix p (trimStart p s)
  obtain ⟨rest, hrest⟩ := hpre
  have hhead : c ∈ (s.dropWhile p).head? := by
    rw [show s.dropWhile p = trim p s ++ rest from hrest.symm]
    exact List.mem_head?_append_of_mem_head? h
  have := List.head?_dropWhile_not p s
  rw [Option.mem_def.mp hhead] at this
  simpa using this

theorem trimEnd_sublist (p : Char → Bool) (s : Text) : (trimEnd p s).Sublist s :=
  (List.rdropWhile_prefix p s).sublist

theorem trim_sublist (p : Char → Bool) (s : Text) : (trim p s).Sublist s :=
  (trimEnd_sublist p (trimStart p s)).trans (List.dropWhile_suffix p).sublist

/-- Skipping loses no character but of those that are skipped. -/
theorem mem_dropWhile_iff {p : Char → Bool} {c : Char} {s : Text} (hc : p c = false) :
    c ∈ s.dropWhile p ↔ c ∈ s := by
  have htaken : c ∉ s.takeWhile p := by
    intro hmem
    rw [List.mem_takeWhile_imp hmem] at hc
    cases hc
  conv_rhs => rw [← List.takeWhile_append_dropWhile (p := p) (l := s), List.mem_append]
  exact (or_iff_right htaken).symm

/-- Trimming takes away only what it is to take away. -/
theorem mem_trim_iff {p : Char → Bool} {c : Char} {s : Text} (hc : p c = false) :
    c ∈ trim p s ↔ c ∈ s := by
  rw [trim, trimEnd, List.mem_reverse, mem_dropWhile_iff hc, List.mem_reverse, trimStart,
    mem_dropWhile_iff hc]

/-- Trimming removes a single character at the beginning and nothing else. -/
theorem trim_cons {p : Char → Bool} {c : Char} {s : Text} (hc : p c = true)
    (hhead : ∀ d ∈ s.head?, p d = false) (hlast : ∀ d ∈ s.getLast?, p d = false) :
    trim p (c :: s) = s := by
  have hstart : trimStart p (c :: s) = s := by
    rw [trimStart, List.dropWhile_cons_of_pos hc]
    exact trimStart_eq_self hhead
  rw [trim, hstart]
  exact trimEnd_eq_self hlast

/-- What is trimmed anyway does not count at the end. -/
theorem trim_append {p : Char → Bool} (s : Text) {t : Text} (h : ∀ c ∈ t, p c = true) :
    trim p (s ++ t) = trim p s := by
  have hend (s : Text) : trimEnd p (s ++ t) = trimEnd p s := by
    rw [trimEnd, List.reverse_append,
      List.dropWhile_append_of_pos fun c hc => h c (List.mem_reverse.mp hc), ← trimEnd]
  rw [trim, trim, trimStart, trimStart, List.dropWhile_append]
  split
  · next hnil =>
    rw [List.isEmpty_iff.mp hnil, ← List.append_nil t, List.dropWhile_append_of_pos h]
    rfl
  · rw [hend]

/-- What is trimmed anyway does not count at the beginning. -/
theorem trim_append_left {p : Char → Bool} (s : Text) {t : Text} (h : ∀ c ∈ t, p c = true) :
    trim p (t ++ s) = trim p s := by
  rw [trim, trim, trimStart, trimStart, List.dropWhile_append_of_pos h]

/-- Trimming takes away repetitions of the character at the ends and nothing else. -/
theorem exists_replicate_trim (c : Char) (s : Text) :
    ∃ i j, s = List.replicate i c ++ trim (· == c) s ++ List.replicate j c := by
  have hrepeated {t : Text} (h : ∀ d ∈ t, (d == c) = true) : ∃ k, t = List.replicate k c :=
    ⟨t.length, List.eq_replicate_of_mem fun d hd => beq_iff_eq.mp (h d hd)⟩
  obtain ⟨i, hi⟩ := hrepeated (t := s.takeWhile (· == c)) fun d hd =>
    List.mem_takeWhile_imp (p := (· == c)) hd
  obtain ⟨j, hj⟩ := hrepeated (t := (trimStart (· == c) s).rtakeWhile (· == c)) fun d hd =>
    List.mem_rtakeWhile_imp (p := (· == c)) hd
  refine ⟨i, j, ?_⟩
  calc s = s.takeWhile (· == c) ++ trimStart (· == c) s := List.takeWhile_append_dropWhile.symm
    _ = s.takeWhile (· == c) ++
          (trim (· == c) s ++ (trimStart (· == c) s).rtakeWhile (· == c)) := by
        rw [trim, trimEnd_eq_rdropWhile, List.rdropWhile_append_rtakeWhile]
    _ = List.replicate i c ++ trim (· == c) s ++ List.replicate j c := by
        rw [hi, hj, List.append_assoc]

end Text

end RepoIdentity

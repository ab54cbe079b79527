import Mathlib.Data.List.Chain
import RepoIdentity.Proofs.Numeral
import RepoIdentity.Proofs.Text
import RepoIdentity.Url.Address

/-!
# Addresses are read as they are written

An address has many spellings and one written form, which is one of them:
reading it gives the address back.

* `Ipv4.read_text`, `Ipv6.read_text` — the round trips;
* `Ipv4.isMeant_text`, `Ipv4.isMeant_eq_false` — which hosts count as IPv4
  addresses;
* `Ipv4.mem_text`, `Ipv6.mem_text` — the characters of the written forms.
-/

namespace RepoIdentity.Url

-- ---------------------------------------------------------------------------
-- IPv4
-- ---------------------------------------------------------------------------

namespace Ipv4

/-- The parts of a host are its labels, if the last of them is not empty. -/
theorem parts_join {labels : List Text} {last : Text} (hlast : labels.getLast? = some last)
    (hne : last ≠ []) (hdots : ∀ l ∈ labels, '.' ∉ l) :
    parts (Text.join ['.'] labels) = labels := by
  have hlabels : labels ≠ [] := by
    rintro rfl
    cases hlast
  rw [List.getLast?_eq_head?_reverse] at hlast
  unfold parts
  rw [Text.splitOn_join hlabels hdots]
  split
  · next rest hrev =>
    rw [hrev] at hlast
    cases hlast
    exact absurd rfl hne
  · exact List.reverse_reverse labels

/-- A host whose last label begins with no figure is no address. -/
theorem isMeant_eq_false {labels : List Text} {c : Char} {rest : Text}
    (hlast : labels.getLast? = some (c :: rest)) (hdots : ∀ l ∈ labels, '.' ∉ l)
    (hc : c.isDigit = false) : isMeant (Text.join ['.'] labels) = false := by
  have hzero : c ≠ '0' := by
    rintro rfl
    exact absurd hc (by decide)
  have hvalue : digitValue? 10 c = none := by
    rw [digitValue?, Option.filter_eq_none_iff]
    intro v hv
    unfold Ascii.hexValue? at hv
    rw [hc] at hv
    split at hv
    · contradiction
    · split at hv
      · cases hv
        simp
      · split at hv
        · cases hv
          simp
        · cases hv
  -- so the last label is no number, with or without a prefix for a base
  have hnumber : number? (c :: rest) = none := by
    unfold number?
    split
    · contradiction
    · simp_all
    · simp_all
    · rw [numberTo?, digitValues?, hvalue]
      rfl
  rw [isMeant, parts_join hlast (List.cons_ne_nil c rest) hdots, hlast]
  simp only [List.all_cons, hc, hnumber, Bool.false_and, Bool.and_false, Option.isSome_none,
    Bool.or_self]

/-- Digits have their values. -/
theorem digitValues?_of_isDigit {s : Text} (h : ∀ c ∈ s, c.isDigit = true) :
    digitValues? 10 s = some (s.map Numeral.digitValue) := by
  induction s with
  | nil => rfl
  | cons c s ih =>
    have hc := h c List.mem_cons_self
    have hle : c.toNat - 0x30 < 10 := by
      simp only [Char.isDigit, ge_iff_le, Bool.and_eq_true, decide_eq_true_eq] at hc
      have : c.toNat ≤ 57 := hc.2
      omega
    have hvalue : digitValue? 10 c = some (Numeral.digitValue c) := by
      rw [digitValue?, Ascii.hexValue?, if_pos hc, Option.filter_some, decide_eq_true hle]
      rfl
    rw [digitValues?, hvalue, ih fun d hd => h d (List.mem_cons_of_mem c hd)]
    rfl

/-- A decimal numeral denotes its number as a part of an address too. -/
theorem number?_decimal (n : Nat) : number? (Numeral.decimal n) = some n := by
  rcases Nat.eq_zero_or_pos n with rfl | hpos
  · have hzero : Numeral.decimal 0 = ['0'] := by
      rw [Numeral.decimal, Numeral.ofNat_eq (by omega)]
      rfl
    rw [hzero]
    rfl
  · have hdecimal : numberTo? 10 (Numeral.decimal n) = some n := by
      rw [numberTo?, digitValues?_of_isDigit fun c hc => Numeral.isDigit_of_mem_decimal hc,
        Option.map_some]
      exact congrArg some (Numeral.ofDigits_decimal n)
    have hhead : (Numeral.decimal n).head? ≠ some '0' := fun h => by
      have := Numeral.eq_zero_of_head?_ofNat (by omega) (by omega) h
      omega
    unfold number?
    split
    · next h => exact absurd h (Numeral.decimal_ne_nil n)
    · next h => exact absurd (congrArg List.head? h) hhead
    · next h => exact absurd (congrArg List.head? h) hhead
    · exact hdecimal

/-- Numbers are read back from their decimals. -/
theorem numbers?_decimals (ns : List Nat) : numbers? (ns.map Numeral.decimal) = some ns := by
  induction ns with
  | nil => rfl
  | cons n ns ih => rw [List.map_cons, numbers?, number?_decimal, ih]

/-- An address of four bytes is written in digits and dots. -/
theorem mem_text {a : Ipv4} {c : Char} (hc : c ∈ a.text) : c.isDigit = true ∨ c = '.' := by
  rcases Text.mem_of_mem_join hc with hc | ⟨p, hp, hcp⟩
  · exact Or.inr (by simpa using hc)
  · obtain ⟨n, -, rfl⟩ := List.mem_map.mp hp
    exact Or.inl (Numeral.isDigit_of_mem_decimal hcp)

theorem text_ne_nil (a : Ipv4) : a.text ≠ [] := by
  intro h
  have hmem : '.' ∈ a.text := by
    rw [text, bytes]
    simp [Text.join, List.intercalate_cons_cons]
  rw [h] at hmem
  cases hmem

/-- The parts of an address are the decimals of its bytes. -/
theorem parts_text (a : Ipv4) : parts a.text = a.bytes.map Numeral.decimal := by
  have hlast : (a.bytes.map Numeral.decimal).getLast? =
      some (Numeral.decimal (a.value % 256)) := rfl
  refine parts_join hlast (Numeral.decimal_ne_nil _) ?_
  intro l hl hdot
  obtain ⟨n, -, rfl⟩ := List.mem_map.mp hl
  exact absurd (Numeral.isDigit_of_mem_decimal hdot) (by decide)

/-- The text of an address is meant as one. -/
theorem isMeant_text (a : Ipv4) : isMeant a.text = true := by
  have hlast : (a.bytes.map Numeral.decimal).getLast? =
      some (Numeral.decimal (a.value % 256)) := rfl
  have hall : (Numeral.decimal (a.value % 256)).all Char.isDigit = true :=
    List.all_eq_true.mpr fun c hc => Numeral.isDigit_of_mem_decimal hc
  have hne : (Numeral.decimal (a.value % 256)).isEmpty = false := by
    rw [List.isEmpty_eq_false_iff]
    exact Numeral.decimal_ne_nil _
  rw [isMeant, parts_text, hlast]
  simp only [hall, hne, Bool.not_false, Bool.and_self, Bool.true_or]

/-- The written form is read as the address. -/
theorem read_text (a : Ipv4) : read a.text = some a := by
  have hvalue : valueFrom? 4 a.bytes = some a.value := by
    have hlt := a.value_lt
    have hlow : a.value % 256 < Nat.pow 256 1 := Nat.mod_lt _ (by decide)
    rw [bytes]
    simp only [valueFrom?, Nat.reduceSub, hlow, if_true, Option.map_some,
      if_pos (Nat.mod_lt (a.value / 0x100) (show 0 < 256 by omega)),
      if_pos (Nat.mod_lt (a.value / 0x10000) (show 0 < 256 by omega)),
      if_pos (show a.value / 0x1000000 < 256 by omega), Option.some.injEq]
    show a.value / 0x1000000 * 0x1000000 + (a.value / 0x10000 % 256 * 0x10000
      + (a.value / 0x100 % 256 * 0x100 + a.value % 256)) = a.value
    omega
  rw [read, parts_text, numbers?_decimals]
  simp only [hvalue]
  rw [if_neg (show ¬ 4 < a.bytes.length by simp [bytes]), dif_pos a.value_lt]

end Ipv4

-- ---------------------------------------------------------------------------
-- IPv6
-- ---------------------------------------------------------------------------

namespace Ipv6

/-- A group is read back from its hexadecimal digits. -/
theorem group?_hex {g : Nat} (h : g < 0x10000) : group? (Numeral.ofNat 16 g) = some g := by
  have hne : (Numeral.ofNat 16 g).length ≠ 0 := by
    rw [ne_eq, List.length_eq_zero_iff]
    exact Numeral.ofNat_ne_nil (by omega) g
  have hlen : (Numeral.ofNat 16 g).length ≤ 4 := Numeral.length_ofNat_le (by omega) (by omega) h
  have hall : (Numeral.ofNat 16 g).all Ascii.isHexDigit = true :=
    List.all_eq_true.mpr fun c hc => Numeral.isHexDigit_of_mem_ofNat hc
  rw [group?, hall, if_neg (by simp only [Bool.not_true, Bool.false_eq_true, or_false]; omega),
    Numeral.valueOf_hex]

/-- The digits of a group are hexadecimal. -/
theorem not_mem_hex {c : Char} (hc : Ascii.isHexDigit c = false) (g : Nat) :
    c ∉ Numeral.ofNat 16 g := by
  intro h
  rw [Numeral.isHexDigit_of_mem_ofNat h] at hc
  cases hc

/-- The groups of written groups; none of them looks like an IPv4 address. -/
theorem groupsOf_hex {decimal : Bool} {gs : List Nat} (h : ∀ g ∈ gs, g < 0x10000) :
    groupsOf decimal (gs.map (Numeral.ofNat 16)) = some gs := by
  induction gs with
  | nil => rfl
  | cons g gs ih =>
    have hg := group?_hex (h g List.mem_cons_self)
    cases gs with
    | nil =>
      have hdot : (Numeral.ofNat 16 g).contains '.' = false := by
        rw [List.contains_eq_mem, decide_eq_false_iff_not]
        exact not_mem_hex (by decide) g
      rw [List.map_singleton, groupsOf, hdot, hg]
      rfl
    | cons g' gs =>
      have hrest := ih fun x hx => h x (List.mem_cons_of_mem g hx)
      rw [List.map_cons] at hrest
      rw [List.map_cons, List.map_cons, groupsOf, hg, hrest]
      exact List.cons_ne_nil _ _

/-- Only no groups have no text. -/
theorem groupsText_eq_nil_iff {gs : List Nat} : groupsText gs = [] ↔ gs = [] := by
  constructor
  · intro h
    cases gs with
    | nil => rfl
    | cons g gs =>
      obtain ⟨c, hc⟩ := List.exists_mem_of_ne_nil _ (Numeral.ofNat_ne_nil (b := 16) (by omega) g)
      have hmem : c ∈ groupsText (g :: gs) := Text.mem_join_of_mem List.mem_cons_self hc
      rw [h] at hmem
      cases hmem
  · rintro rfl
    rfl

/-- Groups are read back from their text. -/
theorem groupsIn_groupsText {decimal : Bool} {gs : List Nat} (h : ∀ g ∈ gs, g < 0x10000) :
    groupsIn decimal (groupsText gs) = some gs := by
  by_cases hgs : gs = []
  · subst hgs
    rfl
  · have hne : (groupsText gs).isEmpty = false := by
      rw [List.isEmpty_eq_false_iff, ne_eq, groupsText_eq_nil_iff]
      exact hgs
    have hpieces : Text.splitOn ':' (groupsText gs) = gs.map (Numeral.ofNat 16) := by
      refine Text.splitOn_join (by simpa using hgs) fun p hp => ?_
      obtain ⟨g, -, rfl⟩ := List.mem_map.mp hp
      exact not_mem_hex (by decide) g
    rw [groupsIn, hne, hpieces, groupsOf_hex h]
    rfl

/-- Two characters of which not both are colons. -/
def Apart (c d : Char) : Prop := ¬ (c = ':' ∧ d = ':')

/-- Without a colon there are no two of them together. -/
theorem isChain_apart_of_not_mem {s : Text} (h : ':' ∉ s) : List.IsChain Apart s := by
  refine List.Pairwise.isChain ?_
  rw [List.pairwise_iff_forall_sublist]
  rintro a b hab ⟨rfl, -⟩
  exact h (hab.subset List.mem_cons_self)

/-- A written group and the colon after it keep apart from a text that begins
with none. -/
theorem isChain_hex_append (g : Nat) {rest : Text} (hrest : List.IsChain Apart rest)
    (hhead : rest.head? ≠ some ':') :
    List.IsChain Apart (Numeral.ofNat 16 g ++ ':' :: rest) ∧
      (Numeral.ofNat 16 g ++ ':' :: rest).head? ≠ some ':' := by
  have hcolon : ':' ∉ Numeral.ofNat 16 g := not_mem_hex (by decide) g
  constructor
  · rw [List.isChain_append]
    refine ⟨isChain_apart_of_not_mem hcolon, ?_, ?_⟩
    · cases rest with
      | nil => exact List.isChain_singleton _
      | cons c rest => exact List.isChain_cons_cons.mpr ⟨fun h => hhead (by simp [h.2]), hrest⟩
    · rintro c hc d - ⟨rfl, -⟩
      exact hcolon (List.mem_of_getLast? hc)
  · intro h
    rw [List.head?_append_of_ne_nil _ (Numeral.ofNat_ne_nil (by omega) g)] at h
    exact hcolon (List.mem_of_head? h)

/-- Between written groups no two colons meet, and a colon after the last group
meets none. -/
theorem isChain_groupsText {gs : List Nat} (hgs : gs ≠ []) :
    List.IsChain Apart (groupsText gs ++ [':']) ∧ (groupsText gs ++ [':']).head? ≠ some ':' := by
  induction gs with
  | nil => exact absurd rfl hgs
  | cons g gs ih =>
    cases gs with
    | nil =>
      have hone : groupsText [g] = Numeral.ofNat 16 g := by
        rw [groupsText, List.map_singleton, Text.join, List.intercalate_singleton]
      rw [hone]
      exact isChain_hex_append g List.isChain_nil (by simp)
    | cons g' gs =>
      obtain ⟨hchain, hhead⟩ := ih (List.cons_ne_nil g' gs)
      have hsplit : groupsText (g :: g' :: gs) ++ [':'] =
          Numeral.ofNat 16 g ++ ':' :: (groupsText (g' :: gs) ++ [':']) := by
        simp [groupsText, Text.join, List.intercalate_cons_cons]
      rw [hsplit]
      exact isChain_hex_append g hchain hhead

/-- No two colons stand in written groups or where another colon follows them. -/
theorem not_infix_groupsText (gs : List Nat) : ¬ "::".toList <:+: groupsText gs ++ [':'] := by
  intro h
  by_cases hgs : gs = []
  · subst hgs
    exact absurd h.length_le (by decide)
  · obtain ⟨s, t, hst⟩ := h
    have hchain := (isChain_groupsText hgs).1
    rw [← hst] at hchain
    have hpair := hchain.left_of_append.right_of_append
    exact List.isChain_cons_cons.mp hpair |>.1 ⟨rfl, rfl⟩

/-- The groups around the longest run of zeros. -/
theorem cutZeroRun_spec (gs : List Nat) :
    gs = (cutZeroRun (longestZeroRun gs) gs).1 ++ List.replicate (longestZeroRun gs) 0
      ++ (cutZeroRun (longestZeroRun gs) gs).2 := by
  -- the run that is cut is as long as the longest one of the rest
  have hcut (n : Nat) (gs : List Nat) (h : longestZeroRun gs = n) :
      gs = (cutZeroRun n gs).1 ++ List.replicate n 0 ++ (cutZeroRun n gs).2 := by
    induction gs with
    | nil =>
      subst h
      rfl
    | cons g gs ih =>
      rw [cutZeroRun]
      by_cases hrun : zeroRun (g :: gs) = n
      · rw [if_pos hrun, List.nil_append]
        have hzeros : (g :: gs).takeWhile (· == 0) = List.replicate n 0 := by
          rw [List.eq_replicate_iff]
          refine ⟨hrun, fun x hx => ?_⟩
          simpa using List.mem_takeWhile_imp hx
        have hdrop : (g :: gs).drop n = (g :: gs).dropWhile (· == 0) := by
          conv => lhs; rw [← List.takeWhile_append_dropWhile (p := (· == 0)) (l := g :: gs)]
          rw [List.drop_append_of_le_length (by rw [← hrun]; exact Nat.le_refl _),
            List.drop_eq_nil_of_le (by rw [← hrun]; exact Nat.le_refl _), List.nil_append]
        rw [hdrop, ← hzeros, List.takeWhile_append_dropWhile]
      · rw [if_neg hrun]
        have hrest : longestZeroRun gs = n := by
          rw [longestZeroRun] at h
          omega
        rw [List.cons_append, List.cons_append, ← ih hrest]
  exact hcut _ gs rfl

/-- An address is written with colons and with digits, whose letters are small. -/
theorem mem_text {a : Ipv6} {c : Char} (hc : c ∈ a.text) :
    (∃ d < 16, c = Numeral.digit d) ∨ c = ':' := by
  have hgroups {gs : List Nat} (h : c ∈ groupsText gs) :
      (∃ d < 16, c = Numeral.digit d) ∨ c = ':' := by
    rcases Text.mem_of_mem_join h with h | ⟨p, hp, hcp⟩
    · exact Or.inr (by simpa using h)
    · obtain ⟨g, -, rfl⟩ := List.mem_map.mp hp
      exact Or.inl (Numeral.mem_ofNat (by omega) hcp)
  rw [text] at hc
  dsimp only at hc
  split at hc
  · exact hgroups hc
  · rcases List.mem_append.mp hc with hc | hc
    · rcases List.mem_append.mp hc with hc | hc
      · exact hgroups hc
      · exact Or.inr (by simpa using hc)
    · exact hgroups hc

/-- The groups of an address are read back from its text. -/
theorem fullGroups?_text (a : Ipv6) : fullGroups? a.text = some a.groups := by
  have hlen := a.length_eq
  have hlt := a.groups_lt
  have hgroups := cutZeroRun_spec a.groups
  rw [text]
  generalize longestZeroRun a.groups = run at *
  by_cases hrun : run < 2
  · -- no run of zeros is left out, and there are no two colons to cut at
    have hcut : Text.cutAround "::".toList (groupsText a.groups) = none := by
      rw [← Option.not_isSome_iff_eq_none]
      intro h
      exact not_infix_groupsText a.groups ((Text.hasMark_iff.mp h).trans
        (List.prefix_append _ _).isInfix)
    have hne : (groupsText a.groups).isEmpty = false := by
      rw [List.isEmpty_eq_false_iff, ne_eq, groupsText_eq_nil_iff]
      intro h
      rw [h] at hlen
      cases hlen
    simp only [hrun, if_true, fullGroups?, hcut, hne, Bool.false_eq_true, if_false]
    exact groupsIn_groupsText hlt
  · simp only [hrun, if_false]
    -- the run that is left out is what is missing to eight groups
    generalize hbefore : (cutZeroRun run a.groups).1 = before at *
    generalize hafter : (cutZeroRun run a.groups).2 = after at *
    have hcut : Text.cutAround "::".toList (groupsText before ++ "::".toList ++ groupsText after) =
        some (groupsText before, groupsText after) :=
      Text.cutAround_append (groupsText after) (not_infix_groupsText before)
    have hb : groupsIn false (groupsText before) = some before :=
      groupsIn_groupsText fun g hg => hlt g (by rw [hgroups]; simp [hg])
    have ha : groupsIn true (groupsText after) = some after :=
      groupsIn_groupsText fun g hg => hlt g (by rw [hgroups]; simp [hg])
    have hcount : before.length + run + after.length = 8 := by
      rw [← hlen, hgroups, List.length_append, List.length_append, List.length_replicate]
    have hleft : 8 - (before.length + after.length) = run := by omega
    simp only [fullGroups?, hcut, hb, ha, hleft,
      if_pos (show before.length + after.length ≤ 7 by omega)]
    rw [← hgroups]

/-- The written form is read as the address. -/
theorem read_text (a : Ipv6) : read a.text = some a := by
  rw [read, fullGroups?_text]
  simp only
  rw [dif_pos ⟨a.length_eq, a.groups_lt⟩]

end Ipv6

end RepoIdentity.Url

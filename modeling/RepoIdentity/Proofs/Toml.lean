import Mathlib.Data.List.Forall2
import RepoIdentity.Proofs.Text
import RepoIdentity.Toml.Document

/-!
# TOML documents are read back

A program that writes a configuration needs little of the language: a line for each
field, with a bare key and a truth value or a list of strings. What it may write is
given as relations, since a character has several spellings and blanks may follow a
comma; every reader of the language gives back what was written and leaves the text
that comes after it.

* `Spells`, `WritesTexts`, `Content.Written`, `Statement.Written`, `Writes` — what
  may be written between two quotes, between two brackets, after an equals sign, on a
  line, and as a document;
* `basicString?_append`, `items?_append`, `value?_written`, `line?_written` — each is
  read back, whatever follows it;
* `Field.States` — a field that was read says what was written;
* `ofText?_written` — a document has an entry for each of its statements, in their
  order;
* `exists_writes` — everything can be written.
-/

namespace RepoIdentity.Toml

-- ---------------------------------------------------------------------------
-- What is written
-- ---------------------------------------------------------------------------

/-- How a character may stand between double quotes: as itself, after a backslash, or
by its number. -/
inductive SpellsChar (c : Char) : Text → Prop
  | plain (hquote : c ≠ '"') (hbackslash : c ≠ '\\') (hcontrol : Ascii.isControl c = false) :
      SpellsChar c [c]
  | marked (h : c = '"' ∨ c = '\\') : SpellsChar c ['\\', c]
  | numbered {d₁ d₂ d₃ d₄ : Char} {values : List Nat}
      (hvalues : [d₁, d₂, d₃, d₄].map Ascii.hexValue? = values.map some)
      (h : Numeral.valueOf 16 values = c.toNat) : SpellsChar c ['\\', 'u', d₁, d₂, d₃, d₄]

/-- `Spells s w`: between double quotes, `w` stands for the text `s`. -/
inductive Spells : Text → Text → Prop
  | nil : Spells [] []
  | cons {c : Char} {s w u : Text} (h : SpellsChar c w) (hs : Spells s u) : Spells (c :: s) (w ++ u)

/-- `WritesTexts ts w`: between brackets, `w` stands for the texts `ts`, with a comma
between each two of them and perhaps after the last, and blanks after the commas. -/
inductive WritesTexts : List Text → Text → Prop
  | nil : WritesTexts [] []
  | last {t w : Text} (h : Spells t w) : WritesTexts [t] ('"' :: w ++ ['"'])
  | next {t w gap u : Text} {ts : List Text} (h : Spells t w) (hgap : ∀ c ∈ gap, isBlank c = true)
      (hts : WritesTexts ts u) : WritesTexts (t :: ts) ('"' :: w ++ '"' :: ',' :: gap ++ u)

/-- What a field may hold. -/
inductive Content where
  | truth (b : Bool)
  | texts (ts : List Text)

inductive Content.Written : Content → Text → Prop
  | yes : Written (.truth true) "true".toList
  | no : Written (.truth false) "false".toList
  | texts {ts : List Text} {w : Text} (h : WritesTexts ts w) :
      Written (.texts ts) ('[' :: w ++ [']'])

/-- A name with what it stands for. -/
structure Statement where
  name : Text
  content : Content

/-- A name that needs no quotes. -/
def IsBareKey (name : Text) : Prop := name ≠ [] ∧ ∀ c ∈ name, isBareKeyChar c = true

def Statement.Written (a : Statement) (line : Text) : Prop :=
  ∃ w, a.content.Written w ∧ line = a.name ++ " = ".toList ++ w

/-- `EndsLine s rest`: a line ends at the beginning of `s`, and `rest` comes after it.
The last line needs no end. -/
inductive EndsLine : Text → Text → Prop
  | feed {rest : Text} : EndsLine ('\n' :: rest) rest
  | returnFeed {rest : Text} : EndsLine ('\r' :: '\n' :: rest) rest
  | final : EndsLine [] []

/-- A document with a line for each statement. -/
inductive Writes : List Statement → Text → Prop
  | nil : Writes [] []
  | cons {a : Statement} {as : List Statement} {line s rest : Text} (h : a.Written line)
      (hend : EndsLine s rest) (hrest : Writes as rest) : Writes (a :: as) (line ++ s)

-- ---------------------------------------------------------------------------
-- Strings
-- ---------------------------------------------------------------------------

/-- Digits that have the value of a character stand for it. -/
theorem charOfHex?_of_values {c : Char} {digits : Text} {values : List Nat}
    (hvalues : digits.map Ascii.hexValue? = values.map some)
    (h : Numeral.valueOf 16 values = c.toNat) : charOfHex? digits = some c := by
  have hdigits : digits.all Ascii.isHexDigit = true := by
    rw [List.all_eq_true]
    intro d hd
    have hmem := List.mem_map_of_mem (f := Ascii.hexValue?) hd
    rw [hvalues, List.mem_map] at hmem
    obtain ⟨v, -, hv⟩ := hmem
    rw [Ascii.isHexDigit, ← hv]
    rfl
  have hmap : digits.map (fun d => (Ascii.hexValue? d).getD 0) = values := by
    have hget := congrArg (List.map fun v => v.getD 0) hvalues
    rw [List.map_map, List.map_map] at hget
    exact hget.trans (List.map_id values)
  have hvalid : c.toNat.isValidChar := c.valid
  rw [charOfHex?, if_pos hdigits, hmap, h]
  show (if c.toNat.isValidChar then some (Char.ofNat c.toNat) else none) = some c
  rw [if_pos hvalid, Char.ofNat_toNat]

/-- A plain character in a string stands for itself. -/
theorem basicString?_plain {c : Char} (hquote : c ≠ '"') (hbackslash : c ≠ '\\')
    (hcontrol : Ascii.isControl c = false) (s : Text) :
    basicString? (c :: s) = (basicString? s).map fun (t, rest) => (c :: t, rest) := by
  have hchar : isStringChar c = true := by
    rw [isStringChar, hcontrol, Bool.not_false, Bool.or_true]
  rw [basicString?]
  · rw [if_pos hchar]
  · exact hquote
  · exact hbackslash

/-- An escape in a string stands for the character that it is read as. -/
theorem basicString?_escaped {c : Char} {s more : Text} (h : escape? s = some (c, more)) :
    basicString? ('\\' :: s) = (basicString? more).map fun (t, rest) => (c :: t, rest) := by
  rw [basicString?]
  split
  · next d rest heq =>
    cases heq.symm.trans h
    rfl
  · next heq => cases heq.symm.trans h

/-- A spelling is read as the one character that it stands for. -/
theorem basicString?_spelled {c : Char} {w : Text} (h : SpellsChar c w) (more : Text) :
    basicString? (w ++ more) = (basicString? more).map fun (t, rest) => (c :: t, rest) := by
  cases h with
  | plain hquote hbackslash hcontrol => exact basicString?_plain hquote hbackslash hcontrol more
  | marked h =>
    refine basicString?_escaped (s := c :: more) ?_
    rcases h with rfl | rfl
    · rfl
    · rfl
  | @numbered d₁ d₂ d₃ d₄ values hvalues h =>
    refine basicString?_escaped (s := 'u' :: d₁ :: d₂ :: d₃ :: d₄ :: more) ?_
    show (charOfHex? [d₁, d₂, d₃, d₄]).map (·, more) = some (c, more)
    rw [charOfHex?_of_values hvalues h, Option.map_some]

/-- A spelling followed by a quotation mark is read back as the text it spells. -/
theorem basicString?_append {s w : Text} (h : Spells s w) (rest : Text) :
    basicString? (w ++ '"' :: rest) = some (s, rest) := by
  induction h with
  | nil => rw [List.nil_append, basicString?]
  | cons h hs ih => rw [List.append_assoc, basicString?_spelled h, ih, Option.map_some]

/-- No spelling begins with a quotation mark. -/
theorem Spells.head?_ne {s w : Text} (h : Spells s w) : w.head? ≠ some '"' := by
  cases h with
  | nil => nofun
  | cons h hs =>
    cases h with
    | plain hquote => exact fun heq => hquote (Option.some.inj heq)
    | marked => exact fun heq => absurd (Option.some.inj heq) (by decide)
    | numbered => exact fun heq => absurd (Option.some.inj heq) (by decide)

/-- A third quote would begin a string of several lines, so none may follow. -/
theorem string?_append {s w : Text} (h : Spells s w) {rest : Text}
    (hrest : rest.head? ≠ some '"') : string? ('"' :: (w ++ '"' :: rest)) = some (s, rest) := by
  rw [string?]
  · exact basicString?_append h rest
  · intro more heq
    cases w with
    | nil =>
      cases heq
      exact hrest rfl
    | cons c w =>
      obtain ⟨hc, -⟩ := List.cons.inj heq
      exact h.head?_ne (congrArg some hc)

/-- A quoted spelling is read as a value. -/
theorem value?_string {s w : Text} (h : Spells s w) (rest : Text) (hrest : rest.head? ≠ some '"')
    (depth : Nat) : value? depth ('"' :: (w ++ '"' :: rest)) = some (.string s, rest) := by
  have hscalar (s : Text) : value? depth ('"' :: s) = scalar? ('"' :: s) := by
    cases depth with
    | zero => rfl
    | succ depth => rfl
  rw [hscalar, scalar?, string?_append h hrest]
  rfl

-- ---------------------------------------------------------------------------
-- Arrays
-- ---------------------------------------------------------------------------

theorem skipBlanks_cons {c : Char} (h : isBlank c = false) (s : Text) :
    skipBlanks (c :: s) = c :: s := List.dropWhile_cons_of_neg (by rw [h]; exact Bool.false_ne_true)

/-- Blanks before an item, a comma or a closing bracket are skipped. -/
theorem skipLines_append {gap : Text} (hgap : ∀ c ∈ gap, isBlank c = true) {c : Char}
    (hc : c = '"' ∨ c = ',' ∨ c = ']') (s : Text) :
    skipLines (gap ++ c :: s) = some (c :: s) := by
  have hplain : isBlank c = false ∧ c ≠ '#' ∧ c ≠ '\n' ∧ c ≠ '\r' := by
    rcases hc with rfl | rfl | rfl <;> decide
  obtain ⟨hblank, hhash, hfeed, hreturn⟩ := hplain
  have hskip : skipBlanks (gap ++ c :: s) = c :: s := by
    rw [skipBlanks, List.dropWhile_append_of_pos hgap]
    exact skipBlanks_cons hblank s
  rw [skipLines]
  split
  · next heq => exact absurd (List.cons.inj (hskip.symm.trans heq)).1 hhash
  · next heq => exact absurd (List.cons.inj (hskip.symm.trans heq)).1 hfeed
  · next heq => exact absurd (List.cons.inj (hskip.symm.trans heq)).1 hreturn
  · next heq => exact absurd (List.cons.inj (hskip.symm.trans heq)).1 hreturn
  · rw [hskip]

theorem skipLines_cons {c : Char} (hc : c = '"' ∨ c = ',' ∨ c = ']') (s : Text) :
    skipLines (c :: s) = some (c :: s) := by
  have hnone : ∀ c ∈ ([] : Text), isBlank c = true := nofun
  exact skipLines_append hnone hc s

section

variable {read? : Text → Read Value} {gap s rest : Text} {v : Value}

/-- A closing bracket ends an array. -/
theorem items?_closed (hgap : ∀ c ∈ gap, isBlank c = true) :
    items? read? (gap ++ ']' :: rest) = some ([], rest) := by
  rw [items?, skipLines_append hgap (by decide)]
  rfl

/-- After an item comes the closing bracket, or a comma and more of them. -/
theorem items?_of_read {after : Text} (hgap : ∀ c ∈ gap, isBlank c = true)
    (hread : read? ('"' :: s) = some (v, after)) :
    (∀ rest, skipLines after = some (']' :: rest) →
      items? read? (gap ++ '"' :: s) = some ([(spanOf ('"' :: s) after, v)], rest)) ∧
    ∀ rest, skipLines after = some (',' :: rest) → rest.length < (gap ++ '"' :: s).length →
      items? read? (gap ++ '"' :: s) = (items? read? rest).map fun (items, rest') =>
        ((spanOf ('"' :: s) after, v) :: items, rest') := by
  have hstart : skipLines (gap ++ '"' :: s) = some ('"' :: s) := skipLines_append hgap (by decide) s
  rw [items?]
  split
  · next heq => cases heq.symm.trans hstart
  · next heq => cases heq.symm.trans hstart
  · next heq =>
    cases heq.symm.trans hstart
    rw [hread]
    dsimp only
    constructor
    · intro rest hafter
      rw [hafter]
      rfl
    · intro rest hafter hlt
      rw [hafter]
      exact dif_pos hlt

end

/-- The texts of an array are read back up to the closing bracket. The induction is on
how they were written; the blanks after a comma come before the next of them. -/
theorem items?_append {ts : List Text} {w : Text} (h : WritesTexts ts w) {gap : Text}
    (hgap : ∀ c ∈ gap, isBlank c = true) (rest : Text) (depth : Nat) :
    ∃ items, items? (value? depth) (gap ++ (w ++ ']' :: rest)) = some (items, rest) ∧
      items.map Prod.snd = ts.map .string := by
  induction h generalizing gap with
  | nil => exact ⟨[], items?_closed hgap, rfl⟩
  | @last t w h =>
    have hread := value?_string h (']' :: rest) nofun depth
    rw [List.cons_append, List.cons_append, List.append_assoc]
    have hclosed := skipLines_cons (c := ']') (by decide) rest
    exact ⟨_, (items?_of_read hgap hread).1 rest hclosed, rfl⟩
  | @next t w more u ts h hmore hts ih =>
    have hread := value?_string h (',' :: (more ++ (u ++ ']' :: rest))) nofun depth
    obtain ⟨items, hitems, hmap⟩ := ih hmore
    have hcomma := skipLines_cons (c := ',') (by decide) (more ++ (u ++ ']' :: rest))
    have hlt : (more ++ (u ++ ']' :: rest)).length <
        (gap ++ '"' :: (w ++ '"' :: ',' :: (more ++ (u ++ ']' :: rest)))).length := by
      simp only [List.length_append, List.length_cons]
      omega
    simp only [List.cons_append, List.append_assoc]
    rw [(items?_of_read hgap hread).2 _ hcomma hlt, hitems]
    refine ⟨_, rfl, ?_⟩
    rw [List.map_cons, List.map_cons, hmap]

-- ---------------------------------------------------------------------------
-- Values
-- ---------------------------------------------------------------------------

/-- What a value holds, wherever its parts stand in the document. -/
def Content.HeldBy (v : Value) : Content → Prop
  | .truth b => v = .boolean b
  | .texts ts => ∃ items, v = .array items ∧ items.map Prod.snd = ts.map .string

/-- What is written for a content is read as a value that holds it. -/
theorem value?_written {c : Content} {w : Text} (h : c.Written w) (rest : Text) (depth : Nat) :
    ∃ v, value? (depth + 1) (w ++ rest) = some (v, rest) ∧ c.HeldBy v := by
  cases h with
  | yes => exact ⟨.boolean true, rfl, rfl⟩
  | no => exact ⟨.boolean false, rfl, rfl⟩
  | @texts ts w h =>
    have hnone : ∀ c ∈ ([] : Text), isBlank c = true := nofun
    obtain ⟨items, hitems, hmap⟩ := items?_append h hnone rest depth
    refine ⟨.array items, ?_, items, rfl, hmap⟩
    rw [List.cons_append, List.cons_append, List.append_assoc, value?]
    rw [List.nil_append] at hitems
    show (items? (value? depth) (w ++ ']' :: rest)).map _ = _
    rw [hitems, Option.map_some]

/-- No content begins with a blank. -/
theorem Content.Written.skipBlanks_eq {c : Content} {w : Text} (h : c.Written w) (rest : Text) :
    skipBlanks (' ' :: (w ++ rest)) = w ++ rest := by
  cases h with
  | yes => rfl
  | no => rfl
  | texts h => rfl

-- ---------------------------------------------------------------------------
-- Keys
-- ---------------------------------------------------------------------------

/-- A bare key holds none of the characters that begin other parts of a document. -/
theorem ne_of_isBareKeyChar {c : Char} (h : isBareKeyChar c = true) (d : Char)
    (hd : isBareKeyChar d = false) : c ≠ d := by
  rintro rfl
  rw [h] at hd
  cases hd

/-- Characters of bare keys are not blank. -/
theorem isBlank_of_isBareKeyChar {c : Char} (h : isBareKeyChar c = true) : isBlank c = false := by
  rw [isBlank, beq_false_of_ne (ne_of_isBareKeyChar h ' ' rfl),
    beq_false_of_ne (ne_of_isBareKeyChar h '\t' rfl), Bool.or_false]

namespace IsBareKey

variable {name : Text}

theorem eq_cons (h : IsBareKey name) : ∃ c t, name = c :: t ∧ isBareKeyChar c = true := by
  obtain ⟨hne, hall⟩ := h
  obtain ⟨c, t, rfl⟩ := List.exists_cons_of_ne_nil hne
  exact ⟨c, t, rfl, hall c List.mem_cons_self⟩

/-- A bare key is read up to the blank after it. -/
theorem simpleKey?_eq (h : IsBareKey name) (rest : Text) :
    ∃ span, simpleKey? (name ++ ' ' :: rest) = some (⟨name, span⟩, ' ' :: rest) := by
  have htake : (name ++ ' ' :: rest).takeWhile isBareKeyChar = name := by
    rw [List.takeWhile_append_of_pos h.2]
    exact List.append_nil name
  have hdrop : (name ++ ' ' :: rest).dropWhile isBareKeyChar = ' ' :: rest :=
    List.dropWhile_append_of_pos h.2
  have hbare : (if name.isEmpty then none else some (name, ' ' :: rest)) =
      some (name, ' ' :: rest) := if_neg (by rw [List.isEmpty_iff]; exact h.1)
  obtain ⟨c, t, hname, hc⟩ := h.eq_cons
  refine ⟨spanOf (name ++ ' ' :: rest) (' ' :: rest), ?_⟩
  rw [simpleKey?, htake, hdrop]
  · show (if name.isEmpty then none else some (name, ' ' :: rest)).map _ = _
    rw [hbare, Option.map_some]
  · intro more heq
    rw [hname] at heq
    exact ne_of_isBareKeyChar hc '"' rfl (List.cons.inj heq).1
  · intro more heq
    rw [hname] at heq
    exact ne_of_isBareKeyChar hc '\'' rfl (List.cons.inj heq).1

/-- A bare key is a key of one part. -/
theorem key?_eq (h : IsBareKey name) (rest : Text) :
    ∃ span, key? (name ++ ' ' :: '=' :: rest) = some (([], ⟨name, span⟩), '=' :: rest) := by
  obtain ⟨c, t, hname, hc⟩ := h.eq_cons
  obtain ⟨span, hsimple⟩ := h.simpleKey?_eq ('=' :: rest)
  have hstart : skipBlanks (name ++ ' ' :: '=' :: rest) = name ++ ' ' :: '=' :: rest := by
    rw [hname]
    exact skipBlanks_cons (isBlank_of_isBareKeyChar hc) _
  have hnames : names? (name ++ ' ' :: '=' :: rest) = some ([⟨name, span⟩], '=' :: rest) := by
    rw [names?, hstart, hsimple]
    rfl
  refine ⟨span, ?_⟩
  rw [key?, hnames]
  rfl

end IsBareKey

-- ---------------------------------------------------------------------------
-- Lines
-- ---------------------------------------------------------------------------

/-- A field of the document itself that says what was stated. -/
structure Field.States (f : Field) (a : Statement) : Prop where
  path : f.path = []
  name : f.key.name = a.name
  content : a.content.HeldBy f.value

section

variable {a : Statement} {line s rest : Text}

theorem Statement.Written.eq_cons (h : a.Written line) (hname : IsBareKey a.name) :
    ∃ c t, line = c :: t ∧ isBareKeyChar c = true := by
  obtain ⟨w, -, rfl⟩ := h
  obtain ⟨c, t, hcons, hc⟩ := hname.eq_cons
  exact ⟨c, t ++ (" = ".toList ++ w), by rw [hcons, List.append_assoc, List.cons_append], hc⟩

/-- A line that is written for a statement is read as a field that states the same. -/
theorem field?_written (h : a.Written line) (hname : IsBareKey a.name) (rest : Text)
    (depth : Nat) :
    ∃ f, field? (value? (depth + 1)) (line ++ rest) = some (f, rest) ∧ f.States a := by
  obtain ⟨w, hw, rfl⟩ := h
  obtain ⟨span, hkey⟩ := hname.key?_eq (' ' :: (w ++ rest))
  obtain ⟨v, hv, hheld⟩ := value?_written hw rest depth
  refine ⟨⟨[], ⟨a.name, span⟩, spanOf (w ++ rest) rest, v⟩, ?_, rfl, rfl, hheld⟩
  rw [List.append_assoc, List.append_assoc]
  show field? _ (a.name ++ ' ' :: '=' :: ' ' :: (w ++ rest)) = _
  rw [field?, hkey]
  show (value? (depth + 1) (skipBlanks (' ' :: (w ++ rest)))).map _ = _
  rw [hw.skipBlanks_eq, hv]
  rfl

/-- The end of a line is read as such. -/
theorem EndsLine.lineRest?_eq (h : EndsLine s rest) : lineRest? s = some rest := by
  cases h with
  | feed => rfl
  | returnFeed => rfl
  | final => rfl

theorem EndsLine.length_le (h : EndsLine s rest) : rest.length ≤ s.length := by
  cases h with
  | feed => exact Nat.le_succ _
  | returnFeed => exact Nat.le_add_right _ 2
  | final => exact Nat.le_refl _

/-- The line of a statement is read up to where the next one begins. -/
theorem line?_written (h : a.Written line) (hname : IsBareKey a.name) (hend : EndsLine s rest) :
    ∃ f, line? (line ++ s) = some (some (.field f), rest) ∧ f.States a := by
  obtain ⟨f, hfield, hstates⟩ := field?_written h hname s (maxDepth - 2)
  refine ⟨f, ?_, hstates⟩
  obtain ⟨c, t, rfl, hc⟩ := h.eq_cons hname
  rw [List.cons_append] at hfield ⊢
  rw [line?]
  · show (field? (value? (maxDepth - 2 + 1)) _).bind _ = _
    rw [hfield]
    show (lineRest? s).map _ = _
    rw [hend.lineRest?_eq, Option.map_some]
  · exact fun _ heq => ne_of_isBareKeyChar hc '#' rfl (List.cons.inj heq).1
  · exact fun _ heq => ne_of_isBareKeyChar hc '\n' rfl (List.cons.inj heq).1
  · exact fun _ heq => ne_of_isBareKeyChar hc '\r' rfl (List.cons.inj heq).1
  · exact fun _ heq => ne_of_isBareKeyChar hc '[' rfl (List.cons.inj heq).1

end

-- ---------------------------------------------------------------------------
-- Documents
-- ---------------------------------------------------------------------------

section

variable {as : List Statement} {document : Text}

/-- A document of statements is read as their fields, one for each line. -/
theorem linesFrom?_written (h : Writes as document) (hbare : ∀ a ∈ as, IsBareKey a.name) :
    ∃ fs : List Field, linesFrom? document = some (fs.map .field) ∧
      List.Forall₂ Field.States fs as := by
  induction h with
  | nil => exact ⟨[], by rw [linesFrom?]; rfl, .nil⟩
  | @cons a as line s rest h hend hrest ih =>
    obtain ⟨hname, hbare⟩ := List.forall_mem_cons.mp hbare
    obtain ⟨fs, hfs, hall⟩ := ih hbare
    obtain ⟨f, hline, hstates⟩ := line?_written h hname hend
    obtain ⟨c, t, rfl, hc⟩ := h.eq_cons hname
    have hstart : skipBlanks (c :: t ++ s) = c :: t ++ s :=
      skipBlanks_cons (isBlank_of_isBareKeyChar hc) _
    have hlt : rest.length < (c :: t ++ s).length := by
      have hle := hend.length_le
      rw [List.length_append, List.length_cons]
      omega
    refine ⟨f :: fs, ?_, .cons hstates hall⟩
    rw [List.cons_append] at hstart hline hlt ⊢
    rw [linesFrom?, hstart]
    dsimp only
    rw [hline]
    dsimp only
    rw [dif_pos hlt, hfs]
    rfl

/-- No line begins with the mark that does not belong to a document. -/
theorem lines?_written (h : Writes as document) (hbare : ∀ a ∈ as, IsBareKey a.name) :
    lines? document = linesFrom? document := by
  cases h with
  | nil =>
    rw [linesFrom?]
    rfl
  | @cons a as line s rest h hend hrest =>
    obtain ⟨c, t, rfl, hc⟩ := h.eq_cons (hbare a List.mem_cons_self)
    exact if_neg (ne_of_isBareKeyChar hc byteOrderMark rfl)

/-- Fields of statements stand in the table of the document itself. -/
theorem path_of_states {fs : List Field} (h : List.Forall₂ Field.States fs as) :
    ∀ f ∈ fs, f.path = [] := by
  induction h with
  | nil => nofun
  | cons hstates hrest ih => exact List.forall_mem_cons.mpr ⟨hstates.path, ih⟩

/-- Fields of statements have the names of the statements. -/
theorem names_of_states {fs : List Field} (h : List.Forall₂ Field.States fs as) :
    fs.map (·.key.name) = as.map Statement.name := by
  induction h with
  | nil => rfl
  | cons hstates hrest ih => rw [List.map_cons, List.map_cons, hstates.name, ih]

end

/-- Fields without headers are one section. -/
theorem sections_fields (fs : List Field) : sections (fs.map .field) = (fs, []) := by
  induction fs with
  | nil => rfl
  | cons f fs ih => rw [List.map_cons, sections, ih]

/-- The entry that a field of the document itself becomes. -/
def Field.entry (f : Field) : Key × Option Span × Value := (f.key, some f.span, f.value)

/-- A field with a new name is put at the end. -/
theorem Entries.addField?_new {entries : Entries} {f : Field} (hpath : f.path = [])
    (hnew : ∀ e ∈ entries, e.1.name ≠ f.key.name) :
    entries.addField? f = some (entries ++ [f.entry]) := by
  rw [addField?, hpath, inside?, if_neg (fun h => h.1 rfl), add?, if_neg]
  · rfl
  · rw [List.any_eq_true]
    rintro ⟨e, he, heq⟩
    exact hnew e he (of_decide_eq_true heq)

/-- Fields of different names become entries one after the other. -/
theorem Entries.addFields?_new {fs : List Field} {entries : Entries}
    (hpath : ∀ f ∈ fs, f.path = [])
    (hnodup : (entries.map (·.1.name) ++ fs.map (·.key.name)).Nodup) :
    Entries.addFields? fs entries = some (entries ++ fs.map Field.entry) := by
  induction fs generalizing entries with
  | nil => rw [addFields?, List.map_nil, List.append_nil]
  | cons f fs ih =>
    obtain ⟨hf, hpath⟩ := List.forall_mem_cons.mp hpath
    have hnew : ∀ e ∈ entries, e.1.name ≠ f.key.name := by
      intro e he
      exact (List.nodup_append.mp hnodup).2.2 _ (List.mem_map_of_mem he) _ List.mem_cons_self
    have hstep : ((entries ++ [f.entry]).map (·.1.name) ++ fs.map (·.key.name)).Nodup := by
      rw [List.map_append, List.append_assoc]
      exact hnodup
    rw [addFields?, addField?_new hf hnew, Option.bind_some, ih hpath hstep, List.append_assoc]
    rfl

/-- A document is read as what was stated in it, in the same order. -/
theorem ofText?_written {as : List Statement} {document : Text} (h : Writes as document)
    (hbare : ∀ a ∈ as, IsBareKey a.name) (hnodup : (as.map Statement.name).Nodup) :
    ∃ fs : List Field, ofText? document = some (fs.map Field.entry) ∧
      List.Forall₂ Field.States fs as := by
  obtain ⟨fs, hlines, hall⟩ := linesFrom?_written h hbare
  have hnew : ((([] : Entries).map (·.1.name)) ++ fs.map (·.key.name)).Nodup := by
    rwa [names_of_states hall]
  refine ⟨fs, ?_, hall⟩
  rw [ofText?, lines?_written h hbare, hlines, Option.bind_some, sections_fields]
  show (Entries.addFields? fs []).bind _ = _
  rw [Entries.addFields?_new (path_of_states hall) hnew]
  rfl

-- ---------------------------------------------------------------------------
-- Everything can be written
-- ---------------------------------------------------------------------------

theorem exists_spellsChar (c : Char) : ∃ w, SpellsChar c w := by
  by_cases hmarked : c = '"' ∨ c = '\\'
  · exact ⟨_, .marked hmarked⟩
  · cases hcontrol : Ascii.isControl c with
    | false =>
      obtain ⟨hquote, hbackslash⟩ := not_or.mp hmarked
      exact ⟨_, .plain hquote hbackslash hcontrol⟩
    | true =>
      have hlt : c.toNat < 0x80 := by
        rw [Ascii.isControl, Bool.or_eq_true, decide_eq_true_eq, beq_iff_eq] at hcontrol
        omega
      have hall : ∀ n < 0x80,
          ['0', '0', Numeral.digit (n / 16), Numeral.digit (n % 16)].map Ascii.hexValue? =
              [0, 0, n / 16, n % 16].map some ∧
            Numeral.valueOf 16 [0, 0, n / 16, n % 16] = n := by decide
      obtain ⟨hvalues, hnumber⟩ := hall c.toNat hlt
      exact ⟨_, .numbered hvalues hnumber⟩

/-- Every text can be spelt. -/
theorem exists_spells (s : Text) : ∃ w, Spells s w := by
  induction s with
  | nil => exact ⟨[], .nil⟩
  | cons c s ih =>
    obtain ⟨w, hw⟩ := exists_spellsChar c
    obtain ⟨u, hu⟩ := ih
    exact ⟨w ++ u, .cons hw hu⟩

theorem exists_writesTexts (ts : List Text) : ∃ w, WritesTexts ts w := by
  induction ts with
  | nil => exact ⟨[], .nil⟩
  | cons t ts ih =>
    obtain ⟨w, hw⟩ := exists_spells t
    obtain ⟨u, hu⟩ := ih
    have hgap : ∀ c ∈ [' '], isBlank c = true := List.all_eq_true.mp rfl
    exact ⟨_, .next hw hgap hu⟩

/-- Every content can be written. -/
theorem exists_written (c : Content) : ∃ w, c.Written w := by
  match c with
  | .truth true => exact ⟨_, .yes⟩
  | .truth false => exact ⟨_, .no⟩
  | .texts ts =>
    obtain ⟨w, hw⟩ := exists_writesTexts ts
    exact ⟨_, .texts hw⟩

/-- Every list of statements has a document. -/
theorem exists_writes (as : List Statement) : ∃ document, Writes as document := by
  induction as with
  | nil => exact ⟨[], .nil⟩
  | cons a as ih =>
    obtain ⟨w, hw⟩ := exists_written a.content
    obtain ⟨rest, hrest⟩ := ih
    exact ⟨_, .cons ⟨w, hw, rfl⟩ .feed hrest⟩

end RepoIdentity.Toml

import Mathlib.Tactic.SplitIfs
import RepoIdentity.Reference.Forms
import RepoIdentity.Proofs.Numeral

/-!
# JSON documents are read back

What a JSON text says is settled by the grammar of JSON, which knows nothing of
how the library prints: blanks may stand between any two tokens, a character of a
string may be written in several ways, and a comma stands between two entries and
nowhere else. The values are those of `Json`; numbers, truth values and null have
other first characters, and no document of the library holds one.

* `character?` — the character that the text between two quotes begins with;
* `ReadsString`, `Reads` — a text begins with a string, with a value, with the
  entries of an array or an object, and goes on with a rest;
* `Denotes` — a document says a value;
* `Reads.unique`, `Denotes.unique` — no text says two things;
* `character?_escapeChar`, `reads_printAt`, `denotes_print` — what is printed says
  what was printed, at every level of indentation and whatever follows.
-/

namespace RepoIdentity.Json

-- ---------------------------------------------------------------------------
-- Characters of strings
-- ---------------------------------------------------------------------------

/-- The letters that may follow a backslash, with the characters they stand for. -/
def letterEscapes : List (Char × Char) :=
  [('"', '"'), ('\\', '\\'), ('/', '/'), ('b', '\x08'), ('f', '\x0c'), ('n', '\n'), ('r', '\r'),
    ('t', '\t')]

/-- The number that four hexadecimal digits write, and the text after them. -/
def codeUnit? : Text → Option (Nat × Text)
  | a :: b :: c :: d :: s =>
    ([a, b, c, d].mapM Ascii.hexValue?).map fun digits => (Numeral.valueOf 16 digits, s)
  | _ => none

def isHighSurrogate (n : Nat) : Bool := 0xD800 ≤ n && n < 0xDC00

def isLowSurrogate (n : Nat) : Bool := 0xDC00 ≤ n && n < 0xE000

/-- The character that a code unit stands for, or a pair of them of which the second
has an escape of its own. The text begins after the first `\u`. -/
def unicode? (s : Text) : Option (Char × Text) := do
  let (n, s) ← codeUnit? s
  if isHighSurrogate n then
    let s ← Text.dropPrefix? "\\u".toList s
    let (m, s) ← codeUnit? s
    if isLowSurrogate m then
      return (Char.ofNat (0x10000 + (n - 0xD800) * 0x400 + (m - 0xDC00)), s)
    else none
  else if isLowSurrogate n then none
  else return (Char.ofNat n, s)

/-- The first character of a text between quotes, and the text after it. -/
def character? : Text → Option (Char × Text)
  | '\\' :: 'u' :: s => unicode? s
  | '\\' :: letter :: s => (letterEscapes.lookup letter).map (·, s)
  | c :: s => if c = '"' ∨ c = '\\' ∨ c.toNat < 0x20 then none else some (c, s)
  | [] => none

-- ---------------------------------------------------------------------------
-- The grammar
-- ---------------------------------------------------------------------------

/-- `ReadsString s content rest`: after the first quote of a string comes `s`, which is
the characters of `content`, the last quote, and `rest`. -/
inductive ReadsString : Text → Text → Text → Prop
  | close {rest : Text} : ReadsString ('"' :: rest) [] rest
  | next {s s' content rest : Text} {c : Char} (h : character? s = some (c, s'))
      (hs : ReadsString s' content rest) : ReadsString s (c :: content) rest

def isBlank (c : Char) : Bool := c == ' ' || c == '\t' || c == '\n' || c == '\r'

/-- The text after the blanks it begins with. -/
def skipBlanks (s : Text) : Text := s.dropWhile isBlank

/-- What a part of a document says. -/
inductive Phrase where
  | value (j : Json)
  /-- The items of an array, at least one, with the bracket that closes it. -/
  | items (js : List Json)
  | field (f : Text × Json)
  /-- The fields of an object, at least one, with the brace that closes it. -/
  | fields (fs : List (Text × Json))

inductive PhraseKind where
  | value
  | items
  | field
  | fields

def Phrase.kind : Phrase → PhraseKind
  | .value _ => .value
  | .items _ => .items
  | .field _ => .field
  | .fields _ => .fields

/-- `Reads p s rest`: the text `s` begins with the phrase `p`, and `rest` comes after it. -/
inductive Reads : Phrase → Text → Text → Prop
  | text {s content rest : Text} (h : ReadsString s content rest) :
      Reads (.value (.text content)) ('"' :: s) rest
  | emptyArray {s rest : Text} (h : skipBlanks s = ']' :: rest) :
      Reads (.value (.array [])) ('[' :: s) rest
  | array {s rest : Text} {js : List Json} (h : Reads (.items js) (skipBlanks s) rest) :
      Reads (.value (.array js)) ('[' :: s) rest
  | emptyObject {s rest : Text} (h : skipBlanks s = '\x7d' :: rest) :
      Reads (.value (.object [])) ('\x7b' :: s) rest
  | object {s rest : Text} {fs : List (Text × Json)} (h : Reads (.fields fs) (skipBlanks s) rest) :
      Reads (.value (.object fs)) ('\x7b' :: s) rest
  | lastItem {s after rest : Text} {j : Json} (h : Reads (.value j) s after)
      (hafter : skipBlanks after = ']' :: rest) : Reads (.items [j]) s rest
  | item {s after more rest : Text} {j : Json} {js : List Json} (h : Reads (.value j) s after)
      (hafter : skipBlanks after = ',' :: more) (hs : Reads (.items js) (skipBlanks more) rest) :
      Reads (.items (j :: js)) s rest
  | field {s name after more rest : Text} {j : Json} (h : ReadsString s name after)
      (hafter : skipBlanks after = ':' :: more) (hvalue : Reads (.value j) (skipBlanks more) rest) :
      Reads (.field (name, j)) ('"' :: s) rest
  | lastField {s after rest : Text} {f : Text × Json} (h : Reads (.field f) s after)
      (hafter : skipBlanks after = '\x7d' :: rest) : Reads (.fields [f]) s rest
  | fields {s after more rest : Text} {f : Text × Json} {fs : List (Text × Json)}
      (h : Reads (.field f) s after) (hafter : skipBlanks after = ',' :: more)
      (hs : Reads (.fields fs) (skipBlanks more) rest) : Reads (.fields (f :: fs)) s rest

/-- A whole text says a value, with nothing but blanks before and after it. -/
def Denotes (document : Text) (j : Json) : Prop :=
  ∃ rest, Reads (.value j) (skipBlanks document) rest ∧ skipBlanks rest = []

-- ---------------------------------------------------------------------------
-- No text says two things
-- ---------------------------------------------------------------------------

/-- A string has one content and one end. -/
theorem ReadsString.unique {s content rest content' rest' : Text}
    (h : ReadsString s content rest) (h' : ReadsString s content' rest') :
    content = content' ∧ rest = rest' := by
  induction h generalizing content' with
  | close =>
    cases h' with
    | close => exact ⟨rfl, rfl⟩
    | next h hs => cases h
  | next h hs ih =>
    cases h' with
    | close => cases h
    | next h' hs' =>
      obtain ⟨rfl, rfl⟩ := Prod.mk.inj (Option.some.inj (h.symm.trans h'))
      obtain ⟨rfl, rfl⟩ := ih hs'
      exact ⟨rfl, rfl⟩

namespace Reads

variable {p q : Phrase} {s rest rest' : Text}

/-- A phrase begins with a quote or with a bracket that opens. -/
theorem head (h : Reads p s rest) :
    ∃ c t, s = c :: t ∧ (c = '"' ∨ c = '[' ∨ c = '\x7b') := by
  induction h with
  | lastItem h hafter ih => exact ih
  | item h hafter hs ih => exact ih
  | lastField h hafter ih => exact ih
  | fields h hafter hs ih => exact ih
  | _ => exact ⟨_, _, rfl, by decide⟩

theorem skipBlanks_eq (h : Reads p s rest) : skipBlanks s = s := by
  obtain ⟨c, t, rfl, rfl | rfl | rfl⟩ := h.head
  · rfl
  · rfl
  · rfl

/-- No value begins with a closing bracket. -/
theorem ne_closing (h : Reads p s rest) (t : Text) : s ≠ ']' :: t ∧ s ≠ '\x7d' :: t := by
  obtain ⟨c, u, rfl, rfl | rfl | rfl⟩ := h.head
  · exact ⟨nofun, nofun⟩
  · exact ⟨nofun, nofun⟩
  · exact ⟨nofun, nofun⟩

/-- The grammar is unambiguous: of two phrases of one kind that a text begins with,
each is the other, and they end at the same place. The induction is on the first
reading; the token after a phrase decides which rule the second one ends with. -/
theorem unique (h : Reads p s rest) (h' : Reads q s rest') (hkind : p.kind = q.kind) :
    p = q ∧ rest = rest' := by
  induction h generalizing q rest' with
  | text h =>
    cases h' with
    | text h' =>
      obtain ⟨rfl, rfl⟩ := h.unique h'
      exact ⟨rfl, rfl⟩
    | _ => cases hkind
  -- an array is empty or not, by whether a bracket comes first
  | emptyArray h =>
    cases h' with
    | emptyArray h' => exact ⟨rfl, (List.cons.inj (h.symm.trans h')).2⟩
    | array h' => exact absurd h (h'.ne_closing _).1
    | _ => cases hkind
  | array h ih =>
    cases h' with
    | emptyArray h' => exact absurd h' (h.ne_closing _).1
    | array h' =>
      obtain ⟨⟨⟩, rfl⟩ := ih h' rfl
      exact ⟨rfl, rfl⟩
    | _ => cases hkind
  | emptyObject h =>
    cases h' with
    | emptyObject h' => exact ⟨rfl, (List.cons.inj (h.symm.trans h')).2⟩
    | object h' => exact absurd h (h'.ne_closing _).2
    | _ => cases hkind
  | object h ih =>
    cases h' with
    | emptyObject h' => exact absurd h' (h.ne_closing _).2
    | object h' =>
      obtain ⟨⟨⟩, rfl⟩ := ih h' rfl
      exact ⟨rfl, rfl⟩
    | _ => cases hkind
  -- items end where a bracket and no comma follows
  | lastItem h hafter ih =>
    cases h' with
    | lastItem h' hafter' =>
      obtain ⟨⟨⟩, rfl⟩ := ih h' rfl
      exact ⟨rfl, (List.cons.inj (hafter.symm.trans hafter')).2⟩
    | item h' hafter' hs' =>
      obtain ⟨-, rfl⟩ := ih h' rfl
      cases hafter.symm.trans hafter'
    | _ => cases hkind
  | item h hafter hs ih ihs =>
    cases h' with
    | lastItem h' hafter' =>
      obtain ⟨-, rfl⟩ := ih h' rfl
      cases hafter.symm.trans hafter'
    | item h' hafter' hs' =>
      obtain ⟨⟨⟩, rfl⟩ := ih h' rfl
      cases hafter.symm.trans hafter'
      obtain ⟨⟨⟩, rfl⟩ := ihs hs' rfl
      exact ⟨rfl, rfl⟩
    | _ => cases hkind
  | field h hafter hvalue ih =>
    cases h' with
    | field h' hafter' hvalue' =>
      obtain ⟨rfl, rfl⟩ := h.unique h'
      cases hafter.symm.trans hafter'
      obtain ⟨⟨⟩, rfl⟩ := ih hvalue' rfl
      exact ⟨rfl, rfl⟩
    | _ => cases hkind
  -- and fields end alike
  | lastField h hafter ih =>
    cases h' with
    | lastField h' hafter' =>
      obtain ⟨⟨⟩, rfl⟩ := ih h' rfl
      exact ⟨rfl, (List.cons.inj (hafter.symm.trans hafter')).2⟩
    | fields h' hafter' hs' =>
      obtain ⟨-, rfl⟩ := ih h' rfl
      cases hafter.symm.trans hafter'
    | _ => cases hkind
  | fields h hafter hs ih ihs =>
    cases h' with
    | lastField h' hafter' =>
      obtain ⟨-, rfl⟩ := ih h' rfl
      cases hafter.symm.trans hafter'
    | fields h' hafter' hs' =>
      obtain ⟨⟨⟩, rfl⟩ := ih h' rfl
      cases hafter.symm.trans hafter'
      obtain ⟨⟨⟩, rfl⟩ := ihs hs' rfl
      exact ⟨rfl, rfl⟩
    | _ => cases hkind

end Reads

/-- A document says one thing. -/
theorem Denotes.unique {document : Text} {j k : Json} (hj : Denotes document j)
    (hk : Denotes document k) : j = k := by
  obtain ⟨rest, hj, -⟩ := hj
  obtain ⟨rest', hk, -⟩ := hk
  obtain ⟨⟨⟩, -⟩ := hj.unique hk rfl
  rfl

-- ---------------------------------------------------------------------------
-- Printed strings
-- ---------------------------------------------------------------------------

/-- Four digits of a control character are read as its code. -/
theorem codeUnit?_of_lt {n : Nat} (h : n < 0x20) (s : Text) :
    codeUnit? ('0' :: '0' :: Numeral.digit (n / 16) :: Numeral.digit (n % 16) :: s) =
      some (n, s) := by
  have hall : ∀ n < 0x20, ['0', '0', Numeral.digit (n / 16), Numeral.digit (n % 16)].mapM
        Ascii.hexValue? = some [0, 0, n / 16, n % 16] ∧
      Numeral.valueOf 16 [0, 0, n / 16, n % 16] = n := by decide
  obtain ⟨hdigits, hvalue⟩ := hall n h
  rw [codeUnit?, hdigits, Option.map_some, hvalue]

/-- The escape of a control character is read as that character. -/
theorem character?_control {c : Char} (h : c.toNat < 0x20) (s : Text) :
    character? ("\\u00".toList ++ [Numeral.digit (c.toNat / 16), Numeral.digit (c.toNat % 16)] ++ s)
      = some (c, s) := by
  have hhigh : isHighSurrogate c.toNat = false := by
    rw [isHighSurrogate, decide_eq_false (by omega), Bool.false_and]
  have hlow : isLowSurrogate c.toNat = false := by
    rw [isLowSurrogate, decide_eq_false (by omega), Bool.false_and]
  show unicode?
    ('0' :: '0' :: Numeral.digit (c.toNat / 16) :: Numeral.digit (c.toNat % 16) :: s) = _
  rw [unicode?, codeUnit?_of_lt h]
  show (if isHighSurrogate c.toNat = true then _ else if isLowSurrogate c.toNat = true then none
    else some (Char.ofNat c.toNat, s)) = _
  rw [hhigh, hlow, if_neg Bool.false_ne_true, if_neg Bool.false_ne_true, Char.ofNat_toNat]

/-- A character that needs no escape is read as itself. -/
theorem character?_plain {c : Char} (hquote : c ≠ '"') (hbackslash : c ≠ '\\')
    (hcontrol : ¬c.toNat < 0x20) (s : Text) : character? (c :: s) = some (c, s) := by
  rw [character?.eq_3, if_neg]
  · rintro (h | h | h)
    · exact hquote h
    · exact hbackslash h
    · exact hcontrol h
  · exact fun _ h _ => hbackslash h
  · exact fun _ _ h _ => hbackslash h

/-- Every character is read back from the way in which it is printed. -/
theorem character?_escapeChar (c : Char) (s : Text) :
    character? (escapeChar c ++ s) = some (c, s) := by
  unfold escapeChar
  split_ifs with hquote hbackslash hfeed hreturn htab hback hform hcontrol
  · subst hquote; rfl
  · subst hbackslash; rfl
  · subst hfeed; rfl
  · subst hreturn; rfl
  · subst htab; rfl
  · subst hback; rfl
  · subst hform; rfl
  · exact character?_control hcontrol s
  · exact character?_plain hquote hbackslash hcontrol s

/-- Escaped characters are read back, up to the quotation mark. -/
theorem readsString_flatMap (s rest : Text) :
    ReadsString (s.flatMap escapeChar ++ '"' :: rest) s rest := by
  induction s with
  | nil => exact .close
  | cons c s ih =>
    rw [List.flatMap_cons, List.append_assoc]
    exact .next (character?_escapeChar c _) ih

theorem quote_append (s rest : Text) :
    quote s ++ rest = '"' :: (s.flatMap escapeChar ++ '"' :: rest) := by
  rw [quote, List.append_assoc]
  rfl

-- ---------------------------------------------------------------------------
-- Printed values
-- ---------------------------------------------------------------------------

/-- The indentation of a line does not count. -/
theorem skipBlanks_newline (level : Nat) (s : Text) :
    skipBlanks (newline level ++ s) = skipBlanks s := by
  have hblank : ∀ c ∈ newline level, isBlank c = true := by
    intro c hc
    rcases List.mem_cons.mp hc with rfl | hc
    · rfl
    · rw [(List.mem_replicate.mp hc).2]
      rfl
  rw [skipBlanks, List.dropWhile_append_of_pos hblank, skipBlanks]

/-- What is read is read on a line of its own too. -/
theorem Reads.after_newline {p : Phrase} {s rest : Text} (h : Reads p s rest) (level : Nat) :
    Reads p (skipBlanks (newline level ++ s)) rest := by
  rwa [skipBlanks_newline, h.skipBlanks_eq]

/-- The lines between two brackets, each with its indentation. -/
theorem enclose_append (opening closing : Char) (level : Nat) {entries : List Text}
    (h : entries ≠ []) (rest : Text) : enclose opening closing level entries ++ rest =
      opening :: (newline (level + 1) ++ (Text.join (',' :: newline (level + 1)) entries ++
        (newline level ++ closing :: rest))) := by
  rw [enclose, if_neg (by rwa [List.isEmpty_iff])]
  simp only [List.append_assoc, List.cons_append, List.nil_append]

/-- A field that is printed is read back if its value is. -/
theorem reads_printField {level : Nat} {j : Json} {rest : Text} (name : Text)
    (h : Reads (.value j) (printAt level j ++ rest) rest) :
    Reads (.field (name, j)) (quote name ++ ": ".toList ++ printAt level j ++ rest) rest := by
  rw [List.append_assoc, List.append_assoc, quote_append]
  refine .field (readsString_flatMap name _) rfl ?_
  show Reads _ (skipBlanks (printAt level j ++ rest)) rest
  rwa [h.skipBlanks_eq]

mutual

/-- A printed value is read back, whatever comes after it. -/
theorem reads_printAt (level : Nat) (j : Json) (rest : Text) :
    Reads (.value j) (printAt level j ++ rest) rest := by
  match j with
  | .text s =>
    rw [printAt, quote_append]
    exact .text (readsString_flatMap s rest)
  | .array [] => exact .emptyArray rfl
  | .array (item :: items) =>
    rw [printAt, enclose_append]
    · exact .array ((reads_printItems (level + 1) level (item :: items) nofun rest).after_newline _)
    · exact List.cons_ne_nil _ _
  | .object [] => exact .emptyObject rfl
  | .object ((name, j) :: fs) =>
    rw [printAt, enclose_append]
    · exact .object
        ((reads_printFields (level + 1) level ((name, j) :: fs) nofun rest).after_newline _)
    · exact List.cons_ne_nil _ _

/-- Items that are printed are read back. -/
theorem reads_printItems (level outer : Nat) (items : List Json) (h : items ≠ []) (rest : Text) :
    Reads (.items items) (Text.join (',' :: newline level) (printItems level items) ++
      (newline outer ++ ']' :: rest)) rest := by
  match items with
  | [] => exact absurd rfl h
  | [item] =>
    rw [printItems, printItems, Text.join, List.intercalate_singleton]
    exact .lastItem (reads_printAt level item _) (skipBlanks_newline outer _)
  | item :: next :: items =>
    rw [printItems, printItems, Text.join, List.intercalate_cons_cons, ← Text.join, ← printItems,
      List.append_assoc, List.append_assoc]
    exact .item (reads_printAt level item _) rfl
      ((reads_printItems level outer (next :: items) nofun rest).after_newline level)

/-- Fields that are printed are read back. -/
theorem reads_printFields (level outer : Nat) (fs : List (Text × Json)) (h : fs ≠ [])
    (rest : Text) : Reads (.fields fs) (Text.join (',' :: newline level) (printFields level fs) ++
      (newline outer ++ '\x7d' :: rest)) rest := by
  match fs with
  | [] => exact absurd rfl h
  | [(name, j)] =>
    rw [printFields, printFields, Text.join, List.intercalate_singleton]
    exact .lastField (reads_printField name (reads_printAt level j _)) (skipBlanks_newline outer _)
  | (name, j) :: next :: fs =>
    rw [printFields, printFields, Text.join, List.intercalate_cons_cons, ← Text.join, ← printFields,
      List.append_assoc, List.append_assoc]
    exact .fields (reads_printField name (reads_printAt level j _)) rfl
      ((reads_printFields level outer (next :: fs) nofun rest).after_newline level)

end

/-- A printed document says the value that was printed. -/
theorem denotes_print (j : Json) {after : Text} (h : skipBlanks after = []) :
    Denotes (j.print ++ after) j := by
  have hreads := reads_printAt 0 j after
  refine ⟨after, ?_, h⟩
  rwa [print, hreads.skipBlanks_eq]

end RepoIdentity.Json

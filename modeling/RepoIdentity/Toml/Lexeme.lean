import RepoIdentity.Toml.Basic
import RepoIdentity.Text.Ascii

/-!
# Lexemes of TOML

Readers of the smallest parts of a document. Each takes the text from where it
stands and gives what it read with the rest, or nothing if the text does not
begin with such a part.

* blanks, comments and line ends (`skipBlanks`, `comment`, `lineEnd?`);
* the four kinds of strings (`basicString?` and its siblings);
* keys, bare or quoted, with dots between them (`key?`).
-/

namespace RepoIdentity.Toml

/-- What a reader gives: a value and the rest of the text. -/
abbrev Read (α : Type) := Option (α × Text)

-- ---------------------------------------------------------------------------
-- Blanks, comments and line ends
-- ---------------------------------------------------------------------------

/-- Spaces and tabs, the blanks inside a line. -/
def isBlank (c : Char) : Bool := c == ' ' || c == '\t'

/-- The text after the blanks it begins with. -/
def skipBlanks (s : Text) : Text := s.dropWhile isBlank

/-- Characters that may stand in a comment: all but the controls, tabs apart. -/
def isCommentChar (c : Char) : Bool := c == '\t' || !Ascii.isControl c

/-- The text after a comment, if it begins with one. -/
def comment : Text → Text
  | '#' :: s => s.dropWhile isCommentChar
  | s => s

/-- The text after a line feed, or a carriage return and a line feed. -/
def newline? : Text → Option Text
  | '\n' :: s => some s
  | '\r' :: '\n' :: s => some s
  | _ => none

/-- The text after the end of a line, which may be the end of the document. -/
def lineEnd? : Text → Option Text
  | [] => some []
  | s => newline? s

/-- The text after blanks, a comment, and the end of the line. -/
def lineRest? (s : Text) : Option Text := lineEnd? (comment (skipBlanks s))

theorem length_skipBlanks_le (s : Text) : (skipBlanks s).length ≤ s.length :=
  (List.dropWhile_suffix _).length_le

theorem length_comment_le (s : Text) : (comment s).length ≤ s.length := by
  unfold comment
  split
  · exact Nat.le_succ_of_le (List.dropWhile_suffix _).length_le
  · exact Nat.le_refl _

theorem length_newline?_lt {s rest : Text} (h : newline? s = some rest) :
    rest.length < s.length := by
  unfold newline? at h
  split at h
  · simp only [Option.some.injEq] at h; subst h; simp
  · simp only [Option.some.injEq] at h; subst h; simp only [List.length_cons]; omega
  · simp at h

/-- The text after blanks, comments and line ends, as they stand in an array;
none if a comment does not end its line. -/
def skipLines (s : Text) : Option Text :=
  match _h : skipBlanks s with
  | '#' :: _ =>
    match _h' : newline? (comment (skipBlanks s)) with
    | some rest => skipLines rest
    | none => none
  | '\n' :: rest => skipLines rest
  | '\r' :: '\n' :: rest => skipLines rest
  | '\r' :: _ => none
  | rest => some rest
termination_by s.length
decreasing_by
  all_goals
    have h₁ := length_skipBlanks_le s
  · have h₂ := length_newline?_lt ‹_›
    have h₃ := length_comment_le (skipBlanks s)
    omega
  · simp only [_h, List.length_cons] at h₁
    omega
  · simp only [_h, List.length_cons] at h₁
    omega

-- ---------------------------------------------------------------------------
-- Strings
-- ---------------------------------------------------------------------------

/-- Characters that may stand in a string on one line: all but the controls,
tabs apart. -/
def isStringChar (c : Char) : Bool := c == '\t' || !Ascii.isControl c

/-- The character that the hexadecimal digits number, if they number one. -/
def charOfHex? (digits : Text) : Option Char :=
  if digits.all Ascii.isHexDigit then
    let n := Numeral.valueOf 16 (digits.map fun c => (Ascii.hexValue? c).getD 0)
    if n.isValidChar then some (Char.ofNat n) else none
  else none

/-- The character of an escape that is one letter. -/
def shortEscape? : Char → Option Char
  | 'b' => some '\x08'
  | 'f' => some '\x0c'
  | 'n' => some '\n'
  | 'r' => some '\r'
  | 't' => some '\t'
  | '"' => some '"'
  | '\\' => some '\\'
  | _ => none

def escape? : Text → Read Char
  | 'u' :: a :: b :: c :: d :: rest => (charOfHex? [a, b, c, d]).map (·, rest)
  | 'U' :: a :: b :: c :: d :: e :: f :: g :: h :: rest =>
    (charOfHex? [a, b, c, d, e, f, g, h]).map (·, rest)
  | c :: rest => (shortEscape? c).map (·, rest)
  | [] => none

theorem escape?_length {s rest : Text} {c : Char} (h : escape? s = some (c, rest)) :
    rest.length < s.length := by
  unfold escape? at h
  split at h <;>
    simp only [Option.map_eq_some_iff, Prod.mk.injEq, reduceCtorEq] at h
  all_goals
    obtain ⟨_, -, -, rfl⟩ := h
    simp only [List.length_cons]
    omega

/-- A string between double quotes, after the first. -/
def basicString? (s : Text) : Read Text :=
  match s with
  | [] => none
  | '"' :: rest => some ([], rest)
  | '\\' :: rest =>
    match _h : escape? rest with
    | some (c, rest) => (basicString? rest).map fun (t, rest) => (c :: t, rest)
    | none => none
  | c :: rest =>
    if isStringChar c then (basicString? rest).map fun (t, rest) => (c :: t, rest) else none
termination_by s.length
decreasing_by
  · have := escape?_length ‹_›
    simp only [List.length_cons]
    omega
  · simp

/-- A string between single quotes, after the first. -/
def literalString? (s : Text) : Read Text :=
  let content := s.takeWhile fun c => isStringChar c && c != '\''
  match s.dropWhile fun c => isStringChar c && c != '\'' with
  | '\'' :: rest => some (content, rest)
  | _ => none

/-- The text after the first line end, if it begins with one. -/
def dropNewline (s : Text) : Text := (newline? s).getD s

/-- The text after blanks, a line end, and more blanks and line ends: what an
escaped line end leaves out. -/
def skipFold? (s : Text) : Option Text :=
  (newline? (skipBlanks s)).map skipMore
where
  /-- The text after blanks and line ends. -/
  skipMore : Text → Text
    | '\n' :: rest => skipMore rest
    | '\r' :: '\n' :: rest => skipMore rest
    | c :: rest => if isBlank c then skipMore rest else c :: rest
    | [] => []

/-- What ends a string of several lines: at least three quotes `q`, of which up
to two before the last three belong to the string. -/
def closing? (q : Char) (s : Text) : Read Text :=
  let run := min 5 (s.takeWhile (· == q)).length
  if 3 ≤ run then some (List.replicate (run - 3) q, s.drop run) else none

theorem length_skipMore_le (s : Text) : (skipFold?.skipMore s).length ≤ s.length := by
  fun_induction skipFold?.skipMore s <;> simp_all <;> omega

theorem skipFold?_length {s rest : Text} (h : skipFold? s = some rest) :
    rest.length < s.length := by
  unfold skipFold? at h
  obtain ⟨t, ht, rfl⟩ := Option.map_eq_some_iff.1 h
  have h₁ := length_newline?_lt ht
  have h₂ := length_skipBlanks_le s
  have h₃ := length_skipMore_le t
  omega

/-- A string between three double quotes, after the first three and a line end. -/
def multilineBasic? (s : Text) : Read Text :=
  match closing? '"' s with
  | some found => some found
  | none =>
    match _h : s with
    | [] => none
    | '\\' :: rest =>
      match _h' : skipFold? rest with
      | some rest => multilineBasic? rest
      | none =>
        match _h'' : escape? rest with
        | some (c, rest) => (multilineBasic? rest).map fun (t, rest) => (c :: t, rest)
        | none => none
    | '\r' :: '\n' :: rest => (multilineBasic? rest).map fun (t, rest) => ('\n' :: t, rest)
    | c :: rest =>
      if isStringChar c || c == '\n' then
        (multilineBasic? rest).map fun (t, rest) => (c :: t, rest)
      else none
termination_by s.length
decreasing_by
  · have := skipFold?_length ‹_›
    simp only [List.length_cons]
    omega
  · have := escape?_length ‹_›
    simp only [List.length_cons]
    omega
  · simp only [List.length_cons]; omega
  · simp

/-- A string between three single quotes, after the first three and a line end. -/
def multilineLiteral? (s : Text) : Read Text :=
  match closing? '\'' s with
  | some found => some found
  | none =>
    match s with
    | [] => none
    | '\r' :: '\n' :: rest => (multilineLiteral? rest).map fun (t, rest) => ('\n' :: t, rest)
    | c :: rest =>
      if isStringChar c || c == '\n' then
        (multilineLiteral? rest).map fun (t, rest) => (c :: t, rest)
      else none
termination_by s.length

def string? : Text → Read Text
  | '"' :: '"' :: '"' :: rest => multilineBasic? (dropNewline rest)
  | '"' :: rest => basicString? rest
  | '\'' :: '\'' :: '\'' :: rest => multilineLiteral? (dropNewline rest)
  | '\'' :: rest => literalString? rest
  | _ => none

-- ---------------------------------------------------------------------------
-- Keys
-- ---------------------------------------------------------------------------

/-- Characters of a key without quotes. -/
def isBareKeyChar (c : Char) : Bool := Ascii.isAlphanum c || c == '-' || c == '_'

/-- A name between quotes on one line, or without quotes. -/
def simpleKey? (s : Text) : Read Key :=
  let name : Read Text :=
    match s with
    | '"' :: rest => basicString? rest
    | '\'' :: rest => literalString? rest
    | _ =>
      let bare := s.takeWhile isBareKeyChar
      if bare.isEmpty then none else some (bare, s.dropWhile isBareKeyChar)
  name.map fun (name, rest) => (⟨name, spanOf s rest⟩, rest)

/-- Names with dots between them and blanks around them. -/
def names? (s : Text) : Read (List Key) :=
  match simpleKey? (skipBlanks s) with
  | none => none
  | some (k, rest) =>
    match skipBlanks rest with
    | '.' :: rest =>
      if _h : rest.length < s.length then (names? rest).map fun (ks, rest) => (k :: ks, rest)
      else none
    | rest => some ([k], rest)
termination_by s.length

/-- No key, array or table nests this deep. -/
def maxDepth : Nat := 80

/-- A key: the path of tables to a name, and the name. -/
def key? (s : Text) : Read (List Key × Key) :=
  match names? s with
  | none => none
  | some (ks, rest) =>
    if maxDepth ≤ ks.length then none
    else
      match ks.getLast? with
      | none => none
      | some k => some ((ks.dropLast, k), rest)

end RepoIdentity.Toml

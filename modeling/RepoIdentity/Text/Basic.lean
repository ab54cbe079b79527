/-!
# Text — lists of characters, and the cuts made in them

Everything the library reads or writes is a `Text`, a list of characters; a
`String` occurs only where a constant is written down and at the outermost
layer. `Bytes` are what a file holds and what percent escapes stand for.

* `cutAt` and `cutAround` divide a text at the first occurrence of a character
  or of a whole mark;
* `splitOn` divides at every occurrence of a character;
* `trimStart`, `trimEnd` and `trim` drop a class of characters at the ends;
* `dropPrefix?` removes a given beginning;
* `isBlank` tells a text that is as good as none.
-/

namespace RepoIdentity

/-- A sequence of Unicode characters. -/
abbrev Text := List Char

/-- A sequence of bytes. -/
abbrev Bytes := List UInt8

/-- The characters with the Unicode property `White_Space`. -/
def isBlankChar (c : Char) : Bool :=
  let n := c.toNat
  (0x9 ≤ n && n ≤ 0xD) || n == 0x20 || n == 0x85 || n == 0xA0 || n == 0x1680
    || (0x2000 ≤ n && n ≤ 0x200A) || n == 0x2028 || n == 0x2029 || n == 0x202F || n == 0x205F
    || n == 0x3000

namespace Text

-- ---------------------------------------------------------------------------
-- Cutting
-- ---------------------------------------------------------------------------

/-- What stands before the first `c` and what follows it. -/
def cutAt (c : Char) : Text → Option (Text × Text)
  | [] => none
  | d :: rest =>
    if d = c then some ([], rest)
    else (cutAt c rest).map fun (before, after) => (d :: before, after)

/-- The text with `mark` removed from its beginning, if it begins with `mark`. -/
def dropPrefix? : (mark s : Text) → Option Text
  | [], s => some s
  | _ :: _, [] => none
  | m :: mark, c :: s => if m = c then dropPrefix? mark s else none

/-- What stands before the first occurrence of `mark` and what follows it. -/
def cutAround (mark : Text) : Text → Option (Text × Text)
  | [] => (dropPrefix? mark []).map fun after => ([], after)
  | c :: rest =>
    match dropPrefix? mark (c :: rest) with
    | some after => some ([], after)
    | none => (cutAround mark rest).map fun (before, after) => (c :: before, after)

/-- Whether `mark` occurs in the text. -/
def hasMark (mark s : Text) : Bool := (cutAround mark s).isSome

/-- The pieces between the occurrences of `c`; there is always at least one. -/
def splitOn (c : Char) : Text → List Text
  | [] => [[]]
  | d :: rest =>
    if d = c then [] :: splitOn c rest
    else
      match splitOn c rest with
      | [] => [[d]]
      | piece :: pieces => (d :: piece) :: pieces

/-- The pieces of a text with `sep` written between each two of them. -/
def join (sep : Text) (pieces : List Text) : Text := List.intercalate sep pieces

-- ---------------------------------------------------------------------------
-- Trimming
-- ---------------------------------------------------------------------------

/-- The text without the characters of class `p` at its beginning. -/
def trimStart (p : Char → Bool) (s : Text) : Text := s.dropWhile p

/-- The text without the characters of class `p` at its end. -/
def trimEnd (p : Char → Bool) (s : Text) : Text := (s.reverse.dropWhile p).reverse

/-- The text without the characters of class `p` at either end. -/
def trim (p : Char → Bool) (s : Text) : Text := trimEnd p (trimStart p s)

/-- Whether a text is empty or made of white space alone. -/
def isBlank (s : Text) : Bool := s.all isBlankChar

-- ---------------------------------------------------------------------------
-- Small facts
-- ---------------------------------------------------------------------------

@[simp] theorem dropPrefix?_append (mark s : Text) : dropPrefix? mark (mark ++ s) = some s := by
  induction mark with
  | nil => simp [dropPrefix?]
  | cons m mark ih => simp [dropPrefix?, ih]

theorem eq_append_of_dropPrefix? {mark s rest : Text} (h : dropPrefix? mark s = some rest) :
    s = mark ++ rest := by
  induction mark generalizing s with
  | nil => simpa [dropPrefix?] using h
  | cons m mark ih =>
    cases s with
    | nil => simp [dropPrefix?] at h
    | cons c s =>
      by_cases hm : m = c
      · subst hm
        simp only [dropPrefix?, if_true] at h
        rw [ih h, List.cons_append]
      · simp [dropPrefix?, hm] at h

/-- Cutting loses nothing but the character cut at. -/
theorem eq_of_cutAt {c : Char} {s before after : Text} (h : cutAt c s = some (before, after)) :
    s = before ++ c :: after ∧ c ∉ before := by
  induction s generalizing before with
  | nil => simp [cutAt] at h
  | cons d rest ih =>
    by_cases hd : d = c
    · subst hd
      simp only [cutAt, if_true, Option.some.injEq, Prod.mk.injEq] at h
      obtain ⟨rfl, rfl⟩ := h
      simp
    · simp only [cutAt, hd, if_false, Option.map_eq_some_iff, Prod.mk.injEq] at h
      obtain ⟨⟨b, a⟩, hcut, rfl, rfl⟩ := h
      obtain ⟨hrest, hnot⟩ := ih hcut
      refine ⟨by rw [hrest, List.cons_append], ?_⟩
      simp only [List.mem_cons, not_or]
      exact ⟨fun he => hd he.symm, hnot⟩

theorem cutAt_eq_none_iff {c : Char} {s : Text} : cutAt c s = none ↔ c ∉ s := by
  induction s with
  | nil => simp [cutAt]
  | cons d rest ih =>
    by_cases hd : d = c
    · simp [cutAt, hd]
    · simp [cutAt, hd, ih, Ne.symm hd]

end Text

end RepoIdentity

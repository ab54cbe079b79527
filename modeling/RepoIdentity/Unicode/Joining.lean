import RepoIdentity.Unicode.Normal

/-!
# Joiners in context

The two invisible joiners are allowed in a label only where they make a visible
difference: after a virama, or, for the one that keeps letters apart, between
two letters that would otherwise join.
-/

namespace RepoIdentity.Unicode

/-- The rows of general category `M`. -/
def markTable : Table := Table.ofRows Rows.mark

/-- Whether a character is a combining mark, which may not begin a label. -/
def isMark (c : Char) : Bool := markTable.has c

/-- The rows of joining type `L`. -/
def joiningLeftTable : Table := Table.ofRows Rows.joiningLeft

/-- The rows of joining type `R`. -/
def joiningRightTable : Table := Table.ofRows Rows.joiningRight

/-- The rows of joining type `D`. -/
def joiningDualTable : Table := Table.ofRows Rows.joiningDual

/-- The rows of joining type `T`. -/
def joiningTransparentTable : Table := Table.ofRows Rows.joiningTransparent

/-- Whether the letter joins the one after it. -/
def joinsNext (c : Char) : Bool := joiningLeftTable.has c || joiningDualTable.has c

/-- Whether the letter joins the one before it. -/
def joinsPrevious (c : Char) : Bool := joiningRightTable.has c || joiningDualTable.has c

/-- Whether the first character that is not transparent to joining is in the class. -/
def firstOpaque (p : Char → Bool) (s : Text) : Bool :=
  match s.dropWhile fun c => !p c && joiningTransparentTable.has c with
  | [] => false
  | c :: _ => p c

/-- Whether every joiner stands where it may; `before` is what precedes the
text, last character first. -/
def joinersFit (before : Text) : Text → Bool
  | [] => true
  | c :: rest =>
    let fits :=
      match c.toNat, before with
      | 0x200C, p :: _ => isVirama p || (firstOpaque joinsNext before && firstOpaque joinsPrevious rest)
      | 0x200D, p :: _ => isVirama p
      | 0x200C, [] => false
      | 0x200D, [] => false
      | _, _ => true
    fits && joinersFit (c :: before) rest

end RepoIdentity.Unicode

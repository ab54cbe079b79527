import RepoIdentity.Text.Ascii

/-!
# Schemes of URLs

The scheme is what stands before the first colon, in small letters. Six schemes
are special: their hosts are domain names or addresses, a backslash in them is
as good as a slash, and most of them have a port that goes without saying.

A URL may carry tabs and line ends anywhere; `solid` leaves them out.
-/

namespace RepoIdentity.Url

/-- A text without its tabs and line ends. -/
def solid (s : Text) : Text := s.filter fun c => !Ascii.isTabOrNewline c

@[simp] theorem mem_solid {c : Char} {s : Text} :
    c ∈ solid s ↔ c ∈ s ∧ Ascii.isTabOrNewline c = false := by
  simp [solid]

/-- A text that has no tabs and line ends is left as it is. -/
theorem solid_eq_self {s : Text} (h : ∀ c ∈ s, Ascii.isTabOrNewline c = false) : solid s = s :=
  List.filter_eq_self.mpr fun c hc => by simp [h c hc]

@[simp] theorem solid_append (s t : Text) : solid (s ++ t) = solid s ++ solid t :=
  List.filter_append ..

/-- How the rest of a URL is to be read. -/
inductive SchemeKind where
  /-- A location in a file system, without a port. -/
  | file
  /-- A special scheme with a host. -/
  | network
  /-- Any other scheme. -/
  | other
deriving DecidableEq, Repr

namespace Scheme

/-- The kind of a scheme. -/
def kind (scheme : Text) : SchemeKind :=
  if scheme = "file".toList then .file
  else if scheme ∈ ["http".toList, "https".toList, "ws".toList, "wss".toList, "ftp".toList] then
    .network
  else .other

/-- The port that is meant when a URL of the scheme names none. -/
def defaultPort? (scheme : Text) : Option Nat :=
  if scheme ∈ ["http".toList, "ws".toList] then some 80
  else if scheme ∈ ["https".toList, "wss".toList] then some 443
  else if scheme = "ftp".toList then some 21
  else none

/-- Characters of a scheme after its first. -/
def isInside (c : Char) : Bool := Ascii.isAlphanum c || c == '+' || c == '-' || c == '.'

/-- The scheme that a text spells, if it spells one. -/
def ofWritten : Text → Option Text
  | [] => none
  | c :: rest =>
    if c.isAlpha && rest.all isInside then some (Ascii.lower (c :: rest)) else none

/-- The scheme of a URL, and what follows its colon as it is written. -/
def read (s : Text) : Option (Text × Text) :=
  match Text.cutAt ':' s with
  | none => none
  | some (name, rest) => (ofWritten (solid name)).map fun scheme => (scheme, rest)

end Scheme

/-- Whether a character divides the path: the slash, and in special URLs the
backslash too. -/
def SchemeKind.isSlash (k : SchemeKind) (c : Char) : Bool := c == '/' || (k != .other && c == '\\')

/-- Characters that begin the query or the fragment. -/
def isPathEnd (c : Char) : Bool := c == '?' || c == '#'

end RepoIdentity.Url

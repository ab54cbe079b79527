import RepoIdentity.Url.Scheme

/-!
# Paths of URLs

A path is a list of segments. Segments that are a dot vanish, and those that are
two dots take the segment before them along; either may be spelled with escapes.
A drive letter is never taken along, and at the beginning of a file URL it is
followed by a colon whichever way it was spelled.

* `Trail` is a path as far as it has been read;
* `Path.resolve` reads one from its segments as they are written, with the tabs
  and line ends that do not count;
* `Path.text` writes segments with a slash before each.

Other characters are left as they are written: escaping and decoding a path
again changes nothing but its dots.
-/

namespace RepoIdentity.Url

namespace Path

-- ---------------------------------------------------------------------------
-- Kinds of segments
-- ---------------------------------------------------------------------------

/-- A segment that means the directory it stands in. -/
def isSingleDot (segment : Text) : Bool :=
  [".".toList, "%2e".toList].contains (Ascii.lower segment)

/-- A segment that means the directory above. -/
def isDoubleDot (segment : Text) : Bool :=
  ["..".toList, ".%2e".toList, "%2e.".toList, "%2e%2e".toList].contains (Ascii.lower segment)

/-- A letter followed by a colon or a bar. -/
def isDriveLetter : Text → Bool
  | [letter, c] => letter.isAlpha && (c == ':' || c == '|')
  | _ => false

/-- A drive letter, alone or with a backslash after it. -/
def beginsWithDrive (segment : Text) : Bool :=
  isDriveLetter (segment.take 2) && (segment.drop 2).head?.all (· == '\\')

/-- A drive letter with a colon at the beginning of a segment, and what follows
it, if a tab or a line end stands between the two. -/
def cutDrive (written : Text) : Option (Text × Text) :=
  match written.dropWhile Ascii.isTabOrNewline with
  | [] => none
  | letter :: more =>
    match more.dropWhile Ascii.isTabOrNewline with
    | ':' :: gap :: rest =>
      if letter.isAlpha && Ascii.isTabOrNewline gap && !(solid rest).isEmpty then
        some ([letter, ':'], solid rest)
      else none
    | _ => none

end Path

-- ---------------------------------------------------------------------------
-- Resolving dots
-- ---------------------------------------------------------------------------

/-- A path as far as it has been read. -/
structure Trail where
  /-- The segments so far, last first. -/
  passed : List Text
  /-- Whether the first of them is a drive letter that was written as a segment
  of its own. -/
  onDrive : Bool

namespace Trail

def start : Trail := ⟨[], false⟩

def segments (t : Trail) : List Text := t.passed.reverse

/-- The directory above, which a drive letter is the last to have. -/
def leave (t : Trail) : Trail :=
  match t.passed with
  | [] => t
  | last :: before => if Path.beginsWithDrive last then t else { t with passed := before }

/-- The path with a segment more, which is not dots. The first segment of a file
path may be a drive letter, or two segments: a drive letter and what a tab or a
line end divides from it. -/
def enter (kind : SchemeKind) (t : Trail) (written : Text) : Trail :=
  let segment := solid written
  if kind = .file ∧ t.passed = [] then
    match Path.cutDrive written with
    | some (drive, rest) => { t with passed := [rest, drive] }
    | none =>
      if Path.isDriveLetter segment then ⟨[segment.take 1 ++ [':']], true⟩
      else { t with passed := [segment] }
  else { t with passed := segment :: t.passed }

def step (kind : SchemeKind) (t : Trail) (written : Text) : Trail :=
  if Path.isDoubleDot (solid written) then t.leave
  else if Path.isSingleDot (solid written) then t
  else t.enter kind written

/-- The path after its last segment. One that ends in dots ends in an empty
segment. -/
def finish (kind : SchemeKind) (t : Trail) (written : Text) : Trail :=
  let after := t.step kind written
  if Path.isDoubleDot (solid written) || Path.isSingleDot (solid written) then
    { after with passed := [] :: after.passed }
  else after

/-- The path after some segments more, the last of which ends it. -/
def follow (kind : SchemeKind) (t : Trail) : List Text → Trail
  | [] => t
  | [last] => t.finish kind last
  | segment :: rest => (t.step kind segment).follow kind rest

end Trail

namespace Path

def resolve (kind : SchemeKind) (written : List Text) : Trail := Trail.start.follow kind written

def segmentsOf (kind : SchemeKind) (written : Text) : List Text :=
  Text.splitOn '/' (written.map fun c => if kind.isSlash c then '/' else c)

-- ---------------------------------------------------------------------------
-- Texts
-- ---------------------------------------------------------------------------

def text (segments : List Text) : Text := segments.flatMap fun s => '/' :: s

/-- What follows a slash at the beginning of a text, tabs and line ends aside. -/
def afterSlash? (kind : SchemeKind) (s : Text) : Option Text :=
  match s.dropWhile Ascii.isTabOrNewline with
  | [] => none
  | c :: rest => if kind.isSlash c then some rest else none

/-- The text with one slash removed from its beginning, if it has one there. -/
def dropSlash (kind : SchemeKind) (s : Text) : Text := (afterSlash? kind s).getD s

end Path

end RepoIdentity.Url

import RepoIdentity.Fault
import RepoIdentity.Url.Basic

/-!
# Grammars of repository references

Two grammars read a text as a locator.

* The legacy grammar takes `owner/name`, `host/owner/name` and URLs. A host that
  is left out is `github.com`, a scheme that is left out is `https`.
* The strict grammar takes only `https://` URLs and `file://` paths.

Both read a URL the same way (`hostedOfUrl`): the percent-decoded path, without
the slashes at its ends, is the owner up to the first slash and the name after
it.

What follows `file://` is kept as it is written, escapes included. It may hold any
character but the ASCII controls, and a percent sign only before two hexadecimal
digits (`FilePath.check`).
-/

/-! ## Paths in file URLs -/

namespace RepoIdentity.FilePath

/-- A percent sign and what comes after it in the next two bytes; the sign alone
if these end inside a character. -/
def quoteEscape : (after : Text) → Text
  | [] => ['%']
  | [c] => if c.utf8Size ≤ 2 then ['%', c] else ['%']
  | c :: d :: _ =>
    if c.utf8Size = 2 then ['%', c]
    else if c.utf8Size = 1 ∧ d.utf8Size = 1 then ['%', c, d]
    else ['%']

/-- Whether a text begins with two hexadecimal digits. -/
def beginsWithHexPair : Text → Bool
  | a :: b :: _ => Ascii.isHexDigit a && Ascii.isHexDigit b
  | _ => false

/-- The first percent sign that is not followed by two digits, as it is quoted. -/
def badEscape? : Text → Option Text
  | [] => none
  | c :: rest =>
    if c = '%' ∧ !beginsWithHexPair rest then some (quoteEscape rest) else badEscape? rest

/-- Refuses a path with control characters or unfinished escapes. -/
def check (path : Text) : Except UrlCause Unit :=
  if path.any Ascii.isControl then .error .controlCharacter
  else
    match badEscape? path with
    | some quoted => .error (.badEscape quoted)
    | none => .ok ()

end RepoIdentity.FilePath

/-! ## The two grammars -/

namespace RepoIdentity

inductive Mode where
  | legacy
  | strict
deriving DecidableEq, Repr

def Mode.name : Mode → Text
  | .legacy => "legacy".toList
  | .strict => "strict".toList

namespace Grammar

/-- The host that is meant when a reference names none. -/
def defaultHost : Text := "github.com".toList

/-- What stands between a scheme and the rest of a URL. -/
def schemeMark : Text := "://".toList

/-- The scheme that is meant when a reference names none. -/
def defaultScheme : Text := "https".toList

/-- Owner and name in a path: slashes at the ends do not count, and the first
slash left divides the two. -/
def splitOwnerName (path : Text) : Option (Text × Text) :=
  Text.cutAt '/' (Text.trim (· == '/') path)

/-- The hosted repository that a URL names. -/
def hostedOfUrl (s : Text) : Except FormatReason Hosted :=
  match Url.read s with
  | .error cause => .error (.badUrl (.refused cause))
  | .ok url =>
    match Utf8.decode (Percent.decode url.path) with
    | .error fault => .error (.badUrl (.undecodable fault))
    | .ok path =>
      match splitOwnerName path with
      | none => .error .noOwnerAndName
      | some (owner, name) => .ok ⟨url.hostText, owner, name⟩

/-- The text with a scheme before it, unless it has one. -/
def withScheme (s : Text) : Text :=
  if Text.hasMark schemeMark s then s else defaultScheme ++ schemeMark ++ s

/-- The URL that a reference of the legacy grammar stands for. -/
def elaborate (input : Text) : Except FormatReason Text :=
  match input.count '/' with
  | 0 => .error .tooFewSegments
  | 1 => .ok (withScheme (defaultHost ++ '/' :: input))
  | _ => .ok (withScheme input)

def readLegacy (input : Text) : Except FormatReason Hosted :=
  match elaborate input with
  | .error reason => .error reason
  | .ok url => hostedOfUrl url

def readStrict (input : Text) : Except FormatReason Locator :=
  match Text.cutAround schemeMark input with
  | none => .error .missingScheme
  | some (scheme, rest) =>
    if scheme = "https".toList then (hostedOfUrl input).map .hosted
    else if scheme = "file".toList then
      match FilePath.check rest with
      | .error cause => .error (.badUrl cause)
      | .ok () => .ok (.directory rest)
    else .error (.unsupportedScheme scheme)

def read (input : Text) : Mode → Except FormatReason Locator
  | .legacy => (readLegacy input).map .hosted
  | .strict => readStrict input

end Grammar

namespace Locator

/-- The locator that a text names. A fault carries the text as it was given. -/
def parse (input : Text) (mode : Mode) : Except Fault Locator :=
  (Grammar.read input mode).mapError (.malformed input)

end Locator

end RepoIdentity

import RepoIdentity.Locator
import RepoIdentity.Url.Host

/-!
# Faults

Why a text names no repository, or an operation does not apply to a reference.
Each fault carries the value that caused it, and `Fault.message` is the one
place that puts faults into words.
-/

namespace RepoIdentity

/-- Why a text is not the URL of a repository, or not a path in a URL. -/
inductive UrlCause where
  | refused (cause : Url.Error)
  /-- The bytes of its path are no text. -/
  | undecodable (fault : Utf8.Fault)
  /-- It holds a control character. -/
  | controlCharacter
  /-- A percent sign is not followed by two digits; `quoted` shows it. -/
  | badEscape (quoted : Text)
  /-- The cause is stated in words. -/
  | stated (words : Text)
deriving DecidableEq, Repr

/-- Why a text names no repository. -/
inductive FormatReason where
  /-- There is no slash to divide owner and name. -/
  | tooFewSegments
  | badUrl (cause : UrlCause)
  /-- The path of the URL has no owner and name. -/
  | noOwnerAndName
  | missingScheme
  | unsupportedScheme (scheme : Text)
deriving DecidableEq, Repr

inductive Fault where
  /-- The text `input` names no repository. -/
  | malformed (input : Text) (reason : FormatReason)
  | unsupportedHost (host : Text)
  | invalidOwner (owner : Text)
  | invalidIdentity (url : Text)
  /-- The operation is for references of another kind. -/
  | wrongKind (expected found : Kind)
deriving DecidableEq, Repr

def Utf8.Fault.message : Utf8.Fault → Text
  | .incomplete index =>
    "incomplete utf-8 byte sequence from index ".toList ++ Numeral.decimal index
  | .invalid length index =>
    "invalid utf-8 sequence of ".toList ++ Numeral.decimal length
      ++ " bytes from index ".toList ++ Numeral.decimal index

def UrlCause.message : UrlCause → Text
  | .refused cause => cause.message
  | .undecodable fault => fault.message
  | .controlCharacter => "invalid control character in URL".toList
  | .badEscape quoted => "invalid URL escape '".toList ++ quoted ++ "'".toList
  | .stated words => words

def FormatReason.message : FormatReason → Text
  | .tooFewSegments => "expected owner/repo or host/owner/repo".toList
  | .badUrl cause => "url parse failed: ".toList ++ cause.message
  | .noOwnerAndName => "expected full repository url".toList
  | .missingScheme => "expected an https:// or file:// prefix".toList
  | .unsupportedScheme scheme =>
    "unsupported scheme '".toList ++ scheme ++ "', expected https or file".toList

def Fault.message : Fault → Text
  | .malformed input reason =>
    "invalid repository reference '".toList ++ input ++ "': ".toList ++ reason.message
  | .unsupportedHost host => "unsupported host: ".toList ++ host
  | .invalidOwner owner => "invalid GitHub username: ".toList ++ owner
  | .invalidIdentity url =>
    "invalid GitHub repository URL: ".toList ++ url
      ++ ". Expected the full repository url".toList
  | .wrongKind expected found =>
    "invalid repository type: expected ".toList ++ expected.name ++ ", found ".toList ++ found.name

end RepoIdentity

import RepoIdentity.Url.Host
import RepoIdentity.Url.Path

/-!
# URLs

Reading of absolute URLs as browsers do it. Controls and spaces at the ends are
dropped, and so are tabs and line ends anywhere, but that in a file URL one of
them ends a drive letter. Credentials, query and fragment are read past and not
kept.

* `Url` holds the scheme, the host, the port where it is not the usual one, and
  the path;
* `Url.read` reads one or names the cause for which it is refused;
* `Authority` is the part between two slashes and the path.
-/

namespace RepoIdentity

/-- An absolute URL without credentials, query and fragment. -/
structure Url where
  scheme : Text
  host : Option Url.Host
  /-- The port, unless it is absent or the usual one of the scheme. -/
  port : Option Nat
  /-- The path, without dots; empty or, unless it is opaque, with a slash first. -/
  path : Text

namespace Url

-- ---------------------------------------------------------------------------
-- Authority
-- ---------------------------------------------------------------------------

/-- Where a URL points, and the rest of it from the path on. -/
structure Authority where
  host : Option Host
  port : Option Nat
  rest : Text

/-- Whether a character ends the authority. -/
def endsAuthority (kind : SchemeKind) (c : Char) : Bool := kind.isSlash c || isPathEnd c

/-- What stands before the last `@` and what follows it. -/
def cutCredentials (s : Text) : Option Text × Text :=
  match Text.cutAt '@' s.reverse with
  | some (after, before) => (some before.reverse, after.reverse)
  | none => (none, s)

/-- What stands before the first colon outside brackets, and the rest. -/
def spanHost : (inBrackets : Bool) → Text → Text × Text
  | _, [] => ([], [])
  | inBrackets, c :: rest =>
    if c = ':' ∧ !inBrackets then ([], c :: rest)
    else
      let inBrackets := if c = '[' then true else if c = ']' then false else inBrackets
      let (host, after) := spanHost inBrackets rest
      (c :: host, after)

/-- Whether a character may follow a port. -/
def endsPort (c : Char) : Bool := c == '/' || c == '\\' || isPathEnd c

/-- The port after a colon, and what follows it. Without digits there is none,
and the usual port of the scheme is as good as none. -/
def readPort (scheme : Text) (s : Text) : Except Error (Option Nat × Text) :=
  let digits := s.takeWhile Char.isDigit
  let rest := s.dropWhile Char.isDigit
  if rest.head?.any (fun c => !endsPort c) then .error .invalidPort
  else if digits.isEmpty then .ok (none, rest)
  else
    let port := Numeral.ofDigits digits
    if 65535 < port then .error .invalidPort
    else .ok (if Scheme.defaultPort? scheme = some port then none else some port, rest)

/-- The port, if a colon announces one, and what follows it. -/
def readPortAfterHost (scheme : Text) : Text → Except Error (Option Nat × Text)
  | ':' :: s => readPort scheme s
  | s => .ok (none, s)

/-- The host, if the text names one. Only where the scheme is not special may
the name be empty. -/
def readHost (kind : SchemeKind) (s : Text) : Except Error (Option Host) :=
  if kind = .other then Host.readOpaque s
  else if s.isEmpty then .error .emptyHost
  else (Host.readSpecial s).map some

/-- The authority at the beginning of `s`. Credentials and a port need a host;
a lone colon is no credential. -/
def readAuthority (kind : SchemeKind) (scheme : Text) (s : Text) : Except Error Authority :=
  let authority := s.takeWhile fun c => !endsAuthority kind c
  let path := s.dropWhile fun c => !endsAuthority kind c
  let (credentials, place) := cutCredentials authority
  if credentials = some [] ∧ place = [] ∧ path ≠ [] then .error .emptyHost
  else
    let (name, after) := spanHost false place
    match readHost kind name with
    | .error e => .error e
    | .ok host =>
      if host.isNone && after.head? == some ':' then .error .emptyHost
      else
        match readPortAfterHost scheme (after ++ path) with
        | .error e => .error e
        | .ok (port, rest) =>
          if host.isNone && credentials ∉ [none, some [], some [':']] then
            .error .emptyHost
          else .ok ⟨host, port, rest⟩

-- ---------------------------------------------------------------------------
-- The kinds of URLs
-- ---------------------------------------------------------------------------

/-- What is left of a text before a query or a fragment. -/
def beforeQuery (s : Text) : Text := s.takeWhile fun c => !isPathEnd c

/-- A URL of a special scheme with a host, after the colon. -/
def readNetwork (scheme : Text) (s : Text) : Except Error Url :=
  match readAuthority .network scheme (s.dropWhile SchemeKind.network.isSlash) with
  | .error e => .error e
  | .ok a =>
    let written := Path.dropSlash .network (beforeQuery a.rest)
    .ok ⟨scheme, a.host, a.port,
      Path.text (Path.resolve .network (Path.segmentsOf .network written)).segments⟩

/-- The path of a URL of no special scheme after its authority: it may be empty. -/
def pathAfterAuthority (rest : Text) : Text :=
  let written := beforeQuery rest
  if written.isEmpty then []
  else
    Path.text (Path.resolve .other (Path.segmentsOf .other (Path.dropSlash .other written))).segments

/-- A URL of no special scheme, after the colon: with an authority, with a path
that begins with a slash, or with a path that is left as it is. -/
def readOther (scheme : Text) : Text → Except Error Url
  | '/' :: '/' :: s =>
    match readAuthority .other scheme s with
    | .error e => .error e
    | .ok a => .ok ⟨scheme, a.host, a.port, pathAfterAuthority a.rest⟩
  | '/' :: s =>
    .ok ⟨scheme, none, none,
      Path.text (Path.resolve .other (Path.segmentsOf .other (beforeQuery s))).segments⟩
  | s => .ok ⟨scheme, none, none, beforeQuery s⟩

/-- A file URL with a host and a written path. A drive letter that is the first
segment leaves no host. Slashes at the beginning count as one. -/
def fileUrl (host : Option Host) (written : Text) : Url :=
  let path := Path.resolve .file (Path.segmentsOf .file (beforeQuery written))
  { scheme := "file".toList
    host := if path.onDrive then none else host
    port := none
    path := '/' :: (Path.text path.segments).dropWhile (· == '/') }

/-- Whether the host is the machine itself. -/
def Host.isLocal : Host → Bool
  | .domain name => name == "localhost".toList
  | _ => false

/-- A file URL after its two slashes: what stands before the next one is a host,
unless it is empty or a drive letter. -/
def readFileHost (s : Text) : Except Error Url :=
  let name := solid (s.takeWhile fun c => !endsAuthority .file c)
  let path := s.dropWhile fun c => !endsAuthority .file c
  if Path.isDriveLetter name then .ok (fileUrl none s)
  else if name.isEmpty then .ok (fileUrl none path)
  else
    match Host.readSpecial name with
    | .error e => .error e
    | .ok host =>
      if host.isLocal then .ok (fileUrl none path)
      else .ok (fileUrl (some host) (Path.dropSlash .file path))

/-- A file URL after the colon. -/
def readFile (s : Text) : Except Error Url :=
  match Path.afterSlash? .file s with
  | none => .ok (fileUrl none s)
  | some rest =>
    match Path.afterSlash? .file rest with
    | none => .ok (fileUrl none rest)
    | some place => readFileHost place

-- ---------------------------------------------------------------------------
-- Reading
-- ---------------------------------------------------------------------------

/-- The URL that a text spells. Tabs and line ends are left in file URLs until
their paths are read. -/
def read (s : Text) : Except Error Url :=
  match Scheme.read (Text.trim Ascii.isControlOrSpace s) with
  | none => .error .noScheme
  | some (scheme, rest) =>
    match Scheme.kind scheme with
    | .file => readFile rest
    | .network => readNetwork scheme (solid rest)
    | .other => readOther scheme (solid rest)

/-- The host as the URL writes it, with the port unless it is the usual one;
empty without a host. -/
def hostText (u : Url) : Text :=
  (u.host.map Host.text).getD []
    ++ (match u.port with
        | some port => ':' :: Numeral.decimal port
        | none => [])

end Url

end RepoIdentity

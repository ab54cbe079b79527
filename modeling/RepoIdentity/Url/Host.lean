import RepoIdentity.Domain.Name
import RepoIdentity.Text.Encoding
import RepoIdentity.Url.Address
import RepoIdentity.Url.Scheme

/-!
# Hosts of URLs

* A special URL has a domain name, after percent decoding and in its ASCII
  form, or an address.
* Any other URL has an address in brackets or an opaque name, whose capitals
  are kept and whose controls and characters beyond ASCII are escaped.

`Url.Error` lists the causes for which a text is refused as a URL, most of which lie
in its host.
-/

/-! ## Why a text is no URL -/

namespace RepoIdentity.Url

/-- The causes for which a text is refused as a URL. -/
inductive Error where
  | emptyHost
  | invalidDomainName
  | invalidPort
  /-- The host ends in a number and is no IPv4 address. -/
  | invalidIpv4
  /-- The host stands in brackets and is no IPv6 address. -/
  | invalidIpv6
  /-- The host of an unknown scheme holds a delimiter. -/
  | invalidHostCharacter
  | noScheme
deriving DecidableEq, Repr

def Error.message : Error → Text
  | .emptyHost => "empty host".toList
  | .invalidDomainName => "invalid international domain name".toList
  | .invalidPort => "invalid port number".toList
  | .invalidIpv4 => "invalid IPv4 address".toList
  | .invalidIpv6 => "invalid IPv6 address".toList
  | .invalidHostCharacter => "invalid domain character".toList
  | .noScheme => "relative URL without a base".toList

end RepoIdentity.Url

/-! ## Hosts -/

namespace RepoIdentity.Url

/-- What names the machine in a URL. -/
inductive Host where
  /-- A domain name in its ASCII form. -/
  | domain (name : Text)
  | ipv4 (address : Ipv4)
  | ipv6 (address : Ipv6)
  /-- A name that is not interpreted. -/
  | opaqueName (name : Text)

namespace Host

/-- The host as a URL writes it. -/
def text : Host → Text
  | .domain name => name
  | .ipv4 address => address.text
  | .ipv6 address => '[' :: address.text ++ [']']
  | .opaqueName name => name

/-- The address between brackets, for a text that begins with one. -/
def readBracketed (s : Text) : Except Error Host :=
  match s.drop 1, s.getLast? with
  | inner, some ']' =>
    match Ipv6.read inner.dropLast with
    | some address => .ok (.ipv6 address)
    | none => .error .invalidIpv6
  | _, _ => .error .invalidIpv6

/-- The host of a special URL. -/
def readSpecial (s : Text) : Except Error Host :=
  if s.head? = some '[' then readBracketed s
  else
    match Utf8.decode (Percent.decode s) with
    | .error _ => .error .invalidDomainName
    | .ok name =>
      match Domain.toAscii name with
      | none => .error .invalidDomainName
      | some [] => .error .emptyHost
      | some ascii =>
        if Ipv4.isMeant ascii then
          match Ipv4.read ascii with
          | some address => .ok (.ipv4 address)
          | none => .error .invalidIpv4
        else .ok (.domain ascii)

/-- Characters that no opaque name may hold. -/
def isForbidden (c : Char) : Bool :=
  ['\x00', '\t', '\n', '\r', ' ', '#', '/', ':', '<', '>', '?', '@', '[', '\\', ']', '^',
    '|'].contains c

/-- Characters that an opaque name holds only in escaped form. -/
def isEscaped (c : Char) : Bool := Ascii.isControl c || !Ascii.isAscii c

/-- The host of a URL that is not special; none if the name is empty. -/
def readOpaque (s : Text) : Except Error (Option Host) :=
  if s.head? = some '[' then (readBracketed s).map some
  else if s.any isForbidden then .error .invalidHostCharacter
  else if s.isEmpty then .ok none
  else .ok (some (.opaqueName (Percent.encodeWhere isEscaped s)))

end Host

end RepoIdentity.Url

import RepoIdentity.Unicode.Table
import RepoIdentity.Unicode.Rows.Mapping

/-!
# Mapping of domain names

Before a domain name is looked up its characters are brought to one spelling:
capitals become small, compatibility forms become plain, invisible characters
vanish, and characters that have no place in a name are refused. This is the
mapping step for internationalised domain names, without the transitional
treatment of the four deviation characters, which stand for themselves.
-/

namespace RepoIdentity.Unicode

/-- What becomes of one character of a domain name. -/
inductive Treatment where
  | valid
  | ignored
  | mapped (image : Text)
  | disallowed
deriving DecidableEq, Repr

/-- The rows of replaced characters. -/
def mappedTable : Table := Table.ofRows Rows.mapped

/-- The rows of dropped characters. -/
def ignoredTable : Table := Table.ofRows Rows.ignored

/-- The rows of characters that stand for themselves. -/
def validTable : Table := Table.ofRows Rows.valid

/-- The treatment of a character. ASCII capitals become small and the rest of
ASCII is left alone; all else goes by the tables. -/
def treatment (c : Char) : Treatment :=
  if Ascii.isAscii c then
    if c.isUpper then .mapped [c.toLower] else .valid
  else
    match mappedTable.row? c with
    | some r => .mapped (r.imageOf c)
    | none =>
      if ignoredTable.has c then .ignored
      else if validTable.has c then .valid
      else .disallowed

/-- The mapped form of a text, unless it holds a character that may not occur. -/
def mapName : Text → Option Text
  | [] => some []
  | c :: rest =>
    match treatment c with
    | .valid => (mapName rest).map (c :: ·)
    | .ignored => mapName rest
    | .mapped image => (mapName rest).map (image ++ ·)
    | .disallowed => none

def isMapped (s : Text) : Bool := s.all fun c => treatment c == .valid

end RepoIdentity.Unicode

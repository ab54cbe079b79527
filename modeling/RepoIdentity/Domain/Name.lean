import RepoIdentity.Domain.Punycode
import RepoIdentity.Unicode.Mapping
import RepoIdentity.Unicode.Joining
import RepoIdentity.Unicode.Bidi

/-!
# Domain names

A domain name as a URL gives it may be spelled with any characters; what
identifies the host is its ASCII form. It is reached by mapping and composing
the name, dividing it into labels, checking each, and writing those that are
not ASCII in Punycode after `xn--`. A label that is already in that form has to
stand for one that mapping and composing would leave alone.

* `Domain.Label` pairs what a label stands for with its ASCII form;
* `Domain.toAscii` is the ASCII form of a name.

Hyphens are allowed in every place, and no length is too great for a label,
except that Punycode is neither read nor written beyond fixed bounds.
-/

namespace RepoIdentity.Domain

/-- ASCII characters that no domain name of a URL may hold: controls, the space
and the delimiters of the URL grammar. -/
def isForbidden (c : Char) : Bool :=
  Ascii.isControlOrSpace c || c.toNat == 0x7F
    || ['%', '#', '/', ':', '<', '>', '?', '@', '[', '\\', ']', '^', '|'].contains c

/-- A label of a domain name. -/
structure Label where
  /-- The characters that the label stands for. -/
  meaning : Text
  /-- Its form in ASCII. -/
  ascii : Text

/-- The mark of a label written in Punycode. -/
def punycodeMark : Text := "xn--".toList

/-- The longest Punycode that is read, in characters. -/
def maxPunycodeRead : Nat := 2000

/-- The longest label that is written in Punycode, in characters. -/
def maxPunycodeWritten : Nat := 1000

/-- Whether the characters of a label are allowed where they stand: no mark at
the beginning, and joiners in context. -/
def charactersFit (label : Text) : Bool :=
  (match label with
    | [] => true
    | c :: _ => !Unicode.isMark c)
    && Unicode.joinersFit [] label
    && (label.all Ascii.isAscii || label.length ≤ maxPunycodeWritten)

/-- What the Punycode of a label stands for, if mapping and composing leave
that alone. -/
def readPunycode (code : Text) : Option Text :=
  if !code.all Ascii.isAscii || code.getLast? ∈ [none, some '-']
      || maxPunycodeRead < code.length then none
  else
    match Punycode.decode code with
    | none => none
    | some meaning =>
      if Unicode.isMapped meaning && Unicode.normalize meaning == meaning
          && !meaning.any (fun c => isForbidden c || c == '.')
      then some meaning else none

/-- The label that a mapped and composed text spells. -/
def Label.read (s : Text) : Option Label :=
  match Text.dropPrefix? punycodeMark s with
  | some code =>
    match readPunycode code with
    | some meaning => if charactersFit meaning then some ⟨meaning, s⟩ else none
    | none => none
  | none =>
    if !charactersFit s then none
    else if s.all Ascii.isAscii then some ⟨s, s⟩
    else some ⟨s, punycodeMark ++ Punycode.encode s⟩

/-- The labels that the texts spell, if each spells one. -/
def Label.readAll : List Text → Option (List Label)
  | [] => some []
  | s :: rest =>
    match Label.read s, readAll rest with
    | some l, some ls => some (l :: ls)
    | _, _ => none

/-- The ASCII form of a domain name. -/
def toAscii (name : Text) : Option Text :=
  match Unicode.mapName name with
  | none => none
  | some mapped =>
    let composed := Unicode.normalize mapped
    if composed.any isForbidden then none
    else
      match Label.readAll (Text.splitOn '.' composed) with
      | none => none
      | some labels =>
        if Unicode.bidiFits (labels.map (·.meaning)) then
          some (Text.join ['.'] (labels.map (·.ascii)))
        else none

end RepoIdentity.Domain

import RepoIdentity.Text.Ascii

/-!
# IP addresses

A host whose last label is a number is an IPv4 address or an error. Numbers may be
decimal, octal after a zero, or hexadecimal after `0x`, and the last of them fills
all the bytes that the others leave. An IPv6 address has eight groups of sixteen
bits, in hexadecimal with colons between them. One run of zero groups may be left
out between two colons, and the last two groups may be written as the four decimal
bytes of an IPv4 address.

* `Ipv4.isMeant` tells whether a host is to be read as an address;
* `Ipv4.read` reads it, `Ipv4.text` writes four decimal numbers;
* `Ipv6.read` reads what stands between the brackets of a host;
* `Ipv6.text` writes an address, leaving out the first longest run of at least two
  zero groups.
-/

/-! ## IPv4 -/

namespace RepoIdentity.Url

/-- An IPv4 address, as the number of its four bytes. -/
structure Ipv4 where
  value : Nat
  value_lt : value < 0x100000000

namespace Ipv4

/-- The value of a digit to the base, if it is one. -/
def digitValue? (base : Nat) (c : Char) : Option Nat := (Ascii.hexValue? c).filter (· < base)

/-- The values of digits to the base, if all characters are such digits. -/
def digitValues? (base : Nat) : Text → Option (List Nat)
  | [] => some []
  | c :: rest =>
    match digitValue? base c, digitValues? base rest with
    | some v, some vs => some (v :: vs)
    | _, _ => none

/-- The number of digits to the base, zero if there are none. -/
def numberTo? (base : Nat) (s : Text) : Option Nat :=
  (digitValues? base s).map (Numeral.valueOf base)

def number? : Text → Option Nat
  | [] => none
  | ['0'] => some 0
  | '0' :: x :: rest =>
    if x = 'x' ∨ x = 'X' then numberTo? 16 rest else numberTo? 8 (x :: rest)
  | s => numberTo? 10 s

/-- The parts of a host, without the empty one after a final dot. -/
def parts (host : Text) : List Text :=
  match (Text.splitOn '.' host).reverse with
  | [] :: rest => rest.reverse
  | all => all.reverse

/-- Whether a host ends in a number and is therefore to be read as an address. -/
def isMeant (host : Text) : Bool :=
  match (parts host).getLast? with
  | none => false
  | some last => (!last.isEmpty && last.all Char.isDigit) || (number? last).isSome

/-- The numbers that the parts denote, if all denote one. -/
def numbers? : List Text → Option (List Nat)
  | [] => some []
  | p :: ps =>
    match number? p, numbers? ps with
    | some n, some ns => some (n :: ns)
    | _, _ => none

/-- The value of leading bytes followed by a number that fills the rest; `place`
is what the next byte counts for. -/
def valueFrom? : (bytesLeft : Nat) → List Nat → Option Nat
  | _, [] => none
  | left, [n] => if n < Nat.pow 256 left then some n else none
  | left, n :: ns =>
    if n < 256 then (valueFrom? (left - 1) ns).map (n * Nat.pow 256 (left - 1) + ·) else none

def read (host : Text) : Option Ipv4 :=
  match numbers? (parts host) with
  | none => none
  | some ns =>
    if 4 < ns.length then none
    else
      match valueFrom? 4 ns with
      | none => none
      | some v => if h : v < 0x100000000 then some ⟨v, h⟩ else none

/-- The four bytes, highest first. -/
def bytes (a : Ipv4) : List Nat :=
  [a.value / 0x1000000, a.value / 0x10000 % 256, a.value / 0x100 % 256, a.value % 256]

/-- Four decimal numbers with dots between them. -/
def text (a : Ipv4) : Text := Text.join ['.'] (a.bytes.map Numeral.decimal)

end Ipv4

end RepoIdentity.Url

/-! ## IPv6 -/

namespace RepoIdentity.Url

structure Ipv6 where
  groups : List Nat
  length_eq : groups.length = 8
  groups_lt : ∀ g ∈ groups, g < 0x10000

namespace Ipv6

-- ---------------------------------------------------------------------------
-- Reading
-- ---------------------------------------------------------------------------

/-- A group of one to four hexadecimal digits. -/
def group? (s : Text) : Option Nat :=
  if s.length = 0 ∨ 4 < s.length ∨ !s.all Ascii.isHexDigit then none
  else some (Numeral.valueOf 16 (s.map fun c => (Ascii.hexValue? c).getD 0))

/-- A byte in decimal, without leading zeros. -/
def byte? (s : Text) : Option Nat :=
  if s.isEmpty || !s.all Char.isDigit || (s.head? == some '0' && 1 < s.length) then none
  else
    let n := Numeral.ofDigits s
    if n < 256 then some n else none

/-- The two groups of an IPv4 address in decimal bytes. -/
def decimalGroups? (s : Text) : Option (List Nat) :=
  match (Text.splitOn '.' s).map byte? with
  | [some a, some b, some c, some d] => some [a * 256 + b, c * 256 + d]
  | _ => none

/-- The groups that the parts between colons denote; only the last part may be
an IPv4 address, and only where `decimal` allows it. -/
def groupsOf (decimal : Bool) : List Text → Option (List Nat)
  | [] => some []
  | [last] =>
    if last.contains '.' then (if decimal then decimalGroups? last else none)
    else (group? last).map ([·])
  | p :: ps =>
    match group? p, groupsOf decimal ps with
    | some g, some gs => some (g :: gs)
    | _, _ => none

/-- The groups of a text with colons between them; none for the empty text. -/
def groupsIn (decimal : Bool) (s : Text) : Option (List Nat) :=
  if s.isEmpty then some [] else groupsOf decimal (Text.splitOn ':' s)

/-- The groups that are written, with zeros for those left out. -/
def fullGroups? (s : Text) : Option (List Nat) :=
  match Text.cutAround "::".toList s with
  | some (before, after) =>
    match groupsIn false before, groupsIn true after with
    | some gs, some hs =>
      if gs.length + hs.length ≤ 7 then
        some (gs ++ List.replicate (8 - (gs.length + hs.length)) 0 ++ hs)
      else none
    | _, _ => none
  | none => if s.isEmpty then none else groupsIn true s

def read (s : Text) : Option Ipv6 :=
  match fullGroups? s with
  | none => none
  | some gs =>
    if h : gs.length = 8 ∧ ∀ g ∈ gs, g < 0x10000 then some ⟨gs, h.1, h.2⟩ else none

-- ---------------------------------------------------------------------------
-- Writing
-- ---------------------------------------------------------------------------

/-- The length of the run of zeros at the beginning. -/
def zeroRun (gs : List Nat) : Nat := (gs.takeWhile (· == 0)).length

/-- The length of the longest run of zeros anywhere. -/
def longestZeroRun : List Nat → Nat
  | [] => 0
  | g :: gs => max (zeroRun (g :: gs)) (longestZeroRun gs)

/-- The groups before and after the first run of `n` zeros. -/
def cutZeroRun (n : Nat) : List Nat → List Nat × List Nat
  | [] => ([], [])
  | g :: gs =>
    if zeroRun (g :: gs) = n then ([], (g :: gs).drop n)
    else ((g :: (cutZeroRun n gs).1), (cutZeroRun n gs).2)

/-- Groups in hexadecimal with colons between them. -/
def groupsText (gs : List Nat) : Text := Text.join [':'] (gs.map (Numeral.ofNat 16))

def text (a : Ipv6) : Text :=
  let run := longestZeroRun a.groups
  if run < 2 then groupsText a.groups
  else
    let (before, after) := cutZeroRun run a.groups
    groupsText before ++ "::".toList ++ groupsText after

end Ipv6

end RepoIdentity.Url

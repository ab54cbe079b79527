import RepoIdentity.Text.Ascii

/-!
# Texts as bytes

A text is written as bytes by UTF-8, and bytes are written in a text by percent
escapes. Decoding of UTF-8 tells the place and the length of the first fault. A
faulty sequence is as long as the longest beginning of it that could have started a
character, and a sequence that the end of input cuts short is told apart from one
that no continuation could mend. A percent sign followed by two hexadecimal digits
stands for one byte; any other percent sign stands for itself.

* `Utf8.encode` writes a text, character by character;
* `Utf8.decode` reads one back or names the first fault;
* `Percent.decode` gives the bytes that a text with escapes stands for;
* `Percent.encodeWhere` writes the characters of a class as escapes.
-/

/-! ## UTF-8 -/

namespace RepoIdentity.Utf8

/-- The first fault of a byte sequence; indices count bytes from its beginning. -/
inductive Fault where
  /-- The bytes from `index` on begin a character and end inside it. -/
  | incomplete (index : Nat)
  /-- The `length` bytes at `index` begin no character. -/
  | invalid (length index : Nat)
deriving DecidableEq, Repr

/-- The bytes of a text. -/
def encode (s : Text) : Bytes := s.flatMap String.utf8EncodeChar

/-- Bytes that may follow the leading byte of a longer sequence. -/
def isContinuation (b : UInt8) : Bool := 0x80 ≤ b && b ≤ 0xBF

/-- The payload of a continuation byte. -/
def payload (b : UInt8) : Nat := b.toNat % 64

/-- The number of bytes that a leading byte announces. -/
def width? (b : UInt8) : Option Nat :=
  if b < 0x80 then some 1
  else if 0xC2 ≤ b ∧ b ≤ 0xDF then some 2
  else if 0xE0 ≤ b ∧ b ≤ 0xEF then some 3
  else if 0xF0 ≤ b ∧ b ≤ 0xF4 then some 4
  else none

/-- Whether `second` may follow the leading byte `first`: overlong forms,
surrogates and numbers past the last character are refused at this byte. -/
def isSecond (first second : UInt8) : Bool :=
  isContinuation second
    && (first != 0xE0 || 0xA0 ≤ second) && (first != 0xED || second ≤ 0x9F)
    && (first != 0xF0 || 0x90 ≤ second) && (first != 0xF4 || second ≤ 0x8F)

/-- Decodes what stands at `index`. -/
def decodeFrom (index : Nat) : Bytes → Except Fault Text
  | [] => .ok []
  | b₀ :: rest =>
    match width? b₀ with
    | none => .error (.invalid 1 index)
    | some 1 => (decodeFrom (index + 1) rest).map (Char.ofNat b₀.toNat :: ·)
    | some w =>
      match rest with
      | [] => .error (.incomplete index)
      | b₁ :: rest =>
        if !isSecond b₀ b₁ then .error (.invalid 1 index)
        else if w = 2 then
          (decodeFrom (index + 2) rest).map
            (Char.ofNat (b₀.toNat % 32 * 64 + payload b₁) :: ·)
        else
          match rest with
          | [] => .error (.incomplete index)
          | b₂ :: rest =>
            if !isContinuation b₂ then .error (.invalid 2 index)
            else if w = 3 then
              (decodeFrom (index + 3) rest).map
                (Char.ofNat ((b₀.toNat % 16 * 64 + payload b₁) * 64 + payload b₂) :: ·)
            else
              match rest with
              | [] => .error (.incomplete index)
              | b₃ :: rest =>
                if !isContinuation b₃ then .error (.invalid 3 index)
                else
                  (decodeFrom (index + 4) rest).map
                    (Char.ofNat (((b₀.toNat % 8 * 64 + payload b₁) * 64 + payload b₂) * 64
                      + payload b₃) :: ·)

/-- The text that the bytes encode, or their first fault. -/
def decode (bytes : Bytes) : Except Fault Text := decodeFrom 0 bytes

end RepoIdentity.Utf8

/-! ## Percent escapes -/

namespace RepoIdentity.Percent

/-- The byte of two hexadecimal digits. -/
def byte? (high low : Char) : Option UInt8 :=
  match Ascii.hexValue? high, Ascii.hexValue? low with
  | some h, some l => some (UInt8.ofNat (h * 16 + l))
  | _, _ => none

/-- The bytes that a text stands for. -/
def decode : Text → Bytes
  | [] => []
  | '%' :: high :: low :: rest =>
    match byte? high low with
    | some b => b :: decode rest
    | none => 0x25 :: decode (high :: low :: rest)
  | c :: rest => String.utf8EncodeChar c ++ decode rest

/-- A byte as an escape with capital digits. -/
def escape (b : UInt8) : Text :=
  '%' :: ([b.toNat / 16, b.toNat % 16].map fun d => (Numeral.digit d).toUpper)

/-- The text with the characters of class `p` escaped byte by byte. -/
def encodeWhere (p : Char → Bool) (s : Text) : Text :=
  s.flatMap fun c => if p c then (String.utf8EncodeChar c).flatMap escape else [c]

end RepoIdentity.Percent

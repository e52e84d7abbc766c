import MacroShell.Number.Integer
import MacroShell.Text.Quoted

/-!
# UTF-8

Strict reading of bytes as text. A malformed sequence is reported with the bytes at fault and the
reason.
-/

namespace MacroShell

inductive Utf8Defect
  | invalidStart
  | invalidContinuation
  | truncated
  deriving DecidableEq

def Utf8Defect.reason : Utf8Defect → Text
  | invalidStart => "invalid start byte".toList
  | invalidContinuation => "invalid continuation byte".toList
  | truncated => "unexpected end of data".toList

/-- A malformed sequence: its first byte, where it starts, how many bytes it has, and why. -/
structure Utf8Error where
  byte : UInt8
  start : Nat
  length : Nat
  defect : Utf8Defect
  deriving DecidableEq

/-- The bytes at fault, by value when there is one and by position when there are more. -/
def Utf8Error.message (e : Utf8Error) : Text :=
  let place :=
    if e.length = 1 then
      "byte 0x".toList ++ hexDigits 2 e.byte.toNat ++ " in position ".toList
        ++ naturalText e.start
    else
      "bytes in position ".toList ++ naturalText e.start ++ "-".toList
        ++ naturalText (e.start + e.length - 1)
  "'utf-8' codec can't decode ".toList ++ place ++ ": ".toList ++ e.defect.reason

namespace Utf8

def isTail (b : UInt8) : Bool := 0x80 ≤ b && b < 0xC0

/-- Whether a byte may follow the first byte of a sequence of three or four: overlong forms,
surrogates and code points past the last plane are cut off. -/
def mayFollow (first b : UInt8) : Bool :=
  isTail b &&
    !(first == 0xE0 && b < 0xA0) && !(first == 0xED && 0xA0 ≤ b) &&
    !(first == 0xF0 && b < 0x90) && !(first == 0xF4 && 0x90 ≤ b)

def tailBits (b : UInt8) : Nat := b.toNat % 0x40

/-- The text of the bytes from a position on. -/
def decodeFrom (start : Nat) : List UInt8 → Except Utf8Error Text
  | [] => .ok []
  | a :: rest =>
    if a < 0x80 then (Char.ofNat a.toNat :: ·) <$> decodeFrom (start + 1) rest
    else if a < 0xC2 || 0xF4 < a then .error ⟨a, start, 1, .invalidStart⟩
    else if a < 0xE0 then
      match rest with
      | [] => .error ⟨a, start, 1, .truncated⟩
      | b :: rest =>
        if isTail b then
          (Char.ofNat (a.toNat % 0x20 * 0x40 + tailBits b) :: ·) <$> decodeFrom (start + 2) rest
        else .error ⟨a, start, 1, .invalidContinuation⟩
    else
      match rest with
      | [] => .error ⟨a, start, 1, .truncated⟩
      | b :: rest =>
        if !mayFollow a b then .error ⟨a, start, 1, .invalidContinuation⟩
        else match rest with
          | [] => .error ⟨a, start, 2, .truncated⟩
          | c :: rest =>
            if !isTail c then .error ⟨a, start, 2, .invalidContinuation⟩
            else if a < 0xF0 then
              (Char.ofNat ((a.toNat % 0x10 * 0x40 + tailBits b) * 0x40 + tailBits c) :: ·)
                <$> decodeFrom (start + 3) rest
            else match rest with
              | [] => .error ⟨a, start, 3, .truncated⟩
              | d :: rest =>
                if !isTail d then .error ⟨a, start, 3, .invalidContinuation⟩
                else
                  let code := ((a.toNat % 0x08 * 0x40 + tailBits b) * 0x40 + tailBits c) * 0x40
                    + tailBits d
                  (Char.ofNat code :: ·) <$> decodeFrom (start + 4) rest

def decode (bytes : List UInt8) : Except Utf8Error Text := decodeFrom 0 bytes

def encode (t : Text) : List UInt8 := t.flatMap String.utf8EncodeChar

end Utf8
end MacroShell

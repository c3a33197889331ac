import PatternLint.Text.Quoted

/-!
# Reading UTF-8

`decode` reads a sequence of octets or says where and why it is no UTF-8: a character starts with a
lead octet that fixes how many continuation octets follow, and the first of these is restricted so
that no overlong form, no surrogate and nothing above U+10FFFF is accepted.
-/

namespace PatternLint.Text

inductive DecodeCause
  | invalidStart
  | invalidContinuation
  | unexpectedEnd
  deriving DecidableEq, Repr

/-- The octets `start`, …, `start + length - 1` cannot be read; `lead` is the first of them. -/
structure DecodeError where
  start : Nat
  length : Nat
  lead : UInt8
  cause : DecodeCause
  deriving DecidableEq, Repr

namespace DecodeError

def reason : DecodeCause → String
  | .invalidStart => "invalid start byte"
  | .invalidContinuation => "invalid continuation byte"
  | .unexpectedEnd => "unexpected end of data"

def message (e : DecodeError) : String :=
  let place :=
    if e.length ≤ 1 then
      "byte 0x" ++ String.ofList (hexDigits 2 e.lead.toNat) ++ " in position " ++ toString e.start
    else
      "bytes in position " ++ toString e.start ++ "-" ++ toString (e.start + e.length - 1)
  "'utf-8' codec can't decode " ++ place ++ ": " ++ reason e.cause

end DecodeError

def isContinuation (b : UInt8) : Bool := 0x80 ≤ b && b ≤ 0xBF

/-- Whether `b` may follow the lead octet `a` of a character of three or four octets. -/
def isSecond (a b : UInt8) : Bool :=
  isContinuation b &&
    (if a == 0xE0 then 0xA0 ≤ b
     else if a == 0xED then b ≤ 0x9F
     else if a == 0xF0 then 0x90 ≤ b
     else if a == 0xF4 then b ≤ 0x8F
     else true)

def tailBits (b : UInt8) : Nat := b.toNat % 64

/-- Reads the octets from position `pos` on; `acc` holds the characters before it, last one first. -/
def decodeFrom (acc : List Char) (pos : Nat) : List UInt8 → Except DecodeError (List Char)
  | [] => .ok acc.reverse
  | a :: rest =>
    let fail (length : Nat) (cause : DecodeCause) : Except DecodeError (List Char) :=
      .error ⟨pos, length, a, cause⟩
    if a < 0x80 then decodeFrom (Char.ofNat a.toNat :: acc) (pos + 1) rest
    else if a < 0xC2 || 0xF4 < a then fail 1 .invalidStart
    else if a < 0xE0 then
      match rest with
      | [] => fail 1 .unexpectedEnd
      | b :: rest =>
        if isContinuation b then
          decodeFrom (Char.ofNat (a.toNat % 32 * 64 + tailBits b) :: acc) (pos + 2) rest
        else fail 1 .invalidContinuation
    else if a < 0xF0 then
      match rest with
      | [] => fail 1 .unexpectedEnd
      | b :: rest =>
        if !isSecond a b then fail 1 .invalidContinuation
        else
          match rest with
          | [] => fail 2 .unexpectedEnd
          | c :: rest =>
            if isContinuation c then
              decodeFrom
                (Char.ofNat (a.toNat % 16 * 4096 + tailBits b * 64 + tailBits c) :: acc)
                (pos + 3) rest
            else fail 2 .invalidContinuation
    else
      match rest with
      | [] => fail 1 .unexpectedEnd
      | b :: rest =>
        if !isSecond a b then fail 1 .invalidContinuation
        else
          match rest with
          | [] => fail 2 .unexpectedEnd
          | c :: rest =>
            if !isContinuation c then fail 2 .invalidContinuation
            else
              match rest with
              | [] => fail 3 .unexpectedEnd
              | d :: rest =>
                if isContinuation d then
                  decodeFrom
                    (Char.ofNat
                      (a.toNat % 8 * 262144 + tailBits b * 4096 + tailBits c * 64 + tailBits d)
                      :: acc)
                    (pos + 4) rest
                else fail 3 .invalidContinuation

/-- The text that the octets spell. -/
def decode (bytes : List UInt8) : Except DecodeError String :=
  (decodeFrom [] 0 bytes).map String.ofList

/-- The octets of a text. -/
def encode (s : String) : List UInt8 := s.toList.flatMap String.utf8EncodeChar

end PatternLint.Text

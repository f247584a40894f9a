-- Integers of variable length: base 128, lowest digit first, and every byte but the last has
-- its high bit set. Writing uses as few bytes as the value needs. Reading also takes padded
-- forms, up to the greatest number of bytes of the width, and refuses a last permitted byte
-- that goes on or that holds bits past the width.
import LessonHistory.Wire.Reader

namespace LessonHistory

namespace Varint

/-- How long an integer may be on the wire: how many bytes there are at most, and the greatest value
of the last one. -/
structure Width where
  maxBytes : Nat
  maxLast : Nat

def Width.bits32 : Width := ⟨5, 15⟩

def Width.bits64 : Width := ⟨10, 1⟩

/-- The digits of `n`, at most `count` of them. -/
def digits : Nat → Nat → List UInt8
  | 0, _ => []
  | count + 1, n =>
    if n < 128 then [UInt8.ofNat n]
    else UInt8.ofNat (128 + n % 128) :: digits count (n / 128)

/-- The bytes of an integer. -/
def encode (width : Width) (n : Nat) : List UInt8 := digits width.maxBytes n

/-- Reads the digits of an integer when `count` more bytes may come, the last of them at most
`maxLast`. -/
def readDigits (maxLast : Nat) : Nat → Reader Nat
  | 0 => throw .unterminatedInteger
  | count + 1 => do
    let b ← Reader.byte
    if b.toNat < 128 then
      if count = 0 ∧ maxLast < b.toNat then throw .unterminatedInteger
      else pure b.toNat
    else do
      let high ← readDigits maxLast count
      pure (b.toNat - 128 + 128 * high)

/-- Reads an integer. -/
def read (width : Width) : Reader Nat := readDigits width.maxLast width.maxBytes

end Varint

end LessonHistory

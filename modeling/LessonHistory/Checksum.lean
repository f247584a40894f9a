-- The 32-bit cyclic redundancy check, bit by bit: the remainder of the message under the
-- polynomial of Ethernet and zip files, lowest bit first, with all bits inverted before the
-- first byte and after the last.

namespace LessonHistory

namespace Checksum

/-- The polynomial, lowest bit first and without its leading term. -/
def polynomial : UInt32 := 0xEDB88320

/-- The remainder after one more bit. -/
def shift (remainder : UInt32) : UInt32 :=
  if remainder &&& 1 = 1 then (remainder >>> 1) ^^^ polynomial else remainder >>> 1

/-- The remainder after `n` more bits. -/
def shifts : Nat → UInt32 → UInt32
  | 0, remainder => remainder
  | n + 1, remainder => shifts n (shift remainder)

/-- The remainder after one more byte. -/
def step (remainder : UInt32) (byte : UInt8) : UInt32 :=
  shifts 8 (remainder ^^^ byte.toUInt32)

/-- The checksum of a string of bytes. -/
def crc32 (bytes : List UInt8) : UInt32 :=
  ~~~ bytes.foldl step 0xFFFFFFFF

end Checksum

end LessonHistory

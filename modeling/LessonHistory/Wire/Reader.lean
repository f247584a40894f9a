-- Reading a value from the front of a string of bytes. A reader gives the value and the bytes
-- behind it, or the first problem that it meets from left to right.

namespace LessonHistory

/-- Why bytes do not start with a value of the wanted kind. An integer is unterminated that has more
bytes, or more bits, than its width allows. -/
inductive WireError where
  | endOfInput
  | unterminatedInteger
  | invalidText
  | unknownVariant
  deriving DecidableEq

def WireError.message : WireError → String
  | endOfInput => "Hit the end of buffer, expected more data"
  | unterminatedInteger =>
    "Found a varint that didn't terminate. Is the usize too big for this platform?"
  | invalidText => "Tried to parse invalid utf-8"
  | unknownVariant => "Serde Deserialization Error"

/-- A reader takes a value off the front of the bytes. -/
abbrev Reader := StateT (List UInt8) (Except WireError)

namespace Reader

def byte : Reader UInt8
  | [] => .error .endOfInput
  | b :: rest => .ok (b, rest)

def bytes (count : Nat) : Reader (List UInt8) := fun input =>
  if count ≤ input.length then .ok (input.take count, input.drop count)
  else .error .endOfInput

/-- Reads `count` values, one after the other. -/
def many {α : Type} (read : Reader α) : Nat → Reader (List α)
  | 0 => pure []
  | count + 1 => do
    let first ← read
    let rest ← many read count
    pure (first :: rest)

end Reader

end LessonHistory

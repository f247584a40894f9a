-- Frames: the binary form of a value behind its length in four bytes, lowest byte first, so
-- that a reader knows how many bytes belong to the value before looking at them.
import LessonHistory.Wire.Format

namespace LessonHistory

/-! ## Words of four bytes -/

namespace Word

/-- The four bytes of a number below `2 ^ 32`, lowest first. -/
def bytes (n : Nat) : List UInt8 :=
  [UInt8.ofNat n, UInt8.ofNat (n / 256), UInt8.ofNat (n / 65536), UInt8.ofNat (n / 16777216)]

/-- The number in the first four bytes, and the bytes behind it. -/
def take? : List UInt8 → Option (Nat × List UInt8)
  | a :: b :: c :: d :: rest =>
    some (a.toNat + 256 * b.toNat + 65536 * c.toNat + 16777216 * d.toNat, rest)
  | _ => none

end Word

/-! ## Frames -/

/-- Why bytes are not a frame, or a value has none: it is too long for the length in front of it, or
the bytes end inside the length, or before the length that they announce. -/
inductive FrameError where
  | tooLarge (size : Nat)
  | lengthMissing (available : Nat)
  | cutShort (announced available : Nat)
  deriving DecidableEq

def FrameError.message : FrameError → String
  | tooLarge size => s!"payload too large for framing: {size} bytes"
  | lengthMissing available => s!"need at least 4 bytes for length prefix, got {available}"
  | cutShort announced available =>
    s!"frame indicates {announced} bytes but only {available} available"

/-- Why bytes give no value: those of the value itself are at fault, or the frame around it is. -/
inductive CodecError where
  | serialization (cause : WireError)
  | invalidFrame (cause : FrameError)
  deriving DecidableEq

def CodecError.message : CodecError → String
  | serialization cause => "serialization error: " ++ cause.message
  | invalidFrame cause => "invalid frame: " ++ cause.message

namespace Frame

/-- The frame around the given bytes, if their number fits into four bytes. -/
def wrap (payload : List UInt8) : Except FrameError (List UInt8) :=
  if payload.length < 4294967296 then .ok (Word.bytes payload.length ++ payload)
  else .error (.tooLarge payload.length)

/-- The frame of a value. -/
def encode {α : Type} [Wire α] (value : α) : Except CodecError (List UInt8) :=
  (wrap (Wire.encode value)).mapError .invalidFrame

/-- The length that a frame announces. -/
def payloadLength (bytes : List UInt8) : Except FrameError Nat :=
  match Word.take? bytes with
  | some (length, _) => .ok length
  | none => .error (.lengthMissing bytes.length)

/-- The bytes inside the frame that the bytes start with. -/
def unwrap (bytes : List UInt8) : Except FrameError (List UInt8) :=
  match Word.take? bytes with
  | none => .error (.lengthMissing bytes.length)
  | some (length, rest) =>
    if length ≤ rest.length then .ok (rest.take length)
    else .error (.cutShort length rest.length)

/-- The value in the frame that the bytes start with, and the length of that frame. -/
def decode (α : Type) [Wire α] (bytes : List UInt8) : Except CodecError (α × Nat) := do
  let payload ← (unwrap bytes).mapError CodecError.invalidFrame
  let value ← (Wire.decode α payload).mapError CodecError.serialization
  pure (value, 4 + payload.length)

end Frame

end LessonHistory

-- The bytes of one file, and what writing into them does. A write behind the end of the file
-- fills the gap with zeros. Under a size limit a write fills the file up to the limit and then
-- fails.
import LessonHistory.Volume.Fault

namespace LessonHistory

namespace Content

/-- The content with its length cut, or filled up with zeros, to `length`. -/
def resize (length : Nat) (content : List UInt8) : List UInt8 :=
  content.take length ++ List.replicate (length - content.length) 0

/-- The content with `data` written from `offset` on. -/
def overwrite (offset : Nat) (data content : List UInt8) : List UInt8 :=
  resize offset content ++ data ++ content.drop (offset + data.length)

/-- How many of `wanted` bytes from `offset` on the size limit lets through. -/
def room (limit : Option Nat) (offset wanted : Nat) : Nat :=
  match limit with
  | none => wanted
  | some limit => min wanted (limit - offset)

/-- Writes `data` from `offset` on, as far as the size limit allows. -/
def write (limit : Option Nat) (offset : Nat) (data content : List UInt8) :
    Except Fault Unit × List UInt8 :=
  let allowed := room limit offset data.length
  (if allowed = data.length then .ok () else .error .fileTooLarge,
    if allowed = 0 then content else overwrite offset (data.take allowed) content)

/-- Sets the length of the content, which may grow only up to the size limit. -/
def setLength (limit : Option Nat) (length : Nat) (content : List UInt8) :
    Except Fault (List UInt8) :=
  match limit with
  | some limit =>
    if content.length < length ∧ limit < length then .error .fileTooLarge
    else .ok (resize length content)
  | none => .ok (resize length content)

end Content

end LessonHistory

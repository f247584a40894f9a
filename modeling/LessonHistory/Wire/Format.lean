-- The binary form of the values that are stored: records, texts, changes, lists and states.
-- The form of a value says where it ends, so values are simply put one after the other, and
-- bytes behind a complete value are not looked at.
import LessonHistory.Change
import LessonHistory.Record
import LessonHistory.Wire.Varint

namespace LessonHistory

/-- Values with a binary form: how it is written, and how it is read off the front of bytes. -/
class Wire (α : Type) where
  encode : α → List UInt8
  read : Reader α

namespace Wire

/-- The value that the bytes start with. -/
def decode (α : Type) [Wire α] (bytes : List UInt8) : Except WireError α :=
  (read.run bytes).map (·.1)

/-! ## The formats -/

/-- A record is its index. -/
instance : Wire Record where
  encode record := Varint.encode .bits32 record.index
  read := do
    let index ← Varint.read .bits32
    match Record.ofNat? index with
    | some record => pure record
    | none => throw .unterminatedInteger

/-- The UTF-8 bytes of a text. -/
def textBytes (text : String) : List UInt8 := text.toByteArray.data.toList

/-- The text with the given UTF-8 bytes. -/
def textOfBytes? (bytes : List UInt8) : Option String := String.fromUTF8? ⟨bytes.toArray⟩

/-- A text is the number of its UTF-8 bytes, then the bytes. -/
instance : Wire String where
  encode text := Varint.encode .bits64 (textBytes text).length ++ textBytes text
  read := do
    let size ← Varint.read .bits64
    let bytes ← Reader.bytes size
    match textOfBytes? bytes with
    | some text => pure text
    | none => throw .invalidText

/-- A pair is its first part, then its second. -/
instance {α β : Type} [Wire α] [Wire β] : Wire (α × β) where
  encode pair := encode pair.1 ++ encode pair.2
  read := do
    let first ← read
    let second ← read
    pure (first, second)

/-- A list is the number of its items, then the items. -/
instance {α : Type} [Wire α] : Wire (List α) where
  encode items := Varint.encode .bits64 items.length ++ items.flatMap encode
  read := do
    let count ← Varint.read .bits64
    Reader.many read count

/-- A state is the list of its entries. Reading takes them in any order, and of two with the
same path the later one counts. -/
instance : Wire FileState where
  encode state := encode state.entries
  read := do
    let entries ← read
    pure (FileState.ofList entries)

/-- The number of the variant of a change. -/
def variantNumber : Change → Nat
  | .addFile _ _ => 0
  | .removeFile _ => 1
  | .changeFile _ _ => 2
  | .addTaskFile _ _ => 3
  | .removeTaskFile _ => 4

/-- A change is the number of its variant, then its path, then its text if it has one. -/
instance : Wire Change where
  encode change :=
    Varint.encode .bits32 (variantNumber change) ++ encode change.path ++
      match change.text? with
      | some text => encode text
      | none => []
  read := do
    let variant ← Varint.read .bits32
    match variant with
    | 0 => do pure (.addFile (← read) (← read))
    | 1 => do pure (.removeFile (← read))
    | 2 => do pure (.changeFile (← read) (← read))
    | 3 => do pure (.addTaskFile (← read) (← read))
    | 4 => do pure (.removeTaskFile (← read))
    | _ => throw .unknownVariant

end Wire

end LessonHistory

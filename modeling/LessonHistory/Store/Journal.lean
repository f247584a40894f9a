-- The content of a log file: a header, then one frame for every update. A frame is the
-- checksum of the length of its payload, the length, the payload and the checksum of the
-- payload. The payload is a record and its changes. The last frame of a record counts, and
-- records appear for the first time in the order of their indices.
import LessonHistory.Checksum
import LessonHistory.Store.Error

namespace LessonHistory

namespace Journal

/-- The bytes that every log file starts with. -/
def magic : List UInt8 := [0x4C, 0x53, 0x43, 0x4C]

def version : UInt8 := 1

/-- The start of every log file. -/
def header : List UInt8 := magic ++ [version]

/-- What one frame holds. -/
abbrev Entry := Record × List Change

/-- The four bytes of a checksum. -/
def sumBytes (bytes : List UInt8) : List UInt8 := Word.bytes (Checksum.crc32 bytes).toNat

/-- The frame of an entry. -/
def frame (entry : Entry) : Except CodecError (List UInt8) :=
  let payload := Wire.encode entry
  match Frame.wrap payload with
  | .error error => .error (.invalidFrame error)
  | .ok framed => .ok (sumBytes (framed.take 4) ++ framed ++ sumBytes payload)

/-! ## Scanning -/

/-- What stands at the front of the bytes behind the last frame: the start of a frame or nothing,
what no interrupted writing leaves behind, or a frame with a payload of that length. -/
inductive Front where
  | torn
  | damaged (damage : Damage)
  | complete (entry : Entry) (payloadLength : Nat)

/-- Looks at the frame that the bytes start with. -/
def front (bytes : List UInt8) : Front :=
  match Word.take? bytes with
  | none => .torn
  | some (lengthSum, framed) =>
    match Word.take? framed with
    | none => .torn
    | some (length, rest) =>
      if (Checksum.crc32 (framed.take 4)).toNat ≠ lengthSum then .damaged .lengthChecksum
      else
        match Word.take? (rest.drop length) with
        | none => .torn
        | some (payloadSum, _) =>
          if (Checksum.crc32 (rest.take length)).toNat ≠ payloadSum then .damaged .payloadChecksum
          else
            match Wire.decode Entry (rest.take length) with
            | .error error => .damaged (.codec (.serialization error))
            | .ok entry => .complete entry length

/-- The number of bytes of a frame with a payload of the given length. -/
def frameLength (payloadLength : Nat) : Nat := payloadLength + 12

/-- The offsets of the last frames of the records, with one more frame noted. -/
def note (offsets : List Nat) (record : Record) (offset : Nat) : Except Damage (List Nat) :=
  if record.index < offsets.length then .ok (offsets.set record.index offset)
  else if record.index = offsets.length then .ok (offsets ++ [offset])
  else .error (.outOfSequence record)

/-- Where the last frame of every record is, and where the last frame ends. -/
structure Index where
  offsets : List Nat
  finish : Nat
  deriving DecidableEq

theorem length_of_take? {bytes rest : List UInt8} {n : Nat}
    (h : Word.take? bytes = some (n, rest)) : bytes.length = rest.length + 4 := by
  unfold Word.take? at h
  split at h
  · cases h; rfl
  · cases h

theorem frameLength_le_of_front {bytes : List UInt8} {entry : Entry} {length : Nat}
    (h : front bytes = .complete entry length) : frameLength length ≤ bytes.length := by
  unfold front at h
  split at h
  · cases h
  · rename_i h1
    split at h
    · cases h
    · rename_i h2
      split at h
      · cases h
      · split at h
        · cases h
        · rename_i h3
          split at h
          · cases h
          · split at h
            · cases h
            · cases h
              have e1 := length_of_take? h1
              have e2 := length_of_take? h2
              have e3 := length_of_take? h3
              rw [List.length_drop] at e3
              unfold frameLength
              omega

/-- Notes the frames that the bytes from `offset` on start with, up to one that is not whole.
Damage is reported with the offset of its frame. -/
def scanFrames (index : Index) (bytes : List UInt8) : Except (Nat × Damage) Index :=
  match _h : front bytes with
  | .torn => .ok index
  | .damaged damage => .error (index.finish, damage)
  | .complete entry length =>
    match note index.offsets entry.1 index.finish with
    | .error damage => .error (index.finish, damage)
    | .ok offsets =>
      scanFrames ⟨offsets, index.finish + frameLength length⟩ (bytes.drop (frameLength length))
termination_by bytes.length
decreasing_by
  have := frameLength_le_of_front _h
  rw [List.length_drop]
  unfold frameLength at *
  omega

/-- Scans the content of a log file. -/
def scan (content : List UInt8) : Except (Nat × Damage) Index :=
  if content.take magic.length ≠ magic then .error (0, .headerMissing)
  else
    match content.drop magic.length with
    | [] => .error (magic.length, .versionMissing)
    | found :: frames =>
      if found = version then scanFrames ⟨[], header.length⟩ frames
      else .error (magic.length, .versionUnsupported found)

/-! ## Opening -/

/-- What must be mended before a log file can be used: the header or a part of it is missing, or what
stands behind the last whole frame is to be cut off. -/
inductive Repair where
  | nothing
  | header
  | tail
  deriving DecidableEq

/-- What can be had from the content of a log file, and at the cost of which repair. -/
def recover (content : List UInt8) : Except (Nat × Damage) (Index × Repair) :=
  if content.length < header.length ∧ content.isPrefixOf header then
    .ok (⟨[], header.length⟩, .header)
  else
    match scan content with
    | .error problem => .error problem
    | .ok index => .ok (index, if index.finish < content.length then .tail else .nothing)

/-! ## Reading one frame -/

/-- The changes in the frame at `offset`, which must be one of `record`. -/
def changesAt (content : List UInt8) (offset : Nat) (record : Record) :
    Except ReadFault (List Change) :=
  match Word.take? (content.drop (offset + 4)) with
  | none => .error (.io .endOfFile)
  | some (length, rest) =>
    match Word.take? (rest.drop length) with
    | none => .error (.io .endOfFile)
    | some (payloadSum, _) =>
      if (Checksum.crc32 (rest.take length)).toNat ≠ payloadSum then
        .error (.payloadChecksum offset)
      else
        match Wire.decode Entry (rest.take length) with
        | .error error => .error (.codec (.serialization error))
        | .ok (found, changes) =>
          if found = record then .ok changes else .error (.otherRecord offset found)

/-! ## Writing a whole log -/

/-- The frames of the entries behind the given content, with the offset of each. -/
def appendAll (content : List UInt8) : List Entry → Except CodecError (List UInt8 × List Nat)
  | [] => .ok (content, [])
  | entry :: rest => do
    let bytes ← frame entry
    let (whole, offsets) ← appendAll (content ++ bytes) rest
    pure (whole, content.length :: offsets)

/-- The log with one frame for each entry. -/
def image (entries : List Entry) : Except CodecError (List UInt8 × List Nat) :=
  appendAll header entries

end Journal

end LessonHistory

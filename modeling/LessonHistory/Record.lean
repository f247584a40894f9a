-- The handles under which the changes of a task are stored, and their written form: a number
-- sign and the decimal index. Reading is more generous: any number of number signs, also
-- none, then one plus sign or none, then the digits.

namespace LessonHistory

/-- The handle of one entry in the store of changes, an index of 32 bits. -/
structure Record where
  index : Nat
  index_lt : index < 4294967296
  deriving DecidableEq

/-- Why a text is not a record handle. -/
inductive RecordTextError where
  | empty
  | invalidDigit
  | tooLarge
  deriving DecidableEq

def RecordTextError.message : RecordTextError → String
  | empty => "cannot parse integer from empty string"
  | invalidDigit => "invalid digit found in string"
  | tooLarge => "number too large to fit in target type"

namespace Record

theorem index_inj {record other : Record} : record.index = other.index ↔ record = other := by
  cases record
  cases other
  simp

/-- The record with the given index, if the index is in range. -/
def ofNat? (index : Nat) : Option Record :=
  if h : index < 4294967296 then some ⟨index, h⟩ else none

theorem index_of_ofNat? {index : Nat} {record : Record} (h : ofNat? index = some record) :
    record.index = index := by
  unfold ofNat? at h
  split at h
  · cases h
    rfl
  · cases h

/-- The record with the least index. -/
def first : Record := ⟨0, Nat.zero_lt_succ 4294967295⟩

/-- The written form of a record. -/
def display (record : Record) : String := "#" ++ toString record.index

/-- The value of an ASCII decimal digit. -/
def digitValue? (c : Char) : Option Nat :=
  if '0' ≤ c ∧ c ≤ '9' then some (c.toNat - '0'.toNat) else none

/-- Reads digits from the left behind those with the value `read`. The first character that is
no digit, or that takes the value out of range, ends the reading. -/
def readDigits (read : Record) : List Char → Except RecordTextError Record
  | [] => .ok read
  | c :: rest =>
    match digitValue? c with
    | none => .error .invalidDigit
    | some digit =>
      match ofNat? (read.index * 10 + digit) with
      | none => .error .tooLarge
      | some next => readDigits next rest

/-- Reads an index in decimal, with one plus sign before it or none. -/
def readIndex : List Char → Except RecordTextError Record
  | [] => .error .empty
  | ['+'] => .error .invalidDigit
  | '+' :: digits => readDigits first digits
  | digits => readDigits first digits

/-- Reads a record handle. -/
def parse (text : String) : Except RecordTextError Record :=
  readIndex (text.toList.dropWhile (· = '#'))

end Record

end LessonHistory

-- What a reader that succeeds has looked at. It takes its value from a front part of the bytes, to the
-- last byte of which it needs, and whatever stands behind that part makes no difference. Readers
-- that are put one after the other do the same, so every value is read in this way.
import LessonHistory.Proofs.Wire.RoundTrip

namespace LessonHistory

namespace Reader

variable {α β : Type}

/-! ## Readers that fail -/

theorem run_bind_error {first : Reader α} {next : α → Reader β} {input : List UInt8}
    {error : WireError} (h : first.run input = .error error) :
    (first >>= next).run input = .error error := by
  rw [StateT.run_bind, h]
  rfl

theorem exists_of_run_bind_ok {first : Reader α} {next : α → Reader β} {input rest : List UInt8}
    {result : β} (h : (first >>= next).run input = .ok (result, rest)) :
    ∃ value middle, first.run input = .ok (value, middle) ∧
      (next value).run middle = .ok (result, rest) := by
  rw [StateT.run_bind] at h
  cases hfirst : first.run input with
  | error error =>
    rw [hfirst] at h
    cases h
  | ok found =>
    rw [hfirst] at h
    exact ⟨found.1, found.2, rfl, h⟩

theorem eq_of_run_pure {value result : α} {input rest : List UInt8}
    (h : (pure value : Reader α).run input = .ok (result, rest)) : result = value ∧ rest = input := by
  cases h
  exact ⟨rfl, rfl⟩

theorem eq_cons_of_run_byte {input rest : List UInt8} {b : UInt8}
    (h : byte.run input = .ok (b, rest)) : input = b :: rest := by
  cases input with
  | nil => cases h
  | cons first others =>
    cases h
    rfl

theorem eq_append_of_run_bytes {count : Nat} {input found rest : List UInt8}
    (h : (bytes count).run input = .ok (found, rest)) :
    input = found ++ rest ∧ found.length = count := by
  unfold bytes StateT.run at h
  by_cases hcount : count ≤ input.length
  · simp only [hcount, if_true] at h
    cases h
    exact ⟨(List.take_append_drop count input).symm, List.length_take_of_le hcount⟩
  · simp only [hcount, if_false] at h
    cases h

/-! ## The front part that a value is taken from -/

/-- The reader needs all of these bytes: of a part of them it finds that they end too early. -/
def Needs (reader : Reader α) (form : List UInt8) : Prop :=
  ∀ n < form.length, reader.run (form.take n) = .error .endOfInput

/-- The reader takes the value from these bytes, no less and no more. -/
structure Takes (reader : Reader α) (front : List UInt8) (value : α) : Prop where
  reads : ∀ rest, reader.run (front ++ rest) = .ok (value, rest)
  needs : Needs reader front

/-- Whatever the reader reads it takes from a front part of the bytes. -/
def Local (reader : Reader α) : Prop :=
  ∀ input value rest, reader.run input = .ok (value, rest) →
    ∃ front, input = front ++ rest ∧ Takes reader front value

/-- A cut in the first part is met by the first reader, and a cut behind it by the second. -/
theorem Takes.bind {first : Reader α} {next : α → Reader β} {front back : List UInt8} {value : α}
    {result : β} (hfirst : Takes first front value) (hnext : Takes (next value) back result) :
    Takes (first >>= next) (front ++ back) result where
  reads rest := by
    rw [List.append_assoc, run_bind_ok (hfirst.reads _)]
    exact hnext.reads rest
  needs n hn := by
    by_cases hcut : n < front.length
    · rw [List.take_append_of_le_length (Nat.le_of_lt hcut)]
      exact run_bind_error (hfirst.needs n hcut)
    · rw [List.length_append] at hn
      rw [List.take_append, List.take_of_length_le (Nat.le_of_not_lt hcut),
        run_bind_ok (hfirst.reads _)]
      apply hnext.needs
      omega

theorem Local.bind {first : Reader α} {next : α → Reader β} (hfirst : Local first)
    (hnext : ∀ value, Local (next value)) : Local (first >>= next) := by
  intro input result rest h
  obtain ⟨value, middle, hvalue, hresult⟩ := exists_of_run_bind_ok h
  obtain ⟨front, rfl, hfront⟩ := hfirst _ _ _ hvalue
  obtain ⟨back, rfl, hback⟩ := hnext value _ _ _ hresult
  exact ⟨front ++ back, (List.append_assoc front back rest).symm, hfront.bind hback⟩

theorem local_pure (value : α) : Local (pure value) := by
  intro input result rest h
  obtain ⟨rfl, rfl⟩ := eq_of_run_pure h
  exact ⟨[], rfl, fun _ => rfl, fun _ hn => nomatch hn⟩

theorem local_throw (error : WireError) : Local (throw error : Reader α) :=
  fun _ _ _ h => nomatch h

theorem local_byte : Local byte := by
  intro input b rest h
  obtain rfl := eq_cons_of_run_byte h
  refine ⟨[b], rfl, run_byte_cons b, ?_⟩
  intro n hn
  rw [List.length_singleton, Nat.lt_one_iff] at hn
  rw [hn, List.take_zero]
  rfl

theorem local_bytes (count : Nat) : Local (bytes count) := by
  intro input found rest h
  obtain ⟨rfl, rfl⟩ := eq_append_of_run_bytes h
  refine ⟨found, rfl, run_bytes_append found, ?_⟩
  intro n hn
  have hshort : ¬ found.length ≤ (found.take n).length := by
    rw [List.length_take]
    omega
  exact if_neg hshort

theorem local_many {read : Reader α} (h : Local read) (count : Nat) : Local (many read count) := by
  induction count with
  | zero => exact local_pure []
  | succ count ih =>
    apply h.bind
    intro first
    exact ih.bind fun rest => local_pure (first :: rest)

end Reader

namespace Varint

theorem local_readDigits (maxLast count : Nat) : Reader.Local (readDigits maxLast count) := by
  induction count with
  | zero => exact Reader.local_throw _
  | succ count ih =>
    apply Reader.local_byte.bind
    intro b
    split
    · split
      · exact Reader.local_throw _
      · exact Reader.local_pure _
    · exact ih.bind fun high => Reader.local_pure _

theorem local_read (width : Width) : Reader.Local (read width) := local_readDigits _ _

end Varint

namespace Wire

/-! ## Values -/

/-- Values that are taken from a front part of the bytes. -/
class LocallyRead (α : Type) [Wire α] : Prop where
  local_read : Reader.Local (read (α := α))

instance : LocallyRead Record where
  local_read := by
    apply (Varint.local_read .bits32).bind
    intro index
    split
    · exact Reader.local_pure _
    · exact Reader.local_throw _

instance : LocallyRead String where
  local_read := by
    apply (Varint.local_read .bits64).bind
    intro size
    apply (Reader.local_bytes size).bind
    intro bytes
    split
    · exact Reader.local_pure _
    · exact Reader.local_throw _

variable {α β : Type} [Wire α] [Wire β]

instance [LocallyRead α] [LocallyRead β] : LocallyRead (α × β) where
  local_read := by
    apply LocallyRead.local_read.bind
    intro first
    exact LocallyRead.local_read.bind fun second => Reader.local_pure (first, second)

instance [LocallyRead α] : LocallyRead (List α) where
  local_read := (Varint.local_read .bits64).bind fun count =>
    Reader.local_many LocallyRead.local_read count

instance : LocallyRead FileState where
  local_read := LocallyRead.local_read.bind fun entries =>
    Reader.local_pure (FileState.ofList entries)

theorem local_path_and_text (make : String → String → Change) :
    Reader.Local (do pure (make (← read) (← read)) : Reader Change) := by
  apply LocallyRead.local_read.bind
  intro path
  exact LocallyRead.local_read.bind fun text => Reader.local_pure (make path text)

theorem local_path (make : String → Change) : Reader.Local (do pure (make (← read)) : Reader Change) :=
  LocallyRead.local_read.bind fun path => Reader.local_pure (make path)

instance : LocallyRead Change where
  local_read := by
    apply (Varint.local_read .bits32).bind
    intro variant
    split
    · exact local_path_and_text .addFile
    · exact local_path .removeFile
    · exact local_path_and_text .changeFile
    · exact local_path_and_text .addTaskFile
    · exact local_path .removeTaskFile
    · exact Reader.local_throw _

end Wire

end LessonHistory

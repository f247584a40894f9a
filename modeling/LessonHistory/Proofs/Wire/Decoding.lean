-- What becomes of any bytes that are read as a value. Either no value is found, or one is taken from a
-- front part of the bytes: that part is enough for it and all of it is needed. The value is written in
-- no more bytes than that, and is read back from them, so reading and writing once is enough to have
-- every value in its own form.
import LessonHistory.Proofs.Wire.Delimiting
import LessonHistory.Proofs.Wire.Shortest

namespace LessonHistory

namespace Wire

variable {α : Type} [Wire α]

theorem Stored.locallyRead (h : Stored α) : LocallyRead α := by
  cases h with
  | record => infer_instance
  | change => infer_instance
  | changes => infer_instance
  | state => infer_instance

theorem Stored.shortest (h : Stored α) : Shortest α := by
  cases h with
  | record => infer_instance
  | change => infer_instance
  | changes => infer_instance
  | state => infer_instance

theorem exists_takes_of_decode [LocallyRead α] {bytes : List UInt8} {value : α}
    (h : decode α bytes = .ok value) :
    ∃ front rest, bytes = front ++ rest ∧ Reader.Takes (read (α := α)) front value := by
  obtain ⟨rest, hread⟩ := exists_run_of_decode h
  obtain ⟨front, hbytes, htakes⟩ := LocallyRead.local_read _ _ _ hread
  exact ⟨front, rest, hbytes, htakes⟩

theorem decode_of_takes {front : List UInt8} {value : α}
    (h : Reader.Takes (read (α := α)) front value) (rest : List UInt8) :
    decode α (front ++ rest) = .ok value := by
  unfold decode
  rw [h.reads rest]
  rfl

theorem decode_take_of_takes {front : List UInt8} {value : α}
    (h : Reader.Takes (read (α := α)) front value) {m : Nat} (hm : m < front.length) :
    decode α (front.take m) = .error .endOfInput := by
  unfold decode
  rw [h.needs m hm]
  rfl

/-- The front part that a value is taken from has at least as many bytes as its form, from which it
is had back. -/
theorem encode_of_takes [Shortest α] {front : List UInt8} {value : α}
    (h : Reader.Takes (read (α := α)) front value) :
    (encode value).length ≤ front.length ∧ decode α (encode value) = .ok value := by
  have hread := h.reads []
  rw [List.append_nil] at hread
  obtain ⟨hle, hback⟩ := Shortest.of_run hread
  refine ⟨hle, ?_⟩
  have hform := hback []
  rw [List.append_nil] at hform
  unfold decode
  rw [hform]
  rfl

/-- Any bytes are refused, or their first bytes alone decide on the value that is read: all others that
begin with these give the same value, and of fewer of them it is found that they end too early. The
value is written in no more bytes than these, and is had back from what is written. -/
theorem any_bytes_are_read_from_their_front_and_written_no_longer (hstored : Stored α)
    (bytes : List UInt8) :
    (∃ cause, (decode α bytes).mapError CodecError.serialization = .error (.serialization cause)) ∨
    ∃ value n, decode α bytes = .ok value ∧ n ≤ bytes.length ∧
      (∀ other : List UInt8, other.take n = bytes.take n → decode α other = .ok value) ∧
      (∀ m < n, ∃ error, decode α (bytes.take m) = .error error ∧
        (CodecError.serialization error).message
          = "serialization error: Hit the end of buffer, expected more data") ∧
      (encode value).length ≤ n ∧ decode α (encode value) = .ok value := by
  have := hstored.locallyRead
  have := hstored.shortest
  cases hdecode : decode α bytes with
  | error cause => exact .inl ⟨cause, rfl⟩
  | ok value =>
    obtain ⟨front, rest, rfl, htakes⟩ := exists_takes_of_decode hdecode
    refine .inr ⟨value, front.length, rfl, by simp, ?_, ?_, encode_of_takes htakes⟩
    · intro other hsame
      rw [List.take_left] at hsame
      have hother := List.take_append_drop front.length other
      rw [hsame] at hother
      exact hother ▸ decode_of_takes htakes (other.drop front.length)
    · intro m hm
      rw [List.take_append_of_le_length (Nat.le_of_lt hm)]
      exact ⟨.endOfInput, decode_take_of_takes htakes hm, rfl⟩

/-- A state whose number of entries is padded, whose paths come in no order, one of them twice with two
texts, and that has bytes behind it. It is written in eight bytes. -/
theorem a_state_in_disorder_is_put_in_order :
    ∃ value n, decode FileState [131, 0, 1, 98, 1, 122, 1, 97, 1, 120, 1, 98, 0, 7, 7] = .ok value ∧
      n ≤ 15 ∧ value = .ofList [("a", "x"), ("b", "")] ∧ (encode value).length ≤ n ∧
      encode value = [2, 1, 97, 1, 120, 1, 98, 0] ∧
      decode FileState [2, 1, 97, 1, 120, 1, 98, 0] = .ok value := by
  have hread : decode FileState [131, 0, 1, 98, 1, 122, 1, 97, 1, 120, 1, 98, 0, 7, 7]
      = .ok (.ofList [("a", "x"), ("b", "")]) := by decide +kernel
  have hform : encode (FileState.ofList [("a", "x"), ("b", "")]) = [2, 1, 97, 1, 120, 1, 98, 0] := by
    decide +kernel
  rcases any_bytes_are_read_from_their_front_and_written_no_longer .state
    [131, 0, 1, 98, 1, 122, 1, 97, 1, 120, 1, 98, 0, 7, 7] with ⟨cause, hrefused⟩ |
    ⟨value, n, hvalue, hn, -, -, hle, hback⟩
  · rw [hread] at hrefused
    cases hrefused
  · rw [hread] at hvalue
    obtain rfl := Except.ok.inj hvalue
    rw [hform] at hback
    exact ⟨_, n, hread, hn, rfl, hle, hform, hback⟩

end Wire

end LessonHistory

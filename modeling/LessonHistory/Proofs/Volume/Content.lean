-- What writing does to the content of a file. All of the data is put there, or as much of it as a
-- size limit lets through; and what was put behind the end can be cut off again.
import LessonHistory.Volume.Content

namespace LessonHistory

namespace Content

theorem overwrite_length (data content : List UInt8) :
    overwrite content.length data content = content ++ data := by
  unfold overwrite resize
  rw [List.take_length, Nat.sub_self, List.replicate_zero, List.append_nil,
    List.drop_of_length_le (by omega), List.append_nil]

theorem write_length_of_ok {limit : Option Nat} {data content written : List UInt8}
    (h : write limit content.length data content = (.ok (), written)) :
    written = content ++ data := by
  unfold write at h
  simp only at h
  obtain ⟨houtcome, hwritten⟩ := Prod.mk.inj h
  have hall : room limit content.length data.length = data.length := by
    by_cases hroom : room limit content.length data.length = data.length
    · exact hroom
    · rw [if_neg hroom] at houtcome
      cases houtcome
  rw [hall] at hwritten
  rw [← hwritten]
  split
  · rename_i hzero
    rw [List.length_eq_zero_iff.1 hzero, List.append_nil]
  · rw [List.take_length, overwrite_length]

theorem write_length_of_le {limit : Option Nat} {data content : List UInt8}
    (h : ∀ most ∈ limit, content.length + data.length ≤ most) :
    write limit content.length data content = (.ok (), content ++ data) := by
  have hroom : room limit content.length data.length = data.length := by
    cases limit with
    | none => rfl
    | some most =>
      have hmost := h most rfl
      unfold room
      simp only
      omega
  have hok : (write limit content.length data content).1 = .ok () := if_pos hroom
  have hpair : write limit content.length data content
      = (.ok (), (write limit content.length data content).2) := Prod.ext hok rfl
  rw [hpair, write_length_of_ok hpair]

theorem write_unlimited (data content : List UInt8) :
    write none content.length data content = (.ok (), content ++ data) :=
  write_length_of_le fun _ hmost => absurd hmost (Option.not_mem_none _)

/-- A write behind the end stops with the byte at which the size limit is. -/
theorem write_length_of_lt {data : List UInt8} {k : Nat} (h : k < data.length)
    (content : List UInt8) :
    write (some (content.length + k)) content.length data content
      = (.error .fileTooLarge, content ++ data.take k) := by
  have hroom : room (some (content.length + k)) content.length data.length = k := by
    unfold room
    simp only
    omega
  unfold write
  simp only
  rw [hroom, if_neg (by omega)]
  split
  · rename_i hzero
    rw [hzero, List.take_zero, List.append_nil]
  · rw [overwrite_length]

theorem write_nil_cases (limit : Option Nat) (data : List UInt8) :
    write limit 0 data [] = (.ok (), data) ∨
      ∃ k < data.length, write limit 0 data [] = (.error .fileTooLarge, data.take k) := by
  cases limit with
  | none => exact .inl (write_unlimited data [])
  | some most =>
    by_cases hmost : data.length ≤ most
    · have hall : ∀ limit ∈ some most, ([] : List UInt8).length + data.length ≤ limit := by
        rintro _ ⟨⟩
        simpa using hmost
      exact .inl (write_length_of_le hall)
    · have hlt := Nat.lt_of_not_le hmost
      refine .inr ⟨most, hlt, ?_⟩
      simpa using write_length_of_lt hlt []

/-- Bytes behind a content can always be cut off again. -/
theorem setLength_append (limit : Option Nat) (content rest : List UInt8) :
    setLength limit content.length (content ++ rest) = .ok content := by
  have hcut : resize content.length (content ++ rest) = content := by
    unfold resize
    simp
  unfold setLength
  cases limit with
  | none => exact congrArg Except.ok hcut
  | some most =>
    have hlonger : ¬ (content ++ rest).length < content.length := by
      rw [List.length_append]
      omega
    simp only [hlonger, false_and, if_false]
    rw [hcut]

/-- A write behind a content can be cut off again, however much of it was written. -/
theorem setLength_write (limit : Option Nat) (data content : List UInt8) :
    setLength limit content.length (write limit content.length data content).2 = .ok content := by
  obtain ⟨part, hpart⟩ : ∃ part, (write limit content.length data content).2 = content ++ part := by
    unfold write
    simp only
    split
    · exact ⟨[], (List.append_nil content).symm⟩
    · exact ⟨_, overwrite_length _ content⟩
  rw [hpart]
  exact setLength_append limit content part

end Content

end LessonHistory

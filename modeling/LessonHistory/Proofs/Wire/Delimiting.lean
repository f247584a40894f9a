-- Every form says where it ends. What stands behind it is not looked at, and of a part of it, cut
-- off anywhere, nothing is read but that the bytes end too early. So no form is the start of
-- another one, and different values have different forms.
import LessonHistory.Proofs.Wire.Local
import LessonHistory.Wire.Frame

namespace LessonHistory

namespace Wire

/-- Values whose forms are needed to their end to be read. -/
class Delimited (α : Type) [Wire α] : Prop extends Readable α where
  needs_encode : ∀ value : α, (encode value).length < 18446744073709551616 →
    Reader.Needs (read (α := α)) (encode value)

variable {α : Type} [Wire α]

/-- The front part that a value is taken from is its form, when nothing stands behind it. -/
instance [Readable α] [LocallyRead α] : Delimited α where
  needs_encode value h := by
    obtain ⟨front, hfront, htakes⟩ := LocallyRead.local_read _ _ _ (Readable.readsBack value h [])
    rw [List.append_nil, List.append_nil] at hfront
    rw [hfront]
    exact htakes.needs

/-! ## Decoding -/

theorem decode_encode [Readable α] (value : α) (h : (encode value).length < 18446744073709551616) :
    decode α (encode value) = .ok value := by
  have hread := decode_encode_append value [] h
  rwa [List.append_nil] at hread

theorem decode_take_encode [Delimited α] {value : α} (h : (encode value).length < 18446744073709551616)
    {n : Nat} (hn : n < (encode value).length) :
    decode α ((encode value).take n) = .error .endOfInput := by
  unfold decode
  rw [Delimited.needs_encode value h n hn]
  rfl

/-- Two values of which only one can be long have different forms, for the other is read. -/
theorem encode_inj [Readable α] {value other : α}
    (h : (encode value).length < 18446744073709551616) (hsame : encode other = encode value) :
    other = value := by
  have hother := decode_encode other (hsame ▸ h)
  rw [hsame, decode_encode value h] at hother
  exact (Except.ok.inj hother).symm

/-- The types whose values are encoded by themselves. -/
inductive Stored : (α : Type) → [Wire α] → Prop where
  | record : Stored Record
  | change : Stored Change
  | changes : Stored (List Change)
  | state : Stored FileState

theorem Stored.delimited (h : Stored α) : Delimited α := by
  cases h with
  | record => infer_instance
  | change => infer_instance
  | changes => infer_instance
  | state => infer_instance

/-- A value is had back from its form whatever stands behind it, and from no part of its form. The
sizes inside a form have 64 bits, so the form must be shorter than that. -/
theorem a_form_is_needed_to_its_end_and_no_further (hstored : Stored α) (value : α)
    (h : (encode value).length < 18446744073709551616) :
    (∀ rest, decode α (encode value ++ rest) = .ok value) ∧
    (∀ n < (encode value).length, ∃ error, decode α ((encode value).take n) = .error error ∧
      (CodecError.serialization error).message
        = "serialization error: Hit the end of buffer, expected more data") ∧
    ∀ other : α, encode other = encode value → other = value := by
  have := hstored.delimited
  refine ⟨?_, ?_, ?_⟩
  · intro rest
    exact decode_encode_append value rest h
  · intro n hn
    exact ⟨.endOfInput, decode_take_encode h hn, rfl⟩
  · intro other hsame
    exact encode_inj h hsame

/-- A state of two files, with bytes behind it that would be the start of a third one, and cut off
in the middle of the text of the first. -/
theorem a_state_is_read_before_other_bytes_and_not_from_its_start :
    decode FileState ([2, 1, 97, 2, 195, 169, 1, 98, 0] ++ [1, 99])
        = .ok (.ofList [("a", "é"), ("b", "")]) ∧
      ∃ error, decode FileState [2, 1, 97, 2, 195] = .error error ∧
        (CodecError.serialization error).message
          = "serialization error: Hit the end of buffer, expected more data" := by
  have hform : encode (FileState.ofList [("a", "é"), ("b", "")]) = [2, 1, 97, 2, 195, 169, 1, 98, 0] := by
    decide +kernel
  obtain ⟨hread, hcut, -⟩ := a_form_is_needed_to_its_end_and_no_further .state
    (.ofList [("a", "é"), ("b", "")]) (by rw [hform]; decide)
  rw [hform] at hread hcut
  exact ⟨hread [1, 99], hcut 5 (by decide)⟩

end Wire

end LessonHistory

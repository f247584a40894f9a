-- Frames one after the other. Reading a frame, going on behind it and reading again gives the values
-- back in their order. Where the bytes were cut off, the whole frames before the cut are read all the
-- same, and what is left of the one in which the cut is says only that it is too short.
import LessonHistory.Proofs.Store.Frames
import LessonHistory.Proofs.Wire.Delimiting

namespace LessonHistory

namespace Frame

variable {α : Type} [Wire α]

/-! ## One frame -/

/-- The frame of a value, when its length fits into four bytes. -/
def bytesOf (value : α) : List UInt8 :=
  Word.bytes (Wire.encode value).length ++ Wire.encode value

theorem length_bytesOf (value : α) : (bytesOf value).length = 4 + (Wire.encode value).length :=
  List.length_append

theorem bytesOf_ne_nil (value : α) : bytesOf value ≠ [] := List.cons_ne_nil _ _

theorem encode_eq_ok {value : α} (h : (Wire.encode value).length < 4294967296) :
    encode value = .ok (bytesOf value) := by
  have hwrap : wrap (Wire.encode value) = .ok (bytesOf value) := if_pos h
  unfold encode
  rw [hwrap]
  rfl

theorem decode_of_unwrap {bytes payload : List UInt8} (h : unwrap bytes = .ok payload) :
    decode α bytes = match Wire.decode α payload with
      | .error cause => .error (.serialization cause)
      | .ok value => .ok (value, 4 + payload.length) := by
  unfold decode
  rw [h]
  show (do
    let value ← (Wire.decode α payload).mapError CodecError.serialization
    pure (value, 4 + payload.length)) = _
  cases Wire.decode α payload with
  | error cause => rfl
  | ok value => rfl

theorem decode_bytesOf_append [Wire.Readable α] {value : α}
    (h : (Wire.encode value).length < 4294967296) (rest : List UInt8) :
    decode α (bytesOf value ++ rest) = .ok (value, (bytesOf value).length) := by
  have hunwrap : unwrap (bytesOf value ++ rest) = .ok (Wire.encode value) := by
    unfold unwrap bytesOf
    rw [List.append_assoc, Word.take?_bytes_append h]
    simp
  rw [decode_of_unwrap hunwrap, Wire.decode_encode value (by omega), length_bytesOf]

/-- What the first bytes of a frame lack. -/
def shortage (frame front : List UInt8) : FrameError :=
  if front.length < 4 then .lengthMissing front.length
  else .cutShort (frame.length - 4) (front.length - 4)

/-- Of the first bytes of a frame the value is not even looked at. -/
theorem decode_take_bytesOf {value : α} (h : (Wire.encode value).length < 4294967296) {n : Nat}
    (hn : n < (bytesOf value).length) :
    decode α ((bytesOf value).take n)
      = .error (.invalidFrame (shortage (bytesOf value) ((bytesOf value).take n))) := by
  have hunwrap : unwrap ((bytesOf value).take n)
      = .error (shortage (bytesOf value) ((bytesOf value).take n)) := by
    have hlength : ((bytesOf value).take n).length = n := List.length_take_of_le (Nat.le_of_lt hn)
    unfold unwrap shortage
    rw [length_bytesOf] at hn
    rw [hlength, length_bytesOf, Nat.add_sub_cancel_left]
    by_cases hfour : n < 4
    · rw [Word.take?_eq_none (hlength.symm ▸ hfour), if_pos hfour]
    · obtain ⟨m, rfl⟩ := Nat.exists_eq_add_of_le (Nat.le_of_not_lt hfour)
      have htake := Word.take?_take (Word.take?_bytes_append h (Wire.encode value)) m
      replace htake : Word.take? ((bytesOf value).take (4 + m)) = _ := htake
      have hshort : ((Wire.encode value).take m).length = m := List.length_take_of_le (by omega)
      rw [htake, if_neg hfour]
      simp only [hshort, Nat.add_sub_cancel_left]
      rw [if_neg (by omega)]
  unfold decode
  rw [hunwrap]
  rfl

theorem length_of_decode {bytes : List UInt8} {value : α} {length : Nat}
    (h : decode α bytes = .ok (value, length)) : 4 ≤ length := by
  cases hpayload : unwrap bytes with
  | error error =>
    unfold decode at h
    rw [hpayload] at h
    cases h
  | ok payload =>
    rw [decode_of_unwrap hpayload] at h
    split at h
    · cases h
    · cases h
      exact Nat.le_add_right 4 _

/-! ## Frames in a row -/

/-- The values of the frames that the bytes begin with, each with the length of its frame. Reading
goes on behind each frame, until no bytes are left or until there is an error, which is given too. -/
def decodeAll (α : Type) [Wire α] (bytes : List UInt8) : List (α × Nat) × Option CodecError :=
  if bytes = [] then ([], none)
  else
    match _ : decode α bytes with
    | .error error => ([], some error)
    | .ok (value, length) =>
      let behind := decodeAll α (bytes.drop length)
      ((value, length) :: behind.1, behind.2)
termination_by bytes.length
decreasing_by
  have hlength := length_of_decode ‹decode α bytes = _›
  have hpos := List.length_pos_iff.2 ‹¬bytes = []›
  rw [List.length_drop]
  omega

theorem decodeAll_nil : decodeAll α [] = ([], none) := by
  unfold decodeAll
  rfl

theorem decodeAll_of_error {bytes : List UInt8} {error : CodecError} (hne : bytes ≠ [])
    (h : decode α bytes = .error error) : decodeAll α bytes = ([], some error) := by
  unfold decodeAll
  rw [if_neg hne]
  split
  · rename_i found hfound
    rw [h] at hfound
    cases hfound
    rfl
  · rename_i hfound
    rw [h] at hfound
    cases hfound

theorem decodeAll_bytesOf_append [Wire.Readable α] {value : α}
    (h : (Wire.encode value).length < 4294967296) (rest : List UInt8) :
    decodeAll α (bytesOf value ++ rest)
      = ((value, (bytesOf value).length) :: (decodeAll α rest).1, (decodeAll α rest).2) := by
  have hne : bytesOf value ++ rest ≠ [] := by simp [bytesOf_ne_nil]
  have hread := decode_bytesOf_append h rest
  rw [decodeAll, if_neg hne]
  split
  · rename_i error herror
    rw [hread] at herror
    cases herror
  · rename_i found length hfound
    rw [hread] at hfound
    cases hfound
    rw [List.drop_left]

/-- The values with the lengths of their frames. -/
def sized (values : List α) : List (α × Nat) := values.map fun value => (value, (bytesOf value).length)

theorem mapM_encode {values : List α} (h : ∀ value ∈ values, (Wire.encode value).length < 4294967296) :
    values.mapM encode = .ok (values.map bytesOf) := by
  induction values with
  | nil => rfl
  | cons value values ih =>
    obtain ⟨hvalue, hvalues⟩ := List.forall_mem_cons.1 h
    rw [List.mapM_cons, encode_eq_ok hvalue, ih hvalues]
    rfl

/-- A cut leaves a number of whole frames, and of the next frame nothing or a part. -/
theorem exists_cut [Wire.Readable α] {values : List α}
    (h : ∀ value ∈ values, (Wire.encode value).length < 4294967296) {part : List UInt8}
    (hpart : part <+: (values.map bytesOf).flatten) :
    ∃ count rest, count ≤ values.length ∧
      part = ((values.map bytesOf).take count).flatten ++ rest ∧
      (rest = [] ∧ decodeAll α part = ((sized values).take count, none) ∨
        ∃ frame, (values.map bytesOf)[count]? = some frame ∧ rest <+: frame ∧ rest ≠ [] ∧
          rest ≠ frame ∧ decodeAll α part
            = ((sized values).take count, some (.invalidFrame (shortage frame rest)))) := by
  induction values generalizing part with
  | nil =>
    obtain rfl := List.prefix_nil.1 hpart
    exact ⟨0, [], Nat.le_refl 0, rfl, .inl ⟨rfl, decodeAll_nil⟩⟩
  | cons value values ih =>
    obtain ⟨hvalue, hvalues⟩ := List.forall_mem_cons.1 h
    rw [List.map_cons, List.flatten_cons] at hpart
    by_cases hwhole : (bytesOf value).length ≤ part.length
    · -- The first frame is whole, and the cut is behind it.
      obtain ⟨behind, rfl⟩ := List.prefix_of_prefix_length_le (List.prefix_append _ _) hpart hwhole
      obtain ⟨count, rest, hcount, hbehind, hread⟩ :=
        ih hvalues ((List.prefix_append_right_inj _).1 hpart)
      refine ⟨count + 1, rest, Nat.succ_le_succ hcount, ?_, ?_⟩
      · rw [List.map_cons, List.take_succ_cons, List.flatten_cons, List.append_assoc, ← hbehind]
      · rw [decodeAll_bytesOf_append hvalue]
        rcases hread with ⟨hrest, hread⟩ | ⟨frame, hframe, hcut, hsome, hless, hread⟩
        · refine .inl ⟨hrest, ?_⟩
          rw [hread]
          rfl
        · refine .inr ⟨frame, hframe, hcut, hsome, hless, ?_⟩
          rw [hread]
          rfl
    · -- The cut is in the first frame, or in front of it.
      have hlt := Nat.lt_of_not_le hwhole
      have hcut := List.prefix_of_prefix_length_le hpart (List.prefix_append _ _) (Nat.le_of_lt hlt)
      refine ⟨0, part, Nat.zero_le _, rfl, ?_⟩
      by_cases hnil : part = []
      · exact .inl ⟨hnil, hnil ▸ decodeAll_nil⟩
      · refine .inr ⟨bytesOf value, rfl, hcut, hnil, ?_, ?_⟩
        · rintro rfl
          exact Nat.lt_irrefl _ hlt
        · have hread := decode_take_bytesOf hvalue hlt
          rw [← List.prefix_iff_eq_take.1 hcut] at hread
          exact decodeAll_of_error hnil hread

/-- Frames one after the other that are cut off anywhere. The values of the frames before the cut are
read in their order, each with the length of its frame. Then no bytes are left, or those at the
beginning of the next frame, of which it is said only what they lack. -/
theorem a_stream_is_read_up_to_the_frame_that_is_cut (hstored : Wire.Stored α) {values : List α}
    (h : ∀ value ∈ values, (Wire.encode value).length < 4294967296) :
    ∃ frames, values.mapM encode = .ok frames ∧ ∀ part, part <+: frames.flatten →
      ∃ count rest, count ≤ values.length ∧ part = (frames.take count).flatten ++ rest ∧
        (rest = [] ∧
            decodeAll α part = ((values.zip (frames.map List.length)).take count, none) ∨
          ∃ frame, frames[count]? = some frame ∧ rest <+: frame ∧ rest ≠ [] ∧ rest ≠ frame ∧
            decodeAll α part = ((values.zip (frames.map List.length)).take count,
              some (.invalidFrame (shortage frame rest)))) := by
  have := hstored.delimited
  have hsized : values.zip ((values.map bytesOf).map List.length) = sized values := by
    rw [List.map_map]
    exact List.map_prod_left_eq_zip.symm
  refine ⟨values.map bytesOf, mapM_encode h, fun part hpart => ?_⟩
  rw [hsized]
  exact exists_cut h hpart

/-- Two records in frames of five and six bytes, of which the last byte is missing. -/
theorem a_record_is_read_before_a_frame_that_is_cut :
    [(⟨7, by decide⟩ : Record), ⟨300, by decide⟩].mapM encode
        = .ok [[1, 0, 0, 0, 7], [2, 0, 0, 0, 172, 2]] ∧
      decodeAll Record [1, 0, 0, 0, 7, 2, 0, 0, 0, 172]
        = ([(⟨7, by decide⟩, 5)], some (.invalidFrame (.cutShort 2 1))) := by
  have hframes : [(⟨7, by decide⟩ : Record), ⟨300, by decide⟩].mapM encode
      = .ok [[1, 0, 0, 0, 7], [2, 0, 0, 0, 172, 2]] := rfl
  have hfits : ∀ value ∈ [(⟨7, by decide⟩ : Record), ⟨300, by decide⟩],
      (Wire.encode value).length < 4294967296 := by decide +kernel
  refine ⟨hframes, ?_⟩
  obtain ⟨frames, hok, hcut⟩ := a_stream_is_read_up_to_the_frame_that_is_cut .record hfits
  rw [hframes] at hok
  obtain rfl := Except.ok.inj hok
  obtain ⟨count, rest, hcount, hpart, hread⟩ :=
    hcut [1, 0, 0, 0, 7, 2, 0, 0, 0, 172] (by decide)
  -- The bytes end in the second frame, so one frame is whole.
  match count, hcount with
  | 0, _ =>
    obtain rfl : _ = rest := hpart
    rcases hread with ⟨hnil, -⟩ | ⟨frame, hframe, hfront, -⟩
    · cases hnil
    · cases hframe
      exact absurd hfront.length_le (by decide)
  | 1, _ =>
    replace hpart : [1, 0, 0, 0, 7] ++ [2, 0, 0, 0, 172] = [1, 0, 0, 0, 7] ++ rest := hpart
    obtain rfl := List.append_cancel_left hpart
    rcases hread with ⟨hnil, -⟩ | ⟨frame, hframe, -, -, -, hread⟩
    · cases hnil
    · cases hframe
      exact hread
  | 2, _ =>
    have hlength := congrArg List.length hpart
    simp at hlength

end Frame

end LessonHistory

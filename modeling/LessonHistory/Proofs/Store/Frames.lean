-- The frames of a log, as they are written and as they are found again. A whole frame is
-- recognised whatever stands behind it, the front part of a frame is always taken for a torn
-- one, and scanning goes on behind bytes that it has used up as if they were never there.
import LessonHistory.Proofs.Wire.RoundTrip
import LessonHistory.Store.Journal

namespace LessonHistory

/-! ## Words -/

namespace Word

@[simp] theorem length_bytes (n : Nat) : (bytes n).length = 4 := rfl

theorem take?_bytes_append {n : Nat} (h : n < 4294967296) (rest : List UInt8) :
    take? (bytes n ++ rest) = some (n, rest) := by
  simp only [bytes, List.cons_append, List.nil_append, take?, UInt8.toNat_ofNat']
  have hn : n % 256 + 256 * (n / 256 % 256) + 65536 * (n / 65536 % 256)
      + 16777216 * (n / 16777216 % 256) = n := by omega
  rw [hn]

theorem take?_eq_none {bytes : List UInt8} (h : bytes.length < 4) : take? bytes = none := by
  unfold take?
  split
  · simp only [List.length_cons] at h
    omega
  · rfl

theorem exists_take? {bytes : List UInt8} (h : 4 ≤ bytes.length) :
    ∃ n, take? bytes = some (n, bytes.drop 4) := by
  match bytes, h with
  | a :: b :: c :: d :: rest, _ => exact ⟨_, rfl⟩

theorem take?_append {bytes rest : List UInt8} {n : Nat} (h : take? bytes = some (n, rest))
    (more : List UInt8) : take? (bytes ++ more) = some (n, rest ++ more) := by
  unfold take? at h
  split at h
  · cases h
    rfl
  · cases h

theorem take?_take {bytes rest : List UInt8} {n : Nat} (h : take? bytes = some (n, rest))
    (m : Nat) : take? (bytes.take (4 + m)) = some (n, rest.take m) := by
  unfold take? at h
  split at h
  · cases h
    rw [Nat.add_comm]
    rfl
  · cases h

theorem drop_four_of_take? {bytes rest : List UInt8} {n : Nat} (h : take? bytes = some (n, rest)) :
    bytes.drop 4 = rest := by
  unfold take? at h
  split at h
  · cases h
    rfl
  · cases h

theorem ofNat_eq_of_mod {n : Nat} {byte : UInt8} (h : n % 256 = byte.toNat) :
    UInt8.ofNat n = byte := by
  apply UInt8.toNat_inj.1
  rw [UInt8.toNat_ofNat', ← h]

theorem eq_bytes_append_of_take? {found rest : List UInt8} {n : Nat}
    (h : take? found = some (n, rest)) : n < 4294967296 ∧ found = bytes n ++ rest := by
  unfold take? at h
  split at h
  · rename_i a b c d rest
    cases h
    have ha := a.toNat_lt
    have hb := b.toNat_lt
    have hc := c.toNat_lt
    have hd := d.toNat_lt
    let n := a.toNat + 256 * b.toNat + 65536 * c.toNat + 16777216 * d.toNat
    have h0 : UInt8.ofNat n = a := ofNat_eq_of_mod (by omega)
    have h1 : UInt8.ofNat (n / 256) = b := ofNat_eq_of_mod (by omega)
    have h2 : UInt8.ofNat (n / 65536) = c := ofNat_eq_of_mod (by omega)
    have h3 : UInt8.ofNat (n / 16777216) = d := ofNat_eq_of_mod (by omega)
    refine ⟨by omega, ?_⟩
    unfold bytes
    rw [h0, h1, h2, h3]
    rfl
  · cases h

end Word

namespace Journal

theorem toNat_crc32_lt (bytes : List UInt8) : (Checksum.crc32 bytes).toNat < 4294967296 :=
  (Checksum.crc32 bytes).toNat_lt

@[simp] theorem length_sumBytes (bytes : List UInt8) : (sumBytes bytes).length = 4 := rfl

/-! ## The frame of an entry -/

/-- Whether an entry has a frame: its length must fit into four bytes. -/
def Fits (entry : Entry) : Prop := (Wire.encode entry).length < 4294967296

instance (entry : Entry) : Decidable (Fits entry) := inferInstanceAs (Decidable (_ < _))

/-- The bytes of the frame of an entry. -/
def frameBytes (entry : Entry) : List UInt8 :=
  let payload := Wire.encode entry
  sumBytes (Word.bytes payload.length) ++ Word.bytes payload.length ++ payload ++ sumBytes payload

theorem frame_eq_ok {entry : Entry} (h : Fits entry) : frame entry = .ok (frameBytes entry) := by
  have hwrap : Frame.wrap (Wire.encode entry)
      = .ok (Word.bytes (Wire.encode entry).length ++ Wire.encode entry) := if_pos h
  unfold frame frameBytes
  simp only [hwrap, List.append_assoc]
  rfl

theorem fits_of_frame_eq_ok {entry : Entry} {bytes : List UInt8} (h : frame entry = .ok bytes) :
    Fits entry := by
  by_cases hfits : (Wire.encode entry).length < 4294967296
  · exact hfits
  · have hwrap : Frame.wrap (Wire.encode entry) = .error (.tooLarge (Wire.encode entry).length) :=
      if_neg hfits
    unfold frame at h
    simp only [hwrap] at h
    cases h

theorem length_frameBytes (entry : Entry) :
    (frameBytes entry).length = frameLength (Wire.encode entry).length := by
  simp only [frameBytes, List.length_append, length_sumBytes, Word.length_bytes, frameLength]
  omega

/-! ## The front of the bytes -/

/-- What a whole frame at the front consists of: two checksums that are right, and a payload
that is an entry. -/
def Whole (bytes : List UInt8) (entry : Entry) (length : Nat) : Prop :=
  ∃ framed rest tail,
    Word.take? bytes = some ((Checksum.crc32 (framed.take 4)).toNat, framed) ∧
    Word.take? framed = some (length, rest) ∧
    Word.take? (rest.drop length) = some ((Checksum.crc32 (rest.take length)).toNat, tail) ∧
    Wire.decode Entry (rest.take length) = .ok entry

theorem whole_of_front {bytes : List UInt8} {entry : Entry} {length : Nat}
    (h : front bytes = .complete entry length) : Whole bytes entry length := by
  unfold front at h
  split at h
  · cases h
  rename_i lengthSum framed hframed
  split at h
  · cases h
  rename_i length' rest hrest
  split at h
  · cases h
  rename_i hlength
  split at h
  · cases h
  rename_i payloadSum tail htail
  split at h
  · cases h
  rename_i hpayload
  split at h
  · cases h
  rename_i entry' hentry
  cases h
  rw [Decidable.not_not] at hlength hpayload
  exact ⟨framed, rest, tail, hlength ▸ hframed, hrest, hpayload ▸ htail, hentry⟩

theorem front_of_whole {bytes : List UInt8} {entry : Entry} {length : Nat}
    (h : Whole bytes entry length) : front bytes = .complete entry length := by
  obtain ⟨framed, rest, tail, hframed, hrest, htail, hentry⟩ := h
  unfold front
  simp only [hframed, hrest, htail, hentry, ne_eq, not_true_eq_false, if_false]

theorem Whole.append {bytes : List UInt8} {entry : Entry} {length : Nat}
    (h : Whole bytes entry length) (more : List UInt8) : Whole (bytes ++ more) entry length := by
  obtain ⟨framed, rest, tail, hframed, hrest, htail, hentry⟩ := h
  have hlenFramed := length_of_take? hrest
  have hlenTail := length_of_take? htail
  rw [List.length_drop] at hlenTail
  refine ⟨framed ++ more, rest ++ more, tail ++ more, ?_, Word.take?_append hrest more, ?_, ?_⟩
  · rw [List.take_append_of_le_length (by omega)]
    exact Word.take?_append hframed more
  · rw [List.take_append_of_le_length (by omega), List.drop_append_of_le_length (by omega)]
    exact Word.take?_append htail more
  · rw [List.take_append_of_le_length (by omega)]
    exact hentry

theorem Whole.take {bytes : List UInt8} {entry : Entry} {length : Nat}
    (h : Whole bytes entry length) : Whole (bytes.take (frameLength length)) entry length := by
  obtain ⟨framed, rest, tail, hframed, hrest, htail, hentry⟩ := h
  have hlength : frameLength length = 4 + (4 + (length + 4)) := by unfold frameLength; omega
  have hpayload : (rest.take (length + 4)).take length = rest.take length := by
    rw [List.take_take, Nat.min_eq_left (by omega)]
  refine ⟨framed.take (4 + (length + 4)), rest.take (length + 4), tail.take 0, ?_,
    Word.take?_take hrest _, ?_, ?_⟩
  · rw [List.take_take, Nat.min_eq_left (by omega), hlength]
    exact Word.take?_take hframed _
  · rw [hpayload, List.drop_take, Nat.add_sub_cancel_left]
    exact Word.take?_take htail 0
  · rw [hpayload]
    exact hentry

/-- A frame around any bytes that an entry can be read from is whole. -/
theorem whole_of_decode {payload : List UInt8} {entry : Entry} (hlength : payload.length < 4294967296)
    (hentry : Wire.decode Entry payload = .ok entry) :
    Whole (sumBytes (Word.bytes payload.length) ++ (Word.bytes payload.length
      ++ (payload ++ sumBytes payload))) entry payload.length := by
  refine ⟨Word.bytes payload.length ++ (payload ++ sumBytes payload),
    payload ++ sumBytes payload, [], ?_, ?_, ?_, ?_⟩
  · exact Word.take?_bytes_append (toNat_crc32_lt _) _
  · exact Word.take?_bytes_append hlength _
  · rw [List.drop_left, List.take_left]
    exact Word.take?_bytes_append (toNat_crc32_lt _) []
  · rw [List.take_left, hentry]

theorem whole_frameBytes {entry : Entry} (h : Fits entry) :
    Whole (frameBytes entry) entry (Wire.encode entry).length := by
  have hdecode : Wire.decode Entry (Wire.encode entry) = .ok entry := by
    have := Wire.decode_encode_append entry [] (by unfold Fits at h; omega)
    rwa [List.append_nil] at this
  unfold frameBytes
  rw [List.append_assoc, List.append_assoc]
  exact whole_of_decode h hdecode

theorem take_four_add_append {head : List UInt8} (h : head.length = 4) (rest : List UInt8)
    (n : Nat) : (head ++ rest).take (4 + n) = head ++ rest.take n := by
  rw [← h, List.take_length_add_append]

@[simp] theorem front_nil : front [] = .torn := rfl

theorem front_of_lt_eight {bytes : List UInt8} (h : bytes.length < 8) : front bytes = .torn := by
  unfold front
  split
  · rfl
  · rename_i framed hframed
    have hlength := length_of_take? hframed
    rw [Word.take?_eq_none (by omega)]

/-- The front part of a frame is taken for a torn one: its length is right as far as it is
there, and the end that the length announces is not there. -/
theorem front_take_frameBytes {entry : Entry} (h : Fits entry) {n : Nat}
    (hn : n < (frameBytes entry).length) : front ((frameBytes entry).take n) = .torn := by
  rw [length_frameBytes] at hn
  unfold frameLength at hn
  by_cases hhead : n < 8
  · -- Not all of the eight bytes before the payload are there.
    exact front_of_lt_eight (by rw [List.length_take]; omega)
  · -- They are there and right, so the length can be relied on.
    obtain ⟨m, rfl⟩ : ∃ m, n = 4 + (4 + m) := ⟨n - 8, by omega⟩
    have htake : (frameBytes entry).take (4 + (4 + m))
        = sumBytes (Word.bytes (Wire.encode entry).length)
          ++ (Word.bytes (Wire.encode entry).length
            ++ (Wire.encode entry ++ sumBytes (Wire.encode entry)).take m) := by
      simp only [frameBytes, List.append_assoc]
      rw [take_four_add_append (length_sumBytes _), take_four_add_append (Word.length_bytes _)]
    have hlength := Word.take?_bytes_append h
      ((Wire.encode entry ++ sumBytes (Wire.encode entry)).take m)
    have hsum := Word.take?_bytes_append
      (toNat_crc32_lt (Word.bytes (Wire.encode entry).length))
      (Word.bytes (Wire.encode entry).length
        ++ (Wire.encode entry ++ sumBytes (Wire.encode entry)).take m)
    rw [htake]
    unfold front
    simp only [sumBytes] at hsum hlength ⊢
    rw [hsum]
    simp only [hlength]
    have hfour : ∀ rest, (Word.bytes (Wire.encode entry).length ++ rest).take 4
        = Word.bytes (Wire.encode entry).length :=
      fun rest => List.take_left' (Word.length_bytes _)
    rw [hfour, if_neg (by simp), Word.take?_eq_none]
    rw [List.length_drop, List.length_take]
    omega

end Journal

end LessonHistory

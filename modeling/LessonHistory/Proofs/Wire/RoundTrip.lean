-- What was written is what is read: every value comes back from its binary form, whatever
-- bytes stand behind it. The sizes inside a form have 64 bits, so the laws hold for forms that
-- are shorter than that.
import LessonHistory.Wire.Format

namespace LessonHistory

namespace Reader

/-! ## Readers one after the other -/

theorem run_bind_ok {α β : Type} {first : Reader α} {next : α → Reader β} {input rest : List UInt8}
    {value : α} (h : first.run input = .ok (value, rest)) :
    (first >>= next).run input = (next value).run rest := by
  rw [StateT.run_bind, h]
  rfl

theorem run_byte_cons (b : UInt8) (rest : List UInt8) : byte.run (b :: rest) = .ok (b, rest) := rfl

theorem run_bytes_append (front rest : List UInt8) :
    (bytes front.length).run (front ++ rest) = .ok (front, rest) := by
  simp [bytes, StateT.run]

end Reader

namespace Varint

/-! ## Integers -/

theorem digits_ne_nil (count n : Nat) : digits (count + 1) n ≠ [] := by
  unfold digits
  split <;> simp

theorem toNat_ofNat_of_lt {n : Nat} (h : n < 256) : (UInt8.ofNat n).toNat = n := by
  rw [UInt8.toNat_ofNat']
  omega

/-- How many numbers can be read in one more byte than `more`. -/
def capacity (maxLast : Nat) : Nat → Nat
  | 0 => maxLast + 1
  | more + 1 => 128 * capacity maxLast more

/-- The last permitted byte holds what is left of a number in range, so it is never refused. -/
theorem readDigits_digits {maxLast : Nat} (hlast : maxLast < 128) (rest : List UInt8) (count n : Nat)
    (h : n < capacity maxLast count) :
    (readDigits maxLast (count + 1)).run (digits (count + 1) n ++ rest) = .ok (n, rest) := by
  induction count generalizing n with
  | zero =>
    have hfits : n < maxLast + 1 := h
    have hn : n < 128 := by omega
    unfold digits readDigits
    rw [if_pos hn]
    refine (Reader.run_bind_ok (Reader.run_byte_cons (UInt8.ofNat n) rest)).trans ?_
    rw [toNat_ofNat_of_lt (by omega), if_pos hn, if_neg (by omega)]
    rfl
  | succ count ih =>
    unfold digits readDigits
    by_cases hn : n < 128
    · rw [if_pos hn]
      refine (Reader.run_bind_ok (Reader.run_byte_cons (UInt8.ofNat n) rest)).trans ?_
      rw [toNat_ofNat_of_lt (by omega), if_pos hn, if_neg (by omega)]
      rfl
    · have hdiv : n / 128 < capacity maxLast count := Nat.div_lt_of_lt_mul h
      rw [if_neg hn, List.cons_append]
      refine (Reader.run_bind_ok (Reader.run_byte_cons (UInt8.ofNat (128 + n % 128)) _)).trans ?_
      rw [toNat_ofNat_of_lt (by omega), if_neg (by omega), Reader.run_bind_ok (ih _ hdiv)]
      have hsum : 128 + n % 128 - 128 + 128 * (n / 128) = n := by omega
      rw [hsum]
      rfl

theorem read_encode_bits32 {n : Nat} (h : n < 4294967296) (rest : List UInt8) :
    (read .bits32).run (encode .bits32 n ++ rest) = .ok (n, rest) :=
  readDigits_digits (by decide) rest 4 n h

theorem read_encode_bits64 {n : Nat} (h : n < 18446744073709551616) (rest : List UInt8) :
    (read .bits64).run (encode .bits64 n ++ rest) = .ok (n, rest) :=
  readDigits_digits (by decide) rest 9 n h

end Varint

namespace Wire

/-! ## Values -/

/-- The value is read back from its form, whatever bytes stand behind it. -/
def ReadsBack {α : Type} [Wire α] (value : α) : Prop :=
  ∀ rest, (read (α := α)).run (encode value ++ rest) = .ok (value, rest)

/-- Values that can be read back: their form is never empty, and is read to its end and no
further. -/
class Readable (α : Type) [Wire α] : Prop where
  encode_ne_nil : ∀ value : α, encode value ≠ []
  readsBack : ∀ value : α, (encode value).length < 18446744073709551616 → ReadsBack value

theorem readsBack_record (record : Record) : ReadsBack record := by
  intro rest
  refine (Reader.run_bind_ok (Varint.read_encode_bits32 record.index_lt rest)).trans ?_
  have h : Record.ofNat? record.index = some record := dif_pos record.index_lt
  rw [h]
  rfl

instance : Readable Record where
  encode_ne_nil record := Varint.digits_ne_nil 4 record.index
  readsBack record _ := readsBack_record record

theorem textOfBytes?_textBytes (text : String) : textOfBytes? (textBytes text) = some text := by
  unfold textOfBytes? textBytes
  rw [Array.toArray_toList]
  exact dif_pos text.isValidUTF8

theorem textBytes_of_textOfBytes? {bytes : List UInt8} {text : String}
    (h : textOfBytes? bytes = some text) : textBytes text = bytes := by
  unfold textOfBytes? String.fromUTF8? at h
  split at h
  · cases h
    rfl
  · cases h

theorem length_encode_text (text : String) : (encode text).length
    = (Varint.encode .bits64 (textBytes text).length).length + (textBytes text).length :=
  List.length_append

theorem readsBack_text {text : String} (h : (textBytes text).length < 18446744073709551616) :
    ReadsBack text := by
  intro rest
  show (read (α := String)).run
    (Varint.encode .bits64 (textBytes text).length ++ textBytes text ++ rest) = _
  rw [List.append_assoc]
  refine (Reader.run_bind_ok (Varint.read_encode_bits64 h _)).trans ?_
  refine (Reader.run_bind_ok (Reader.run_bytes_append _ rest)).trans ?_
  rw [textOfBytes?_textBytes]
  rfl

instance : Readable String where
  encode_ne_nil text h := Varint.digits_ne_nil 9 _ (List.append_eq_nil_iff.1 h).1
  readsBack text h := by
    rw [length_encode_text] at h
    exact readsBack_text (by omega)

variable {α β : Type} [Wire α] [Wire β]

theorem length_encode_pair (first : α) (second : β) :
    (encode (first, second)).length = (encode first).length + (encode second).length :=
  List.length_append

theorem ReadsBack.pair {first : α} {second : β} (hfirst : ReadsBack first)
    (hsecond : ReadsBack second) : ReadsBack (first, second) := by
  intro rest
  show (read (α := α × β)).run (encode first ++ encode second ++ rest) = _
  rw [List.append_assoc]
  refine (Reader.run_bind_ok (hfirst _)).trans ?_
  exact Reader.run_bind_ok (hsecond rest)

instance [Readable α] [Readable β] : Readable (α × β) where
  encode_ne_nil pair h := Readable.encode_ne_nil pair.1 (List.append_eq_nil_iff.1 h).1
  readsBack pair h := by
    obtain ⟨first, second⟩ := pair
    rw [length_encode_pair] at h
    exact (Readable.readsBack first (by omega)).pair (Readable.readsBack second (by omega))

theorem run_many_flatMap_encode {items : List α} (h : ∀ item ∈ items, ReadsBack item)
    (rest : List UInt8) :
    (Reader.many read items.length).run (items.flatMap encode ++ rest) = .ok (items, rest) := by
  induction items with
  | nil => rfl
  | cons item items ih =>
    obtain ⟨hitem, hitems⟩ := List.forall_mem_cons.1 h
    rw [List.flatMap_cons, List.append_assoc]
    refine (Reader.run_bind_ok (hitem _)).trans ?_
    exact Reader.run_bind_ok (ih hitems)

/-- Every item has at least one byte, so a list is no longer than its form. -/
theorem length_le_length_flatMap_encode [Readable α] (items : List α) :
    items.length ≤ (items.flatMap encode).length := by
  induction items with
  | nil => simp
  | cons item items ih =>
    have := List.length_pos_iff.2 (Readable.encode_ne_nil item)
    rw [List.flatMap_cons, List.length_append, List.length_cons]
    omega

theorem length_encode_le_of_mem {items : List α} {item : α} (h : item ∈ items) :
    (encode item).length ≤ (items.flatMap encode).length :=
  (List.sublist_flatten_of_mem (List.mem_map_of_mem h)).length_le

theorem length_encode_list (items : List α) : (encode items).length
    = (Varint.encode .bits64 items.length).length + (items.flatMap encode).length :=
  List.length_append

theorem readsBack_list {items : List α} (hcount : items.length < 18446744073709551616)
    (h : ∀ item ∈ items, ReadsBack item) : ReadsBack items := by
  intro rest
  show (read (α := List α)).run
    (Varint.encode .bits64 items.length ++ items.flatMap encode ++ rest) = _
  rw [List.append_assoc]
  refine (Reader.run_bind_ok (Varint.read_encode_bits64 hcount _)).trans ?_
  exact run_many_flatMap_encode h rest

instance [Readable α] : Readable (List α) where
  encode_ne_nil items h := Varint.digits_ne_nil 9 _ (List.append_eq_nil_iff.1 h).1
  readsBack items h := by
    rw [length_encode_list] at h
    have hitems := length_le_length_flatMap_encode items
    refine readsBack_list (by omega) ?_
    intro item hitem
    have hle := length_encode_le_of_mem hitem
    exact Readable.readsBack item (by omega)

/-- The entries of a state come in their order, and no path comes twice. -/
theorem readsBack_state {state : FileState} (h : ReadsBack state.entries) : ReadsBack state := by
  intro rest
  refine (Reader.run_bind_ok (h rest)).trans ?_
  rw [FileState.ofList_entries]
  rfl

instance : Readable FileState where
  encode_ne_nil state := Readable.encode_ne_nil state.entries
  readsBack state h := readsBack_state (Readable.readsBack state.entries h)

/-! ## Changes -/

theorem variantNumber_lt (change : Change) : variantNumber change < 4294967296 := by
  cases change <;> simp [variantNumber]

theorem run_path_and_text (make : String → String → Change) {path text : String}
    (hpath : ReadsBack path) (htext : ReadsBack text) (rest : List UInt8) :
    (do pure (make (← read) (← read)) : Reader Change).run (encode path ++ (encode text ++ rest))
      = .ok (make path text, rest) := by
  refine (Reader.run_bind_ok (hpath _)).trans ?_
  exact Reader.run_bind_ok (htext rest)

theorem run_path (make : String → Change) {path : String} (hpath : ReadsBack path)
    (rest : List UInt8) :
    (do pure (make (← read)) : Reader Change).run (encode path ++ rest)
      = .ok (make path, rest) :=
  Reader.run_bind_ok (hpath rest)

/-- The form of a change, with what stands behind it: the variant, the path, the text. -/
theorem encode_change_append (change : Change) (rest : List UInt8) :
    encode change ++ rest = Varint.encode .bits32 (variantNumber change)
      ++ (encode change.path ++ ((match change.text? with
        | some text => encode text
        | none => []) ++ rest)) := by
  simp only [← List.append_assoc]
  rfl

theorem length_encode_change (change : Change) :
    (encode change).length = (Varint.encode .bits32 (variantNumber change)).length
      + (encode change.path).length + (match change.text? with
        | some text => encode text
        | none => []).length := by
  rw [← List.length_append, ← List.length_append]
  rfl

theorem readsBack_change {change : Change} (hpath : ReadsBack change.path)
    (htext : ∀ text, change.text? = some text → ReadsBack text) : ReadsBack change := by
  intro rest
  rw [encode_change_append]
  refine (Reader.run_bind_ok (Varint.read_encode_bits32 (variantNumber_lt change) _)).trans ?_
  cases change with
  | addFile path text => exact run_path_and_text .addFile hpath (htext text rfl) rest
  | removeFile path => exact run_path .removeFile hpath rest
  | changeFile path text => exact run_path_and_text .changeFile hpath (htext text rfl) rest
  | addTaskFile path text => exact run_path_and_text .addTaskFile hpath (htext text rfl) rest
  | removeTaskFile path => exact run_path .removeTaskFile hpath rest

instance : Readable Change where
  encode_ne_nil change h := by
    have h' := (List.append_eq_nil_iff.1 (List.append_eq_nil_iff.1 h).1).1
    exact Varint.digits_ne_nil 4 _ h'
  readsBack change h := by
    rw [length_encode_change] at h
    refine readsBack_change (Readable.readsBack change.path (by omega)) ?_
    intro text ht
    simp only [ht] at h
    exact Readable.readsBack text (by omega)

theorem decode_encode_append [Readable α] (value : α) (rest : List UInt8)
    (h : (encode value).length < 18446744073709551616) : decode α (encode value ++ rest) = .ok value := by
  unfold decode
  rw [Readable.readsBack value h rest]
  rfl

end Wire

end LessonHistory

-- No value is read from fewer bytes than its form has, and every value that was read is read back
-- from its form. Integers may be padded, the entries of a state may come in any order and more than
-- once, and bytes may stand behind a value, so a value can be read from more bytes than its form has;
-- what is then written is the shortest form that there is.
import LessonHistory.Proofs.Wire.Local
import Mathlib.Data.List.Induction

namespace LessonHistory

namespace Varint

/-! ## Integers -/

/-- A padded integer has digits that are not written. -/
theorem length_digits_of_run {maxLast count n : Nat} {input rest : List UInt8}
    (h : (readDigits maxLast count).run input = .ok (n, rest)) :
    (digits count n).length + rest.length ≤ input.length := by
  induction count generalizing input n with
  | zero => cases h
  | succ count ih =>
    unfold readDigits at h
    obtain ⟨b, middle, hbyte, hdigits⟩ := Reader.exists_of_run_bind_ok h
    rw [Reader.eq_cons_of_run_byte hbyte, List.length_cons]
    unfold digits
    by_cases hlast : b.toNat < 128
    · rw [if_pos hlast] at hdigits
      split at hdigits
      · cases hdigits
      · obtain ⟨rfl, rfl⟩ := Reader.eq_of_run_pure hdigits
        simp [hlast, Nat.add_comm]
    · rw [if_neg hlast] at hdigits
      obtain ⟨high, behind, hhigh, hvalue⟩ := Reader.exists_of_run_bind_ok hdigits
      obtain ⟨rfl, rfl⟩ := Reader.eq_of_run_pure hvalue
      have hle := ih hhigh
      have hb := b.toNat_lt
      by_cases hn : b.toNat - 128 + 128 * high < 128
      · rw [if_pos hn, List.length_singleton]
        omega
      · have hdiv : (b.toNat - 128 + 128 * high) / 128 = high := by omega
        rw [if_neg hn, List.length_cons, hdiv]
        omega

theorem capacity_pos (maxLast more : Nat) : 0 < capacity maxLast more := by
  induction more with
  | zero => exact Nat.succ_pos maxLast
  | succ more ih => exact Nat.mul_pos (by decide) ih

theorem lt_capacity_of_run {maxLast count n : Nat} {input rest : List UInt8}
    (h : (readDigits maxLast (count + 1)).run input = .ok (n, rest)) : n < capacity maxLast count := by
  induction count generalizing input n with
  | zero =>
    obtain ⟨b, middle, -, hdigits⟩ := Reader.exists_of_run_bind_ok h
    unfold capacity
    split at hdigits
    · split at hdigits
      · cases hdigits
      · obtain ⟨rfl, rfl⟩ := Reader.eq_of_run_pure hdigits
        omega
    · obtain ⟨high, behind, hhigh, -⟩ := Reader.exists_of_run_bind_ok hdigits
      cases hhigh
  | succ count ih =>
    obtain ⟨b, middle, -, hdigits⟩ := Reader.exists_of_run_bind_ok h
    have hb := b.toNat_lt
    unfold capacity
    split at hdigits
    · rw [if_neg (by simp)] at hdigits
      obtain ⟨rfl, rfl⟩ := Reader.eq_of_run_pure hdigits
      have hpos := capacity_pos maxLast count
      omega
    · obtain ⟨high, behind, hhigh, hvalue⟩ := Reader.exists_of_run_bind_ok hdigits
      obtain ⟨rfl, rfl⟩ := Reader.eq_of_run_pure hvalue
      have hlt := ih hhigh
      omega

theorem length_encode_of_run {width : Width} {n : Nat} {input rest : List UInt8}
    (h : (read width).run input = .ok (n, rest)) :
    (encode width n).length + rest.length ≤ input.length := length_digits_of_run h

theorem lt_of_run_bits64 {n : Nat} {input rest : List UInt8}
    (h : (read .bits64).run input = .ok (n, rest)) : n < 18446744073709551616 :=
  lt_capacity_of_run h

theorem length_digits_mono (count : Nat) {n m : Nat} (h : n ≤ m) :
    (digits count n).length ≤ (digits count m).length := by
  induction count generalizing n m with
  | zero => exact Nat.le_refl _
  | succ count ih =>
    unfold digits
    by_cases hm : m < 128
    · rw [if_pos hm, if_pos (Nat.lt_of_le_of_lt h hm)]
      exact Nat.le_refl _
    · rw [if_neg hm, List.length_cons]
      split
      · exact Nat.succ_le_succ (Nat.zero_le _)
      · exact Nat.succ_le_succ (ih (Nat.div_le_div_right h))

end Varint

namespace FileState

/-! ## Entries in any order -/

/-- An entry that is put in its place takes the room of one entry, or of none. -/
theorem length_flatMap_insertEntry_le {β : Type} (form : String × String → List β)
    (path text : String) (entries : List (String × String)) :
    ((insertEntry path text entries).flatMap form).length
      ≤ (entries.flatMap form).length + (form (path, text)).length := by
  induction entries with
  | nil => simp [insertEntry]
  | cons first rest ih =>
    unfold insertEntry
    split
    · simp only [List.flatMap_cons, List.length_append]
      omega
    · split
      · simp only [List.flatMap_cons, List.length_append]
        omega
      · simp only [List.flatMap_cons, List.length_append]
        omega

theorem of_ofList {β : Type} (form : String × String → List β) (entries : List (String × String)) :
    ((ofList entries).entries.flatMap form).length ≤ (entries.flatMap form).length ∧
      ∀ entry ∈ (ofList entries).entries, entry ∈ entries := by
  unfold ofList
  induction entries using List.reverseRecOn with
  | nil => exact ⟨Nat.le_refl _, fun _ h => h⟩
  | append_singleton entries last ih =>
    obtain ⟨hlength, hmem⟩ := ih
    rw [List.foldl_append]
    constructor
    · rw [List.flatMap_append, List.length_append, List.flatMap_singleton]
      exact Nat.le_trans (length_flatMap_insertEntry_le form last.1 last.2 _)
        (Nat.add_le_add_right hlength _)
    · intro entry hentry
      rcases mem_insertEntry hentry with rfl | hentry
      · simp
      · exact List.mem_append_left _ (hmem entry hentry)

theorem length_entries_ofList_le (entries : List (String × String)) :
    (ofList entries).entries.length ≤ entries.length := by
  simpa [List.flatMap_singleton'] using (of_ofList (fun entry => [entry]) entries).1

end FileState

namespace Wire

/-! ## Values -/

/-- Values whose form has no more bytes than whatever they were read from, and that are read back from
it. -/
class Shortest (α : Type) [Wire α] : Prop where
  of_run : ∀ {input rest : List UInt8} {value : α},
    (read (α := α)).run input = .ok (value, rest) →
    (encode value).length + rest.length ≤ input.length ∧ ReadsBack value

instance : Shortest Record where
  of_run {input rest value} h := by
    refine ⟨?_, readsBack_record value⟩
    obtain ⟨n, middle, hindex, hrecord⟩ := Reader.exists_of_run_bind_ok h
    split at hrecord
    · rename_i record hnat
      obtain ⟨rfl, rfl⟩ := Reader.eq_of_run_pure hrecord
      obtain rfl := Record.index_of_ofNat? hnat
      exact Varint.length_encode_of_run hindex
    · cases hrecord

instance : Shortest String where
  of_run {input rest value} h := by
    obtain ⟨size, middle, hsize, hbytes⟩ := Reader.exists_of_run_bind_ok h
    obtain ⟨bytes, behind, hread, htext⟩ := Reader.exists_of_run_bind_ok hbytes
    split at htext
    · rename_i text hfound
      obtain ⟨rfl, rfl⟩ := Reader.eq_of_run_pure htext
      obtain ⟨rfl, rfl⟩ := Reader.eq_append_of_run_bytes hread
      obtain rfl := textBytes_of_textOfBytes? hfound
      have hle := Varint.length_encode_of_run hsize
      rw [List.length_append] at hle
      rw [length_encode_text]
      exact ⟨by omega, readsBack_text (Varint.lt_of_run_bits64 hsize)⟩
    · cases htext

variable {α β : Type} [Wire α] [Wire β]

instance [Shortest α] [Shortest β] : Shortest (α × β) where
  of_run h := by
    obtain ⟨first, middle, hfirst, hpair⟩ := Reader.exists_of_run_bind_ok h
    obtain ⟨second, behind, hsecond, hvalue⟩ := Reader.exists_of_run_bind_ok hpair
    obtain ⟨rfl, rfl⟩ := Reader.eq_of_run_pure hvalue
    obtain ⟨hle, hback⟩ := Shortest.of_run hfirst
    obtain ⟨hle', hback'⟩ := Shortest.of_run hsecond
    rw [length_encode_pair]
    exact ⟨by omega, hback.pair hback'⟩

theorem of_run_many [Shortest α] {count : Nat} {input rest : List UInt8} {items : List α}
    (h : (Reader.many (read (α := α)) count).run input = .ok (items, rest)) :
    items.length = count ∧ (items.flatMap encode).length + rest.length ≤ input.length ∧
      ∀ item ∈ items, ReadsBack item := by
  induction count generalizing input items with
  | zero =>
    obtain ⟨rfl, rfl⟩ := Reader.eq_of_run_pure h
    simp
  | succ count ih =>
    obtain ⟨first, middle, hfirst, hitems⟩ := Reader.exists_of_run_bind_ok h
    obtain ⟨others, behind, hothers, hvalue⟩ := Reader.exists_of_run_bind_ok hitems
    obtain ⟨rfl, rfl⟩ := Reader.eq_of_run_pure hvalue
    obtain ⟨hle, hback⟩ := Shortest.of_run hfirst
    obtain ⟨rfl, hle', hbacks⟩ := ih hothers
    rw [List.flatMap_cons, List.length_append]
    exact ⟨rfl, by omega, List.forall_mem_cons.2 ⟨hback, hbacks⟩⟩

theorem of_run_list [Shortest α] {input rest : List UInt8} {items : List α}
    (h : (read (α := List α)).run input = .ok (items, rest)) :
    items.length < 18446744073709551616 ∧ (encode items).length + rest.length ≤ input.length ∧
      ∀ item ∈ items, ReadsBack item := by
  obtain ⟨count, middle, hcount, hitems⟩ := Reader.exists_of_run_bind_ok h
  obtain ⟨rfl, hle, hback⟩ := of_run_many hitems
  have hle' := Varint.length_encode_of_run hcount
  rw [length_encode_list]
  exact ⟨Varint.lt_of_run_bits64 hcount, by omega, hback⟩

instance [Shortest α] : Shortest (List α) where
  of_run h := by
    obtain ⟨hcount, hle, hback⟩ := of_run_list h
    exact ⟨hle, readsBack_list hcount hback⟩

/-- Of two entries with the same path only one is written. -/
theorem length_encode_ofList_le (entries : List (String × String)) :
    (encode (FileState.ofList entries)).length ≤ (encode entries).length := by
  have hcount := FileState.length_entries_ofList_le entries
  have hbytes : ((FileState.ofList entries).entries.flatMap encode).length
      ≤ (entries.flatMap encode).length := (FileState.of_ofList encode entries).1
  show (encode (FileState.ofList entries).entries).length ≤ _
  rw [length_encode_list, length_encode_list]
  exact Nat.add_le_add (Varint.length_digits_mono _ hcount) hbytes

instance : Shortest FileState where
  of_run h := by
    obtain ⟨entries, middle, hentries, hstate⟩ := Reader.exists_of_run_bind_ok h
    obtain ⟨rfl, rfl⟩ := Reader.eq_of_run_pure hstate
    obtain ⟨hcount, hle, hback⟩ := of_run_list hentries
    refine ⟨Nat.le_trans (Nat.add_le_add_right (length_encode_ofList_le entries) _) hle, ?_⟩
    refine readsBack_state (readsBack_list ?_ ?_)
    · exact Nat.lt_of_le_of_lt (FileState.length_entries_ofList_le entries) hcount
    · intro entry hentry
      exact hback entry ((FileState.of_ofList encode entries).2 entry hentry)

/-! ## Changes -/

/-- A change whose path and text were read behind the number of its variant. -/
theorem of_run_path_and_text (make : String → String → Change) {number : Nat}
    (hmake : ∀ path text, variantNumber (make path text) = number ∧ (make path text).path = path ∧
      (make path text).text? = some text)
    {input rest : List UInt8} {change : Change}
    (h : (do pure (make (← read) (← read)) : Reader Change).run input = .ok (change, rest)) :
    (encode change).length + rest.length ≤ (Varint.encode .bits32 number).length + input.length ∧
      ReadsBack change := by
  obtain ⟨path, middle, hpath, htext⟩ := Reader.exists_of_run_bind_ok h
  obtain ⟨text, behind, htext, hvalue⟩ := Reader.exists_of_run_bind_ok htext
  obtain ⟨rfl, rfl⟩ := Reader.eq_of_run_pure hvalue
  obtain ⟨rfl, hpath_eq, htext_eq⟩ := hmake path text
  obtain ⟨hle, hback⟩ := Shortest.of_run hpath
  obtain ⟨hle', hback'⟩ := Shortest.of_run htext
  constructor
  · simp only [length_encode_change, hpath_eq, htext_eq]
    omega
  · refine readsBack_change (hpath_eq.symm ▸ hback) ?_
    rw [htext_eq]
    rintro _ ⟨⟩
    exact hback'

theorem of_run_path (make : String → Change) {number : Nat}
    (hmake : ∀ path, variantNumber (make path) = number ∧ (make path).path = path ∧
      (make path).text? = none)
    {input rest : List UInt8} {change : Change}
    (h : (do pure (make (← read)) : Reader Change).run input = .ok (change, rest)) :
    (encode change).length + rest.length ≤ (Varint.encode .bits32 number).length + input.length ∧
      ReadsBack change := by
  obtain ⟨path, middle, hpath, hvalue⟩ := Reader.exists_of_run_bind_ok h
  obtain ⟨rfl, rfl⟩ := Reader.eq_of_run_pure hvalue
  obtain ⟨rfl, hpath_eq, htext_eq⟩ := hmake path
  obtain ⟨hle, hback⟩ := Shortest.of_run hpath
  constructor
  · simp only [length_encode_change, hpath_eq, htext_eq, List.length_nil]
    omega
  · refine readsBack_change (hpath_eq.symm ▸ hback) ?_
    rw [htext_eq]
    exact nofun

instance : Shortest Change where
  of_run {input rest change} h := by
    obtain ⟨variant, middle, hvariant, hchange⟩ := Reader.exists_of_run_bind_ok h
    have hle := Varint.length_encode_of_run hvariant
    have hbehind : (encode change).length + rest.length
        ≤ (Varint.encode .bits32 variant).length + middle.length ∧ ReadsBack change := by
      split at hchange
      · exact of_run_path_and_text .addFile (fun _ _ => ⟨rfl, rfl, rfl⟩) hchange
      · exact of_run_path .removeFile (fun _ => ⟨rfl, rfl, rfl⟩) hchange
      · exact of_run_path_and_text .changeFile (fun _ _ => ⟨rfl, rfl, rfl⟩) hchange
      · exact of_run_path_and_text .addTaskFile (fun _ _ => ⟨rfl, rfl, rfl⟩) hchange
      · exact of_run_path .removeTaskFile (fun _ => ⟨rfl, rfl, rfl⟩) hchange
      · cases hchange
    exact ⟨Nat.le_trans hbehind.1 hle, hbehind.2⟩

/-! ## Decoding -/

theorem exists_run_of_decode {bytes : List UInt8} {value : α} (h : decode α bytes = .ok value) :
    ∃ rest, (read (α := α)).run bytes = .ok (value, rest) := by
  unfold decode at h
  rcases hread : (read (α := α)).run bytes with error | ⟨found, rest⟩
  · rw [hread] at h
    cases h
  · rw [hread] at h
    obtain rfl : found = value := Except.ok.inj h
    exact ⟨rest, rfl⟩

/-- What is read from bytes is written in no more of them. -/
theorem length_encode_le_of_decode [Shortest α] {bytes : List UInt8} {value : α}
    (h : decode α bytes = .ok value) : (encode value).length ≤ bytes.length := by
  obtain ⟨rest, hread⟩ := exists_run_of_decode h
  exact Nat.le_of_add_right_le (Shortest.of_run hread).1

end Wire

end LessonHistory

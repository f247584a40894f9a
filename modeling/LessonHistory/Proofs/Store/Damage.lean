-- A log file in which one byte was changed. Both checksums of a frame separate strings of bytes
-- that differ in one byte, so wherever the byte is, in a checksum, in a length or in a payload,
-- opening the file reports the damage, with the start of the part of the log that holds the byte.
import LessonHistory.Proofs.Store.TornLog
import LessonHistory.Proofs.Wire.Checksum

namespace LessonHistory

/-! ## Words and checksums -/

theorem Word.exists_eq_bytes {word : List UInt8} (h : word.length = 4) :
    ∃ n < 4294967296, word = bytes n := by
  obtain ⟨n, hn⟩ := exists_take? h.ge
  obtain ⟨hlt, hword⟩ := eq_bytes_append_of_take? hn
  rw [List.drop_of_length_le h.le, List.append_nil] at hword
  exact ⟨n, hlt, hword⟩

theorem Word.bytes_inj {first second : Nat} (hfirst : first < 4294967296)
    (hsecond : second < 4294967296) (h : bytes first = bytes second) : first = second := by
  have hread := take?_bytes_append hfirst []
  rw [h, take?_bytes_append hsecond []] at hread
  cases hread
  rfl

theorem set_ne_self {bytes : List UInt8} {i : Nat} {byte : UInt8} (hi : i < bytes.length)
    (hbyte : bytes[i]? ≠ some byte) : bytes.set i byte ≠ bytes := by
  intro h
  rw [← h, List.getElem?_set_self hi] at hbyte
  exact hbyte rfl

namespace Journal

theorem sumBytes_set_ne {bytes : List UInt8} {i : Nat} {byte : UInt8} (hi : i < bytes.length)
    (hbyte : bytes[i]? ≠ some byte) : sumBytes (bytes.set i byte) ≠ sumBytes bytes := by
  intro h
  have hsum := Word.bytes_inj (toNat_crc32_lt _) (toNat_crc32_lt _) h
  exact Checksum.crc32_set_ne hi hbyte (UInt32.toNat_inj.1 hsum)

/-- Four bytes that are no checksum of the bytes hold another number than the checksum. -/
theorem exists_take?_of_ne_sumBytes {sum bytes : List UInt8} (hsum : sum.length = 4)
    (h : sum ≠ sumBytes bytes) (rest : List UInt8) :
    ∃ n, Word.take? (sum ++ rest) = some (n, rest) ∧ (Checksum.crc32 bytes).toNat ≠ n := by
  obtain ⟨n, hn, rfl⟩ := Word.exists_eq_bytes hsum
  refine ⟨n, Word.take?_bytes_append hn rest, ?_⟩
  rintro rfl
  exact h rfl

/-! ## Damage in a frame -/

/-- A length that its checksum does not match is damage, whatever the length is. -/
theorem front_of_ne_lengthSum {sum length : List UInt8} (hsum : sum.length = 4)
    (hlength : length.length = 4) (h : sum ≠ sumBytes length) (rest : List UInt8) :
    front (sum ++ (length ++ rest)) = .damaged .lengthChecksum := by
  obtain ⟨n, hn, hne⟩ := exists_take?_of_ne_sumBytes hsum h (length ++ rest)
  obtain ⟨m, hm, rfl⟩ := Word.exists_eq_bytes hlength
  have hfour : (Word.bytes m ++ rest).take 4 = Word.bytes m :=
    List.take_left' (Word.length_bytes m)
  unfold front
  simp only [hn, Word.take?_bytes_append hm rest, hfour, ne_eq, hne, not_false_eq_true, if_true]

theorem front_of_ne_payloadSum {payload sum : List UInt8} (hpayload : payload.length < 4294967296)
    (hsum : sum.length = 4) (h : sum ≠ sumBytes payload) (rest : List UInt8) :
    front (sumBytes (Word.bytes payload.length)
        ++ (Word.bytes payload.length ++ (payload ++ (sum ++ rest))))
      = .damaged .payloadChecksum := by
  obtain ⟨n, hn, hne⟩ := exists_take?_of_ne_sumBytes hsum h rest
  have hlengthSum : Word.take? (sumBytes (Word.bytes payload.length)
      ++ (Word.bytes payload.length ++ (payload ++ (sum ++ rest))))
        = some ((Checksum.crc32 (Word.bytes payload.length)).toNat, _) :=
    Word.take?_bytes_append (toNat_crc32_lt _) _
  have hfour : (Word.bytes payload.length ++ (payload ++ (sum ++ rest))).take 4
      = Word.bytes payload.length := List.take_left' (Word.length_bytes _)
  unfold front
  simp only [hlengthSum, Word.take?_bytes_append hpayload, hfour, ne_eq, not_true_eq_false,
    if_false, List.drop_left, List.take_left, hn, hne, not_false_eq_true, if_true]

/-- Wherever in a frame one byte is changed, the frame is found damaged. -/
theorem exists_front_set_frameBytes {entry : Entry} (h : Fits entry) {i : Nat} {byte : UInt8}
    (hi : i < (frameBytes entry).length) (hbyte : (frameBytes entry)[i]? ≠ some byte)
    (rest : List UInt8) :
    ∃ damage, front ((frameBytes entry).set i byte ++ rest) = .damaged damage := by
  have hframe : frameBytes entry = sumBytes (Word.bytes (Wire.encode entry).length)
      ++ (Word.bytes (Wire.encode entry).length
        ++ (Wire.encode entry ++ sumBytes (Wire.encode entry))) := by
    simp only [frameBytes, List.append_assoc]
  rw [length_frameBytes, frameLength] at hi
  rw [hframe] at hbyte ⊢
  rw [List.getElem?_append, length_sumBytes] at hbyte
  rw [List.set_append, length_sumBytes]
  split
  · -- The byte is in the checksum of the length.
    rename_i hsum
    rw [if_pos hsum] at hbyte
    refine ⟨.lengthChecksum, ?_⟩
    rw [List.append_assoc, List.append_assoc]
    exact front_of_ne_lengthSum (by simp) (Word.length_bytes _) (set_ne_self hsum hbyte) _
  rename_i hsum
  rw [if_neg hsum, List.getElem?_append, Word.length_bytes] at hbyte
  rw [List.set_append, Word.length_bytes]
  split
  · -- It is in the length.
    rename_i hlength
    rw [if_pos hlength] at hbyte
    refine ⟨.lengthChecksum, ?_⟩
    rw [List.append_assoc, List.append_assoc]
    exact front_of_ne_lengthSum (length_sumBytes _) (by simp)
      (sumBytes_set_ne hlength hbyte).symm _
  rename_i hlength
  rw [if_neg hlength, List.getElem?_append] at hbyte
  rw [List.set_append]
  split
  · -- It is in the payload.
    rename_i hpayload
    rw [if_pos hpayload] at hbyte
    have hsame : (Wire.encode entry).length = ((Wire.encode entry).set (i - 4 - 4) byte).length :=
      List.length_set.symm
    refine ⟨.payloadChecksum, ?_⟩
    rw [List.append_assoc, List.append_assoc, List.append_assoc, hsame]
    exact front_of_ne_payloadSum (hsame ▸ h) (length_sumBytes _)
      (sumBytes_set_ne hpayload hbyte).symm rest
  · -- It is in the checksum of the payload.
    rename_i hpayload
    rw [if_neg hpayload] at hbyte
    refine ⟨.payloadChecksum, ?_⟩
    rw [List.append_assoc, List.append_assoc, List.append_assoc]
    exact front_of_ne_payloadSum h (by simp) (set_ne_self (by simp; omega) hbyte) rest

/-! ## Damage in a log -/

/-- Where the part of a log starts that holds the byte at `i`: the magic bytes, the version, or
the frame of one of the entries. -/
inductive PartStart (entries : List Entry) (i : Nat) : Nat → Prop where
  | magic (inside : i < magic.length) : PartStart entries i 0
  | version (inside : i = magic.length) : PartStart entries i magic.length
  | frame {front back : List Entry} {entry : Entry} (split : entries = front ++ entry :: back)
      (start : (logOf front).length ≤ i) (stop : i < (logOf (front ++ [entry])).length) :
      PartStart entries i (logOf front).length

theorem exists_frame_at {entries : List Entry} {n : Nat}
    (h : n < (entries.flatMap frameBytes).length) :
    ∃ front entry back, entries = front ++ entry :: back ∧
      (front.flatMap frameBytes).length ≤ n ∧
      n < (front.flatMap frameBytes).length + (frameBytes entry).length := by
  induction entries generalizing n with
  | nil => simp at h
  | cons entry rest ih =>
    rw [List.flatMap_cons, List.length_append] at h
    by_cases hfirst : n < (frameBytes entry).length
    · exact ⟨[], entry, rest, rfl, by simp, by simpa using hfirst⟩
    · obtain ⟨front, found, back, rfl, hstart, hstop⟩ :=
        ih (n := n - (frameBytes entry).length) (by omega)
      refine ⟨entry :: front, found, back, rfl, ?_, ?_⟩
      · rw [List.flatMap_cons, List.length_append]
        omega
      · rw [List.flatMap_cons, List.length_append]
        omega

theorem length_logOf (entries : List Entry) :
    (logOf entries).length = header.length + (entries.flatMap frameBytes).length := by
  unfold logOf
  rw [List.length_append]

theorem logOf_append_cons (front : List Entry) (entry : Entry) (back : List Entry) :
    logOf (front ++ entry :: back)
      = logOf front ++ (frameBytes entry ++ back.flatMap frameBytes) := by
  unfold logOf
  rw [List.flatMap_append, List.flatMap_cons, List.append_assoc]

theorem scan_set_magic {i : Nat} {byte : UInt8} (hi : i < magic.length)
    (hbyte : magic[i]? ≠ some byte) (frames : List UInt8) :
    scan (magic.set i byte ++ frames) = .error (0, .headerMissing) := by
  have htake : (magic.set i byte ++ frames).take magic.length = magic.set i byte :=
    List.take_left' List.length_set
  unfold scan
  rw [htake, if_pos (set_ne_self hi hbyte)]

theorem scan_of_ne_version {byte : UInt8} (h : byte ≠ version) (frames : List UInt8) :
    scan (magic ++ byte :: frames) = .error (magic.length, .versionUnsupported byte) := by
  unfold scan
  rw [List.take_left, List.drop_left]
  simp [h]

/-- Wherever in a log one byte is changed, the scan stops at the part that holds it. -/
theorem Written.exists_scan_set {entries : List Entry} {content : List UInt8}
    (h : Written entries content) {i : Nat} {byte : UInt8} (hi : i < content.length)
    (hbyte : content[i]? ≠ some byte) :
    ∃ offset damage, scan (content.set i byte) = .error (offset, damage) ∧
      PartStart entries i offset := by
  have hcontent := h.content_eq
  by_cases hframe : header.length ≤ i
  · rw [hcontent, length_logOf] at hi
    have hinside : i - header.length < (entries.flatMap frameBytes).length := by omega
    obtain ⟨front, entry, back, rfl, hstart, hstop⟩ := exists_frame_at hinside
    have hlog := length_logOf front
    have hlast : (logOf (front ++ [entry])).length
        = (logOf front).length + (frameBytes entry).length := by
      rw [logOf_concat, List.length_append]
    have hfits := h.fits entry (by simp)
    rw [hcontent, logOf_append_cons, List.getElem?_append_right (by omega),
      List.getElem?_append_left (by omega)] at hbyte
    obtain ⟨damage, hdamage⟩ :=
      exists_front_set_frameBytes hfits (by omega) hbyte (back.flatMap frameBytes)
    obtain ⟨index, hholds⟩ := (h.take rfl).holds
    refine ⟨(logOf front).length, damage, ?_, .frame rfl (by omega) (by omega)⟩
    rw [hcontent, logOf_append_cons, List.set_append_right _ _ (by omega),
      List.set_append_left _ _ (by omega), scan_append hholds.scanned hholds.whole,
      scanFrames_damaged hdamage, hholds.whole]
  · have hsplit : content = magic ++ (version :: entries.flatMap frameBytes) := hcontent
    rw [hsplit] at hbyte ⊢
    by_cases hmagic : i < magic.length
    · rw [List.getElem?_append_left hmagic] at hbyte
      refine ⟨0, .headerMissing, ?_, .magic hmagic⟩
      rw [List.set_append_left _ _ hmagic]
      exact scan_set_magic hmagic hbyte _
    · have hversion : i = magic.length := by
        have : header.length = magic.length + 1 := rfl
        omega
      subst hversion
      rw [List.getElem?_append_right (Nat.le_refl _), Nat.sub_self, List.getElem?_cons_zero] at hbyte
      refine ⟨magic.length, .versionUnsupported byte, ?_, .version rfl⟩
      rw [List.set_append_right _ _ (Nat.le_refl _), Nat.sub_self, List.set_cons_zero]
      exact scan_of_ne_version (fun hsame => hbyte (hsame ▸ rfl)) _

end Journal

namespace FileLog

/-- A log file in which one byte was changed does not open. What is reported is the start of the
part that holds the byte, and the volume is left as it is. -/
theorem a_changed_byte_is_reported {volume : Volume} {path : String}
    {entries : List Journal.Entry} {content : List UInt8} {i : Nat} {byte : UInt8}
    (hwritten : Journal.Written entries content) (hi : i < content.length)
    (hbyte : content[i]? ≠ some byte) (hread : volume.read path = .ok (content.set i byte)) :
    ∃ offset damage, openPath volume path = ⟨.error (.corrupt path offset damage), volume, []⟩ ∧
      Journal.PartStart entries i offset := by
  obtain ⟨directory, name, hleads, hcontent⟩ := Volume.read_eq_ok_iff.1 hread
  obtain ⟨offset, damage, hscan, hpart⟩ := hwritten.exists_scan_set hi hbyte
  have hlong : ¬ (content.set i byte).length < Journal.header.length := by
    rw [List.length_set, hwritten.content_eq, Journal.length_logOf]
    omega
  have hrecover : Journal.recover (content.set i byte) = .error (offset, damage) := by
    unfold Journal.recover
    rw [if_neg (fun hshort => hlong hshort.1), hscan]
  exact ⟨offset, damage, openPath_of_damage hleads hcontent hrecover, hpart⟩

/-- A length that is made to reach past the end of the file is not taken for a torn frame. -/
theorem a_changed_length_is_not_a_torn_frame :
    ∃ damage,
      openPath { nodes := [(["log"],
          .file ((Journal.logOf [(.first, [.addFile "a" "x"])]).set 12 255))] } "log"
        = ⟨.error (.corrupt "log" 5 damage), { nodes := [(["log"],
          .file ((Journal.logOf [(.first, [.addFile "a" "x"])]).set 12 255))] }, []⟩ := by
  have hwritten : Journal.Written [(.first, [.addFile "a" "x"])]
      (Journal.logOf [(.first, [.addFile "a" "x"])]) :=
    .append .fresh (show Record.claim 0 none = .ok .first from rfl)
      (Journal.frame_eq_ok (by decide))
  have hread : Volume.read { nodes := [(["log"],
      .file ((Journal.logOf [(.first, [.addFile "a" "x"])]).set 12 255))] } "log"
        = .ok ((Journal.logOf [(.first, [.addFile "a" "x"])]).set 12 255) := rfl
  obtain ⟨offset, damage, hopen, hpart⟩ :=
    a_changed_byte_is_reported hwritten (by decide) (by decide) hread
  have hoffset : offset = 5 := by
    cases hpart with
    | magic inside => exact absurd inside (by decide)
    | version inside => exact absurd inside (by decide)
    | @frame front back entry split start stop =>
      -- There is only one frame, so none stands before it.
      cases front with
      | nil => rfl
      | cons first rest => simp at split
  exact ⟨damage, hoffset ▸ hopen⟩

end FileLog

end LessonHistory

-- Which texts name a record. Number signs come first, as many as there are, then one plus sign or
-- none, then digits. Any other text fails for one of three reasons, and which it is depends on
-- what comes first: a character that is no digit, or digits that surpass every index.
import LessonHistory.Record

namespace LessonHistory

namespace Record

/-! ## The grammar -/

/-- The text is any number of number signs and then characters of this form. -/
def Marked (form : List Char → Prop) (text : String) : Prop :=
  ∃ count chars, text.toList = List.replicate count '#' ++ chars ∧ form chars

/-- The characters are one plus sign or none and then characters of this form. -/
def Signed (form : List Char → Prop) (chars : List Char) : Prop :=
  ∃ rest, (chars = rest ∨ chars = '+' :: rest) ∧ form rest

/-- The characters are decimal digits, one at least, with this value. -/
def Decimal (value : Nat) (chars : List Char) : Prop :=
  chars ≠ [] ∧ (∀ c ∈ chars, c.isDigit = true) ∧ Nat.ofDigitChars 10 chars 0 = value

/-- Behind digits with the value `read` come more digits, and after some of these the value is
out of range, whatever follows. -/
def Surpasses (read : Nat) (chars : List Char) : Prop :=
  ∃ digits rest, chars = digits ++ rest ∧ (∀ c ∈ digits, c.isDigit = true) ∧
    4294967296 ≤ Nat.ofDigitChars 10 digits read

variable {form : List Char → Prop} {text : String} {read record : Record} {value : Nat} {c : Char}
  {chars rest : List Char}

/-! ## Digits -/

theorem digitValue?_eq (c : Char) :
    digitValue? c = if c.isDigit then some (c.toNat - '0'.toNat) else none := by
  unfold digitValue? Char.isDigit
  simp [Char.le_def]

theorem ofNat?_of_lt {index : Nat} (h : index < 4294967296) : ofNat? index = some ⟨index, h⟩ :=
  dif_pos h

theorem ofNat?_of_le {index : Nat} (h : 4294967296 ≤ index) : ofNat? index = none :=
  dif_neg (Nat.not_lt.2 h)

/-- What becomes of the next character: it is no digit, or takes the value out of range, or is read
into the value. -/
theorem readDigits_cons_cases (read : Record) (c : Char) (rest : List Char) :
    (c.isDigit = false ∧ readDigits read (c :: rest) = .error .invalidDigit) ∨
    (c.isDigit = true ∧ 4294967296 ≤ 10 * read.index + (c.toNat - '0'.toNat) ∧
      readDigits read (c :: rest) = .error .tooLarge) ∨
    (c.isDigit = true ∧ ∃ next : Record,
      next.index = 10 * read.index + (c.toNat - '0'.toNat) ∧
      readDigits read (c :: rest) = readDigits next rest) := by
  rw [readDigits, digitValue?_eq, Nat.mul_comm read.index]
  cases hdigit : c.isDigit with
  | false => exact .inl ⟨rfl, rfl⟩
  | true =>
    simp only [if_true]
    by_cases hlt : 10 * read.index + (c.toNat - '0'.toNat) < 4294967296
    · rw [ofNat?_of_lt hlt]
      exact .inr (.inr ⟨trivial, _, rfl, rfl⟩)
    · have hle := Nat.not_lt.1 hlt
      rw [ofNat?_of_le hle]
      exact .inr (.inl ⟨trivial, hle, rfl⟩)

theorem le_ofDigitChars (chars : List Char) (read : Nat) :
    read ≤ Nat.ofDigitChars 10 chars read := by
  induction chars generalizing read with
  | nil => exact Nat.le_refl read
  | cons c rest ih =>
    rw [Nat.ofDigitChars_cons]
    have := ih (10 * read + (c.toNat - '0'.toNat))
    omega

/-- Digits are read to their end just when their value is in range. -/
theorem readDigits_eq_ok_iff : readDigits read chars = .ok record ↔
    (∀ c ∈ chars, c.isDigit = true) ∧ Nat.ofDigitChars 10 chars read.index = record.index := by
  induction chars generalizing read with
  | nil => simp [readDigits, index_inj]
  | cons c rest ih =>
    rw [List.forall_mem_cons, Nat.ofDigitChars_cons]
    rcases readDigits_cons_cases read c rest with
      ⟨hdigit, heq⟩ | ⟨hdigit, hle, heq⟩ | ⟨hdigit, next, hnext, heq⟩
    · simp [heq, hdigit]
    · -- Whatever digits follow, the value stays out of range.
      have hvalue := le_ofDigitChars rest (10 * read.index + (c.toNat - '0'.toNat))
      have hrecord := record.index_lt
      rw [heq]
      constructor
      · intro h
        cases h
      · rintro ⟨-, h⟩
        omega
    · rw [heq, ih, hnext]
      simp [hdigit]

theorem not_surpasses_nil (h : value < 4294967296) : ¬Surpasses value [] := by
  rintro ⟨digits, rest, hsplit, -, hle⟩
  obtain ⟨rfl, -⟩ := List.append_eq_nil_iff.1 hsplit.symm
  exact Nat.not_lt.2 hle h

/-- A value that is in range is taken out by the next digit at the earliest. -/
theorem surpasses_cons_iff (h : value < 4294967296) : Surpasses value (c :: rest) ↔
    c.isDigit = true ∧ Surpasses (10 * value + (c.toNat - '0'.toNat)) rest := by
  constructor
  · rintro ⟨digits, others, hsplit, hdigits, hle⟩
    cases digits with
    | nil => exact absurd h (Nat.not_lt.2 hle)
    | cons d more =>
      obtain ⟨rfl, rfl⟩ := List.cons.inj hsplit
      rw [List.forall_mem_cons] at hdigits
      exact ⟨hdigits.1, more, others, rfl, hdigits.2, hle⟩
  · rintro ⟨hdigit, digits, others, rfl, hdigits, hle⟩
    exact ⟨c :: digits, others, rfl, List.forall_mem_cons.2 ⟨hdigit, hdigits⟩, hle⟩

/-- Reading ends with a value out of range just when the digits get there before anything else
comes. -/
theorem readDigits_eq_tooLarge_iff :
    readDigits read chars = .error .tooLarge ↔ Surpasses read.index chars := by
  induction chars generalizing read with
  | nil =>
    refine iff_of_false ?_ (not_surpasses_nil read.index_lt)
    intro h
    cases h
  | cons c rest ih =>
    rw [surpasses_cons_iff read.index_lt]
    rcases readDigits_cons_cases read c rest with
      ⟨hdigit, heq⟩ | ⟨hdigit, hle, heq⟩ | ⟨hdigit, next, hnext, heq⟩
    · simp [heq, hdigit]
    · -- The digits up to this one are enough.
      have hhere : Surpasses (10 * read.index + (c.toNat - '0'.toNat)) rest :=
        ⟨[], rest, rfl, by simp, hle⟩
      exact iff_of_true heq ⟨hdigit, hhere⟩
    · rw [heq, ih, hnext]
      simp [hdigit]

theorem readDigits_ne_empty (read : Record) (chars : List Char) :
    readDigits read chars ≠ .error .empty := by
  induction chars generalizing read with
  | nil =>
    intro h
    cases h
  | cons c rest ih =>
    rcases readDigits_cons_cases read c rest with ⟨-, heq⟩ | ⟨-, -, heq⟩ | ⟨-, next, -, heq⟩
    · simp [heq]
    · simp [heq]
    · rw [heq]
      exact ih next

theorem not_decimal_nil : ¬Decimal value [] :=
  fun h => h.1 rfl

theorem not_decimal_cons (h : c.isDigit = false) : ¬Decimal value (c :: rest) := by
  rintro ⟨-, hdigits, -⟩
  rw [hdigits c List.mem_cons_self] at h
  cases h

theorem not_surpasses_cons (hvalue : value < 4294967296) (h : c.isDigit = false) :
    ¬Surpasses value (c :: rest) := by
  intro hsurpasses
  rw [((surpasses_cons_iff hvalue).1 hsurpasses).1] at h
  cases h

/-! ## The plus sign -/

/-- What is left of the characters without one plus sign in front. -/
def unsigned : List Char → List Char
  | '+' :: rest => rest
  | chars => chars

/-- Where characters of a form never begin with a plus sign, one in front is no part of them. -/
theorem signed_iff (h : ∀ rest, ¬form ('+' :: rest)) :
    Signed form chars ↔ form (unsigned chars) := by
  constructor
  · rintro ⟨others, rfl | rfl, hform⟩
    · unfold unsigned
      split
      · exact absurd hform (h _)
      · exact hform
    · exact hform
  · intro hform
    refine ⟨unsigned chars, ?_, hform⟩
    unfold unsigned
    split
    · exact .inr rfl
    · exact .inl rfl

theorem readIndex_eq (chars : List Char) : readIndex chars =
    if chars = [] then .error .empty
    else if unsigned chars = [] then .error .invalidDigit
    else readDigits first (unsigned chars) := by
  unfold readIndex unsigned
  split
  · rfl
  · rfl
  · simp_all
  · simp_all

/-- An outcome of reading digits that tells their form tells it behind a plus sign too. -/
theorem readIndex_eq_iff {outcome : Except RecordTextError Record}
    (hempty : outcome ≠ .error .empty) (hinvalid : outcome ≠ .error .invalidDigit)
    (hnil : ¬form []) (hform : ∀ c rest, c.isDigit = false → ¬form (c :: rest))
    (hread : ∀ digits, digits ≠ [] → (readDigits first digits = outcome ↔ form digits)) :
    readIndex chars = outcome ↔ Signed form chars := by
  rw [signed_iff fun rest => hform '+' rest rfl, readIndex_eq]
  split
  · rename_i hchars
    subst hchars
    exact iff_of_false hempty.symm hnil
  · split
    · rename_i hdigits
      rw [hdigits]
      exact iff_of_false hinvalid.symm hnil
    · rename_i hdigits
      exact hread _ hdigits

theorem readIndex_eq_empty_iff : readIndex chars = .error .empty ↔ chars = [] := by
  rw [readIndex_eq]
  split
  · rename_i hnil
    exact iff_of_true rfl hnil
  · rename_i hne
    refine iff_of_false ?_ hne
    split
    · simp
    · exact readDigits_ne_empty _ _

/-! ## The number signs -/

/-- Where characters of a form never begin with a number sign, the marks are all the number signs in
front. -/
theorem marked_iff (h : ∀ rest, ¬form ('#' :: rest)) :
    Marked form text ↔ form (text.toList.dropWhile (· = '#')) := by
  constructor
  · rintro ⟨count, chars, htext, hform⟩
    have hmarks : ∀ c ∈ List.replicate count '#', decide (c = '#') = true := by
      simp
    rw [htext, List.dropWhile_append_of_pos hmarks]
    cases chars with
    | nil => exact hform
    | cons c rest =>
      have hne : c ≠ '#' := by
        rintro rfl
        exact h rest hform
      rwa [List.dropWhile_cons_of_neg (by simp [hne])]
  · intro hform
    refine ⟨(text.toList.takeWhile (· = '#')).length, _, ?_, hform⟩
    have hmarks : text.toList.takeWhile (· = '#')
        = List.replicate (text.toList.takeWhile (· = '#')).length '#' := by
      refine List.eq_replicate_iff.2 ⟨rfl, fun c hc => ?_⟩
      exact of_decide_eq_true (List.all_eq_true.1 List.all_takeWhile c hc)
    rw [← hmarks, List.takeWhile_append_dropWhile]

/-- An outcome of reading digits that tells their form tells it of the whole text. -/
theorem parse_eq_iff {outcome : Except RecordTextError Record}
    (hempty : outcome ≠ .error .empty) (hinvalid : outcome ≠ .error .invalidDigit)
    (hnil : ¬form []) (hform : ∀ c rest, c.isDigit = false → ¬form (c :: rest))
    (hread : ∀ digits, digits ≠ [] → (readDigits first digits = outcome ↔ form digits)) :
    parse text = outcome ↔ Marked (Signed form) text := by
  have hmark : ∀ rest, ¬Signed form ('#' :: rest) := by
    intro rest
    rw [signed_iff fun rest => hform '+' rest rfl]
    exact hform '#' rest rfl
  rw [marked_iff hmark]
  exact readIndex_eq_iff hempty hinvalid hnil hform hread

theorem parse_eq_ok_iff :
    parse text = .ok record ↔ Marked (Signed (Decimal record.index)) text := by
  apply parse_eq_iff (by simp) (by simp) not_decimal_nil fun _ _ => not_decimal_cons
  intro digits hdigits
  rw [readDigits_eq_ok_iff]
  exact (and_iff_right hdigits).symm

theorem parse_eq_tooLarge_iff :
    parse text = .error .tooLarge ↔ Marked (Signed (Surpasses 0)) text :=
  parse_eq_iff (by simp) (by simp) (not_surpasses_nil first.index_lt)
    (fun _ _ => not_surpasses_cons first.index_lt) fun _ _ => readDigits_eq_tooLarge_iff

theorem parse_eq_empty_iff : parse text = .error .empty ↔ Marked (· = []) text := by
  rw [marked_iff fun _ => List.cons_ne_nil _ _]
  exact readIndex_eq_empty_iff

/-! ## The written form -/

theorem marked_display (record : Record) :
    Marked (Signed (Decimal record.index)) record.display := by
  refine ⟨1, Nat.toDigits 10 record.index, ?_, _, .inl rfl, Nat.toDigits_ne_nil, ?_,
    Nat.ofDigitChars_ten_toDigits⟩
  · simp [display]
  · intro c hc
    exact Nat.isDigit_of_mem_toDigits (by decide) (by decide) hc

/-- A text names a record just when it is any number of number signs, then one plus sign or none,
then digits, one at least, whose value is the index of the record. It fails as empty just when it
has number signs only. It fails as too large just when its digits surpass every index before
anything but a digit comes, and for a wrong digit in every other case. The written form of a record
names that record. -/
theorem every_text_names_a_record_or_fails_for_one_reason (text : String) (record : Record) :
    (∀ index, (∃ found, parse text = .ok found ∧ found.index = index) ↔
      Marked (Signed (Decimal index)) text ∧ index < 4294967296) ∧
    (parse text = .error .empty ↔ Marked (· = []) text) ∧
    (parse text = .error .tooLarge ↔ Marked (Signed (Surpasses 0)) text) ∧
    (parse text = .error .invalidDigit ↔
      ¬(∃ index < 4294967296, Marked (Signed (Decimal index)) text) ∧
      ¬Marked (· = []) text ∧ ¬Marked (Signed (Surpasses 0)) text) ∧
    parse record.display = .ok record := by
  have hnamed : ∀ index, (∃ found, parse text = .ok found ∧ found.index = index) ↔
      Marked (Signed (Decimal index)) text ∧ index < 4294967296 := by
    intro index
    constructor
    · rintro ⟨found, hfound, rfl⟩
      exact ⟨parse_eq_ok_iff.1 hfound, found.index_lt⟩
    · rintro ⟨hmarked, hlt⟩
      exact ⟨⟨index, hlt⟩, parse_eq_ok_iff.2 hmarked, rfl⟩
  refine ⟨hnamed, parse_eq_empty_iff, parse_eq_tooLarge_iff, ?_,
    parse_eq_ok_iff.2 (marked_display record)⟩
  have hany : (∃ index < 4294967296, Marked (Signed (Decimal index)) text) ↔
      ∃ found, parse text = .ok found := by
    constructor
    · rintro ⟨index, hlt, hmarked⟩
      obtain ⟨found, hfound, -⟩ := (hnamed index).2 ⟨hmarked, hlt⟩
      exact ⟨found, hfound⟩
    · rintro ⟨found, hfound⟩
      exact ⟨found.index, found.index_lt, parse_eq_ok_iff.1 hfound⟩
  -- Reading ends in one of four ways, and three of them are told already.
  rw [hany, ← parse_eq_empty_iff, ← parse_eq_tooLarge_iff]
  cases parse text with
  | ok found => simp
  | error error => cases error <;> simp

-- The tenth digit is one too many before the letter is met, or else the letter is met.
example : parse "##+4294967296x" = .error .tooLarge ∧
    parse "##+429496729x" = .error .invalidDigit :=
  ⟨rfl, rfl⟩

end Record

end LessonHistory

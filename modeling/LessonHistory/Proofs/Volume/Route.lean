-- Paths as texts and as ways. A path is its segments with slashes between them, so the path
-- without its last step leads where the steps before the last one lead.
import LessonHistory.Volume.Route

namespace LessonHistory

namespace Route

/-! ## Segments -/

theorem segments_ne_nil (text : List Char) : segments text ≠ [] := by
  cases text with
  | nil => simp [segments]
  | cons c rest =>
    unfold segments
    split
    · simp
    · split <;> simp

theorem slash_not_mem_segments {text segment : List Char} (h : segment ∈ segments text) :
    '/' ∉ segment := by
  induction text generalizing segment with
  | nil =>
    rw [segments, List.mem_singleton] at h
    simp [h]
  | cons c rest ih =>
    unfold segments at h
    split at h
    · rcases List.mem_cons.1 h with h | h
      · simp [h]
      · exact ih h
    · rename_i hc
      split at h
      · rename_i hnil
        exact absurd hnil (segments_ne_nil rest)
      · rename_i first others hsegments
        rw [hsegments] at ih
        rcases List.mem_cons.1 h with h | h
        · subst h
          rw [List.mem_cons, not_or]
          exact ⟨Ne.symm hc, ih List.mem_cons_self⟩
        · exact ih (List.mem_cons_of_mem _ h)

/-- The text with the given segments between slashes. -/
def joined (parts : List (List Char)) : List Char := ['/'].intercalate parts

theorem joined_cons {parts : List (List Char)} (h : parts ≠ []) (first : List Char) :
    joined (first :: parts) = first ++ '/' :: joined parts := by
  obtain ⟨second, rest, rfl⟩ := List.exists_cons_of_ne_nil h
  rfl

theorem joined_singleton (part : List Char) : joined [part] = part := by
  simp [joined, List.intercalate, List.intersperse]

theorem joined_append {front back : List (List Char)} (hfront : front ≠ []) (hback : back ≠ []) :
    joined (front ++ back) = joined front ++ '/' :: joined back := by
  induction front with
  | nil => exact absurd rfl hfront
  | cons first rest ih =>
    by_cases hrest : rest = []
    · subst hrest
      rw [List.cons_append, List.nil_append, joined_cons hback, joined_singleton]
    · rw [List.cons_append, joined_cons (by simp [hrest]), joined_cons hrest, ih hrest,
        List.append_assoc, List.cons_append]

theorem joined_segments (text : List Char) : joined (segments text) = text := by
  induction text with
  | nil => rfl
  | cons c rest ih =>
    unfold segments
    split
    · rename_i hc
      rw [joined_cons (segments_ne_nil rest), ih, hc, List.nil_append]
    · split
      · rename_i hnil
        exact absurd hnil (segments_ne_nil rest)
      · rename_i first others hsegments
        rw [hsegments] at ih
        cases others with
        | nil =>
          rw [joined_singleton] at ih ⊢
          rw [ih]
        | cons second others =>
          rw [joined_cons (by simp)] at ih ⊢
          rw [List.cons_append, ih]

theorem segments_of_no_slash {text : List Char} (h : '/' ∉ text) : segments text = [text] := by
  induction text with
  | nil => rfl
  | cons c rest ih =>
    rw [List.mem_cons, not_or] at h
    rw [segments, if_neg (Ne.symm h.1), ih h.2]

theorem segments_append_slash (text rest : List Char) :
    segments (text ++ '/' :: rest) = segments text ++ segments rest := by
  induction text with
  | nil => rfl
  | cons c text ih =>
    rw [List.cons_append]
    by_cases hc : c = '/'
    · simp only [segments, hc, if_true, ih, List.cons_append]
    · obtain ⟨first, others, hsegments⟩ := List.exists_cons_of_ne_nil (segments_ne_nil text)
      simp only [segments, hc, if_false, ih, hsegments, List.cons_append]

theorem segments_joined {parts : List (List Char)} (h : ∀ part ∈ parts, '/' ∉ part)
    (hne : parts ≠ []) : segments (joined parts) = parts := by
  induction parts with
  | nil => exact absurd rfl hne
  | cons first rest ih =>
    by_cases hrest : rest = []
    · subst hrest
      rw [joined_singleton, segments_of_no_slash (h first List.mem_cons_self)]
    · rw [joined_cons hrest, segments_append_slash, segments_of_no_slash (h first List.mem_cons_self),
        ih (fun part hpart => h part (List.mem_cons_of_mem _ hpart)) hrest]
      rfl

/-! ## The path without its last step -/

theorem steps_ofText (path : String) :
    (ofText path).steps = (segments path.toList).filterMap stepOf? := rfl

theorem absolute_ofText (path : String) :
    (ofText path).absolute = decide (path.toList.head? = some '/') := rfl

theorem stepOf?_of_isIdle {segment : List Char} (h : isIdle segment = true) :
    stepOf? segment = none := if_pos h

theorem filterMap_stepOf?_of_idle {parts : List (List Char)} (h : ∀ part ∈ parts, isIdle part = true) :
    parts.filterMap stepOf? = [] := by
  rw [List.filterMap_eq_nil_iff]
  exact fun part hpart => stepOf?_of_isIdle (h part hpart)

theorem exists_stepOf? {segment : List Char} (h : isIdle segment = false) :
    ∃ step, stepOf? segment = some step := by
  unfold stepOf?
  rw [if_neg (by simp [h])]
  split
  · exact ⟨_, rfl⟩
  · exact ⟨_, rfl⟩

/-- Where the last step of a path stands among the segments: the parent is what comes before
it and before the segments in front of it that lead nowhere. -/
theorem exists_parent {path : String} (h : (ofText path).steps ≠ []) :
    ∃ before rest last idle, segments path.toList = before ++ (rest ++ last :: idle) ∧
      (∀ part ∈ rest, isIdle part = true) ∧ isIdle last = false ∧
      (∀ part ∈ idle, isIdle part = true) ∧
      (∀ part, before.getLast? = some part → isIdle part = false) ∧
      parent path = String.ofList (joined before) := by
  have hidle : ∀ parts : List (List Char), ∀ part ∈ parts.takeWhile isIdle, isIdle part = true :=
    fun parts part hpart => List.all_eq_true.1 List.all_takeWhile part hpart
  have hsplit : ∀ parts : List (List Char), parts.takeWhile isIdle ++ parts.dropWhile isIdle = parts :=
    fun parts => List.takeWhile_append_dropWhile
  have hback := hsplit (segments path.toList).reverse
  have hparent : parent path = String.ofList (joined
    (((segments path.toList).reverse.dropWhile isIdle).tail.dropWhile isIdle).reverse) := rfl
  cases hrest : (segments path.toList).reverse.dropWhile isIdle with
  | nil =>
    rw [hrest, List.append_nil] at hback
    refine absurd (filterMap_stepOf?_of_idle ?_) h
    intro part hpart
    exact hidle _ part (hback ▸ List.mem_reverse.2 hpart)
  | cons last others =>
    rw [hrest] at hback hparent
    refine ⟨(others.dropWhile isIdle).reverse, (others.takeWhile isIdle).reverse, last,
      ((segments path.toList).reverse.takeWhile isIdle).reverse, ?_, ?_, ?_, ?_, ?_, hparent⟩
    · calc segments path.toList
          = ((segments path.toList).reverse.takeWhile isIdle
              ++ last :: (others.takeWhile isIdle ++ others.dropWhile isIdle)).reverse := by
            rw [hsplit, hback, List.reverse_reverse]
        _ = _ := by
            simp only [List.reverse_append, List.reverse_cons, List.append_assoc,
              List.singleton_append]
    · intro part hpart
      exact hidle others part (List.mem_reverse.1 hpart)
    · have := List.head?_dropWhile_not isIdle (segments path.toList).reverse
      rwa [hrest] at this
    · intro part hpart
      exact hidle _ part (List.mem_reverse.1 hpart)
    · intro part hpart
      rw [List.getLast?_reverse] at hpart
      have := List.head?_dropWhile_not isIdle others
      rwa [hpart] at this

/-- The parent, as a text, is a front part of the path that ends before a slash. -/
theorem exists_toList_eq_parent_append {path : String} (h : (ofText path).steps ≠ [])
    (hparent : parent path ≠ "") : ∃ rest, path.toList = (parent path).toList ++ '/' :: rest := by
  obtain ⟨before, rest, last, idle, hparts, _, _, _, _, hjoined⟩ := exists_parent h
  have hbefore : before ≠ [] := by
    rintro rfl
    exact hparent hjoined
  refine ⟨joined (rest ++ last :: idle), ?_⟩
  rw [hjoined, String.toList_ofList, ← joined_append hbefore (by simp), ← hparts, joined_segments]

theorem steps_parent {path : String} (h : (ofText path).steps ≠ []) (hparent : parent path ≠ "") :
    (ofText (parent path)).steps = (ofText path).steps.dropLast := by
  obtain ⟨before, rest, last, idle, hparts, hrest, hlast, hidle, _, hjoined⟩ := exists_parent h
  have hbefore : before ≠ [] := by
    rintro rfl
    exact hparent hjoined
  have hslash : ∀ part ∈ before, '/' ∉ part := fun part hpart =>
    slash_not_mem_segments (hparts ▸ List.mem_append_left _ hpart)
  obtain ⟨step, hstep⟩ := exists_stepOf? hlast
  have hpath : (ofText path).steps = before.filterMap stepOf? ++ [step] := by
    rw [steps_ofText, hparts, List.filterMap_append, List.filterMap_append, filterMap_stepOf?_of_idle hrest,
      List.nil_append, List.filterMap_cons_some hstep, filterMap_stepOf?_of_idle hidle]
  rw [hpath, List.dropLast_concat]
  rw [steps_ofText, hjoined, String.toList_ofList, segments_joined hslash hbefore]

theorem absolute_parent {path : String} (h : (ofText path).steps ≠ []) (hparent : parent path ≠ "") :
    (ofText (parent path)).absolute = (ofText path).absolute := by
  obtain ⟨rest, hpath⟩ := exists_toList_eq_parent_append h hparent
  have hne : (parent path).toList ≠ [] := fun hnil => hparent (String.toList_eq_nil_iff.1 hnil)
  obtain ⟨c, others, hcons⟩ := List.exists_cons_of_ne_nil hne
  rw [absolute_ofText, absolute_ofText, hpath, hcons]
  rfl

theorem parse_eq_ok_iff {path : String} {route : Route} :
    parse path = .ok route ↔ path.toList.any (· = '\x00') = false ∧ path.toList ≠ [] ∧
      path.utf8ByteSize ≤ maxPathBytes ∧ route = ofText path := by
  unfold parse
  by_cases hnul : path.toList.any (· = '\x00') = true
  · simp [hnul]
  by_cases hnil : path.toList = []
  · simp [hnil]
  by_cases hlong : maxPathBytes < path.utf8ByteSize
  · have hle : ¬ path.utf8ByteSize ≤ maxPathBytes := by omega
    simp [hlong, hnul, hnil, hle]
  · have hle : path.utf8ByteSize ≤ maxPathBytes := by omega
    simp [hlong, hnul, hnil, hle, eq_comm]

theorem parse_parent {path : String} (h : (ofText path).steps ≠ []) (hparent : parent path ≠ "")
    {route : Route} (hparse : parse path = .ok route) :
    parse (parent path) = .ok (ofText (parent path)) := by
  obtain ⟨hnul, _, hlong, _⟩ := parse_eq_ok_iff.1 hparse
  obtain ⟨rest, hpath⟩ := exists_toList_eq_parent_append h hparent
  refine parse_eq_ok_iff.2 ⟨?_, fun hnil => hparent (String.toList_eq_nil_iff.1 hnil), ?_, rfl⟩
  · rw [hpath, List.any_append, Bool.or_eq_false_iff] at hnul
    exact hnul.1
  · have htext : path = parent path ++ String.ofList ('/' :: rest) := by
      rw [← String.toList_inj, String.toList_append, String.toList_ofList, hpath]
    rw [htext, String.utf8ByteSize_append] at hlong
    exact Nat.le_trans (Nat.le_add_right _ _) hlong

/-- Where nothing is left of a path without its last step, no other step is on it. -/
theorem dropLast_steps_of_parent {path : String} (h : (ofText path).steps ≠ [])
    (hparent : parent path = "") : (ofText path).steps.dropLast = [] := by
  obtain ⟨before, rest, last, idle, hparts, hrest, hlast, hidle, hend, hjoined⟩ := exists_parent h
  have hbefore : before = [] := by
    rcases List.eq_nil_or_concat before with hnil | ⟨front, part, hconcat⟩
    · exact hnil
    · rw [List.concat_eq_append] at hconcat
      subst hconcat
      have hpart := hend part (by simp)
      rw [hparent] at hjoined
      have htext : joined (front ++ [part]) = [] := by
        rw [← String.toList_ofList (l := joined (front ++ [part])), ← hjoined]
        rfl
      cases front with
      | nil =>
        rw [List.nil_append, joined_singleton] at htext
        rw [htext] at hpart
        cases hpart
      | cons first others =>
        rw [List.cons_append, joined_cons (by simp)] at htext
        simp at htext
  obtain ⟨step, hstep⟩ := exists_stepOf? hlast
  rw [steps_ofText, hparts, hbefore, List.nil_append, List.filterMap_append,
    filterMap_stepOf?_of_idle hrest, List.filterMap_cons_some hstep, filterMap_stepOf?_of_idle hidle]
  rfl

/-! ## Paths of names -/

/-- The segments of a path as names. -/
def names (path : String) : List String := (segments path.toList).map String.ofList

theorem names_ne_nil (path : String) : names path ≠ [] := by
  unfold names
  simpa using segments_ne_nil path.toList

theorem names_inj {path other : String} : names path = names other ↔ path = other := by
  constructor
  · intro h
    have hsegments : segments path.toList = segments other.toList :=
      (List.map_inj_right fun _ _ => String.ofList_inj.1).1 h
    rw [← String.toList_inj, ← joined_segments path.toList, hsegments, joined_segments]
  · rintro rfl
    rfl

/-- Every segment of the path is a name that a file can have. -/
def Named (path : String) : Prop :=
  ∀ segment ∈ segments path.toList, stepOf? segment = some (.name (String.ofList segment)) ∧
    (String.ofList segment).utf8ByteSize ≤ maxNameBytes

instance (path : String) : Decidable (Named path) :=
  inferInstanceAs (Decidable (∀ segment ∈ segments path.toList, _ ∧ _))

theorem Named.short {path : String} (h : Named path) :
    ∀ name ∈ names path, name.utf8ByteSize ≤ maxNameBytes := by
  intro name hname
  obtain ⟨segment, hsegment, rfl⟩ := List.mem_map.1 hname
  exact (h segment hsegment).2

theorem Named.steps_eq {path : String} (h : Named path) :
    (ofText path).steps = (names path).map .name := by
  rw [steps_ofText]
  unfold names
  unfold Named at h
  generalize segments path.toList = parts at h ⊢
  induction parts with
  | nil => rfl
  | cons first rest ih =>
    rw [List.filterMap_cons_some (h first List.mem_cons_self).1,
      ih fun segment hsegment => h segment (List.mem_cons_of_mem _ hsegment)]
    rfl

theorem Named.isIdle {path : String} (h : Named path) {segment : List Char}
    (hsegment : segment ∈ segments path.toList) : isIdle segment = false := by
  cases hidle : Route.isIdle segment with
  | false => rfl
  | true =>
    have hstep := (h segment hsegment).1
    rw [stepOf?_of_isIdle hidle] at hstep
    cases hstep

theorem Named.head_ne {path : String} (h : Named path) : path.toList.head? ≠ some '/' := by
  intro hhead
  obtain ⟨rest, hpath⟩ : ∃ rest, path.toList = '/' :: rest := by
    cases hlist : path.toList with
    | nil =>
      rw [hlist] at hhead
      cases hhead
    | cons c rest =>
      rw [hlist] at hhead
      cases hhead
      exact ⟨rest, rfl⟩
  have hidle := @Named.isIdle path h [] (by rw [hpath]; exact List.mem_cons_self)
  cases hidle

/-! ## Paths below another -/

/-- The segments of a path below another are put behind those of the other. -/
theorem exists_segments_joinPath {path : String} (h : path.toList.head? ≠ some '/') (root : String) :
    ∃ front, segments (joinPath root path).toList = front ++ segments path.toList ∧
      front.filterMap stepOf? = (ofText root).steps := by
  unfold joinPath
  by_cases hroot : root.toList = []
  · rw [if_pos (.inr hroot)]
    refine ⟨[], rfl, ?_⟩
    rw [steps_ofText, hroot]
    rfl
  rw [if_neg (by simp [h, hroot])]
  by_cases hslash : root.toList.getLast? = some '/'
  · obtain ⟨front, hfront⟩ := List.getLast?_eq_some_iff.1 hslash
    rw [if_pos hslash, String.toList_append, hfront, List.append_assoc]
    refine ⟨segments front, segments_append_slash front path.toList, ?_⟩
    rw [steps_ofText, hfront, segments_append_slash, List.filterMap_append]
    simp [segments, stepOf?, Route.isIdle]
  · rw [if_neg hslash, String.toList_append, String.toList_append, List.append_assoc]
    exact ⟨segments root.toList, segments_append_slash root.toList path.toList, rfl⟩

theorem steps_joinPath {path : String} (h : path.toList.head? ≠ some '/') (root : String) :
    (ofText (joinPath root path)).steps = (ofText root).steps ++ (ofText path).steps := by
  obtain ⟨front, hsegments, hfront⟩ := exists_segments_joinPath h root
  rw [steps_ofText, hsegments, List.filterMap_append, hfront, steps_ofText path]

theorem absolute_joinPath {path : String} (h : path.toList.head? ≠ some '/') (root : String) :
    (ofText (joinPath root path)).absolute = (ofText root).absolute := by
  rw [absolute_ofText, absolute_ofText]
  unfold joinPath
  by_cases hroot : root.toList = []
  · rw [if_pos (.inr hroot), hroot]
    simp [h]
  · rw [if_neg (by simp [h, hroot])]
    obtain ⟨c, rest, hcons⟩ := List.exists_cons_of_ne_nil hroot
    split
    · rw [String.toList_append, hcons]
      rfl
    · rw [String.toList_append, String.toList_append, hcons]
      rfl

theorem exists_getLast_joinPath {path : String} (h : Named path) (root : String) :
    ∃ front last, segments (joinPath root path).toList = front ++ [last] ∧
      Route.isIdle last = false := by
  obtain ⟨before, hsegments, -⟩ := exists_segments_joinPath h.head_ne root
  obtain ⟨front, last, hlast⟩ := List.eq_nil_or_concat (segments path.toList) |>.resolve_left
    (segments_ne_nil path.toList)
  rw [List.concat_eq_append] at hlast
  refine ⟨before ++ front, last, ?_, h.isIdle (hlast ▸ by simp)⟩
  rw [hsegments, hlast, List.append_assoc]

theorem trailingSlash_joinPath {path : String} (h : Named path) (root : String) :
    (ofText (joinPath root path)).trailingSlash = false := by
  obtain ⟨front, last, hsegments, hlast⟩ := exists_getLast_joinPath h root
  have hne : last ≠ [] := by
    rintro rfl
    cases hlast
  unfold ofText
  simp [hsegments, hne]

theorem trailingDot_joinPath {path : String} (h : Named path) (root : String) :
    (ofText (joinPath root path)).trailingDot = false := by
  obtain ⟨front, last, hsegments, hlast⟩ := exists_getLast_joinPath h root
  have hne : last ≠ [] := by
    rintro rfl
    cases hlast
  have hdot : last ≠ ['.'] := by
    rintro rfl
    cases hlast
  unfold ofText
  simp [hsegments, hne, hdot]

end Route

end LessonHistory

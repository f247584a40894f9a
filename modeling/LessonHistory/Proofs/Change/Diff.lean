-- What replayed changes leave behind, path by path, and what the changes between two states are.
-- They bring the first state to the second, and carried out on a third they touch only the paths
-- where the two differ. Each of these has one change, so the changes may come in any order, and
-- no others that do the same are fewer.
import LessonHistory.Diff
import Mathlib.Data.List.Nodup
import Mathlib.Data.List.Perm.Subperm

namespace LessonHistory

namespace FileState

theorem contains_iff {state : FileState} {path : String} :
    state.contains path = true ↔ ∃ text, state.get? path = some text :=
  Option.isSome_iff_exists

theorem not_contains_iff {state : FileState} {path : String} :
    state.contains path = false ↔ state.get? path = none := by
  unfold contains
  cases state.get? path <;> simp

theorem sorted_paths (state : FileState) : state.paths.Pairwise (· < ·) :=
  List.pairwise_map.2 state.sorted

/-! ## Replays -/

/-- Where all changes of a path leave the same, that is what the path has in the end. -/
theorem get?_replay_of_mem {changes : List Change} {path : String} {text? : Option String}
    (hsome : ∃ change ∈ changes, change.path = path)
    (hall : ∀ change ∈ changes, change.path = path → change.text? = text?) (state : FileState) :
    (state.replay changes).get? path = text? := by
  induction changes generalizing state with
  | nil =>
    obtain ⟨_, hmem, _⟩ := hsome
    cases hmem
  | cons change rest ih =>
    rw [replay_cons]
    -- The last change of the path is the one that counts.
    by_cases hrest : ∃ later ∈ rest, later.path = path
    · exact ih hrest (fun later hlater => hall later (List.mem_cons_of_mem _ hlater)) _
    · have hpath : change.path = path := by
        obtain ⟨found, hmem, hfound⟩ := hsome
        rcases List.mem_cons.1 hmem with rfl | hmem
        · exact hfound
        · exact absurd ⟨found, hmem, hfound⟩ hrest
      have hother : ∀ later ∈ rest, later.path ≠ path :=
        fun later hlater heq => hrest ⟨later, hlater, heq⟩
      rw [get?_replay_of_not_mem hother, get?_apply, if_pos hpath.symm]
      exact hall change List.mem_cons_self hpath

theorem get?_replay_of_same {changes : List Change} {path : String} {state : FileState}
    (h : ∀ change ∈ changes, change.path = path → change.text? = state.get? path) :
    (state.replay changes).get? path = state.get? path := by
  by_cases hsome : ∃ change ∈ changes, change.path = path
  · exact get?_replay_of_mem hsome h state
  · exact get?_replay_of_not_mem (fun change hchange heq => hsome ⟨change, hchange, heq⟩) state

/-- What a path has after a replay depends on that path alone. -/
theorem get?_replay_congr {a b : FileState} {path : String} (h : a.get? path = b.get? path)
    (changes : List Change) : (a.replay changes).get? path = (b.replay changes).get? path := by
  induction changes generalizing a b with
  | nil => exact h
  | cons change rest ih =>
    rw [replay_cons, replay_cons]
    apply ih
    rw [get?_apply, get?_apply, h]

theorem get?_replay_of_once {changes : List Change} (honce : (changes.map Change.path).Nodup)
    {change : Change} (hchange : change ∈ changes) (state : FileState) :
    (state.replay changes).get? change.path = change.text? := by
  apply get?_replay_of_mem ⟨change, hchange, rfl⟩
  intro other hother hpath
  rw [List.inj_on_of_nodup_map honce hother hchange hpath]

theorem apply_comm {change other : Change} (hpath : change.path ≠ other.path) (state : FileState) :
    other.apply (change.apply state) = change.apply (other.apply state) := by
  ext1 path
  simp only [get?_apply]
  split
  · rename_i hother
    rw [if_neg (hother ▸ hpath.symm)]
  · rfl

/-- Changes that name each path once may be replayed in any order. -/
theorem replay_perm {changes others : List Change} (h : changes.Perm others)
    (honce : (changes.map Change.path).Nodup) (state : FileState) :
    state.replay changes = state.replay others := by
  apply h.foldl_eq'
  intro change hchange other hother state
  by_cases hpath : change.path = other.path
  · rw [List.inj_on_of_nodup_map honce hchange hother hpath]
  · exact apply_comm hpath state

end FileState

/-! ## The changes between two states -/

/-- Whether the change brings its path from what it has in `a` to something else in `b`. -/
def Change.Between (a b : FileState) : Change → Prop
  | addFile path text => a.get? path = none ∧ b.get? path = some text
  | changeFile path text => (∃ old, a.get? path = some old ∧ old ≠ text) ∧ b.get? path = some text
  | removeFile path => (∃ old, a.get? path = some old) ∧ b.get? path = none
  | _ => False

namespace FileState

theorem writeChange_eq_some_iff {a : FileState} {path text : String} {change : Change} :
    a.writeChange path text = some change ↔
      (a.get? path = none ∧ .addFile path text = change) ∨
      ((∃ old, a.get? path = some old ∧ old ≠ text) ∧ .changeFile path text = change) := by
  unfold writeChange
  cases hold : a.get? path with
  | none => simp
  | some old => by_cases hsame : old = text <;> simp [hsame]

/-- The changes between two states are those that a path needs where the two differ. -/
theorem mem_diff_iff {a b : FileState} {change : Change} :
    change ∈ a.diff b ↔ change.Between a b := by
  unfold diff
  simp only [List.mem_append, List.mem_filterMap, Prod.exists, mem_entries_iff,
    writeChange_eq_some_iff, List.mem_map, List.mem_filter, mem_paths_iff, contains_iff,
    Bool.not_eq_true', not_contains_iff]
  cases change with
  | addFile path text => simp [Change.Between, and_comm]
  | changeFile path text => simp [Change.Between, and_comm]
  | removeFile path => simp [Change.Between]
  | addTaskFile path text => simp [Change.Between]
  | removeTaskFile path => simp [Change.Between]

/-- A change between two states is about a path where they differ, and writes what the second
has there. -/
theorem of_mem_diff {a b : FileState} {change : Change} (h : change ∈ a.diff b) :
    a.get? change.path ≠ b.get? change.path ∧ change.text? = b.get? change.path ∧
      change.isStructural = false := by
  have hbetween := mem_diff_iff.1 h
  cases change with
  | addFile path text =>
    obtain ⟨hold, hnew⟩ := hbetween
    simp [Change.path, Change.text?, Change.isStructural, hold, hnew]
  | changeFile path text =>
    obtain ⟨⟨old, hold, hne⟩, hnew⟩ := hbetween
    simp [Change.path, Change.text?, Change.isStructural, hold, hnew, hne]
  | removeFile path =>
    obtain ⟨⟨old, hold⟩, hnew⟩ := hbetween
    simp [Change.path, Change.text?, Change.isStructural, hold, hnew]
  | addTaskFile path text => exact hbetween.elim
  | removeTaskFile path => exact hbetween.elim

theorem exists_mem_diff {a b : FileState} {path : String} (h : a.get? path ≠ b.get? path) :
    ∃ change ∈ a.diff b, change.path = path := by
  cases hnew : b.get? path with
  | none =>
    rw [hnew] at h
    exact ⟨.removeFile path, mem_diff_iff.2 ⟨Option.ne_none_iff_exists'.1 h, hnew⟩, rfl⟩
  | some text =>
    rw [hnew] at h
    cases hold : a.get? path with
    | none => exact ⟨.addFile path text, mem_diff_iff.2 ⟨hold, hnew⟩, rfl⟩
    | some old =>
      have hne : old ≠ text := fun hsame => h (hsame ▸ hold)
      exact ⟨.changeFile path text, mem_diff_iff.2 ⟨⟨old, hold, hne⟩, hnew⟩, rfl⟩

theorem path_of_writeChange {a : FileState} {path text : String} {change : Change}
    (h : a.writeChange path text = some change) : change.path = path := by
  rcases writeChange_eq_some_iff.1 h with ⟨-, rfl⟩ | ⟨-, rfl⟩
  · rfl
  · rfl

theorem writeChange_eq_none_iff {a : FileState} {path text : String} :
    a.writeChange path text = none ↔ a.get? path = some text := by
  unfold writeChange
  cases hold : a.get? path with
  | none => simp
  | some old => by_cases hsame : old = text <;> simp [hsame]

/-- What is written is about the entries that the first state does not have. -/
theorem map_path_filterMap (a : FileState) (entries : List (String × String)) :
    (entries.filterMap fun entry => a.writeChange entry.1 entry.2).map Change.path
      = (entries.filter fun entry => a.get? entry.1 ≠ some entry.2).map (·.1) := by
  induction entries with
  | nil => rfl
  | cons entry rest ih =>
    rw [List.filterMap_cons]
    cases hchange : a.writeChange entry.1 entry.2 with
    | none =>
      have hsame := writeChange_eq_none_iff.1 hchange
      rw [List.filter_cons_of_neg (by simp [hsame]), ← ih]
    | some change =>
      have hdiffer : a.get? entry.1 ≠ some entry.2 := by
        intro hsame
        rw [writeChange_eq_none_iff.2 hsame] at hchange
        cases hchange
      rw [List.filter_cons_of_pos (by simp [hdiffer]), List.map_cons, List.map_cons, ih,
        path_of_writeChange hchange]

/-- First come the paths of the second state where the two differ, then those that only the first
state has. -/
theorem map_path_diff (a b : FileState) : (a.diff b).map Change.path
    = (b.paths.filter fun path => a.get? path ≠ b.get? path)
      ++ a.paths.filter fun path => !b.contains path := by
  unfold diff
  rw [List.map_append, map_path_filterMap, List.map_map]
  congr 1
  · rw [paths, List.filter_map]
    congr 1
    apply List.filter_congr
    intro entry hentry
    rw [Function.comp_apply, mem_entries_iff.1 hentry]
  · exact List.map_id _

theorem nodup_diff (a b : FileState) : ((a.diff b).map Change.path).Nodup := by
  have hnodup : ∀ state : FileState, state.paths.Nodup := fun state => state.sorted_paths.nodup
  rw [map_path_diff, List.nodup_append]
  refine ⟨(hnodup b).filter _, (hnodup a).filter _, ?_⟩
  -- A file that is written is one of the second state, and a file that is removed is not.
  intro path hpath other hother heq
  have hin := mem_paths_iff.1 (List.mem_filter.1 hpath).1
  have hout := (List.mem_filter.1 hother).2
  rw [← heq, hin] at hout
  cases hout

theorem get?_replay_diff (a b state : FileState) (path : String) :
    (state.replay (a.diff b)).get? path
      = if a.get? path = b.get? path then state.get? path else b.get? path := by
  by_cases h : a.get? path = b.get? path
  · rw [if_pos h]
    apply get?_replay_of_not_mem
    intro change hchange hpath
    have hne := (of_mem_diff hchange).1
    rw [hpath] at hne
    exact hne h
  · rw [if_neg h]
    obtain ⟨change, hchange, rfl⟩ := exists_mem_diff h
    rw [get?_replay_of_once (nodup_diff a b) hchange, (of_mem_diff hchange).2.1]

theorem replay_diff (a b : FileState) : a.replay (a.diff b) = b := by
  ext1 path
  rw [get?_replay_diff]
  split
  · assumption
  · rfl

/-- Plain edits do not alter which files belong to a task. -/
theorem replayStructural_diff (state a b : FileState) :
    state.replayStructural (a.diff b) = state := by
  unfold replayStructural
  rw [List.filter_eq_nil_iff.2 fun change hchange => by simp [(of_mem_diff hchange).2.2],
    replay_nil]

/-- In any order the changes between two states bring the first to the second. Of any other state
they alter just the paths where the two differ, and these have then what the second has. -/
theorem changes_between_states_may_come_in_any_order {a b : FileState} {changes : List Change}
    (h : changes.Perm (a.diff b)) :
    a.replay changes = b ∧ ∀ (state : FileState) (path : String),
      (state.replay changes).get? path
        = if a.get? path = b.get? path then state.get? path else b.get? path := by
  have hsame : ∀ state : FileState, state.replay changes = state.replay (a.diff b) :=
    fun state => (replay_perm h.symm (nodup_diff a b) state).symm
  refine ⟨?_, ?_⟩
  · rw [hsame, replay_diff]
  · intro state path
    rw [hsame, get?_replay_diff]

/-- The removal may come first, also in a workspace with a file that neither state has. -/
theorem a_removal_may_come_first :
    (ofList [("a", "x"), ("b", "y")]).replay
        [.removeFile "b", .addFile "c" "w", .changeFile "a" "z"]
      = ofList [("a", "z"), ("c", "w")] ∧
    ((ofList [("b", "u"), ("d", "v")]).replay
        [.removeFile "b", .addFile "c" "w", .changeFile "a" "z"]).get? "d" = some "v" := by
  have h : [.removeFile "b", .addFile "c" "w", .changeFile "a" "z"].Perm
      ((ofList [("a", "x"), ("b", "y")]).diff (ofList [("a", "z"), ("c", "w")])) := by decide
  obtain ⟨hreplay, hother⟩ := changes_between_states_may_come_in_any_order h
  refine ⟨hreplay, ?_⟩
  rw [hother]
  decide

/-! ## As few changes as possible -/

/-- Whatever brings the first state to the second has a change for every path where they differ. -/
theorem length_diff_le {a b : FileState} {changes : List Change} (h : a.replay changes = b) :
    (a.diff b).length ≤ changes.length := by
  have hpaths : (a.diff b).map Change.path ⊆ changes.map Change.path := by
    intro path hpath
    obtain ⟨change, hchange, rfl⟩ := List.mem_map.1 hpath
    by_contra hnone
    have hkept : (a.replay changes).get? change.path = a.get? change.path :=
      get?_replay_of_not_mem (fun other hother heq => hnone (List.mem_map.2 ⟨other, hother, heq⟩)) a
    rw [h] at hkept
    exact (of_mem_diff hchange).1 hkept.symm
  simpa using (nodup_diff a b).length_le_of_subset hpaths

/-- No other changes that bring the first state to the second are fewer. No two of them are about
the same path. They add what only the second state has, overwrite what both have with different
texts, and remove what only the first has, and nothing alters which files belong to a task. The
paths that are written come first, then those that are removed, both in ascending order. -/
theorem no_other_changes_between_states_are_fewer (a b : FileState) :
    let written := b.paths.filter fun path => a.get? path ≠ b.get? path
    let removed := a.paths.filter fun path => !b.contains path
    (∀ changes, a.replay changes = b → (a.diff b).length ≤ changes.length) ∧
    ((a.diff b).map Change.path).Nodup ∧
    (∀ path text, .addFile path text ∈ a.diff b ↔
      a.get? path = none ∧ b.get? path = some text) ∧
    (∀ path text, .changeFile path text ∈ a.diff b ↔
      (∃ old, a.get? path = some old ∧ old ≠ text) ∧ b.get? path = some text) ∧
    (∀ path, .removeFile path ∈ a.diff b ↔
      (∃ old, a.get? path = some old) ∧ b.get? path = none) ∧
    (∀ change ∈ a.diff b, change.isStructural = false) ∧
    (a.diff b).map Change.path = written ++ removed ∧
    written.Pairwise (· < ·) ∧ removed.Pairwise (· < ·) := by
  intro written removed
  refine ⟨fun changes hchanges => length_diff_le hchanges, nodup_diff a b, ?_, ?_, ?_, ?_,
    map_path_diff a b, b.sorted_paths.filter _, a.sorted_paths.filter _⟩
  · exact fun path text => mem_diff_iff
  · exact fun path text => mem_diff_iff
  · exact fun path => mem_diff_iff
  · exact fun change hchange => (of_mem_diff hchange).2.2

/-- A detour that takes a file away and brings it back is longer. -/
theorem a_detour_is_longer :
    let a := ofList [("a", "x"), ("b", "y")]
    let b := ofList [("a", "z"), ("c", "w")]
    let detour : List Change :=
      [.removeTaskFile "a", .addFile "a" "z", .addTaskFile "c" "w", .removeFile "b"]
    a.replay detour = b ∧ (a.diff b).length ≤ detour.length ∧
      (a.diff b).map Change.path = ["a", "c"] ++ ["b"] := by
  intro a b detour
  have hdetour : a.replay detour = b := by decide
  obtain ⟨hfewest, -, -, -, -, -, hpaths, -⟩ := no_other_changes_between_states_are_fewer a b
  refine ⟨hdetour, hfewest detour hdetour, ?_⟩
  rw [hpaths]
  decide

end FileState

end LessonHistory

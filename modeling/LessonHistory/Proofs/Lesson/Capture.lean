-- What a move captures of the learner's files: what can be read at the paths of the task. When
-- only some of the changes between two states were carried out before, each of the others is the
-- only one of its path, so the state that was to be reached is captured just when these others
-- write what is there.
import LessonHistory.Proofs.Change.Diff
import LessonHistory.Workspace.Basic
import Mathlib.Data.List.Induction

namespace LessonHistory

namespace FileState

/-- What is captured of the files `own` is a given state just when it has no other files, and is
the same at each of these. -/
theorem eq_iff_of_captured {captured before own inside : FileState} {same : String → Prop}
    (hcaptured : ∀ path, captured.get? path = if own.contains path then inside.get? path else none)
    (hsame : ∀ path, own.contains path = true →
      (inside.get? path = before.get? path ↔ same path)) :
    captured = before ↔
      (∀ path, before.contains path = true → own.contains path = true) ∧
      ∀ path, own.contains path = true → same path := by
  constructor
  · rintro rfl
    refine ⟨?_, ?_⟩
    · intro path hpath
      obtain ⟨text, htext⟩ := contains_iff.1 hpath
      rw [hcaptured] at htext
      split at htext
      · assumption
      · cases htext
    · intro path hown
      rw [← hsame path hown, hcaptured, if_pos hown]
  · rintro ⟨hall, hown⟩
    ext1 path
    rw [hcaptured]
    split
    · rename_i hpath
      exact (hsame path hpath).2 (hown path hpath)
    · rename_i hpath
      symm
      rw [← not_contains_iff, ← Bool.not_eq_true]
      exact fun hbefore => hpath (hall path hbefore)

/-! ## Some of the changes between two states -/

section

variable {a b : FileState} {done undone : List Change}

/-- A change that was not carried out is the only one of its path. -/
theorem path_ne_of_split (h : a.diff b = done ++ undone) {change other : Change}
    (hdone : change ∈ done) (hundone : other ∈ undone) : change.path ≠ other.path := by
  have hnodup := nodup_diff a b
  rw [h, List.map_append, List.nodup_append] at hnodup
  exact hnodup.2.2 _ (List.mem_map_of_mem hdone) _ (List.mem_map_of_mem hundone)

/-- After some of the changes between two states were carried out, a path is as in the second state
just when a change of it that is left writes what is there, and it was so where none is needed. -/
theorem get?_replay_eq_iff_of_split (h : a.diff b = done ++ undone) (files : FileState)
    (path : String) :
    (files.replay done).get? path = b.get? path ↔
      (∀ change ∈ undone, change.path = path → files.get? path = change.text?) ∧
      (a.get? path = b.get? path → files.get? path = b.get? path) := by
  by_cases hsame : a.get? path = b.get? path
  · have hnone : ∀ change ∈ done ++ undone, change.path ≠ path := by
      rintro change hchange rfl
      exact (of_mem_diff (h ▸ hchange)).1 hsame
    rw [get?_replay_of_not_mem fun change hdone => hnone change (List.mem_append_left _ hdone)]
    constructor
    · intro hget
      exact ⟨fun change hundone hpath =>
        absurd hpath (hnone change (List.mem_append_right _ hundone)), fun _ => hget⟩
    · exact fun hget => hget.2 hsame
  · obtain ⟨change, hchange, rfl⟩ := exists_mem_diff hsame
    have htext : ∀ other ∈ done ++ undone, other.text? = b.get? other.path := fun other hother =>
      (of_mem_diff (h ▸ hother)).2.1
    rcases List.mem_append.1 (h ▸ hchange) with hdone | hundone
    · have hget : (files.replay done).get? change.path = b.get? change.path := by
        apply get?_replay_of_mem ⟨change, hdone, rfl⟩
        intro other hother hpath
        rw [htext other (List.mem_append_left _ hother), hpath]
      exact iff_of_true hget ⟨fun other hother hpath =>
        absurd hpath.symm (path_ne_of_split h hdone hother), fun heq => absurd heq hsame⟩
    · rw [get?_replay_of_not_mem fun other hother => path_ne_of_split h hother hundone]
      constructor
      · intro hget
        refine ⟨?_, fun _ => hget⟩
        intro other hother hpath
        rw [hget, htext other (List.mem_append_right _ hother), hpath]
      · intro hrest
        rw [hrest.1 change hundone rfl, htext change (List.mem_append_right _ hundone)]

/-- What is captured of the files `own`, after some of the changes to the state `before`, is that
state just when it has no other files, the changes that are left alter none of its files, and no
other files were there. -/
theorem captured_eq_iff_of_split {captured before left own files onDisk : FileState}
    (hcaptured : ∀ path, captured.get? path
      = if own.contains path then (files.replay done).get? path else none)
    (honDisk : ∀ path, onDisk.get? path = if left.contains path then files.get? path else none)
    (hchanges : onDisk.diff before = done ++ undone) :
    captured = before ↔
      (∀ path, before.contains path = true → own.contains path = true) ∧
      (∀ change ∈ undone, own.contains change.path = true →
        files.get? change.path = change.text?) ∧
      ∀ path, own.contains path = true → left.contains path = false →
        before.contains path = false → files.contains path = false := by
  have hpath : ∀ path, own.contains path = true →
      ((files.replay done).get? path = before.get? path ↔
        (∀ change ∈ undone, change.path = path → files.get? path = change.text?) ∧
        (left.contains path = false → before.contains path = false →
          files.contains path = false)) := by
    intro path _
    rw [get?_replay_eq_iff_of_split hchanges, honDisk]
    refine and_congr_right fun _ => ?_
    cases left.contains path with
    | true => simp
    | false =>
      simp only [Bool.false_eq_true, if_false, true_imp_iff, not_contains_iff]
      constructor
      · intro hget hnone
        rw [hget hnone.symm, hnone]
      · intro hget hnone
        rw [hget hnone.symm, hnone]
  rw [eq_iff_of_captured hcaptured hpath]
  refine and_congr_right fun _ => ?_
  constructor
  · intro hown
    refine ⟨?_, fun path hpath => (hown path hpath).2⟩
    intro change hundone hpath
    exact (hown _ hpath).1 change hundone rfl
  · rintro ⟨hrest, hothers⟩ path hown
    refine ⟨?_, hothers path hown⟩
    rintro change hundone rfl
    exact hrest change hundone hown

end

end FileState

/-! ## What is captured of a workspace -/

namespace Workspace

variable {ω : Type} [Workspace ω]

/-- The text of the file at a path. Of a file that cannot be read there is none. -/
def text? (workspace : ω) (path : String) : Option String :=
  match read workspace path with
  | .ok text? => text?
  | .error _ => none

theorem get?_capture (workspace : ω) (paths : List String) (path : String) :
    (capture workspace paths).1.get? path
      = if path ∈ paths then text? workspace path else none := by
  induction paths using List.reverseRecOn with
  | nil => rfl
  | append_singleton front last ih =>
    have hlast : (capture workspace (front ++ [last])).1 = (text? workspace last).elim
        (capture workspace front).1 fun text => (capture workspace front).1.insert last text := by
      unfold capture text?
      rw [List.foldl_append, List.foldl_cons, List.foldl_nil]
      rcases read workspace last with error | _ | text
      · rfl
      · rfl
      · rfl
    rw [hlast]
    by_cases hsame : path = last
    · subst hsame
      cases htext : text? workspace path with
      | none => simp [ih, htext]
      | some text => simp
    · cases text? workspace last with
      | none => simp [ih, hsame]
      | some text => simp [ih, hsame]

end Workspace

namespace MemoryWorkspace

/-- The state with the file that the workspace has at a path, if it has one. -/
def addTo (workspace : MemoryWorkspace) (state : FileState) (path : String) : FileState :=
  match workspace.files.get? path with
  | some text => state.insert path text
  | none => state

theorem capture_eq (workspace : MemoryWorkspace) (paths : List String) :
    Workspace.capture workspace paths = (paths.foldl workspace.addTo .empty, []) := by
  have hread : ∀ path, Workspace.read workspace path = .ok (workspace.files.get? path) :=
    fun path => rfl
  unfold Workspace.capture
  apply List.foldl_hom (fun state => (state, ([] : List Notice)))
  intro state path
  unfold addTo
  simp only [hread]
  cases workspace.files.get? path <;> rfl

theorem get?_capture (workspace : MemoryWorkspace) (paths : List String) (path : String) :
    (Workspace.capture workspace paths).1.get? path
      = if path ∈ paths then workspace.files.get? path else none :=
  Workspace.get?_capture workspace paths path

theorem get?_edit (workspace : MemoryWorkspace) (path : String) (text? : Option String)
    (other : String) :
    (workspace.edit path text?).files.get? other
      = if other = path then text? else workspace.files.get? other := by
  unfold edit
  cases text? <;> simp

end MemoryWorkspace

end LessonHistory

-- Directories that are not there yet. Nothing is found below them, and the first file that is written
-- below them has them all made, one in the other. Then the volume is as if they had been made first.
import LessonHistory.Proofs.Volume.Below

namespace LessonHistory

namespace Volume

variable {volume : Volume} {place : Place} {names front back : List String} {name : String}

/-- Nothing stands in the directory under the first of the names, nor behind it under the others,
and everything on the way could be made. -/
structure Lacks (volume : Volume) (place : Place) (names : List String) : Prop where
  short : ∀ name ∈ names, name.utf8ByteSize ≤ Route.maxNameBytes
  unsealed : volume.isSealed (place ++ names) = false
  unlinked : ∀ front, front ≠ [] → front <+: names → volume.links.lookup (place ++ front) = none
  missing : ∀ front, front ≠ [] → front <+: names → volume.get? (place ++ front) = none

/-- The volume with a directory under each of the names, one in the other. -/
def pave (volume : Volume) (place : Place) : List String → Volume
  | [] => volume
  | name :: rest => (volume.put (place ++ [name]) .directory).pave (place ++ [name]) rest

theorem pave_append (volume : Volume) (place : Place) (front back : List String) :
    volume.pave place (front ++ back) = (volume.pave place front).pave (place ++ front) back := by
  induction front generalizing volume place with
  | nil => rw [List.nil_append, List.append_nil, pave]
  | cons name rest ih =>
    rw [List.cons_append, pave, pave, ih, List.append_assoc, List.singleton_append]

theorem pave_concat (volume : Volume) (place : Place) (names : List String) (name : String) :
    volume.pave place (names ++ [name])
      = (volume.pave place names).put (place ++ (names ++ [name])) .directory := by
  rw [pave_append, ← List.append_assoc]
  rfl

theorem isSealed_append (h : volume.isSealed (place ++ names) = false) :
    volume.isSealed place = false := by
  unfold isSealed at h ⊢
  rw [List.any_eq_false] at h ⊢
  intro directory hdirectory hpart
  refine h directory hdirectory ?_
  rw [List.isPrefixOf_iff_prefix] at hpart ⊢
  exact hpart.trans (List.prefix_append _ _)

theorem Lacks.of_append (h : volume.Lacks place (front ++ back)) : volume.Lacks place front where
  short other hother := h.short other (List.mem_append_left _ hother)
  unsealed := by
    have hunsealed := h.unsealed
    rw [← List.append_assoc] at hunsealed
    exact isSealed_append hunsealed
  unlinked part hne hpart := h.unlinked part hne (hpart.trans (List.prefix_append _ _))
  missing part hne hpart := h.missing part hne (hpart.trans (List.prefix_append _ _))

theorem Lacks.pavedBy (h : volume.Lacks place names) :
    volume.PavedBy place names (volume.pave place names) := by
  induction names using List.reverseRecOn with
  | nil =>
    refine pavedBy_of_paved ?_
    intro front hfront hpart
    exact absurd (List.prefix_nil.1 hpart) hfront
  | append_singleton names name ih =>
    rw [pave_concat]
    exact (ih h.of_append).put (h.missing _ (by simp) List.prefix_rfl)

theorem Lacks.entry_eq {rest : List String} (h : volume.Lacks place (name :: rest)) :
    volume.entry place name = .ok none := by
  have hfirst : [name] <+: name :: rest := ⟨rest, rfl⟩
  have hchild : volume.child place name = place ++ [name] := by
    unfold child
    rw [h.unlinked [name] (by simp) hfirst]
    rfl
  rw [entry_eq_ok_iff, hchild]
  exact ⟨h.short name List.mem_cons_self, h.missing [name] (by simp) hfirst⟩

theorem Lacks.enter_eq (h : volume.Lacks place names) (hne : names ≠ []) :
    volume.enter place (names.map .name) = .error .noSuchFile := by
  obtain ⟨name, rest, rfl⟩ := List.exists_cons_of_ne_nil hne
  rw [List.map_cons, enter, h.entry_eq]

/-- A way through what was missing leads to the end once it is made. -/
theorem Lacks.enter_pave (h : volume.Lacks place names) :
    (volume.pave place names).enter place (names.map .name) = .ok (place ++ names) := by
  refine enter_of_paved ?_ h.short h.pavedBy.paved
  rw [h.pavedBy.links]
  exact h.unlinked

/-- What is missing behind other missing names is missing when those were made. -/
theorem Lacks.behind (h : volume.Lacks place (front ++ back)) :
    (volume.pave place front).Lacks (place ++ front) back where
  short other hother := h.short other (List.mem_append_right _ hother)
  unsealed := by
    unfold isSealed
    rw [h.of_append.pavedBy.sealedPlaces, List.append_assoc]
    exact h.unsealed
  unlinked part hne hpart := by
    rw [h.of_append.pavedBy.links, List.append_assoc]
    exact h.unlinked _ (by simp [hne]) ((List.prefix_append_right_inj front).2 hpart)
  missing part hne hpart := by
    rw [List.append_assoc, h.of_append.pavedBy.get?_behind hne]
    exact h.missing _ (by simp [hne]) ((List.prefix_append_right_inj front).2 hpart)

/-! ## Places with nothing below -/

/-- Nothing is below the place, and everything could be made there. -/
structure Bare (volume : Volume) (base : Place) : Prop where
  empty : ∀ names, names ≠ [] → volume.get? (base ++ names) = none
  unlinked : ∀ names, names ≠ [] → volume.links.lookup (base ++ names) = none
  unsealed : ∀ names, volume.isSealed (base ++ names) = false

theorem Bare.orderly {base : Place} (h : volume.Bare base) : volume.Orderly base where
  unlinked := h.unlinked
  unsealed := h.unsealed
  closed front back hfront _ hthere := absurd (h.empty (front ++ back) (by simp [hfront])) hthere

/-- Behind missing names that lead to such a place all others are missing. -/
theorem Lacks.append (h : volume.Lacks place front) (hbare : volume.Bare (place ++ front))
    (hshort : ∀ name ∈ back, name.utf8ByteSize ≤ Route.maxNameBytes) :
    volume.Lacks place (front ++ back) := by
  refine ⟨?_, ?_, ?_, ?_⟩
  · intro name hname
    exact (List.mem_append.1 hname).elim (h.short name) (hshort name)
  · rw [← List.append_assoc]
    exact hbare.unsealed back
  · intro part hne hpart
    rcases prefix_append_cases hpart with hin | ⟨rest, hrest, rfl⟩
    · exact h.unlinked part hne hin
    · rw [← List.append_assoc]
      exact hbare.unlinked rest hrest
  · intro part hne hpart
    rcases prefix_append_cases hpart with hin | ⟨rest, hrest, rfl⟩
    · exact h.missing part hne hin
    · rw [← List.append_assoc]
      exact hbare.empty rest hrest

theorem PavedBy.bare {after : Volume} (h : volume.PavedBy place names after)
    (hbare : volume.Bare (place ++ names)) : after.Bare (place ++ names) where
  empty rest hrest := by
    rw [List.append_assoc, h.get?_behind hrest, ← List.append_assoc]
    exact hbare.empty rest hrest
  unlinked := by
    rw [h.links]
    exact hbare.unlinked
  unsealed := by
    unfold isSealed
    rw [h.sealedPlaces]
    exact hbare.unsealed

end Volume

namespace Disk

variable {volume : Volume} {start place : Place} {root : List Step} {names : List String}

theorem run_makeDirectories_of_lacks (hroot : volume.enter start root = .ok place)
    (h : volume.Lacks place names) :
    (makeDirectories start (root ++ names.map Step.name).reverse).run volume
      = (.ok (), volume.pave place names) := by
  induction names using List.reverseRecOn with
  | nil =>
    rw [List.map_nil, List.append_nil]
    exact run_makeDirectories_of_enter hroot
  | append_singleton names name ih =>
    have hmake : (makeDirectory start ((root ++ names.map Step.name) ++ [.name name])).run
        (volume.pave place names) = (.ok (), volume.pave place (names ++ [name])) := by
      rw [Volume.pave_concat, ← List.append_assoc]
      apply run_makeDirectory_of_none
      · rw [enter_root_append (h.of_append.pavedBy.enter_eq hroot)]
        exact h.of_append.enter_pave
      · exact h.behind.entry_eq
      · exact Volume.isSealed_append h.behind.unsealed
    rw [List.map_append, ← List.append_assoc]
    -- Only the first directory can be made at once. Every other waits for the one before it.
    by_cases hnames : names = []
    · subst hnames
      exact run_makeDirectories_concat hmake
    · refine run_makeDirectories_concat_of_missing ?_ (ih h.of_append) hmake
      rw [enter_root_append hroot]
      exact h.of_append.enter_eq hnames

/-- All that is missing on the way to a file is made. -/
theorem run_makeParents_of_lacks {path name : String}
    (h : volume.Descends path place (names ++ [name])) (hlacks : volume.Lacks place names) :
    (makeParents path).run volume = (.ok (), volume.pave place names) := by
  obtain ⟨root, hroot, hparents⟩ := run_makeParents_of_descends h
  rw [hparents]
  exact run_makeDirectories_of_lacks hroot hlacks

end Disk

end LessonHistory

-- Where a path leads on a volume, and what keeps it leading there. Once a path leads to a
-- file, making the directories on the way does nothing, opening it gives its place, and
-- neither a change of the file nor a new file in its place turns the path elsewhere.
import LessonHistory.FileState
import LessonHistory.Proofs.Volume.Route
import LessonHistory.Volume.Tree
import Mathlib.Order.Defs.Unbundled

namespace LessonHistory

/-! ## Operations on a volume, one after the other -/

namespace Disk

variable {α β : Type}

theorem run_bind (first : Disk α) (next : α → Disk β) (volume : Volume) :
    (first >>= next).run volume = match first.run volume with
      | (.ok value, after) => (next value).run after
      | (.error fault, after) => (.error fault, after) := by
  unfold ExceptT.run
  simp only [bind, ExceptT.bind, ExceptT.mk, StateT.bind, ExceptT.bindCont]
  cases first volume with
  | mk outcome after => cases outcome <;> rfl

theorem run_bind_of_ok {first : Disk α} {value : α} {volume after : Volume}
    (h : first.run volume = (.ok value, after)) (next : α → Disk β) :
    (first >>= next).run volume = (next value).run after := by
  rw [run_bind, h]

theorem exists_of_run_bind_ok {first : Disk α} {next : α → Disk β} {volume after : Volume}
    {result : β} (h : (first >>= next).run volume = (.ok result, after)) :
    ∃ value middle, first.run volume = (.ok value, middle) ∧
      (next value).run middle = (.ok result, after) := by
  rw [run_bind] at h
  split at h
  · rename_i value middle hfirst
    exact ⟨value, middle, hfirst, h⟩
  · cases h

theorem run_get (volume : Volume) : (get : Disk Volume).run volume = (.ok volume, volume) := rfl

theorem run_modify (f : Volume → Volume) (volume : Volume) :
    (modify f : Disk Unit).run volume = (.ok (), f volume) := rfl

theorem run_look (f : Volume → Except Fault α) (volume : Volume) :
    (look f).run volume = (f volume, volume) := by
  unfold look
  rw [run_bind_of_ok (run_get volume)]
  cases f volume <;> rfl

theorem exists_of_run_look_bind_ok {f : Volume → Except Fault α} {next : α → Disk β}
    {volume after : Volume} {result : β}
    (h : (look f >>= next).run volume = (.ok result, after)) :
    ∃ value, f volume = .ok value ∧ (next value).run volume = (.ok result, after) := by
  obtain ⟨value, middle, hlook, hnext⟩ := exists_of_run_bind_ok h
  rw [run_look] at hlook
  obtain ⟨hvalue, rfl⟩ := Prod.mk.inj hlook
  exact ⟨value, hvalue, hnext⟩

theorem cases_of_run_look_bind_error {f : Volume → Except Fault α} {next : α → Disk β}
    {volume after : Volume} {fault : Fault}
    (h : (look f >>= next).run volume = (.error fault, after)) :
    after = volume ∨ ∃ value, f volume = .ok value ∧
      (next value).run volume = (.error fault, after) := by
  rw [run_bind, run_look] at h
  cases hvalue : f volume with
  | error cause =>
    rw [hvalue] at h
    cases h
    exact .inl rfl
  | ok value =>
    rw [hvalue] at h
    exact .inr ⟨value, rfl, h⟩

theorem run_tryCatch (action : Disk α) (handler : Fault → Disk α) (volume : Volume) :
    (tryCatch action handler).run volume = match action.run volume with
      | (.ok value, after) => (.ok value, after)
      | (.error fault, after) => (handler fault).run after := by
  show (ExceptT.tryCatch action handler).run volume = _
  unfold ExceptT.run ExceptT.tryCatch
  simp only [bind, ExceptT.mk, StateT.bind]
  cases action volume with
  | mk outcome after => cases outcome <;> rfl

end Disk

namespace Volume

/-! ## Looking at places -/

theorem get?_put_of_ne {place other : Place} (h : other ≠ place) (volume : Volume) (node : Node) :
    (volume.put place node).get? other = volume.get? other := by
  have hkeep : (other != place) = true := by simpa using h
  unfold get? put
  simp only [FileState.lookup_entry_cons, if_neg h, FileState.lookup_filter_key (· != place),
    if_pos hkeep]

theorem get?_put_self {place : Place} (h : place ≠ []) (volume : Volume) (node : Node) :
    (volume.put place node).get? place = some node := by
  unfold get? put
  rw [if_neg h, FileState.lookup_entry_cons, if_pos rfl]

theorem get?_remove_of_ne {place other : Place} (h : other ≠ place) (volume : Volume) :
    (volume.remove place).get? other = volume.get? other := by
  have hkeep : (other != place) = true := by simpa using h
  unfold get? remove
  simp only [FileState.lookup_filter_key (· != place), if_pos hkeep]

theorem get?_remove_self {place : Place} (h : place ≠ []) (volume : Volume) :
    (volume.remove place).get? place = none := by
  unfold get? remove
  simp only [h, if_false, FileState.lookup_filter_key (· != place), bne_self_eq_false]
  rfl

theorem put_put (volume : Volume) (place : Place) (first second : Node) :
    (volume.put place first).put place second = volume.put place second := by
  unfold put
  simp

theorem get?_root (volume : Volume) : volume.get? [] = some .directory := rfl

theorem content?_eq_some_iff {volume : Volume} {place : Place} {content : List UInt8} :
    volume.content? place = some content ↔ volume.get? place = some (.file content) := by
  unfold content?
  split
  · rename_i found hfound
    rw [hfound, Option.some_inj, Option.some_inj, Node.file.injEq]
  · rename_i hother
    constructor
    · intro h
      cases h
    · intro h
      exact absurd h (hother content)

theorem ne_root_of_content? {volume : Volume} {place : Place} {content : List UInt8}
    (h : volume.content? place = some content) : place ≠ [] := by
  rintro rfl
  cases h

theorem content?_put {place : Place} (h : place ≠ []) (volume : Volume) (content : List UInt8) :
    (volume.put place (.file content)).content? place = some content := by
  rw [content?_eq_some_iff, get?_put_self h]

/-! ## Following a way -/

theorem enter_name_eq_ok_iff {volume : Volume} {directory middle : Place} {name : String}
    {rest : List Step} :
    volume.enter directory (.name name :: rest) = .ok middle ↔
      volume.entry directory name = .ok (some .directory) ∧
        volume.enter (volume.child directory name) rest = .ok middle := by
  rw [enter]
  cases h : volume.entry directory name with
  | error fault => simp
  | ok found =>
    rcases found with _ | _ | content
    · simp
    · simp
    · simp

theorem entry_eq_ok_iff {volume : Volume} {directory : Place} {name : String}
    {found : Option Node} :
    volume.entry directory name = .ok found ↔
      name.utf8ByteSize ≤ Route.maxNameBytes ∧
        volume.get? (volume.child directory name) = found := by
  unfold entry
  split
  · simp
    omega
  · simp
    omega

theorem exists_of_enter_append {volume : Volume} {directory last : Place} {front back : List Step}
    (h : volume.enter directory (front ++ back) = .ok last) :
    ∃ middle, volume.enter directory front = .ok middle ∧ volume.enter middle back = .ok last := by
  induction front generalizing directory with
  | nil => exact ⟨directory, rfl, h⟩
  | cons step rest ih =>
    cases step with
    | up => exact ih h
    | name name =>
      obtain ⟨hentry, hrest⟩ := enter_name_eq_ok_iff.1 h
      obtain ⟨middle, hfront, hback⟩ := ih hrest
      exact ⟨middle, enter_name_eq_ok_iff.2 ⟨hentry, hfront⟩, hback⟩

/-- Every directory on a way is one after a change, so the way still leads there. -/
theorem enter_mono {volume after : Volume}
    (h : ∀ directory name, volume.get? (volume.child directory name) = some .directory →
      after.child directory name = volume.child directory name ∧
        after.get? (volume.child directory name) = some .directory)
    {directory middle : Place} {steps : List Step} (hsteps : volume.enter directory steps = .ok middle) :
    after.enter directory steps = .ok middle := by
  induction steps generalizing directory with
  | nil => exact hsteps
  | cons step rest ih =>
    cases step with
    | up => exact ih hsteps
    | name name =>
      obtain ⟨hentry, hrest⟩ := enter_name_eq_ok_iff.1 hsteps
      obtain ⟨hshort, hget⟩ := entry_eq_ok_iff.1 hentry
      obtain ⟨hchild, hafter⟩ := h directory name hget
      refine enter_name_eq_ok_iff.2 ⟨entry_eq_ok_iff.2 ⟨hshort, hchild ▸ hafter⟩, ?_⟩
      rw [hchild]
      exact ih hrest

theorem enter_put {volume : Volume} {place : Place} (hplace : volume.get? place ≠ some .directory)
    (content : List UInt8) {directory middle : Place} {steps : List Step}
    (h : volume.enter directory steps = .ok middle) :
    (volume.put place (.file content)).enter directory steps = .ok middle := by
  refine enter_mono ?_ h
  intro directory name hget
  refine ⟨rfl, ?_⟩
  rw [get?_put_of_ne]
  · exact hget
  · intro heq
    exact hplace (heq ▸ hget)

theorem enter_remove {volume : Volume} {place : Place} (hplace : volume.get? place ≠ some .directory)
    (hlink : volume.links.lookup place = none) {directory middle : Place} {steps : List Step}
    (h : volume.enter directory steps = .ok middle) :
    (volume.remove place).enter directory steps = .ok middle := by
  refine enter_mono ?_ h
  intro directory name hget
  constructor
  · unfold child remove
    rw [FileState.lookup_filter_key (· != place)]
    by_cases hsame : directory ++ [name] = place
    · simp [hsame, hlink]
    · simp [hsame]
  · rw [get?_remove_of_ne]
    · exact hget
    · intro heq
      exact hplace (heq ▸ hget)

theorem locate_eq_named_iff {volume : Volume} {route : Route} {directory : Place} {name : String} :
    volume.locate route = .ok (.named directory name) ↔
      route.trailingDot = false ∧ route.steps.getLast? = some (.name name) ∧
        volume.enter (volume.start route) route.steps.dropLast = .ok directory := by
  unfold locate target
  cases hdot : route.trailingDot with
  | true => cases volume.enter (volume.start route) route.steps <;> simp [Except.map]
  | false =>
    simp only [Bool.false_eq_true, if_false, true_and]
    cases hlast : route.steps.getLast? with
    | none => cases volume.enter (volume.start route) route.steps <;> simp [Except.map]
    | some step =>
      cases step with
      | up => cases volume.enter (volume.start route) route.steps <;> simp [Except.map]
      | name name' =>
        cases volume.enter (volume.start route) route.steps.dropLast <;>
          simp [Except.map, and_comm]

/-! ## Paths that lead to a name in a directory -/

/-- The path leads to a name in a directory that is there, and asks for a file. -/
structure Leads (volume : Volume) (path : String) (directory : Place) (name : String) : Prop where
  usable : Route.parse path = .ok (Route.ofText path)
  noSlash : (Route.ofText path).trailingSlash = false
  located : volume.locate (Route.ofText path) = .ok (.named directory name)
  short : name.utf8ByteSize ≤ Route.maxNameBytes

theorem Leads.mono {volume after : Volume} {path : String} {directory : Place} {name : String}
    (h : volume.Leads path directory name) (hstart : after.workingDirectory = volume.workingDirectory)
    (hmono : ∀ directory name, volume.get? (volume.child directory name) = some .directory →
      after.child directory name = volume.child directory name ∧
        after.get? (volume.child directory name) = some .directory) :
    after.Leads path directory name := by
  obtain ⟨hdot, hlast, henter⟩ := locate_eq_named_iff.1 h.located
  refine ⟨h.usable, h.noSlash, locate_eq_named_iff.2 ⟨hdot, hlast, ?_⟩, h.short⟩
  have hsame : after.start (Route.ofText path) = volume.start (Route.ofText path) := by
    unfold start
    rw [hstart]
  rw [hsame]
  exact enter_mono hmono henter

/-- A new content of a file, or a new file, turns no path elsewhere. -/
theorem Leads.put {volume : Volume} {path : String} {directory : Place} {name : String}
    (h : volume.Leads path directory name) {place : Place}
    (hplace : volume.get? place ≠ some .directory) (content : List UInt8) :
    (volume.put place (.file content)).Leads path directory name := by
  refine h.mono rfl fun directory' name' hget => ⟨rfl, ?_⟩
  rw [get?_put_of_ne]
  · exact hget
  · rintro heq
    exact hplace (heq ▸ hget)

theorem read_eq_ok_iff {volume : Volume} {path : String} {content : List UInt8} :
    volume.read path = .ok content ↔
      ∃ directory name, volume.Leads path directory name ∧
        volume.content? (volume.child directory name) = some content := by
  unfold read
  constructor
  · intro h
    cases hparse : Route.parse path with
    | error fault =>
      rw [hparse] at h
      cases h
    | ok route =>
      obtain ⟨_, _, _, rfl⟩ := Route.parse_eq_ok_iff.1 hparse
      rw [hparse] at h
      cases hlocate : volume.locate (Route.ofText path) with
      | error fault =>
        simp only [bind, Except.bind, hlocate] at h
        cases h
      | ok target =>
        cases target with
        | directory place =>
          simp only [bind, Except.bind, hlocate] at h
          cases h
        | named directory name =>
          simp only [bind, Except.bind, hlocate] at h
          cases hentry : volume.entry directory name with
          | error fault =>
            rw [hentry] at h
            cases h
          | ok found =>
            obtain ⟨hshort, hget⟩ := entry_eq_ok_iff.1 hentry
            rw [hentry] at h
            rcases found with _ | _ | found
            · cases h
            · cases h
            · cases hslash : (Route.ofText path).trailingSlash with
              | true =>
                simp only [hslash, if_true] at h
                cases h
              | false =>
                simp only [hslash, Bool.false_eq_true, if_false] at h
                cases h
                exact ⟨directory, name, ⟨hparse, hslash, hlocate, hshort⟩,
                  content?_eq_some_iff.2 hget⟩
  · rintro ⟨directory, name, hleads, hcontent⟩
    have hentry : volume.entry directory name = .ok (some (.file content)) :=
      entry_eq_ok_iff.2 ⟨hleads.short, content?_eq_some_iff.1 hcontent⟩
    simp only [bind, Except.bind, hleads.usable, hleads.located, hentry, hleads.noSlash]
    rfl

end Volume

namespace Disk

/-! ## Making directories that are there -/

theorem run_makeDirectory_of_enter {volume : Volume} {directory middle : Place} {steps : List Step}
    (h : volume.enter directory steps = .ok middle) :
    (makeDirectory directory steps).run volume = (.error .fileExists, volume) := by
  unfold makeDirectory
  rw [run_bind, run_look]
  rcases List.eq_nil_or_concat steps with rfl | ⟨front, last, hsteps⟩
  · rfl
  rw [List.concat_eq_append] at hsteps
  subst hsteps
  cases last with
  | up =>
    have htarget : volume.target directory (front ++ [.up]) = .ok (.directory middle) := by
      unfold Volume.target
      rw [List.getLast?_concat]
      simp only [h]
      rfl
    rw [htarget]
    rfl
  | name name =>
    obtain ⟨parent, hfront, hlast⟩ := Volume.exists_of_enter_append h
    obtain ⟨hentry, _⟩ := Volume.enter_name_eq_ok_iff.1 hlast
    have htarget : volume.target directory (front ++ [.name name]) = .ok (.named parent name) := by
      unfold Volume.target
      rw [List.getLast?_concat, List.dropLast_concat]
      simp only [hfront]
      rfl
    rw [htarget]
    simp only
    rw [run_bind, run_look, hentry]
    rfl

theorem run_makeDirectories_of_enter {volume : Volume} {directory middle : Place}
    {steps : List Step} (h : volume.enter directory steps = .ok middle) :
    (makeDirectories directory steps.reverse).run volume = (.ok (), volume) := by
  cases hsteps : steps.reverse with
  | nil => rfl
  | cons last before =>
    have hback : (last :: before).reverse = steps := by rw [← hsteps, List.reverse_reverse]
    unfold makeDirectories
    simp only [hback]
    rw [run_tryCatch, run_makeDirectory_of_enter h]
    have hdirectory : volume.isDirectory directory steps = true := by
      unfold Volume.isDirectory
      rw [h]
      rfl
    simp only [reduceCtorEq, if_false]
    rw [run_bind_of_ok (run_get volume), hdirectory]
    rfl

/-- Making the directories on the way to a path is making those that its steps but the last lead to,
where the path without its last step can be used. -/
theorem run_makeParents_cases {path : String} (h : (Route.ofText path).steps ≠ []) (volume : Volume) :
    (∃ fault, Route.parent path ≠ "" ∧ Route.parse (Route.parent path) = .error fault ∧
      (makeParents path).run volume = (.error fault, volume)) ∨
    (makeParents path).run volume = (makeDirectories (volume.start (Route.ofText path))
      (Route.ofText path).steps.dropLast.reverse).run volume := by
  unfold makeParents
  split
  · rename_i hparent
    rw [Route.dropLast_steps_of_parent h hparent]
    exact .inr rfl
  · rename_i hparent
    have hstart : volume.start (Route.ofText (Route.parent path))
        = volume.start (Route.ofText path) := by
      unfold Volume.start
      rw [Route.absolute_parent h hparent]
    unfold makePath
    rw [run_bind, run_look]
    cases hparse : Route.parse (Route.parent path) with
    | error fault => exact .inl ⟨fault, hparent, rfl, rfl⟩
    | ok route =>
      obtain ⟨_, _, _, rfl⟩ := Route.parse_eq_ok_iff.1 hparse
      refine .inr ?_
      simp only
      rw [run_bind_of_ok (run_get volume), hstart, Route.steps_parent h hparent]

theorem run_makeParents {path : String} (h : (Route.ofText path).steps ≠ [])
    (husable : Route.parse path = .ok (Route.ofText path)) (volume : Volume) :
    (makeParents path).run volume = (makeDirectories (volume.start (Route.ofText path))
      (Route.ofText path).steps.dropLast.reverse).run volume := by
  rcases run_makeParents_cases h volume with ⟨fault, hparent, hparse, -⟩ | hrun
  · rw [Route.parse_parent h hparent husable] at hparse
    cases hparse
  · exact hrun

/-- On the way to a path that leads somewhere there is nothing to make. -/
theorem run_makeParents_of_leads {volume : Volume} {path : String} {directory : Place}
    {name : String} (h : volume.Leads path directory name) :
    (makeParents path).run volume = (.ok (), volume) := by
  obtain ⟨_, hlast, henter⟩ := Volume.locate_eq_named_iff.1 h.located
  have hsteps : (Route.ofText path).steps ≠ [] := by
    intro hnil
    rw [hnil] at hlast
    cases hlast
  rw [run_makeParents hsteps h.usable]
  exact run_makeDirectories_of_enter henter

/-! ## Making directories that are not there -/

theorem run_make (place : Place) (node : Node) (volume : Volume) :
    (make place node).run volume = if volume.isSealed place.dropLast
      then (.error .noSuchFile, volume) else (.ok (), volume.put place node) := by
  unfold make
  rw [run_bind_of_ok (run_get volume)]
  by_cases hsealed : volume.isSealed place.dropLast = true
  · rw [if_pos hsealed, if_pos hsealed]
    rfl
  · rw [if_neg hsealed, if_neg hsealed]
    rfl

theorem eq_put_of_run_make {place : Place} {node : Node} {volume after : Volume} {done : Unit}
    (h : (make place node).run volume = (.ok done, after)) : after = volume.put place node := by
  rw [run_make] at h
  split at h
  · cases h
  · cases h
    rfl

/-! ## What an operation leaves of any volume -/

/-- Whatever volume the operation is run on, what it leaves stands in the relation to it. -/
def Leaves (relation : Volume → Volume → Prop) (action : Disk α) : Prop :=
  ∀ volume, relation volume (action.run volume).2

section

variable {relation : Volume → Volume → Prop} [IsPreorder Volume relation]

theorem leaves_pure (value : α) : Leaves relation (pure value) := fun volume => refl_of relation volume

theorem leaves_throw (fault : Fault) : Leaves relation (throw fault : Disk α) :=
  fun volume => refl_of relation volume

theorem leaves_get : Leaves relation (get : Disk Volume) := fun volume => refl_of relation volume

theorem leaves_look (f : Volume → Except Fault α) : Leaves relation (look f) := by
  intro volume
  rw [run_look]
  exact refl_of relation volume

theorem Leaves.bind {first : Disk α} {next : α → Disk β} (hfirst : Leaves relation first)
    (hnext : ∀ value, Leaves relation (next value)) : Leaves relation (first >>= next) := by
  intro volume
  rw [run_bind]
  have hmiddle := hfirst volume
  split
  · rename_i value middle hrun
    rw [hrun] at hmiddle
    exact trans_of relation hmiddle (hnext value middle)
  · rename_i fault middle hrun
    rw [hrun] at hmiddle
    exact hmiddle

theorem Leaves.tryCatch {action : Disk α} {handler : Fault → Disk α}
    (haction : Leaves relation action) (hhandler : ∀ fault, Leaves relation (handler fault)) :
    Leaves relation (tryCatch action handler) := by
  intro volume
  rw [run_tryCatch]
  have hmiddle := haction volume
  split
  · rename_i value middle hrun
    rw [hrun] at hmiddle
    exact hmiddle
  · rename_i fault middle hrun
    rw [hrun] at hmiddle
    exact trans_of relation hmiddle (hhandler fault middle)

/-- Of making all directories on a way only the making of each one counts. -/
theorem leaves_makeDirectories {directory : Place} {steps : List Step}
    (h : ∀ front, front <+: steps → Leaves relation (makeDirectory directory front)) :
    Leaves relation (makeDirectories directory steps.reverse) := by
  induction hback : steps.reverse generalizing steps with
  | nil => exact leaves_pure ()
  | cons last before ih =>
    have hsteps : (last :: before).reverse = steps := by rw [← hback, List.reverse_reverse]
    have hlast : Leaves relation (makeDirectory directory (last :: before).reverse) :=
      h _ (hsteps ▸ List.prefix_rfl)
    have hbefore : Leaves relation (makeDirectories directory before) := by
      apply ih _ before.reverse_reverse
      intro front hfront
      apply h
      rw [← hsteps, List.reverse_cons]
      exact hfront.trans (List.prefix_append _ _)
    have hsettle : ∀ fault, Leaves relation (do
        unless (← get).isDirectory directory (last :: before).reverse do throw fault) := by
      intro fault
      refine leaves_get.bind ?_
      intro volume
      split
      · exact leaves_pure _
      · exact leaves_throw fault
    refine hlast.tryCatch ?_
    intro fault
    split
    · exact hbefore.bind fun _ => hlast.tryCatch hsettle
    · exact hsettle fault

end

/-- The links are the same, and no file is new. -/
def NoNewFiles (volume after : Volume) : Prop :=
  after.links = volume.links ∧ ∀ place content, after.content? place = some content →
    volume.content? place = some content

instance : IsPreorder Volume NoNewFiles where
  refl _ := ⟨rfl, fun _ _ h => h⟩
  trans _ _ _ h h' := ⟨h'.1.trans h.1, fun _ _ hfile => h.2 _ _ (h'.2 _ _ hfile)⟩

theorem noNewFiles_make_directory (place : Place) : Leaves NoNewFiles (make place .directory) := by
  intro volume
  rw [run_make]
  split
  · exact refl_of NoNewFiles volume
  · refine ⟨rfl, ?_⟩
    intro other content h
    rw [Volume.content?_eq_some_iff] at h ⊢
    by_cases hplace : other = place
    · subst hplace
      by_cases hroot : other = []
      · subst hroot
        cases h
      · rw [Volume.get?_put_self hroot] at h
        cases h
    · rwa [Volume.get?_put_of_ne hplace] at h

theorem noNewFiles_makeDirectory (directory : Place) (steps : List Step) :
    Leaves NoNewFiles (makeDirectory directory steps) := by
  refine (leaves_look _).bind ?_
  intro target
  cases target with
  | directory place => exact leaves_throw _
  | named parent name =>
    refine (leaves_look _).bind ?_
    intro found
    cases found with
    | some node => exact leaves_throw _
    | none => exact noNewFiles_make_directory _

theorem noNewFiles_makeParents (path : String) : Leaves NoNewFiles (makeParents path) := by
  unfold makeParents
  split
  · exact leaves_pure ()
  · exact (leaves_look _).bind fun route => leaves_get.bind fun volume =>
      leaves_makeDirectories fun front _ => noNewFiles_makeDirectory _ front

/-! ## Opening a file -/

theorem run_openFile_of_leads {volume : Volume} {path : String} {directory : Place} {name : String}
    (h : volume.Leads path directory name) {content : List UInt8}
    (hcontent : volume.content? (volume.child directory name) = some content) :
    (openFile path).run volume = (.ok (volume.child directory name), volume) := by
  have hentry : volume.entry directory name = .ok (some (.file content)) :=
    Volume.entry_eq_ok_iff.2 ⟨h.short, Volume.content?_eq_some_iff.1 hcontent⟩
  unfold openFile
  rw [run_bind, run_look, h.usable]
  simp only
  rw [run_bind, run_look, h.located]
  simp only [h.noSlash, Bool.false_eq_true, if_false]
  rw [run_bind, run_look, hentry]
  rfl

/-- A file that could be opened is at the end of its path: it was there, or it was made empty
where nothing was. -/
theorem leads_of_run_openFile {volume after : Volume} {path : String} {place : Place}
    (h : (openFile path).run volume = (.ok place, after)) :
    ∃ directory name, volume.Leads path directory name ∧ place = volume.child directory name ∧
      ((after = volume ∧ ∃ content, volume.content? place = some content) ∨
        (volume.get? place = none ∧ after = volume.put place (.file []))) := by
  unfold openFile at h
  obtain ⟨route, hparse, h⟩ := exists_of_run_look_bind_ok h
  obtain ⟨target, hlocate, h⟩ := exists_of_run_look_bind_ok h
  obtain ⟨_, _, _, rfl⟩ := Route.parse_eq_ok_iff.1 hparse
  cases target with
  | directory at_ => cases h
  | named directory name =>
    cases hslash : (Route.ofText path).trailingSlash with
    | true =>
      simp only [hslash, if_true] at h
      cases h
    | false =>
      simp only [hslash, Bool.false_eq_true, if_false] at h
      obtain ⟨found, hentry, h⟩ := exists_of_run_look_bind_ok h
      obtain ⟨hshort, hget⟩ := Volume.entry_eq_ok_iff.1 hentry
      refine ⟨directory, name, ⟨hparse, hslash, hlocate, hshort⟩, ?_⟩
      rcases found with _ | _ | content
      · obtain ⟨current, middle, hcurrent, h⟩ := exists_of_run_bind_ok h
        cases hcurrent
        obtain ⟨_, made, hmake, h⟩ := exists_of_run_bind_ok h
        cases h
        exact ⟨rfl, .inr ⟨hget, (eq_put_of_run_make hmake)⟩⟩
      · cases h
      · obtain ⟨current, middle, hcurrent, h⟩ := exists_of_run_bind_ok h
        cases hcurrent
        cases h
        exact ⟨rfl, .inl ⟨rfl, content, Volume.content?_eq_some_iff.2 hget⟩⟩

theorem eq_of_run_openFile_error {volume after : Volume} {path : String} {fault : Fault}
    (h : (openFile path).run volume = (.error fault, after)) : after = volume := by
  unfold openFile at h
  rcases cases_of_run_look_bind_error h with rfl | ⟨route, -, h⟩
  · rfl
  rcases cases_of_run_look_bind_error h with rfl | ⟨target, -, h⟩
  · rfl
  cases target with
  | directory place =>
    cases h
    rfl
  | named directory name =>
    cases hslash : route.trailingSlash with
    | true =>
      simp only [hslash, if_true] at h
      cases h
      rfl
    | false =>
      simp only [hslash, Bool.false_eq_true, if_false] at h
      rcases cases_of_run_look_bind_error h with rfl | ⟨found, -, h⟩
      · rfl
      rcases found with _ | _ | content
      · -- Making the file is the last thing that can fail, and then it has failed.
        rw [run_bind_of_ok (run_get volume), run_bind, run_make] at h
        by_cases hsealed : volume.isSealed (volume.child directory name).dropLast = true
        · rw [if_pos hsealed] at h
          cases h
          rfl
        · rw [if_neg hsealed] at h
          cases h
      · cases h
        rfl
      · cases h

theorem run_fill (place : Place) (data : List UInt8) (volume : Volume) :
    (fill place data).run volume
      = ((Content.write volume.sizeLimit 0 data []).1,
        volume.put place (.file (Content.write volume.sizeLimit 0 data []).2)) := by
  unfold fill
  rw [run_bind_of_ok (run_get volume)]
  rcases Content.write volume.sizeLimit 0 data [] with ⟨_ | _, content⟩ <;> rfl

end Disk

end LessonHistory

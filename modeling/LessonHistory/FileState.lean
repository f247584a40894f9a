-- The files of one task: every path once, with its text. The entries stand in the order of
-- their paths, so equal contents are equal values, and whatever is read off a state in
-- order is the same for every way the state was built.

namespace LessonHistory

/-- The text of every file of a task, in strictly ascending order of the paths. -/
structure FileState where
  entries : List (String × String)
  sorted : entries.Pairwise (fun a b => a.1 < b.1)
  deriving DecidableEq

namespace FileState

/-! ## The operations -/

def empty : FileState := ⟨[], .nil⟩

instance : EmptyCollection FileState := ⟨empty⟩

instance : Inhabited FileState := ⟨empty⟩

/-- The paths of the files, in ascending order. -/
def paths (state : FileState) : List String := state.entries.map (·.1)

/-- The text of the file at `path`, if there is one. -/
def get? (state : FileState) (path : String) : Option String := state.entries.lookup path

/-- Whether there is a file at `path`. -/
def contains (state : FileState) (path : String) : Bool := (state.get? path).isSome

/-- Puts an entry at its place in a list of entries, in place of one with the same path. -/
def insertEntry (path text : String) : List (String × String) → List (String × String)
  | [] => [(path, text)]
  | entry :: rest =>
    if path < entry.1 then (path, text) :: entry :: rest
    else if path = entry.1 then (path, text) :: rest
    else entry :: insertEntry path text rest

theorem mem_insertEntry {path text : String} {entry : String × String}
    {entries : List (String × String)} (h : entry ∈ insertEntry path text entries) :
    entry = (path, text) ∨ entry ∈ entries := by
  induction entries with
  | nil => simpa [insertEntry] using h
  | cons first rest ih =>
    unfold insertEntry at h
    split at h
    · simpa using h
    · split at h
      · rcases List.mem_cons.1 h with h | h
        · exact .inl h
        · exact .inr (List.mem_cons_of_mem _ h)
      · rcases List.mem_cons.1 h with h | h
        · exact .inr (h ▸ List.mem_cons_self)
        · exact (ih h).imp id (List.mem_cons_of_mem _)

theorem lt_of_not_lt_of_ne {a b : String} (h : ¬ a < b) (hne : a ≠ b) : b < a := by
  by_cases hb : b < a
  · exact hb
  · exact absurd (String.le_antisymm (String.not_lt.1 hb) (String.not_lt.1 h)) hne

theorem pairwise_insertEntry (path text : String) {entries : List (String × String)}
    (h : entries.Pairwise (fun a b => a.1 < b.1)) :
    (insertEntry path text entries).Pairwise (fun a b => a.1 < b.1) := by
  induction entries with
  | nil => simp [insertEntry]
  | cons first rest ih =>
    obtain ⟨hfirst, hrest⟩ := List.pairwise_cons.1 h
    unfold insertEntry
    split
    · rename_i hlt
      refine List.pairwise_cons.2 ⟨fun e he => ?_, h⟩
      rcases List.mem_cons.1 he with he | he
      · exact he ▸ hlt
      · exact String.lt_trans hlt (hfirst e he)
    · split
      · rename_i heq
        exact List.pairwise_cons.2 ⟨fun e he => heq ▸ hfirst e he, hrest⟩
      · rename_i hlt hne
        refine List.pairwise_cons.2 ⟨fun e he => ?_, ih hrest⟩
        rcases mem_insertEntry he with he | he
        · exact he ▸ lt_of_not_lt_of_ne hlt hne
        · exact hfirst e he

/-- The state with `text` at `path`, whatever was there before. -/
def insert (state : FileState) (path text : String) : FileState :=
  ⟨insertEntry path text state.entries, pairwise_insertEntry path text state.sorted⟩

def erase (state : FileState) (path : String) : FileState :=
  ⟨state.entries.filter (·.1 != path), state.sorted.filter _⟩

def filter (keep : String → Bool) (state : FileState) : FileState :=
  ⟨state.entries.filter (keep ·.1), state.sorted.filter _⟩

/-- The state with the given entries; of two with the same path the later one counts. -/
def ofList (entries : List (String × String)) : FileState :=
  entries.foldl (fun state entry => state.insert entry.1 entry.2) empty

/-! ## What the operations do to the view -/

section

variable {κ ν : Type} [BEq κ] [LawfulBEq κ] [DecidableEq κ]

theorem lookup_entry_cons (key : κ) (first : κ × ν) (rest : List (κ × ν)) :
    (first :: rest).lookup key = if key = first.1 then some first.2 else rest.lookup key := by
  rw [List.lookup_cons]
  by_cases h : key = first.1
  · simp [h]
  · rw [beq_eq_false_iff_ne.2 h, if_neg h]

theorem lookup_filter_key (keep : κ → Bool) (key : κ) (entries : List (κ × ν)) :
    (entries.filter (keep ·.1)).lookup key = if keep key then entries.lookup key else none := by
  induction entries with
  | nil => simp
  | cons first rest ih =>
    rw [List.filter_cons, lookup_entry_cons]
    split
    · rw [lookup_entry_cons, ih]
      by_cases hp : key = first.1 <;> simp_all
    · rw [ih]
      by_cases hp : key = first.1 <;> simp_all

end

theorem lookup_eq_none_of_lt {path : String} {entries : List (String × String)}
    (h : ∀ e ∈ entries, path < e.1) : entries.lookup path = none := by
  induction entries with
  | nil => rfl
  | cons first rest ih =>
    have hne : path ≠ first.1 := fun heq =>
      String.lt_irrefl _ (heq ▸ h first List.mem_cons_self)
    rw [lookup_entry_cons, if_neg hne]
    exact ih fun e he => h e (List.mem_cons_of_mem _ he)

theorem lookup_insertEntry (path text other : String) (entries : List (String × String)) :
    (insertEntry path text entries).lookup other =
      if other = path then some text else entries.lookup other := by
  induction entries with
  | nil => simp [insertEntry]
  | cons first rest ih =>
    unfold insertEntry
    split
    · simp [lookup_entry_cons]
    · split
      · rename_i heq
        by_cases h : other = path <;> simp_all [lookup_entry_cons]
      · rename_i hne
        rw [lookup_entry_cons, ih, lookup_entry_cons]
        by_cases h : other = path
        · rw [if_pos h, if_pos h, if_neg (h ▸ hne)]
        · rw [if_neg h, if_neg h]

@[simp] theorem get?_empty (path : String) : empty.get? path = none := rfl

@[simp] theorem get?_insert (state : FileState) (path text other : String) :
    (state.insert path text).get? other = if other = path then some text else state.get? other :=
  lookup_insertEntry path text other state.entries

@[simp] theorem get?_filter (keep : String → Bool) (state : FileState) (path : String) :
    (state.filter keep).get? path = if keep path then state.get? path else none :=
  lookup_filter_key keep path state.entries

@[simp] theorem get?_erase (state : FileState) (path other : String) :
    (state.erase path).get? other = if other = path then none else state.get? other := by
  refine (lookup_filter_key (· != path) other state.entries).trans ?_
  by_cases hp : other = path <;> simp [get?, hp]

/-- A sorted list of entries is fixed by what it holds at each path. -/
theorem entries_eq_of_lookup_eq {a b : List (String × String)}
    (ha : a.Pairwise (fun x y => x.1 < y.1)) (hb : b.Pairwise (fun x y => x.1 < y.1))
    (h : ∀ path, a.lookup path = b.lookup path) : a = b := by
  induction a generalizing b with
  | nil =>
    cases b with
    | nil => rfl
    | cons y ys => simpa [lookup_entry_cons] using h y.1
  | cons x xs ih =>
    obtain ⟨hx, hxs⟩ := List.pairwise_cons.1 ha
    cases b with
    | nil => simpa [lookup_entry_cons] using h x.1
    | cons y ys =>
      obtain ⟨hy, hys⟩ := List.pairwise_cons.1 hb
      have hkey : x.1 = y.1 := by
        by_cases hlt : x.1 < y.1
        · have hnone : (y :: ys).lookup x.1 = none := lookup_eq_none_of_lt fun e he => by
            rcases List.mem_cons.1 he with he | he
            · exact he ▸ hlt
            · exact String.lt_trans hlt (hy e he)
          simpa [lookup_entry_cons x.1 x, hnone] using h x.1
        · by_cases hne : x.1 = y.1
          · exact hne
          · have hgt := lt_of_not_lt_of_ne hlt hne
            have hnone : (x :: xs).lookup y.1 = none := lookup_eq_none_of_lt fun e he => by
              rcases List.mem_cons.1 he with he | he
              · exact he ▸ hgt
              · exact String.lt_trans hgt (hx e he)
            simpa [lookup_entry_cons y.1 y, hnone] using h y.1
      have hval : x.2 = y.2 := by
        have := h x.1
        rw [lookup_entry_cons, lookup_entry_cons, if_pos rfl, if_pos hkey] at this
        exact Option.some.inj this
      have hrest : xs = ys := ih hxs hys fun path => by
        by_cases hp : path = x.1
        · rw [hp, lookup_eq_none_of_lt hx, hkey, lookup_eq_none_of_lt hy]
        · have := h path
          rwa [lookup_entry_cons, lookup_entry_cons, if_neg hp, if_neg (hkey ▸ hp)] at this
      rw [hrest, Prod.ext hkey hval]

/-- Two states with the same text at every path are the same state. -/
@[ext] theorem ext_get? {a b : FileState} (h : ∀ path, a.get? path = b.get? path) : a = b := by
  obtain ⟨as, ha⟩ := a
  obtain ⟨bs, hb⟩ := b
  have hab : as = bs := entries_eq_of_lookup_eq ha hb h
  subst hab
  rfl

theorem mem_entries_iff {state : FileState} {path text : String} :
    (path, text) ∈ state.entries ↔ state.get? path = some text := by
  obtain ⟨entries, hs⟩ := state
  show (path, text) ∈ entries ↔ entries.lookup path = some text
  induction entries with
  | nil => simp
  | cons first rest ih =>
    obtain ⟨hfirst, hrest⟩ := List.pairwise_cons.1 hs
    rw [List.mem_cons, ih hrest, lookup_entry_cons]
    by_cases hp : path = first.1
    · have hnone := lookup_eq_none_of_lt hfirst
      subst hp
      simp [hnone, Prod.ext_iff, eq_comm]
    · simp [hp, Prod.ext_iff]

theorem mem_paths_iff {state : FileState} {path : String} :
    path ∈ state.paths ↔ state.contains path = true := by
  simp only [paths, contains, List.mem_map, Prod.exists, mem_entries_iff]
  cases h : state.get? path <;> simp [h]

/-! ## A state as the list of its entries -/

theorem get?_foldl_insert {entries : List (String × String)}
    (h : entries.Pairwise (fun a b => a.1 < b.1)) (state : FileState) (path : String) :
    (entries.foldl (fun state entry => state.insert entry.1 entry.2) state).get? path
      = (entries.lookup path).or (state.get? path) := by
  induction entries generalizing state with
  | nil => simp
  | cons first rest ih =>
    obtain ⟨hfirst, hrest⟩ := List.pairwise_cons.1 h
    rw [List.foldl_cons, ih hrest, lookup_entry_cons, get?_insert]
    by_cases hp : path = first.1
    · simp [hp, lookup_eq_none_of_lt hfirst]
    · simp [hp]

theorem ofList_entries (state : FileState) : ofList state.entries = state := by
  ext1 path
  unfold ofList
  rw [get?_foldl_insert state.sorted, get?_empty, Option.or_none]
  rfl

end FileState

end LessonHistory

import Mathlib.Data.List.Nodup

/-!
# Finite maps

A finite map lists its entries, one for every key. Assigning to a key replaces the value in
its place or adds an entry at the end (`Dict.set_get`). A loop that assigns the entries of
one map to another makes the former override the latter (`Dict.get_assign`).
-/

namespace Nstance.Objects

/-- A map as a list without repeated keys. -/
structure Dict (κ α : Type) where
  entries : List (κ × α)
  nodup : (entries.map Prod.fst).Nodup
deriving DecidableEq

namespace Dict

variable {κ α : Type} [DecidableEq κ]

/-- No entry. -/
def empty : Dict κ α := ⟨[], List.nodup_nil⟩

variable (d : Dict κ α)

/-- The value of a key. -/
def get (key : κ) : Option α := d.entries.lookup key

/-- The entries with the value of a key replaced, or added at the end. -/
def assigned (key : κ) (value : α) : List (κ × α) → List (κ × α)
  | [] => [(key, value)]
  | entry :: rest =>
    if entry.1 = key then (key, value) :: rest else entry :: assigned key value rest

variable {entries : List (κ × α)}

theorem mem_keys_assigned {key other : κ} {value : α} :
    other ∈ (assigned key value entries).map Prod.fst ↔
      other = key ∨ other ∈ entries.map Prod.fst := by
  induction entries with
  | nil => simp [assigned]
  | cons entry rest ih =>
    rw [assigned]
    split
    · rename_i same
      simp [← same]
    · rw [List.map_cons, List.mem_cons, ih, List.map_cons, List.mem_cons]
      exact or_left_comm

theorem nodup_assigned {key : κ} {value : α}
    (nodup : (entries.map Prod.fst).Nodup) : ((assigned key value entries).map Prod.fst).Nodup := by
  induction entries with
  | nil => exact List.nodup_singleton key
  | cons entry rest ih =>
    rw [List.map_cons, List.nodup_cons] at nodup
    rw [assigned]
    split
    · rename_i same
      rw [List.map_cons, List.nodup_cons, ← same]
      exact nodup
    rename_i other
    rw [List.map_cons, List.nodup_cons]
    refine ⟨?_, ih nodup.2⟩
    rw [mem_keys_assigned, not_or]
    exact ⟨other, nodup.1⟩

/-- `d[key] = value`. -/
def set (key : κ) (value : α) : Dict κ α :=
  ⟨assigned key value d.entries, nodup_assigned d.nodup⟩

/-- Set one entry after another; the last one wins. -/
def assign (entries : List (κ × α)) : Dict κ α :=
  entries.foldl (fun d entry => d.set entry.1 entry.2) d

section

variable {d : Dict κ α} {key other : κ} {value : α}

@[simp] theorem get_empty : (empty : Dict κ α).get key = none := rfl

theorem lookup_cons (entry : κ × α) (rest : List (κ × α)) :
    (entry :: rest).lookup key = if key = entry.1 then some entry.2 else rest.lookup key := by
  by_cases same : key = entry.1
  · rw [if_pos same, List.lookup_cons, beq_iff_eq.mpr same]
  · rw [if_neg same, List.lookup_cons, beq_eq_false_iff_ne.mpr same]

theorem lookup_assigned (entries : List (κ × α)) : (assigned key value entries).lookup other =
      if other = key then some value else entries.lookup other := by
  induction entries with
  | nil => exact lookup_cons (key, value) []
  | cons entry rest ih =>
    rw [assigned]
    split
    · rename_i first
      subst first
      rw [lookup_cons, lookup_cons]
      split
      · rfl
      · rfl
    rename_i first
    rw [lookup_cons, lookup_cons, ih]
    by_cases same : other = key
    · subst same
      rw [if_neg (Ne.symm first), if_pos rfl, if_pos rfl]
    · rw [if_neg same, if_neg same]

@[simp] theorem get_set_self : (d.set key value).get key = some value := by
  simp [get, set, lookup_assigned]

theorem get_set_of_ne (different : other ≠ key) : (d.set key value).get other = d.get other := by
  simp [get, set, lookup_assigned, different]

variable {entries : List (κ × α)}

theorem assigned_of_lookup (there : entries.lookup key = some value) :
    assigned key value entries = entries := by
  induction entries with
  | nil => cases there
  | cons entry rest ih =>
    rw [lookup_cons] at there
    rw [assigned]
    by_cases first : key = entry.1
    · rw [if_pos first] at there
      cases there
      rw [if_pos first.symm, first]
    · rw [if_neg first] at there
      rw [if_neg (Ne.symm first), ih there]

theorem set_get (there : d.get key = some value) : d.set key value = d := by
  cases d with
  | mk entries nodup =>
    have same : assigned key value entries = entries := assigned_of_lookup there
    simp only [set, same]

theorem lookup_eq_some_iff (nodup : (entries.map Prod.fst).Nodup) :
    entries.lookup key = some value ↔ (key, value) ∈ entries := by
  induction entries with
  | nil => simp
  | cons entry rest ih =>
    rw [List.map_cons, List.nodup_cons] at nodup
    rw [lookup_cons, List.mem_cons, Prod.ext_iff]
    by_cases same : key = entry.1
    · have absent : (key, value) ∉ rest := by
        intro mem
        exact nodup.1 (same ▸ List.mem_map_of_mem mem)
      rw [if_pos same, or_iff_left absent]
      simp [same, eq_comm]
    · rw [if_neg same, ih nodup.2]
      simp [same]

theorem get_eq_some_iff : d.get key = some value ↔ (key, value) ∈ d.entries :=
  lookup_eq_some_iff d.nodup

theorem lookup_eq_none (absent : key ∉ entries.map Prod.fst) : entries.lookup key = none := by
  induction entries with
  | nil => rfl
  | cons entry rest ih =>
    rw [List.map_cons, List.mem_cons, not_or] at absent
    rw [lookup_cons, if_neg absent.1, ih absent.2]

theorem lookup_map {β : Type} (change : κ → α → β) (entries : List (κ × α)) :
    (entries.map fun entry => (entry.1, change entry.1 entry.2)).lookup key =
      (entries.lookup key).map (change key) := by
  induction entries with
  | nil => rfl
  | cons entry rest ih =>
    rw [List.map_cons, lookup_cons, lookup_cons, ih]
    by_cases same : key = entry.1
    · rw [if_pos same, if_pos same, same]
      rfl
    · rw [if_neg same, if_neg same]

theorem get_assign (nodup : (entries.map Prod.fst).Nodup) :
    (d.assign entries).get key = (entries.lookup key).or (d.get key) := by
  induction entries generalizing d with
  | nil => rfl
  | cons entry rest ih =>
    rw [List.map_cons, List.nodup_cons] at nodup
    rw [assign, List.foldl_cons, ← assign, ih nodup.2, lookup_cons]
    by_cases same : key = entry.1
    · rw [if_pos same, same, lookup_eq_none nodup.1, get_set_self]
      rfl
    · rw [if_neg same, get_set_of_ne same]

end

/-! ## A pass over the entries -/

section

variable {β : Type} (change : κ → α → Option β)

/-- A changed entry, if it stays. -/
def passed (entry : κ × α) : Option (κ × β) :=
  (change entry.1 entry.2).map fun value => (entry.1, value)

omit [DecidableEq κ] in
theorem keys_passed (entries : List (κ × α)) :
    ((entries.filterMap (passed change)).map Prod.fst).Sublist (entries.map Prod.fst) := by
  induction entries with
  | nil => exact .slnil
  | cons entry rest ih =>
    rw [List.filterMap_cons, passed]
    cases change entry.1 entry.2 with
    | none => exact ih.cons _
    | some value => exact ih.cons_cons _

/-- Change or drop every entry. -/
def filterMap (d : Dict κ α) : Dict κ β :=
  ⟨d.entries.filterMap (passed change), d.nodup.sublist (keys_passed change d.entries)⟩

variable {key : κ} {d : Dict κ α} {change : κ → α → Option β}

theorem lookup_passed (nodup : (entries.map Prod.fst).Nodup) :
    (entries.filterMap (passed change)).lookup key = (entries.lookup key).bind (change key) := by
  induction entries with
  | nil => rfl
  | cons entry rest ih =>
    rw [List.map_cons, List.nodup_cons] at nodup
    rw [List.filterMap_cons, passed, lookup_cons]
    by_cases same : key = entry.1
    · subst same
      cases changed : change entry.1 entry.2 with
      | none =>
        have absent : rest.lookup entry.1 = none := lookup_eq_none nodup.1
        simp [ih nodup.2, absent, changed]
      | some value => simp [lookup_cons, changed]
    rw [if_neg same, ← ih nodup.2]
    cases change entry.1 entry.2 with
    | none => rfl
    | some value => simp [lookup_cons, same]

@[simp] theorem get_filterMap : (d.filterMap change).get key = (d.get key).bind (change key) :=
  lookup_passed d.nodup

/-- `delete(d, key)`. -/
def erase (d : Dict κ α) (key : κ) : Dict κ α :=
  d.filterMap fun other value => if other = key then none else some value

@[simp] theorem get_erase_self : (d.erase key).get key = none := by
  rw [erase, get_filterMap]
  cases d.get key <;> simp

theorem get_erase_of_ne {other : κ} (different : other ≠ key) :
    (d.erase key).get other = d.get other := by
  rw [erase, get_filterMap]
  cases d.get other <;> simp [different]

end

end Dict

end Nstance.Objects

import Nstance.Objects.Dict

/-!
# Tables with a unique column

The rows of a table stand under their primary key, and no two have the same value in one
further column. A statement that would break the second law fails (`Table.put`). One that
leaves the column alone, or drops rows, is described row by row (`Table.get_update`,
`Table.get_delete`).
-/

namespace Nstance.Objects

/-- Rows under keys, with a column that is unique. -/
structure Table (κ : Type) [DecidableEq κ] {α υ : Type} (column : α → υ) where
  rows : Dict κ α
  unique : ∀ {key other : κ} {row row' : α}, rows.get key = some row →
    rows.get other = some row' → column row = column row' → key = other

namespace Table

variable {κ α υ : Type} [DecidableEq κ] {column : α → υ} (t : Table κ column)

/-- The row of a key. -/
def get (key : κ) : Option α := t.rows.get key

/-- No row. -/
def empty : Table κ column where
  rows := .empty
  unique := by
    intro key other row row' there
    cases there

/-! ## Statements that cannot fail -/

/-- `UPDATE … SET … WHERE …` on columns other than the unique one. -/
def update (selected : κ → α → Bool) (change : α → α)
    (keeps : ∀ row, column (change row) = column row := by intro row; rfl) : Table κ column where
  rows := t.rows.filterMap fun key row => some (if selected key row then change row else row)
  unique := by
    have columns : ∀ {key : κ} {row : α},
        (t.rows.filterMap fun key row => some (if selected key row then change row else row)).get
          key = some row → ∃ old, t.get key = some old ∧ column row = column old := by
      intro key row there
      rw [Dict.get_filterMap, Option.bind_eq_some_iff] at there
      obtain ⟨old, was, now⟩ := there
      refine ⟨old, was, ?_⟩
      cases now
      split
      · exact keeps old
      · rfl
    intro key other row row' there there' same
    obtain ⟨old, was, kept⟩ := columns there
    obtain ⟨old', was', kept'⟩ := columns there'
    exact t.unique was was' (by rw [← kept, ← kept', same])

variable {t : Table κ column} {key : κ} {row : α} {t' : Table κ column} {selected : κ → α → Bool}

theorem get_update {change : α → α} {keeps : ∀ row, column (change row) = column row} :
    (t.update selected change keeps).get key =
      (t.get key).map fun row => if selected key row then change row else row := by
  rw [get, update, Dict.get_filterMap]
  exact (Option.map_eq_bind ..).symm

/-- `DELETE FROM … WHERE …`. -/
def delete (t : Table κ column) (selected : κ → α → Bool) : Table κ column where
  rows := t.rows.filterMap fun key row => if selected key row then none else some row
  unique := by
    have kept : ∀ {key : κ} {row : α},
        (t.rows.filterMap fun key row => if selected key row then none else some row).get
          key = some row → t.get key = some row := by
      intro key row there
      rw [Dict.get_filterMap, Option.bind_eq_some_iff] at there
      obtain ⟨old, was, now⟩ := there
      split at now <;> cases now
      exact was
    intro key other row row' there there' same
    exact t.unique (kept there) (kept there') same

theorem get_delete : (t.delete selected).get key =
      (t.get key).bind fun row => if selected key row then none else some row := by
  rw [get, delete, Dict.get_filterMap]
  rfl

/-! ## Statements that may break the law -/

variable [DecidableEq υ]

/-- The row with a value of the unique column. -/
def find (t : Table κ column) (value : υ) : Option (κ × α) :=
  t.rows.entries.find? fun entry => column entry.2 = value

theorem find_eq_some {value : υ} :
    t.find value = some (key, row) ↔ t.get key = some row ∧ column row = value := by
  constructor
  · intro found
    have holds := List.find?_some found
    exact ⟨Dict.get_eq_some_iff.mpr (List.mem_of_find?_eq_some found), of_decide_eq_true holds⟩
  · rintro ⟨there, holds⟩
    cases found : t.find value with
    | none =>
      have refuted := List.find?_eq_none.mp found (key, row) (Dict.get_eq_some_iff.mp there)
      exact absurd (decide_eq_true holds) refuted
    | some entry =>
      have holds' : column entry.2 = value := by simpa using List.find?_some found
      have there' : t.get entry.1 = some entry.2 :=
        Dict.get_eq_some_iff.mpr (List.mem_of_find?_eq_some found)
      have same : key = entry.1 := t.unique there there' (holds.trans holds'.symm)
      subst same
      rw [there] at there'
      cases there'
      rfl

/-- Whether a row other than that of the key has the given value in the unique column. -/
def Taken (t : Table κ column) (key : κ) (value : υ) : Prop :=
  ∃ entry ∈ t.rows.entries, entry.1 ≠ key ∧ column entry.2 = value

instance (t : Table κ column) (key : κ) (value : υ) : Decidable (t.Taken key value) :=
  inferInstanceAs (Decidable (∃ entry ∈ t.rows.entries, entry.1 ≠ key ∧ column entry.2 = value))

/-- Write a row under its key, unless another row has its value in the unique column. -/
def put (t : Table κ column) (key : κ) (row : α) : Option (Table κ column) :=
  if taken : t.Taken key (column row) then none else
    some {
      rows := t.rows.set key row
      unique := by
        have other_or : ∀ {other : κ} {row' : α}, (t.rows.set key row).get other = some row' →
            other = key ∧ row' = row ∨
              other ≠ key ∧ t.get other = some row' := by
          intro other row' there
          by_cases same : other = key
          · subst same
            rw [Dict.get_set_self] at there
            exact .inl ⟨rfl, (Option.some.inj there).symm⟩
          · rw [Dict.get_set_of_ne same] at there
            exact .inr ⟨same, there⟩
        have apart : ∀ {other : κ} {row' : α}, other ≠ key → t.get other = some row' →
            column row' ≠ column row := by
          intro other row' different there same
          exact taken ⟨(other, row'), Dict.get_eq_some_iff.mp there, different, same⟩
        intro first second row₁ row₂ there₁ there₂ same
        rcases other_or there₁ with ⟨rfl, rfl⟩ | ⟨different₁, was₁⟩
        · rcases other_or there₂ with ⟨rfl, rfl⟩ | ⟨different₂, was₂⟩
          · rfl
          · exact absurd same.symm (apart different₂ was₂)
        rcases other_or there₂ with ⟨rfl, rfl⟩ | ⟨different₂, was₂⟩
        · exact absurd same (apart different₁ was₁)
        · exact t.unique was₁ was₂ same }

theorem get_put_self (done : t.put key row = some t') : t'.get key = some row := by
  rw [put] at done
  split at done <;> cases done
  exact Dict.get_set_self

theorem get_put_of_ne {other : κ} (done : t.put key row = some t') (different : other ≠ key) :
    t'.get other = t.get other := by
  rw [put] at done
  split at done <;> cases done
  exact Dict.get_set_of_ne different

/-- `INSERT INTO …`: the key has to be new as well. -/
def insert (t : Table κ column) (key : κ) (row : α) : Option (Table κ column) :=
  if (t.get key).isSome then none else t.put key row

theorem insert_eq_some (done : t.insert key row = some t') :
    t.get key = none ∧ t.put key row = some t' := by
  rw [insert] at done
  split at done
  · cases done
  · rename_i absent
    exact ⟨Option.not_isSome_iff_eq_none.mp absent, done⟩

end Table

end Nstance.Objects

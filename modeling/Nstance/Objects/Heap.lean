import Mathlib.Logic.Function.Basic
import Nstance.Objects.Dict

/-!
# Mutable objects and what they contain

A heap holds objects under references. A field of an object is a leaf or a reference, so two
objects may share a third. What an object contains is a document: a function that says of
every path of keys whether a leaf or an object is there (`Heap.contents`). One document may
cover another (`Covers`), and `overlay` is the deep merge of two.

Objects that only refer to each other do not notice what happens elsewhere
(`Heap.read_of_agree`). In a graded heap no chain of references is endless (`Heap.Graded`).
-/

namespace Nstance.Objects

/-- The place of an object. -/
abbrev Ref := Nat

/-- A value of an object. -/
inductive Value (Leaf : Type) where
  | leaf (value : Leaf)
  | object (ref : Ref)
deriving DecidableEq

/-- What a document shows at a path. -/
inductive Shape (Leaf : Type) where
  | leaf (value : Leaf)
  | object
deriving DecidableEq

/-- Which of the two a value is. -/
def Value.shape {Leaf : Type} : Value Leaf → Shape Leaf
  | .leaf value => .leaf value
  | .object _ => .object

/-! ## Documents -/

/-- A tree, by its paths. -/
abbrev Document (κ Leaf : Type) := List κ → Option (Shape Leaf)

section

variable {κ Leaf : Type} {d s : Document κ Leaf}

/-- The empty object. -/
def blank : Document κ Leaf
  | [] => some .object
  | _ :: _ => none

/-- The document at a key. -/
def under (key : κ) (d : Document κ Leaf) : Document κ Leaf := fun path => d (key :: path)

/-- Everything in the second document is in the first. -/
def Covers (d s : Document κ Leaf) : Prop := ∀ path shape, s path = some shape → d path = some shape

/-- The deep merge: the second document wins, and where both have an object the two
are merged. -/
def overlay (d s : Document κ Leaf) : Document κ Leaf
  | [] => some .object
  | key :: path =>
    match s [key], d [key] with
    | none, _ => d (key :: path)
    | some .object, some .object => overlay (under key d) (under key s) path
    | _, _ => s (key :: path)

/-- The document of an object: only objects have anything below them. -/
structure Formed (d : Document κ Leaf) : Prop where
  root : d [] = some .object
  below : ∀ path, d path ≠ some .object → ∀ key rest, d (path ++ key :: rest) = none

theorem Formed.blank : Formed (blank : Document κ Leaf) := by
  refine ⟨rfl, ?_⟩
  intro path empty key rest
  cases path with
  | nil => exact absurd rfl empty
  | cons first path => rfl

theorem Formed.under {key : κ} (formed : Formed d) (there : d [key] = some .object) :
    Formed (under key d) :=
  ⟨there, fun path => formed.below (key :: path)⟩

theorem Formed.eq_of_leaf {key : κ} {value : Leaf} (formed : Formed d) (formed' : Formed s)
    (there : d [key] = some (.leaf value)) (there' : s [key] = some (.leaf value))
    (path : List κ) : s (key :: path) = d (key :: path) := by
  cases path with
  | nil => rw [there, there']
  | cons next path =>
    have nothing : d ([key] ++ next :: path) = none := formed.below [key] (by simp [there]) _ _
    have nothing' : s ([key] ++ next :: path) = none :=
      formed'.below [key] (by simp [there']) _ _
    exact nothing'.trans nothing.symm

section

variable {key : κ}

theorem overlay_of_absent (absent : s [key] = none) (path : List κ) :
    overlay d s (key :: path) = d (key :: path) := by
  rw [overlay, absent]

theorem overlay_of_objects (there : d [key] = some .object) (there' : s [key] = some .object)
    (path : List κ) : overlay d s (key :: path) = overlay (under key d) (under key s) path := by
  rw [overlay, there, there']

theorem overlay_of_apart {shape : Shape Leaf} (there' : s [key] = some shape)
    (apart : shape = .object → d [key] ≠ some .object) (path : List κ) :
    overlay d s (key :: path) = s (key :: path) := by
  rw [overlay, there']
  cases shape with
  | leaf => rfl
  | object =>
    cases there : d [key] with
    | none => rfl
    | some shape =>
      cases shape with
      | leaf => rfl
      | object => exact absurd there (apart rfl)

end

theorem overlay_of_covers (path : List κ) : ∀ {d s : Document κ Leaf}, Formed d → Formed s →
    Covers d s → overlay d s path = d path := by
  induction path with
  | nil =>
    intro d s formed _ _
    exact formed.root.symm
  | cons key path ih =>
    intro d s formed formed' covers
    cases there' : s [key] with
    | none => exact overlay_of_absent there' path
    | some shape =>
      have there : d [key] = some shape := covers _ _ there'
      cases shape with
      | object =>
        rw [overlay_of_objects there there']
        exact ih (formed.under there) (formed'.under there') fun path shape =>
          covers (key :: path) shape
      | leaf value =>
        rw [overlay_of_apart there' (fun impossible => by cases impossible)]
        exact formed.eq_of_leaf formed' there there' path

theorem overlay_blank (root : d [] = some .object) : overlay d blank = d := by
  funext path
  cases path with
  | nil => exact root.symm
  | cons key path => rfl

theorem blank_overlay (formed : Formed s) : overlay blank s = s := by
  funext path
  cases path with
  | nil => exact formed.root.symm
  | cons key path =>
    cases there : s [key] with
    | none =>
      rw [overlay_of_absent there]
      cases path with
      | nil => exact there.symm
      | cons next path => exact (formed.below [key] (by simp [there]) next path).symm
    | some shape => exact overlay_of_apart there (fun _ impossible => by cases impossible) path

/-- No path is longer. -/
def Shallow (depth : Nat) (d : Document κ Leaf) : Prop :=
  ∀ path, d path ≠ none → path.length < depth

theorem Shallow.mono {depth more : Nat} (shallow : Shallow depth d) (le : depth ≤ more) :
    Shallow more d :=
  fun path there => Nat.lt_of_lt_of_le (shallow path there) le

theorem Shallow.under {depth : Nat} (shallow : Shallow (depth + 1) d) (key : κ) :
    Shallow depth (under key d) :=
  fun path there => Nat.lt_of_succ_lt_succ (shallow (key :: path) there)

end

/-! ## Heaps -/

/-- Objects that may share others. -/
structure Heap (κ Leaf : Type) where
  objects : Ref → Dict κ (Value Leaf)
  /-- The next reference that was not given out. -/
  next : Ref

namespace Heap

variable {κ Leaf : Type} [DecidableEq κ]

/-- `ref[key] = value`. -/
def write (h : Heap κ Leaf) (ref : Ref) (key : κ) (value : Value Leaf) : Heap κ Leaf :=
  { h with objects := Function.update h.objects ref ((h.objects ref).set key value) }

/-- A new object without fields, under the next reference. -/
def alloc (h : Heap κ Leaf) : Heap κ Leaf where
  objects := Function.update h.objects h.next .empty
  next := h.next + 1

/-- Follow a path from a value. -/
def read (h : Heap κ Leaf) : Value Leaf → Document κ Leaf
  | value, [] => some value.shape
  | .leaf _, _ :: _ => none
  | .object ref, key :: path =>
    match (h.objects ref).get key with
    | none => none
    | some value => h.read value path

/-- The document that an object stands for. -/
def contents (h : Heap κ Leaf) (ref : Ref) : Document κ Leaf := h.read (.object ref)

variable {h h' : Heap κ Leaf} {ref : Ref} {key : κ} {value : Value Leaf}

theorem contents_of_get (there : (h.objects ref).get key = some value) (path : List κ) :
    h.contents ref (key :: path) = h.read value path := by
  simp only [contents, read, there]

theorem contents_of_absent (absent : (h.objects ref).get key = none) (path : List κ) :
    h.contents ref (key :: path) = none := by
  simp only [contents, read, absent]

theorem contents_key : h.contents ref [key] = ((h.objects ref).get key).map Value.shape := by
  cases there : (h.objects ref).get key with
  | none => exact contents_of_absent there []
  | some value => exact contents_of_get there []

theorem get_of_leaf {leaf : Leaf} (there : h.contents ref [key] = some (.leaf leaf)) :
    (h.objects ref).get key = some (.leaf leaf) := by
  rw [contents_key, Option.map_eq_some_iff] at there
  obtain ⟨value, there, shape⟩ := there
  cases value with
  | leaf value =>
    cases shape
    exact there
  | object ref => cases shape

theorem get_of_object (there : h.contents ref [key] = some .object) :
    ∃ child, (h.objects ref).get key = some (.object child) := by
  rw [contents_key, Option.map_eq_some_iff] at there
  obtain ⟨value, there, shape⟩ := there
  cases value with
  | leaf value => cases shape
  | object child => exact ⟨child, there⟩

theorem under_contents {child : Ref} (there : (h.objects ref).get key = some (.object child)) :
    under key (h.contents ref) = h.contents child :=
  funext (contents_of_get there)

theorem read_below (path : List κ) : ∀ value : Value Leaf, h.read value path ≠ some .object →
    ∀ key rest, h.read value (path ++ key :: rest) = none := by
  induction path with
  | nil =>
    intro value notObject key rest
    cases value with
    | leaf => rfl
    | object => exact absurd rfl notObject
  | cons first path ih =>
    intro value notObject key rest
    cases value with
    | leaf => rfl
    | object ref =>
      rw [List.cons_append]
      cases there : (h.objects ref).get first with
      | none => exact contents_of_absent there _
      | some child =>
        rw [← contents, contents_of_get there] at notObject ⊢
        exact ih child notObject key rest

theorem formed_contents (h : Heap κ Leaf) (ref : Ref) : Formed (h.contents ref) :=
  ⟨rfl, fun path => read_below path (.object ref)⟩

theorem not_shallow_zero : ¬ Shallow 0 (h.contents ref) := by
  intro shallow
  exact Nat.not_lt_zero _ (shallow [] (by simp [(h.formed_contents ref).root]))

theorem shallow_contents {depth : Nat}
    (fields : ∀ key child, (h.objects ref).get key = some (.object child) →
      Shallow (depth + 1) (h.contents child)) : Shallow (depth + 2) (h.contents ref) := by
  intro path there
  cases path with
  | nil => exact Nat.succ_pos _
  | cons key path =>
    cases found : (h.objects ref).get key with
    | none => exact absurd (contents_of_absent found path) there
    | some value =>
      rw [contents_of_get found] at there
      cases value with
      | object child => exact Nat.succ_lt_succ (fields key child found path there)
      | leaf leaf =>
        cases path with
        | nil => exact Nat.succ_lt_succ (Nat.succ_pos _)
        | cons next path => exact absurd rfl there

variable {other bound : Ref}

theorem contents_congr (same : h.objects ref = h.objects other) :
    h.contents ref = h.contents other := by
  funext path
  cases path with
  | nil => rfl
  | cons key path => simp only [contents, read, same]

/-- The objects under the references below a bound refer to each other only. -/
def Closed (bound : Ref) (h : Heap κ Leaf) : Prop :=
  ∀ ref < bound, ∀ key child, (h.objects ref).get key = some (.object child) → child < bound

section

variable (closed : Closed bound h) (agree : ∀ ref < bound, h'.objects ref = h.objects ref)
include closed agree

/-- What agrees on a closed part agrees on the contents of its objects. -/
theorem read_of_agree (path : List κ) :
    ∀ value : Value Leaf, (∀ ref, value = .object ref → ref < bound) →
      h'.read value path = h.read value path := by
  induction path with
  | nil =>
    intro value _
    rfl
  | cons key path ih =>
    intro value inside
    cases value with
    | leaf => rfl
    | object ref =>
      have same : h'.objects ref = h.objects ref := agree ref (inside ref rfl)
      cases there : (h.objects ref).get key with
      | none =>
        rw [← contents, ← contents, contents_of_absent there, contents_of_absent (same ▸ there)]
      | some child =>
        rw [← contents, ← contents, contents_of_get there, contents_of_get (same ▸ there)]
        refine ih child ?_
        intro next isObject
        subst isObject
        exact closed ref (inside ref rfl) key next there

theorem contents_of_agree (inside : ref < bound) : h'.contents ref = h.contents ref := by
  funext path
  refine read_of_agree closed agree path (.object ref) ?_
  intro other same
  cases same
  exact inside

theorem Closed.of_agree : Closed bound h' := by
  intro ref inside key child there
  rw [agree ref inside] at there
  exact closed ref inside key child there

end

omit [DecidableEq κ] in
theorem alloc_objects_self : h.alloc.objects h.next = .empty := Function.update_self _ _ _

omit [DecidableEq κ] in
theorem alloc_objects_of_ne (different : other ≠ h.next) :
    h.alloc.objects other = h.objects other :=
  Function.update_of_ne different _ _

theorem contents_alloc : h.alloc.contents h.next = blank := by
  funext path
  cases path with
  | nil => rfl
  | cons key path => exact contents_of_absent (by rw [alloc_objects_self, Dict.get_empty]) path

theorem write_objects_of_ne (different : other ≠ ref) :
    (h.write ref key value).objects other = h.objects other :=
  Function.update_of_ne different _ _

theorem write_objects_self : (h.write ref key value).objects ref = (h.objects ref).set key value :=
  Function.update_self _ _ _

theorem write_get (there : (h.objects ref).get key = some value) : h.write ref key value = h := by
  rw [write, Dict.set_get there, Function.update_eq_self]

/-! ## Levels -/

/-- Every object lies one level below those that refer to it. The levels are bounded,
and nothing refers to what was not given out. -/
def Graded (level : Ref → Nat) (bound : Nat) (h : Heap κ Leaf) : Prop :=
  ∀ ref key child, (h.objects ref).get key = some (.object child) →
    child < h.next ∧ level child = level ref + 1 ∧ level child < bound

variable {level : Ref → Nat} {bound : Nat}

theorem Graded.alloc (graded : Graded level bound h) :
    Graded (Function.update level h.next 0) bound h.alloc := by
  intro ref key child there
  by_cases new : ref = h.next
  · subst new
    rw [alloc_objects_self] at there
    cases there
  rw [alloc_objects_of_ne new] at there
  obtain ⟨inside, below, low⟩ := graded ref key child there
  rw [Function.update_of_ne new, Function.update_of_ne (Nat.ne_of_lt inside)]
  exact ⟨Nat.lt_succ_of_lt inside, below, low⟩

/-- A reference may be written into the objects of the level above it. -/
theorem Graded.write (graded : Graded level bound h) (fits : ∀ child, value = .object child →
      child < h.next ∧ level child = level ref + 1 ∧ level child < bound) :
    Graded level bound (h.write ref key value) := by
  intro other key' child there
  by_cases same : other = ref
  · subst same
    rw [write_objects_self] at there
    by_cases written : key' = key
    · subst written
      rw [Dict.get_set_self] at there
      exact fits child (Option.some.inj there)
    · rw [Dict.get_set_of_ne written] at there
      exact graded other key' child there
  · rw [write_objects_of_ne same] at there
    exact graded other key' child there

end Heap

end Nstance.Objects

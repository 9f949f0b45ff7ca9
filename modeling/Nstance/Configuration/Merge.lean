import Mathlib.Order.Basic
import Nstance.Configuration.Groups
import Nstance.Objects.Heap

/-!
# Merged configurations

`GetMergedConfig` lays the template over the defaults, and the group over both. The
arguments are nested JSON objects, which in memory are references to mutable maps.
`deepMergeArgs` copies such references, and where both maps have an object under a key it
merges the one into the other in its place, which may be one of the configuration.

As long as a later level adds nothing to such an object, the configuration is what it was
when it was parsed, and the result is the deep merge of the three documents
(`Parsed.merge_spec`). Otherwise the write shows in every result after it.

The source visits the entries of a map in any order; here it is the listed one.
-/

namespace Nstance.Configuration

open Objects

variable {Leaf Files : Type}

/-! ## The merge -/

/-- Where the userdata of an instance comes from. -/
structure UserdataConfig where
  source : String := ""
  encoding : String := ""
  content : String

/-- What every template starts from. -/
structure DefaultsConfig where
  args : Option Ref := none
  vars : Dict String String := .empty
  userdata : Option UserdataConfig := none

/-- A template of instances. Its arguments are an object on the heap. -/
structure TemplateConfig (Files : Type) where
  kind : String
  arch : String
  files : Files
  args : Option Ref := none
  userdata : Option UserdataConfig := none
  instanceType : String := ""
  subnetPool : String := ""
  vars : Dict String String := .empty

/-- The parts of the configuration that are merged; the arguments are objects of the
heap, or nil. -/
structure Config (Files : Type) where
  defaults : DefaultsConfig
  templates : Dict String (TemplateConfig Files)

/-- A group laid over its template and the defaults. -/
structure MergedConfig (Args Files : Type) where
  args : Args
  vars : Dict String String
  files : Files
  userdata : Option UserdataConfig
  instanceType : String
  subnetPool : String
  kind : String
  arch : String

/-- The body of the loop of `deepMergeArgs`. -/
def mergeEntry (deepMergeArgs : Heap String Leaf → Ref → Ref → Option (Heap String Leaf))
    (dst : Ref) (h : Heap String Leaf) (entry : String × Value Leaf) : Option (Heap String Leaf) :=
  match entry.2, (h.objects dst).get entry.1 with
  | .object vMap, some (.object dMap) => deepMergeArgs h dMap vMap
  | value, _ => some (h.write dst entry.1 value)

/-- Merge the arguments of one object into another. The fuel bounds the depth of the
recursion. -/
def deepMergeArgs : Nat → Heap String Leaf → Ref → Ref → Option (Heap String Leaf)
  | 0, _, _, _ => none
  | fuel + 1, h, dst, src => (h.objects src).entries.foldlM (mergeEntry (deepMergeArgs fuel) dst) h

/-- The arguments of a level; a loop over a nil map does nothing. -/
def mergeLevel (fuel : Nat) (dst : Ref) (h : Heap String Leaf) :
    Option Ref → Option (Heap String Leaf)
  | none => some h
  | some src => deepMergeArgs fuel h dst src

/-- The fields other than the arguments, the group's first. -/
def mergeFields {Args : Type} (defaults : DefaultsConfig) (template : TemplateConfig Files)
    (group : GroupConfig Ref) (args : Args) : MergedConfig Args Files where
  args
  vars := ((Dict.empty.assign defaults.vars.entries).assign template.vars.entries).assign
    group.vars.entries
  files := template.files
  userdata := template.userdata.or defaults.userdata
  instanceType := if group.instanceType ≠ "" then group.instanceType else template.instanceType
  subnetPool := if group.subnetPool ≠ "" then group.subnetPool else template.subnetPool
  kind := template.kind
  arch := template.arch

/-- Merge defaults, template and group on the heap. -/
def getMergedConfig (fuel : Nat) (c : Config Files) (template : String)
    (group : GroupConfig Ref) (h : Heap String Leaf) :
    Option (Except String (MergedConfig Ref Files) × Heap String Leaf) :=
  match c.templates.get template with
  | none => some (.error ("template not found: " ++ template), h)
  | some templateConfig => do
      let merged ← mergeLevel fuel h.next h.alloc c.defaults.args
      let merged ← mergeLevel fuel h.next merged templateConfig.args
      let merged ← mergeLevel fuel h.next merged group.args
      some (.ok (mergeFields c.defaults templateConfig group h.next), merged)

/-! ## Merging what is there already -/

section

variable {h g : Heap String Leaf} {fuel : Nat} {dst src : Ref}

/-- Where both documents have an object under a key, the second adds nothing to the
first. -/
def Harmony (d s : Document String Leaf) : Prop :=
  ∀ key, d [key] = some .object → s [key] = some .object → Covers (under key d) (under key s)

theorem foldlM_of_fixed {α β : Type} {step : β → α → Option β} {b : β} (list : List α)
    (fixed : ∀ a ∈ list, step b a = some b) : list.foldlM step b = some b := by
  induction list with
  | nil => rfl
  | cons a rest ih =>
    rw [List.foldlM_cons, fixed a List.mem_cons_self]
    exact ih fun other mem => fixed other (List.mem_cons_of_mem a mem)

theorem deepMergeArgs_of_covers : ∀ {fuel : Nat} {dst src : Ref},
    Shallow fuel (h.contents src) → Covers (h.contents dst) (h.contents src) →
      deepMergeArgs fuel h dst src = some h := by
  intro fuel
  induction fuel with
  | zero =>
    intro dst src shallow _
    exact absurd shallow Heap.not_shallow_zero
  | succ fuel ih =>
    intro dst src shallow covers
    refine foldlM_of_fixed _ ?_
    intro entry mem
    have there : (h.objects src).get entry.1 = some entry.2 := Dict.get_eq_some_iff.mpr mem
    have covered : h.contents dst [entry.1] = some entry.2.shape :=
      covers _ _ (Heap.contents_of_get there [])
    rw [mergeEntry]
    cases value : entry.2 with
    | leaf leaf =>
      rw [value] at covered
      exact congrArg some (Heap.write_get (Heap.get_of_leaf covered))
    | object vMap =>
      rw [value] at there covered
      obtain ⟨dMap, found⟩ := Heap.get_of_object covered
      simp only [found]
      refine ih ?_ ?_
      · rw [← Heap.under_contents there]
        exact shallow.under entry.1
      · rw [← Heap.under_contents there, ← Heap.under_contents found]
        exact fun path shape => covers (entry.1 :: path) shape

/-- The value of a key after the merge of a level into a fresh object. -/
def chosen (old new : Option (Value Leaf)) : Option (Value Leaf) :=
  match new, old with
  | none, old => old
  | some (.object _), some (.object dMap) => some (.object dMap)
  | some value, _ => some value

theorem object_of_chosen {old new : Option (Value Leaf)} {child : Ref}
    (found : chosen old new = some (.object child)) :
    old = some (.object child) ∨ new = some (.object child) := by
  cases new with
  | none => exact .inl found
  | some given =>
    cases given with
    | leaf => cases old <;> cases found
    | object vMap =>
      cases old with
      | none => exact .inr found
      | some there =>
        cases there with
        | leaf => exact .inr found
        | object dMap => exact .inl found

/-- Not both are objects. -/
def Apart (old : Option (Value Leaf)) (new : Value Leaf) : Prop :=
  ∀ vMap dMap, new = .object vMap → old ≠ some (.object dMap)

theorem chosen_of_apart {old : Option (Value Leaf)} {new : Value Leaf} (apart : Apart old new) :
    chosen old (some new) = some new := by
  cases new with
  | leaf => cases old <;> rfl
  | object vMap =>
    cases old with
    | none => rfl
    | some there =>
      cases there with
      | leaf => rfl
      | object dMap => exact absurd rfl (apart vMap dMap rfl)

variable {entry : String × Value Leaf}

theorem mergeEntry_of_apart {go : Heap String Leaf → Ref → Ref → Option (Heap String Leaf)}
    (apart : Apart ((g.objects dst).get entry.1) entry.2) :
    mergeEntry go dst g entry = some (g.write dst entry.1 entry.2) := by
  rw [mergeEntry]
  split
  · rename_i new old
    exact absurd old (apart _ _ new)
  · rfl

/-- Two heaps differ at one object at most. -/
def OnlyAt (dst : Ref) (h g : Heap String Leaf) : Prop :=
  ∀ ref, ref ≠ dst → g.objects ref = h.objects ref

variable {bound : Ref}

section

variable (only : OnlyAt dst h g) (closed : h.Closed bound) (fresh : bound ≤ dst)

include only closed fresh

theorem OnlyAt.read {value : Value Leaf} (inside : ∀ child, value = .object child → child < bound)
    (path : List String) : g.read value path = h.read value path := by
  refine Heap.read_of_agree closed ?_ path value inside
  intro other below
  exact only other (Nat.ne_of_lt (Nat.lt_of_lt_of_le below fresh))

theorem OnlyAt.contents {ref : Ref} (inside : ref < bound) : g.contents ref = h.contents ref := by
  funext path
  refine only.read closed fresh ?_ path
  rintro child ⟨⟩
  exact inside

end

/-- An entry that can be merged without a trace: if it is an object, then it adds
nothing to the object that is there. -/
def Fits (bound : Ref) (fuel : Nat) (h : Heap String Leaf) (old : Option (Value Leaf))
    (new : Value Leaf) : Prop :=
  ∀ vMap, new = .object vMap → vMap < bound ∧ Shallow fuel (h.contents vMap) ∧
    ∀ dMap, old = some (.object dMap) → dMap < bound ∧ Covers (h.contents dMap) (h.contents vMap)

theorem mergeEntry_spec (closed : h.Closed bound) (fresh : bound ≤ dst) (only : OnlyAt dst h g)
    (fits : Fits bound fuel h ((g.objects dst).get entry.1) entry.2) :
    ∃ g', mergeEntry (deepMergeArgs fuel) dst g entry = some g' ∧ g'.next = g.next ∧
      OnlyAt dst h g' ∧ ∀ key, (g'.objects dst).get key =
        if key = entry.1 then chosen ((g.objects dst).get entry.1) (some entry.2)
        else (g.objects dst).get key := by
  by_cases nested : ∃ vMap dMap, entry.2 = .object vMap ∧
      (g.objects dst).get entry.1 = some (.object dMap)
  · -- the objects are merged, and nothing changes
    obtain ⟨vMap, dMap, new, old⟩ := nested
    obtain ⟨inside, shallow, covered⟩ := fits vMap new
    obtain ⟨inside', covers⟩ := covered dMap old
    refine ⟨g, ?_, rfl, only, ?_⟩
    · rw [mergeEntry, new, old]
      refine deepMergeArgs_of_covers ?_ ?_
      · rw [only.contents closed fresh inside]
        exact shallow
      · rw [only.contents closed fresh inside, only.contents closed fresh inside']
        exact covers
    · intro key
      by_cases same : key = entry.1
      · rw [if_pos same, same, new, old]
        rfl
      · rw [if_neg same]
  · have apart : Apart ((g.objects dst).get entry.1) entry.2 := by
      intro vMap dMap new old
      exact nested ⟨vMap, dMap, new, old⟩
    refine ⟨g.write dst entry.1 entry.2, mergeEntry_of_apart apart, rfl, ?_, ?_⟩
    · intro ref other
      rw [Heap.write_objects_of_ne other]
      exact only ref other
    · intro key
      rw [Heap.write_objects_self, chosen_of_apart apart]
      by_cases same : key = entry.1
      · rw [if_pos same, same, Dict.get_set_self]
      · rw [if_neg same, Dict.get_set_of_ne same]

theorem mergeEntries_spec (closed : h.Closed bound) (fresh : bound ≤ dst)
    (entries : List (String × Value Leaf)) :
    ∀ {g : Heap String Leaf}, (entries.map Prod.fst).Nodup → OnlyAt dst h g →
      (∀ entry ∈ entries, Fits bound fuel h ((g.objects dst).get entry.1) entry.2) →
      ∃ g', entries.foldlM (mergeEntry (deepMergeArgs fuel) dst) g = some g' ∧
        g'.next = g.next ∧ OnlyAt dst h g' ∧
        ∀ key, (g'.objects dst).get key =
          chosen ((g.objects dst).get key) (entries.lookup key) := by
  induction entries with
  | nil =>
    intro g _ only _
    exact ⟨g, rfl, rfl, only, fun _ => rfl⟩
  | cons entry rest ih =>
    intro g distinct only fits
    rw [List.map_cons, List.nodup_cons] at distinct
    obtain ⟨g₁, stepped, next₁, only₁, first⟩ :=
      mergeEntry_spec closed fresh only (fits entry List.mem_cons_self)
    -- the later entries have other keys, under which nothing has changed
    have later : ∀ other ∈ rest, Fits bound fuel h ((g₁.objects dst).get other.1) other.2 := by
      intro other mem
      have different : other.1 ≠ entry.1 := by
        intro same
        exact distinct.1 (same ▸ List.mem_map_of_mem mem)
      rw [first other.1, if_neg different]
      exact fits other (List.mem_cons_of_mem entry mem)
    obtain ⟨g', done, next', only', last⟩ := ih distinct.2 only₁ later
    refine ⟨g', ?_, next'.trans next₁, only', ?_⟩
    · rw [List.foldlM_cons, stepped]
      exact done
    · intro key
      rw [last key, first key, Dict.lookup_cons]
      by_cases same : key = entry.1
      · rw [if_pos same, if_pos same, same, Dict.lookup_eq_none distinct.1]
        rfl
      · rw [if_neg same, if_neg same]

/-- What a reference stands for; none is the empty document. -/
def document (h : Heap String Leaf) : Option Ref → Document String Leaf
  | none => blank
  | some ref => h.contents ref

theorem formed_document (h : Heap String Leaf) (level : Option Ref) :
    Formed (document h level) := by
  cases level with
  | none => exact Formed.blank
  | some ref => exact h.formed_contents ref

/-- The object that is merged into: it alone was written, and its fields lie in the
closed part of the heap. -/
structure Merging (bound dst : Ref) (h g : Heap String Leaf) : Prop where
  only : OnlyAt dst h g
  fields : ∀ key child, (g.objects dst).get key = some (.object child) → child < bound

theorem contents_chosen {key : String} {path : List String} {g' : Heap String Leaf}
    (closed : h.Closed bound) (fresh : bound ≤ dst) (merging : Merging bound dst h g)
    (only : OnlyAt dst h g') (inside : src < bound)
    (harmony : Harmony (g.contents dst) (h.contents src))
    (value : (g'.objects dst).get key =
      chosen ((g.objects dst).get key) ((h.objects src).get key)) :
    g'.contents dst (key :: path) = overlay (g.contents dst) (h.contents src) (key :: path) := by
  cases new : (h.objects src).get key with
  | none =>
    -- the value that is there stays
    have kept : (g'.objects dst).get key = (g.objects dst).get key := by
      rw [value, new]
      rfl
    rw [overlay_of_absent (Heap.contents_of_absent new [])]
    cases old : (g.objects dst).get key with
    | none => rw [Heap.contents_of_absent old, Heap.contents_of_absent (kept.trans old)]
    | some there =>
      have below : ∀ child, there = .object child → child < bound := by
        rintro child rfl
        exact merging.fields key child old
      rw [Heap.contents_of_get old, Heap.contents_of_get (kept.trans old),
        only.read closed fresh below, merging.only.read closed fresh below]
  | some given =>
    have below : ∀ child, given = .object child → child < bound := by
      rintro child rfl
      exact closed src inside key child new
    by_cases nested : ∃ vMap dMap, given = .object vMap ∧
        (g.objects dst).get key = some (.object dMap)
    · -- the object that is there covers the other one
      obtain ⟨vMap, dMap, rfl, old⟩ := nested
      have kept : (g'.objects dst).get key = some (.object dMap) := by
        rw [value, new, old]
        rfl
      have isObject : g.contents dst [key] = some .object := Heap.contents_of_get old []
      have isObject' : h.contents src [key] = some .object := Heap.contents_of_get new []
      have covers := harmony key isObject isObject'
      have above := merging.fields key dMap old
      rw [overlay_of_objects isObject isObject']
      rw [Heap.under_contents old, Heap.under_contents new,
        merging.only.contents closed fresh above] at covers ⊢
      rw [overlay_of_covers path (h.formed_contents _) (h.formed_contents _) covers,
        Heap.contents_of_get kept]
      exact congrFun (only.contents closed fresh above) path
    · have apart : Apart ((g.objects dst).get key) given := by
        intro vMap dMap isObject old
        exact nested ⟨vMap, dMap, isObject, old⟩
      have written : (g'.objects dst).get key = some given := by
        rw [value, new, chosen_of_apart apart]
      have overlaid : given.shape = .object → g.contents dst [key] ≠ some .object := by
        intro isObject there
        obtain ⟨dMap, old⟩ := Heap.get_of_object there
        cases given with
        | leaf => cases isObject
        | object vMap => exact apart vMap dMap rfl old
      rw [overlay_of_apart (Heap.contents_of_get new []) overlaid, Heap.contents_of_get new,
        Heap.contents_of_get written, only.read closed fresh below]

theorem mergeLevel_spec {level : Option Ref} (closed : h.Closed bound) (fresh : bound ≤ dst)
    (merging : Merging bound dst h g)
    (inside : ∀ ref ∈ level, ref < bound ∧ Shallow fuel (h.contents ref))
    (harmony : Harmony (g.contents dst) (document h level)) :
    ∃ g', mergeLevel fuel dst g level = some g' ∧ g'.next = g.next ∧ Merging bound dst h g' ∧
      g'.contents dst = overlay (g.contents dst) (document h level) := by
  cases level with
  | none => exact ⟨g, rfl, rfl, merging, (overlay_blank (g.formed_contents dst).root).symm⟩
  | some src =>
    obtain ⟨below, shallow⟩ := inside src rfl
    cases fuel with
    | zero => exact absurd shallow Heap.not_shallow_zero
    | succ fuel =>
      have source : g.objects src = h.objects src :=
        merging.only src (Nat.ne_of_lt (Nat.lt_of_lt_of_le below fresh))
      have nested : ∀ entry ∈ (h.objects src).entries,
          Fits bound fuel h ((g.objects dst).get entry.1) entry.2 := by
        intro entry mem vMap isObject
        have there : (h.objects src).get entry.1 = some (.object vMap) :=
          isObject ▸ Dict.get_eq_some_iff.mpr mem
        refine ⟨closed src below entry.1 vMap there, ?_, ?_⟩
        · rw [← Heap.under_contents there]
          exact shallow.under entry.1
        · intro dMap old
          have above := merging.fields entry.1 dMap old
          have covers := harmony entry.1 (Heap.contents_of_get old [])
            (Heap.contents_of_get there [])
          rw [Heap.under_contents old, document, Heap.under_contents there,
            merging.only.contents closed fresh above] at covers
          exact ⟨above, covers⟩
      obtain ⟨g', done, next, only, values⟩ := mergeEntries_spec closed fresh
        (h.objects src).entries (h.objects src).nodup merging.only nested
      refine ⟨g', ?_, next, ⟨only, ?_⟩, ?_⟩
      · rw [mergeLevel, deepMergeArgs, source]
        exact done
      · intro key child found
        rw [values key] at found
        rcases object_of_chosen found with old | new
        · exact merging.fields key child old
        · exact closed src below key child new
      · funext path
        cases path with
        | nil => rfl
        | cons key path =>
          exact contents_chosen closed fresh merging only below harmony (values key)

end

/-! ## A parsed configuration -/

/-- A configuration as the parser leaves it: its arguments are objects of the heap,
which refer to each other only and are nested to some depth. -/
structure Parsed (Leaf Files : Type) where
  config : Config Files
  heap : Heap String Leaf
  depth : Nat
  closed : heap.Closed heap.next
  shallow : ∀ ref < heap.next, Shallow depth (heap.contents ref)
  defaults : ∀ ref ∈ config.defaults.args, ref < heap.next
  templates : ∀ name template, config.templates.get name = some template →
    ∀ ref ∈ template.args, ref < heap.next

/-- A call of `GetMergedConfig` for a template and a group whose arguments were parsed
as well. -/
structure Call (P : Parsed Leaf Files) where
  template : String
  group : GroupConfig Ref
  owned : ∀ ref ∈ group.args, ref < P.heap.next

/-- A merged configuration with its arguments read off the heap. -/
def MergedConfig.contents (h : Heap String Leaf) (merged : MergedConfig Ref Files) :
    MergedConfig (Document String Leaf) Files :=
  { merged with args := h.contents merged.args }

namespace Parsed

variable {P : Parsed Leaf Files} {h : Heap String Leaf} {fuel : Nat}

/-- One call of `getMergedConfig`. -/
def merge (P : Parsed Leaf Files) (fuel : Nat) (h : Heap String Leaf) (call : Call P) :
    Option (Except String (MergedConfig Ref Files) × Heap String Leaf) :=
  getMergedConfig fuel P.config call.template call.group h

/-- The heap after calls one after another. -/
def after (P : Parsed Leaf Files) (fuel : Nat) : Heap String Leaf → List (Call P) →
    Option (Heap String Leaf)
  | h, [] => some h
  | h, call :: calls => (P.merge fuel h call).bind fun done => P.after fuel done.2 calls

/-- The arguments that a merge should give. -/
def mergedDocument (P : Parsed Leaf Files) (template : TemplateConfig Files)
    (group : GroupConfig Ref) : Document String Leaf :=
  overlay (overlay (document P.heap P.config.defaults.args) (document P.heap template.args))
    (document P.heap group.args)

/-- What a merge should give, in terms of documents. -/
def merged (P : Parsed Leaf Files) (call : Call P) :
    Except String (MergedConfig (Document String Leaf) Files) :=
  match P.config.templates.get call.template with
  | none => .error ("template not found: " ++ call.template)
  | some template => .ok (mergeFields P.config.defaults template call.group
      (P.mergedDocument template call.group))

/-- No level of a call adds anything to an object of the levels before it. -/
def Harmless (P : Parsed Leaf Files) (call : Call P) : Prop :=
  ∀ template, P.config.templates.get call.template = some template →
    Harmony (document P.heap P.config.defaults.args) (document P.heap template.args) ∧
      Harmony
        (overlay (document P.heap P.config.defaults.args) (document P.heap template.args))
        (document P.heap call.group.args)

/-- The objects of the parsed configuration are as they were. -/
structure Kept (P : Parsed Leaf Files) (h : Heap String Leaf) : Prop where
  next : P.heap.next ≤ h.next
  objects : ∀ ref < P.heap.next, h.objects ref = P.heap.objects ref

theorem Kept.refl (P : Parsed Leaf Files) : P.Kept P.heap := ⟨Nat.le_refl _, fun _ _ => rfl⟩

theorem Kept.contents (kept : P.Kept h) {ref : Ref} (inside : ref < P.heap.next) :
    h.contents ref = P.heap.contents ref :=
  Heap.contents_of_agree P.closed kept.objects inside

theorem Kept.document (kept : P.Kept h) {level : Option Ref}
    (inside : ∀ ref ∈ level, ref < P.heap.next) : document h level = document P.heap level := by
  cases level with
  | none => rfl
  | some ref => exact kept.contents (inside ref rfl)

/-- **A harmless call** leaves the configuration as it was and returns the deep merge
of what was parsed. -/
theorem merge_spec (enough : P.depth ≤ fuel) (kept : P.Kept h) {call : Call P}
    (harmless : P.Harmless call) :
    ∃ result h', P.merge fuel h call = some (result, h') ∧ P.Kept h' ∧
      result.map (MergedConfig.contents h') = P.merged call := by
  rw [merge, getMergedConfig, merged]
  cases found : P.config.templates.get call.template with
  | none => exact ⟨_, h, rfl, kept, rfl⟩
  | some template =>
    obtain ⟨harmony₁, harmony₂⟩ := harmless template found
    have closed : h.Closed P.heap.next := P.closed.of_agree kept.objects
    have bounded : ∀ {level : Option Ref}, (∀ ref ∈ level, ref < P.heap.next) →
        ∀ ref ∈ level, ref < P.heap.next ∧ Shallow fuel (h.contents ref) := by
      intro level inside ref mem
      refine ⟨inside ref mem, ?_⟩
      rw [kept.contents (inside ref mem)]
      exact (P.shallow ref (inside ref mem)).mono enough
    rw [← kept.document P.defaults, ← kept.document (P.templates _ _ found)] at harmony₁ harmony₂
    rw [← kept.document call.owned] at harmony₂
    have start : Merging P.heap.next h.next h h.alloc := by
      refine ⟨fun ref other => Heap.alloc_objects_of_ne other, ?_⟩
      intro key child there
      rw [Heap.alloc_objects_self] at there
      cases there
    obtain ⟨h₁, done₁, next₁, merging₁, args₁⟩ := mergeLevel_spec closed kept.next start
      (bounded P.defaults) (by rw [Heap.contents_alloc]; intro key there; cases there)
    rw [Heap.contents_alloc, blank_overlay (formed_document h _)] at args₁
    obtain ⟨h₂, done₂, next₂, merging₂, args₂⟩ := mergeLevel_spec closed kept.next merging₁
      (bounded (P.templates _ _ found)) (args₁ ▸ harmony₁)
    rw [args₁] at args₂
    obtain ⟨h₃, done₃, next₃, merging₃, args₃⟩ := mergeLevel_spec closed kept.next merging₂
      (bounded call.owned) (args₂ ▸ harmony₂)
    rw [args₂] at args₃
    refine ⟨.ok (mergeFields P.config.defaults template call.group h.next), h₃, ?_, ⟨?_, ?_⟩, ?_⟩
    · simp only [done₁, done₂, done₃, Option.bind_eq_bind, Option.bind_some]
    · rw [next₃, next₂, next₁]
      exact Nat.le_succ_of_le kept.next
    · intro ref inside
      rw [merging₃.only ref (Nat.ne_of_lt (Nat.lt_of_lt_of_le inside kept.next))]
      exact kept.objects ref inside
    · rw [kept.document P.defaults, kept.document (P.templates _ _ found),
        kept.document call.owned] at args₃
      exact congrArg (fun args =>
        Except.ok (mergeFields P.config.defaults template call.group args)) args₃

theorem after_spec (enough : P.depth ≤ fuel) (calls : List (Call P)) :
    ∀ {h : Heap String Leaf}, P.Kept h → (∀ call ∈ calls, P.Harmless call) →
      ∃ h', P.after fuel h calls = some h' ∧ P.Kept h' := by
  induction calls with
  | nil =>
    intro h kept _
    exact ⟨h, rfl, kept⟩
  | cons call calls ih =>
    intro h kept harmless
    obtain ⟨result, h₁, done, kept₁, _⟩ :=
      merge_spec enough kept (harmless call List.mem_cons_self)
    obtain ⟨h', rest, kept'⟩ :=
      ih kept₁ fun other mem => harmless other (List.mem_cons_of_mem call mem)
    refine ⟨h', ?_, kept'⟩
    rw [after, done]
    exact rest

end Parsed

/-! ## Hashes -/

/-- The fields of a merged configuration that can be pushed to existing instances. -/
structure RuntimeConfigHash (Files : Type) where
  vars : Dict String String
  files : Files

/-- The fields of a merged configuration that require a new instance. -/
structure InfraConfigHash (Leaf : Type) where
  args : Document String Leaf
  instanceType : String
  subnetPool : String
  userdata : Option UserdataConfig
  kind : String
  arch : String

/-- The digests of the JSON encodings, which depend on what is encoded only. -/
structure Digests (Leaf Files : Type) where
  runtime : RuntimeConfigHash Files → String
  infra : InfraConfigHash Leaf → String

variable (digests : Digests Leaf Files) (merged : MergedConfig (Document String Leaf) Files)

/-- The digest of what running instances can take over. -/
def hashRuntimeConfig : String :=
  digests.runtime ⟨merged.vars, merged.files⟩

/-- The digest of what needs new instances. -/
def hashInfraConfig : String :=
  digests.infra ⟨merged.args, merged.instanceType, merged.subnetPool, merged.userdata, merged.kind,
    merged.arch⟩

/-- A group with its tenant and key. -/
structure TenantGroup where
  tenant : String
  key : String
  config : GroupConfig Ref

/-- The two digests of a group. -/
structure GroupHashes where
  tenant : String
  groupKey : String
  runtimeHash : String
  infraHash : String

/-- The digests of a merged group. -/
def groupHashes (group : TenantGroup) (merged : MergedConfig (Document String Leaf) Files)
    : GroupHashes :=
  ⟨group.tenant, group.key, hashRuntimeConfig digests merged, hashInfraConfig digests merged⟩

/-- The digests of all groups; the first error ends it. -/
def computeGroupHashes (digests : Digests Leaf Files) (fuel : Nat) (c : Config Files) :
    Heap String Leaf → List TenantGroup →
      Option (Except String (List GroupHashes) × Heap String Leaf)
  | h, [] => some (.ok [], h)
  | h, group :: rest =>
    if group.config.template = "" then
      some (.error (group.key ++ " in tenant " ++ group.tenant ++ ": no template"), h)
    else
      (getMergedConfig fuel c group.config.template group.config h).bind fun done =>
        match done.1 with
        | .error error =>
          some (.error (group.key ++ " in tenant " ++ group.tenant ++ ": " ++ error), done.2)
        | .ok merged =>
          (computeGroupHashes digests fuel c done.2 rest).map fun others =>
            (others.1.map (groupHashes digests group (merged.contents done.2) :: ·), others.2)

/-! ## The merge ends

Whatever objects are shared, each lies at one level of the documents it was parsed
from, and a merge puts a reference only into objects of the level above it. So fuel for
all levels is enough. -/

section

variable {level : Ref → Nat} {bound : Nat}

theorem foldlM_keeps {α β : Type} {step : β → α → Option β} {I : β → Prop} (list : List α)
    (kept : ∀ b, ∀ a ∈ list, I b → ∃ b', step b a = some b' ∧ I b') :
    ∀ {b : β}, I b → ∃ b', list.foldlM step b = some b' ∧ I b' := by
  induction list with
  | nil =>
    intro b holds
    exact ⟨b, rfl, holds⟩
  | cons a rest ih =>
    intro b holds
    obtain ⟨b₁, stepped, holds₁⟩ := kept b a List.mem_cons_self holds
    obtain ⟨b', ran, holds'⟩ :=
      ih (fun b other mem => kept b other (List.mem_cons_of_mem a mem)) holds₁
    refine ⟨b', ?_, holds'⟩
    rw [List.foldlM_cons, stepped]
    exact ran

theorem deepMergeArgs_ends : ∀ {fuel : Nat} {h : Heap String Leaf} {dst src : Ref},
    h.Graded level bound → level dst = level src → level src < bound → bound ≤ level src + fuel →
        ∃ h', deepMergeArgs fuel h dst src = some h' ∧ h'.Graded level bound ∧
          h'.next = h.next := by
  intro fuel
  induction fuel with
  | zero =>
    intro h dst src _ _ low enough
    exact absurd low (Nat.not_lt.mpr enough)
  | succ fuel ih =>
    intro h dst src graded same low enough
    refine foldlM_keeps (I := fun g : Heap String Leaf => g.Graded level bound ∧ g.next = h.next)
      _ ?_ ⟨graded, rfl⟩
    intro g entry mem holds
    obtain ⟨gradedG, next⟩ := holds
    have source : ∀ child, entry.2 = .object child →
        child < g.next ∧ level child = level dst + 1 ∧ level child < bound := by
      intro child isObject
      rw [next, same]
      exact graded src entry.1 child (isObject ▸ Dict.get_eq_some_iff.mpr mem)
    rw [mergeEntry]
    split
    · -- both are objects, one level down
      rename_i vMap dMap new old
      obtain ⟨_, below, low'⟩ := source vMap new
      obtain ⟨_, below', _⟩ := gradedG dst entry.1 dMap old
      obtain ⟨g', merged, graded', next'⟩ :=
        ih gradedG (below'.trans below.symm) low' (by rw [below, same]; omega)
      exact ⟨g', merged, graded', next'.trans next⟩
    · exact ⟨_, rfl, gradedG.write source, next⟩

/-- The arguments of a level are an object that was given out, at the top. -/
def AtTop (level : Ref → Nat) (next : Ref) (args : Option Ref) : Prop :=
  ∀ ref ∈ args, ref < next ∧ level ref = 0

variable {level' : Ref → Nat} {next next' : Ref} {args : Option Ref}

theorem AtTop.mono (top : AtTop level next args) (more : next ≤ next')
    (same : ∀ ref < next, level' ref = level ref) : AtTop level' next' args := by
  intro ref mem
  obtain ⟨inside, zero⟩ := top ref mem
  exact ⟨Nat.lt_of_lt_of_le inside more, (same ref inside).trans zero⟩

variable {fuel : Nat} {c : Config Files}

theorem mergeLevel_ends {h : Heap String Leaf} {dst : Ref} (graded : h.Graded level bound)
    (top : AtTop level h.next args) (zero : level dst = 0) (positive : 0 < bound)
    (enough : bound ≤ fuel) :
    ∃ h', mergeLevel fuel dst h args = some h' ∧ h'.Graded level bound ∧ h'.next = h.next := by
  cases args with
  | none => exact ⟨h, rfl, graded, rfl⟩
  | some src =>
    have zero' := (top src rfl).2
    refine deepMergeArgs_ends graded (zero.trans zero'.symm) (zero' ▸ positive) ?_
    rw [zero', Nat.zero_add]
    exact enough

/-- The arguments of the defaults and of the templates are at the top. -/
structure Config.AtTop (level : Ref → Nat) (next : Ref) (c : Config Files) : Prop where
  defaults : Configuration.AtTop level next c.defaults.args
  templates : ∀ name template, c.templates.get name = some template →
    Configuration.AtTop level next template.args

theorem Config.AtTop.mono (top : c.AtTop level next) (more : next ≤ next')
    (same : ∀ ref < next, level' ref = level ref) : c.AtTop level' next' :=
  ⟨top.defaults.mono more same, fun name template found =>
    (top.templates name template found).mono more same⟩

theorem getMergedConfig_ends {h : Heap String Leaf} (template : String) {group : GroupConfig Ref}
    (graded : h.Graded level bound) (top : c.AtTop level h.next)
    (own : AtTop level h.next group.args) (positive : 0 < bound) (enough : bound ≤ fuel) :
    ∃ result h' level', getMergedConfig fuel c template group h = some (result, h') ∧
      h'.Graded level' bound ∧ h.next ≤ h'.next ∧ (∀ ref < h.next, level' ref = level ref) ∧
      (result.isOk = true ↔ (c.templates.get template).isSome = true) := by
  rw [getMergedConfig]
  cases found : c.templates.get template with
  | none =>
    exact ⟨_, h, level, rfl, graded, Nat.le_refl _, fun _ _ => rfl, by
      simp [Except.isOk, Except.toBool]⟩
  | some templateConfig =>
    have older : ∀ ref < h.next, Function.update level h.next 0 ref = level ref := by
      intro ref inside
      exact Function.update_of_ne (Nat.ne_of_lt inside) _ _
    have more : h.next ≤ h.alloc.next := Nat.le_succ _
    have zero : Function.update level h.next 0 h.next = 0 := Function.update_self _ _ _
    have top' := top.mono more older
    obtain ⟨h₁, done₁, graded₁, next₁⟩ :=
      mergeLevel_ends graded.alloc top'.defaults zero positive enough
    obtain ⟨h₂, done₂, graded₂, next₂⟩ := mergeLevel_ends graded₁
      (next₁ ▸ top'.templates template templateConfig found) zero positive enough
    obtain ⟨h₃, done₃, graded₃, next₃⟩ := mergeLevel_ends graded₂
      (next₂ ▸ next₁ ▸ own.mono more older) zero positive enough
    refine ⟨.ok (mergeFields c.defaults templateConfig group h.next), h₃, _, ?_, graded₃, ?_,
      older, by simp [Except.isOk, Except.toBool]⟩
    · simp only [done₁, done₂, done₃, Option.bind_eq_bind, Option.bind_some]
    · rw [next₃, next₂, next₁]
      exact more

/-- The template of a group exists. -/
def Templated (c : Config Files) (group : TenantGroup) : Prop :=
  group.config.template ≠ "" ∧ (c.templates.get group.config.template).isSome = true

/-- The loop returns, with hashes for all groups if and only if each has a template
that is defined. -/
theorem computeGroupHashes_ends (digests : Digests Leaf Files) (positive : 0 < bound)
    (enough : bound ≤ fuel) (groups : List TenantGroup) :
    ∀ {h : Heap String Leaf} {level : Ref → Nat}, h.Graded level bound → c.AtTop level h.next →
      (∀ group ∈ groups, AtTop level h.next group.config.args) →
        ∃ result h', computeGroupHashes digests fuel c h groups = some (result, h') ∧
          (result.isOk = true ↔ ∀ group ∈ groups, Templated c group) ∧
          ∀ hashes, result = .ok hashes →
            hashes.map GroupHashes.tenant = groups.map TenantGroup.tenant := by
  induction groups with
  | nil =>
    intro h level _ _ _
    refine ⟨.ok [], h, rfl, by simp [Except.isOk, Except.toBool], ?_⟩
    rintro hashes ⟨⟩
    rfl
  | cons group rest ih =>
    intro h level graded top own
    rw [computeGroupHashes]
    by_cases unnamed : group.config.template = ""
    · rw [if_pos unnamed]
      refine ⟨_, h, rfl, ?_, by rintro hashes ⟨⟩⟩
      simp [Templated, unnamed, Except.isOk, Except.toBool]
    rw [if_neg unnamed]
    obtain ⟨merged, h₁, level₁, called, graded₁, more, same, defined⟩ :=
      getMergedConfig_ends group.config.template graded top (own group List.mem_cons_self)
        positive enough
    rw [called]
    cases merged with
    | error error =>
      refine ⟨_, h₁, rfl, ?_, by rintro hashes ⟨⟩⟩
      have missing : ¬ Templated c group := by
        intro templated
        exact absurd (defined.mpr templated.2) (by simp [Except.isOk, Except.toBool])
      simp [Except.isOk, Except.toBool, missing]
    | ok merged =>
      have templated : Templated c group := ⟨unnamed, defined.mp rfl⟩
      obtain ⟨others, h', ran, allOk, tenants⟩ := ih graded₁ (top.mono more same)
        fun other mem => (own other (List.mem_cons_of_mem group mem)).mono more same
      simp only [Option.bind_some, ran, Option.map_some]
      refine ⟨_, h', rfl, ?_, ?_⟩
      · rw [List.forall_mem_cons, and_iff_right templated, ← allOk]
        cases others <;> rfl
      · intro hashes done
        cases others with
        | error error => cases done
        | ok others =>
          cases done
          exact congrArg (group.tenant :: ·) (tenants others rfl)

end

namespace Parsed

variable {P : Parsed Leaf Files} {fuel : Nat}

/-- The call that hashes a group. -/
def Calls (P : Parsed Leaf Files) (group : TenantGroup) (call : Call P) : Prop :=
  call.template = group.config.template ∧ call.group = group.config

/-- The hashes of harmless groups are the same from any two heaps in which the
configuration is as it was. -/
theorem computeGroupHashes_spec (digests : Digests Leaf Files) (enough : P.depth ≤ fuel)
    (groups : List TenantGroup) :
    ∀ {g h : Heap String Leaf}, P.Kept g → P.Kept h →
      (∀ group ∈ groups, ∃ call, P.Calls group call ∧ P.Harmless call) →
        ∃ result g' h', computeGroupHashes digests fuel P.config g groups = some (result, g') ∧
          computeGroupHashes digests fuel P.config h groups = some (result, h') := by
  induction groups with
  | nil =>
    intro g h _ _ _
    exact ⟨.ok [], g, h, rfl, rfl⟩
  | cons group rest ih =>
    intro g h keptG keptH harmless
    obtain ⟨call, ⟨template, config⟩, ok⟩ := harmless group List.mem_cons_self
    rw [computeGroupHashes, computeGroupHashes]
    by_cases unnamed : group.config.template = ""
    · rw [if_pos unnamed, if_pos unnamed]
      exact ⟨_, g, h, rfl, rfl⟩
    rw [if_neg unnamed, if_neg unnamed]
    -- both calls return the deep merge of what was parsed
    obtain ⟨resultG, g₁, doneG, keptG₁, contentsG⟩ := merge_spec enough keptG ok
    obtain ⟨resultH, h₁, doneH, keptH₁, contentsH⟩ := merge_spec enough keptH ok
    have same := contentsG.trans contentsH.symm
    rw [merge, template, config] at doneG doneH
    rw [doneG, doneH]
    cases resultG with
    | error error =>
      cases resultH with
      | error => cases same; exact ⟨_, g₁, h₁, rfl, rfl⟩
      | ok => cases same
    | ok mergedG =>
      cases resultH with
      | error => cases same
      | ok mergedH =>
        have equal : mergedG.contents g₁ = mergedH.contents h₁ := Except.ok.inj same
        obtain ⟨others, g₂, h₂, restG, restH⟩ := ih keptG₁ keptH₁
          fun other mem => harmless other (List.mem_cons_of_mem group mem)
        simp only [Option.bind_some, restG, restH, equal, Option.map_some]
        exact ⟨_, g₂, h₂, rfl, rfl⟩

/-- **Merging is pure.** Take a parsed configuration and any calls in which no level
adds anything to an object of the levels before it. After them, such a call returns;
it leaves every object of the configuration as it was parsed, at every depth, and
what it returns and the hashes of it are those of a fresh copy. So are the hashes of
any such groups. -/
theorem merging_pure (P : Parsed Leaf Files) (enough : P.depth ≤ fuel) {calls : List (Call P)}
    (before : ∀ call ∈ calls, P.Harmless call) :
    ∃ h, P.after fuel P.heap calls = some h ∧
      (∀ call : Call P, P.Harmless call → ∃ result h' fresh h₀,
        P.merge fuel h call = some (result, h') ∧ P.merge fuel P.heap call = some (fresh, h₀) ∧
        (∀ ref < P.heap.next, h'.contents ref = P.heap.contents ref) ∧
        result.map (MergedConfig.contents h') = fresh.map (MergedConfig.contents h₀)) ∧
      ∀ (digests : Digests Leaf Files) (groups : List TenantGroup),
        (∀ group ∈ groups, ∃ call, P.Calls group call ∧ P.Harmless call) →
          ∃ result h' h₀, computeGroupHashes digests fuel P.config h groups = some (result, h') ∧
            computeGroupHashes digests fuel P.config P.heap groups = some (result, h₀) := by
  obtain ⟨h, ran, kept⟩ := after_spec enough calls (Kept.refl P) before
  refine ⟨h, ran, ?_, ?_⟩
  · intro call ok
    obtain ⟨result, h', done, kept', contents⟩ := merge_spec enough kept ok
    obtain ⟨fresh, h₀, done₀, _, contents₀⟩ := merge_spec enough (Kept.refl P) ok
    exact ⟨result, h', fresh, h₀, done, done₀, fun ref inside => kept'.contents inside,
      contents.trans contents₀.symm⟩
  · intro digests groups ok
    exact computeGroupHashes_spec digests enough groups kept (Kept.refl P) ok

/-! ## A shop whose groups share the defaults -/

/-- The defaults `{"net": {"a": "1"}}`, a group with the arguments
`{"net": {"b": "2"}}` and one with those of the defaults. -/
def shopObjects : Ref → Dict String (Value String)
  | 0 => ⟨[("net", .object 1)], by decide⟩
  | 1 => ⟨[("a", .leaf "1")], by decide⟩
  | 2 => ⟨[("net", .object 3)], by decide⟩
  | 3 => ⟨[("b", .leaf "2")], by decide⟩
  | 4 => ⟨[("net", .object 5)], by decide⟩
  | 5 => ⟨[("a", .leaf "1")], by decide⟩
  | _ => .empty

theorem object_of_shop {ref : Ref} {key : String} {child : Ref}
    (there : (shopObjects ref).get key = some (.object child)) :
    key = "net" ∧ (child = 1 ∨ child = 3 ∨ child = 5) ∧ ref ≠ 1 ∧ ref ≠ 3 ∧ ref ≠ 5 := by
  rw [Dict.get_eq_some_iff] at there
  unfold shopObjects at there
  split at there
  all_goals simp [Dict.empty] at there
  all_goals simp [there]

/-- Defaults and groups that share nested arguments. -/
def shop : Parsed String Unit where
  config :=
    { defaults := { args := some 0 }
      templates := ⟨[("t", { kind := "server", arch := "arm64", files := () })], by decide⟩ }
  heap := ⟨shopObjects, 6⟩
  depth := 3
  closed := by
    intro ref _ key child there
    obtain ⟨_, rfl | rfl | rfl, _⟩ := object_of_shop there <;> decide
  shallow := by
    intro ref _
    refine Heap.shallow_contents ?_
    intro key child there
    refine Heap.shallow_contents ?_
    intro key' child' there'
    obtain ⟨_, _, one, three, five⟩ := object_of_shop there'
    obtain ⟨_, rfl | rfl | rfl, _⟩ := object_of_shop there
    · exact absurd rfl one
    · exact absurd rfl three
    · exact absurd rfl five
  defaults := by
    intro ref mem
    cases mem
    decide
  templates := by
    intro name template there ref mem
    rw [Dict.get_eq_some_iff, List.mem_singleton, Prod.mk.injEq] at there
    rw [there.2] at mem
    cases mem

/-- A group of the only template. -/
def shopGroup (args : Option Ref) : GroupConfig Ref := { template := "t", args }

/-- A group that overrides a nested argument. -/
def web : Call shop := ⟨"t", shopGroup (some 2), by intro ref mem; cases mem; decide⟩

/-- Another group over the same defaults. -/
def cache : Call shop := ⟨"t", shopGroup (some 4), by intro ref mem; cases mem; decide⟩

/-- A group without arguments of its own. -/
def db : Call shop := ⟨"t", shopGroup none, by intro ref mem; cases mem⟩

theorem harmony_blank (d : Document String Leaf) : Harmony d blank := by
  intro key _ there
  cases there

theorem harmless_of_harmony {call : Call shop}
    (harmony : Harmony (shop.heap.contents 0) (document shop.heap call.group.args)) :
    shop.Harmless call := by
  intro template there
  have none : template.args = none := by
    rw [Dict.get_eq_some_iff] at there
    rw [(Prod.mk.inj (List.mem_singleton.mp there)).2]
  rw [none]
  refine ⟨harmony_blank _, ?_⟩
  show Harmony (overlay (shop.heap.contents 0) blank) _
  exact harmony

theorem harmless_db : shop.Harmless db := harmless_of_harmony (harmony_blank _)

theorem harmless_cache : shop.Harmless cache := by
  refine harmless_of_harmony ?_
  intro key there there'
  obtain ⟨child, found⟩ := Heap.get_of_object there
  obtain ⟨rfl, _⟩ := object_of_shop found
  have first : under "net" (shop.heap.contents 0) = shop.heap.contents 1 :=
    Heap.under_contents rfl
  have second : under "net" (shop.heap.contents 4) = shop.heap.contents 5 :=
    Heap.under_contents rfl
  have same : shop.heap.contents 1 = shop.heap.contents 5 := Heap.contents_congr rfl
  intro path shape given
  rw [first, same, ← second]
  exact given

/-- Calls for groups that add nothing to the defaults leave the shop as it was. -/
theorem merging_pure_shop : ∃ h, shop.after 3 shop.heap [db, cache] = some h ∧
    ∃ result h', shop.merge 3 h cache = some (result, h') ∧
      ∀ ref < 6, h'.contents ref = shop.heap.contents ref := by
  obtain ⟨h, ran, calls, _⟩ := merging_pure shop (Nat.le_refl 3) (by
    intro call mem
    rcases List.mem_cons.mp mem with rfl | mem
    · exact harmless_db
    · cases List.mem_singleton.mp mem
      exact harmless_cache)
  obtain ⟨result, h', fresh, h₀, done, _, kept, _⟩ := calls cache harmless_cache
  exact ⟨h, ran, result, h', done, kept⟩

/-- A digest that shows whether the arguments have `net.b`. -/
def shows : Digests String Unit where
  runtime _ := ""
  infra config := if (config.args ["net", "b"]).isSome then "with b" else "without b"

/-- The arguments of a group are written into the defaults, and from there they get
into those of another group and into its hash. -/
theorem merging_not_pure :
    ∃ h result h' fresh h₀, shop.after 3 shop.heap [web] = some h ∧
      h.contents 0 ["net", "b"] = some (.leaf "2") ∧ shop.heap.contents 0 ["net", "b"] = none ∧
      shop.merge 3 h db = some (.ok result, h') ∧ shop.merge 3 shop.heap db = some (.ok fresh, h₀) ∧
      (result.contents h').args ["net", "b"] = some (.leaf "2") ∧
      (fresh.contents h₀).args ["net", "b"] = none ∧
      (computeGroupHashes shows 3 shop.config h [⟨"acme", "db", db.group⟩]).map Prod.fst =
        some (.ok [⟨"acme", "db", "", "with b"⟩]) ∧
      (computeGroupHashes shows 3 shop.config shop.heap [⟨"acme", "db", db.group⟩]).map Prod.fst =
        some (.ok [⟨"acme", "db", "", "without b"⟩]) :=
  ⟨_, _, _, _, _, rfl, rfl, rfl, rfl, rfl, rfl, rfl, rfl, rfl⟩

end Parsed

end Nstance.Configuration

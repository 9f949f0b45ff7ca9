import Mathlib.Data.List.Sort
import Mathlib.Data.String.Basic
import Nstance.Interaction.Trace
import Nstance.Objects.Dict

/-!
# Publication of local files

`Write` renames the files of a batch into place, then removes the files that the last manifest
lists and the new batch omits, and then writes its own manifest. A batch that is cut short in
between leaves files that no later batch removes (`interrupted_survives`). Otherwise a batch that
succeeds leaves exactly its own files (`published_exactly`).
-/

namespace Nstance.LocalFiles

open Interaction Objects

variable {Content : Type}

/-- The file that marks a complete write. -/
def completionFile : String := "write-files.last"

/-- The file that lists what was written. -/
def manifestFile : String := ".nstance-local-files.json"

/-- A relative name that is its own base has no separator. -/
def validName (name : String) : Bool :=
  name ≠ "" && !name.toList.contains '/' && name ≠ completionFile && name ≠ manifestFile

/-- The files of the directory and its manifest. -/
structure Directory (Content : Type) where
  files : Dict String Content := .empty
  manifest : Option (List String) := none

/-- A name that is not valid is an error. -/
def readManifest (d : Directory Content) : Except String (List String) :=
  match (d.manifest.getD []).find? (!validName ·) with
  | some name => .error ("invalid filename \"" ++ name ++ "\" in local file manifest")
  | none => .ok (d.manifest.getD [])

/-- How far a call comes: it may be cut short, by an error or a crash, after some of the files,
after some of the removals, or before the completion marker. -/
inductive Ending where
  | publishing (count : Nat)
  | removing (count : Nat)
  | unmarked
  | done

/-- Stands for the error or the crash that cuts a call short. -/
def interrupted : String := "interrupted"

/-- `Writer.Write`, with the files in the order in which the map is ranged over. -/
def write (files : Dict String Content) (ending : Ending) (d : Directory Content) :
    Directory Content × Except String Unit :=
  match files.entries.find? (fun entry => !validName entry.1) with
  | some entry => (d, .error ("invalid local filename \"" ++ entry.1 ++ "\""))
  | none =>
    match readManifest d with
    | .error error => (d, .error error)
    | .ok previous =>
      let stale := previous.filter fun name => (files.get name).isNone
      let published := d.files.assign files.entries
      let names := (files.entries.map Prod.fst).insertionSort (· ≤ ·)
      match ending with
      | .publishing count =>
        ({ d with files := d.files.assign (files.entries.take count) }, .error interrupted)
      | .removing count =>
        ({ d with files := (stale.take count).foldl Dict.erase published }, .error interrupted)
      | .unmarked => (⟨stale.foldl Dict.erase published, some names⟩, .error interrupted)
      | .done => (⟨stale.foldl Dict.erase published, some names⟩, .ok ())

/-- Writes one after another. -/
def writer : Machine (Directory Content) (Dict String Content × Ending) where
  start := {}
  step d call := some (write call.1 call.2 d).1

/-- What a call that does not come to its manifest publishes is listed in the one it found. -/
def listed (d : Directory Content) (call : Dict String Content × Ending) : Bool :=
  match call.2 with
  | .publishing count => (call.1.entries.take count).all (·.1 ∈ d.manifest.getD [])
  | .removing _ => call.1.entries.all (·.1 ∈ d.manifest.getD [])
  | .unmarked | .done => true

section

variable {d d' : Directory Content} {files : Dict String Content} {ending : Ending} {name : String}

theorem get_foldl_erase (names : List String) (files : Dict String Content) :
    (names.foldl Dict.erase files).get name = if name ∈ names then none else files.get name := by
  induction names generalizing files with
  | nil => rfl
  | cons first rest ih =>
    rw [List.foldl_cons, ih]
    by_cases same : name = first
    · simp [same]
    · simp [same, Dict.get_erase_of_ne same]

/-- The manifest lists every file. -/
def Listed (d : Directory Content) : Prop :=
  ∀ name, d.files.get name ≠ none → name ∈ d.manifest.getD []

theorem listed_assign {entries : List (String × Content)} (kept : Listed d)
    (nodup : (entries.map Prod.fst).Nodup) (known : ∀ entry ∈ entries, entry.1 ∈ d.manifest.getD [])
    (there : (d.files.assign entries).get name ≠ none) : name ∈ d.manifest.getD [] := by
  rw [Dict.get_assign nodup] at there
  cases found : entries.lookup name with
  | none => exact kept name (by simpa [found] using there)
  | some content => exact known _ ((Dict.lookup_eq_some_iff nodup).mp found)

theorem get_published (kept : Listed d) :
    (((d.manifest.getD []).filter fun name => (files.get name).isNone).foldl Dict.erase
      (d.files.assign files.entries)).get name = files.get name := by
  have owned := kept name
  rw [get_foldl_erase, Dict.get_assign files.nodup]
  change (if _ then none else (files.get name).or _) = _
  cases found : files.get name <;> grind

theorem readManifest_ok {previous : List String} (read : readManifest d = .ok previous) :
    previous = d.manifest.getD [] := by
  rw [readManifest] at read
  split at read <;> cases read
  rfl

theorem Listed.write (kept : Listed d) (fine : listed d (files, ending) = true) :
    Listed (write files ending d).1 := by
  rw [LocalFiles.write]
  split
  · exact kept
  split
  · exact kept
  rename_i previous read
  cases readManifest_ok read
  intro name there
  cases ending with
  | publishing count =>
    change name ∈ d.manifest.getD []
    refine listed_assign kept ?_ (by simpa [listed] using fine) there
    exact files.nodup.sublist ((List.take_sublist count _).map _)
  | removing count =>
    change name ∈ d.manifest.getD []
    refine listed_assign kept files.nodup (by simpa [listed] using fine) fun gone => there ?_
    exact (get_foldl_erase ..).trans (by simp [gone])
  | unmarked | done =>
    have owned : files.get name ≠ none := get_published kept ▸ there
    obtain ⟨content, found⟩ := Option.ne_none_iff_exists'.mp owned
    simpa using ⟨content, Dict.get_eq_some_iff.mp found⟩

end

/-- **A batch that succeeds leaves exactly its own files**, if no batch before it was cut short
between a file that its manifest did not list and the new manifest. -/
theorem published_exactly {d d' : Directory Content} {files : Dict String Content} {ending : Ending}
    (reached : writer.Reaches (fun d call => listed d call = true) d)
    (written : write files ending d = (d', .ok ())) (name : String) :
    d'.files.get name = files.get name := by
  have kept : Listed d := by
    refine reached.invariant (fun _ there => absurd rfl there) fun _ kept fine stepped => ?_
    cases stepped
    exact kept.write fine
  rw [write] at written
  split at written
  · cases written
  split at written
  · cases written
  rename_i previous read
  cases readManifest_ok read
  cases ending <;> cases written
  exact get_published kept

/-- One file. -/
def batch (name : String) : Dict String Nat := Dict.empty.set name 1

theorem replaced_published_exactly :
    (write (batch "b") .done (write (batch "a") .done {}).1).1.files.get "a" = none :=
  have reached : writer.Reaches (fun d call => listed d call = true) _ :=
    Machine.Reaches.start.extend (batch "a", .done) rfl rfl
  published_exactly reached (rfl : write (batch "b") .done _ = (_, .ok ())) "a"

/-- The file of a batch that was cut short survives the next batch, which omits it. -/
theorem interrupted_survives :
    ∃ d d' : Directory Nat, writer.Reachable d ∧ write (batch "b") .done d = (d', .ok ()) ∧
      d'.files.get "a" = some 1 ∧ (batch "b").get "a" = none :=
  ⟨_, _, Machine.Reaches.start.extend (batch "a", .publishing 1) trivial rfl, rfl, rfl, rfl⟩

end Nstance.LocalFiles

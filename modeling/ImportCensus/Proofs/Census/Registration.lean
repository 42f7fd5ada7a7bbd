import ImportCensus.Proofs.Census.Folding
import ImportCensus.Proofs.Glob.Below

namespace ImportCensus
namespace Census

open Files (Node Path)
open Imports (moduleBase)

/-!
# Registered names

The registry has its say before the project is asked, and it is asked about one name at a
time.  Registering names therefore strikes them out of what each file contributes, and so
out of the result of a run, whatever modules the project holds.
-/

namespace Scope

/-- The same files and the same root, with another registry. -/
def registering (scope : Scope) (registry : Registry) : Scope :=
  { scope with registry := registry }

variable (scope : Scope) {file : Path} {name : String}

theorem classOfBase_of_registered (registered : name ∈ scope.registry.names) :
    scope.classOfBase file name = .standard := by
  rw [Scope.classOfBase, if_pos (Registry.knows_iff.2 registered)]

/-- Of the registry, only what it says about a name has a say in the class of the name. -/
theorem classOfBase_registering {registry : Registry}
    (same : name ∈ registry.names ↔ name ∈ scope.registry.names) :
    (scope.registering registry).classOfBase file name = scope.classOfBase file name := by
  have known : registry.knows name = scope.registry.knows name := by
    rw [Bool.eq_iff_iff, Registry.knows_iff, Registry.knows_iff, same]
  unfold Scope.classOfBase
  rw [← known]
  rfl

/-- A registry strikes its names out of the third-party modules of a file. -/
theorem thirdParty_registering (bare : Registry) (none : bare.names = []) (modules : List String) :
    scope.thirdParty file modules =
      ((scope.registering bare).thirdParty file modules).without scope.registry.names := by
  apply PackageSet.ext
  intro name
  rw [PackageSet.mem_without, mem_thirdParty_iff, mem_thirdParty_iff]
  by_cases registered : name ∈ scope.registry.names
  · simp [registered, scope.classOfBase_of_registered registered]
  · have same : name ∈ bare.names ↔ name ∈ scope.registry.names := by
      rw [none]
      exact iff_of_false nofun registered
    rw [scope.classOfBase_registering same]
    simp [registered]

/-- A registry strikes its names out of what a file contributes. -/
theorem contribution_registering (bare : Registry) (none : bare.names = []) (file : Path) :
    scope.contribution file = ((scope.registering bare).contribution file).map
      fun found => found.without scope.registry.names := by
  have read : (scope.registering bare).store = scope.store := rfl
  unfold Scope.contribution
  rw [read]
  cases readReferences scope.store file with
  | error fault => rfl
  | ok references =>
      exact congrArg Except.ok (scope.thirdParty_registering bare none _)

end Scope

/-- Every registry strikes its own names out of one and the same result. -/
theorem run_registering (scope : Scope) (options : Config.Options) (processors : Option Nat)
    {bare : Registry} (none : bare.names = []) (registry : Registry) :
    run (scope.registering registry) options processors =
      (run (scope.registering bare) options processors).map
        fun result => result.without registry.names := by
  have listed : ∀ other, (scope.registering other).files options = scope.files options :=
    fun _ => rfl
  cases enumerated : scope.files options with
  | error error =>
      rw [run_of_files_error ((listed registry).trans enumerated),
        run_of_files_error ((listed bare).trans enumerated)]
      rfl
  | ok files =>
      rw [run_of_files ((listed registry).trans enumerated), run_of_files ((listed bare).trans enumerated)]
      split
      · rfl
      · refine congrArg Except.ok (folded_without ?_)
        intro file _
        exact (scope.registering registry).contribution_registering bare none file

/-- The registry acts by subtraction.  A run with a registry is the run without any registered
names, whether that has a result or not, with the registered names struck out of its
packages.  A registered name is of the standard library for every file, whatever modules
the project holds, and is never reported; and what becomes of a name depends on no other
registered name. -/
theorem run_subtracts_registry (scope : Scope) (options : Config.Options)
    (processors : Option Nat) (bare : Registry) (none : bare.names = []) :
    run scope options processors =
        (run (scope.registering bare) options processors).map
          (fun result => result.without scope.registry.names) ∧
      (∀ files, scope.files options = .ok files -> options.Valid -> ∃ result,
        run (scope.registering bare) options processors = .ok result ∧
        run scope options processors = .ok ⟨result.fileCount, result.failedFiles,
          result.packages.without scope.registry.names⟩) ∧
      (∀ name ∈ scope.registry.names,
        (∀ file module, moduleBase module = name -> scope.classify file module = .standard) ∧
        ∀ result, run scope options processors = .ok result -> name ∉ result.packages) ∧
      ∀ registry name, (name ∈ registry.names ↔ name ∈ scope.registry.names) ->
        (∀ file module, moduleBase module = name ->
          (scope.registering registry).classify file module = scope.classify file module) ∧
        ∀ result other, run scope options processors = .ok result ->
          run (scope.registering registry) options processors = .ok other ->
          (name ∈ other.packages ↔ name ∈ result.packages) := by
  have subtracts := run_registering scope options processors none
  have whole : run scope options processors =
      (run (scope.registering bare) options processors).map
        fun result => result.without scope.registry.names := subtracts scope.registry
  refine ⟨whole, ?_, ?_, ?_⟩
  · intro files enumerated valid
    have runs : run (scope.registering bare) options processors =
        .ok ((scope.registering bare).folded files) := by
      have listed : (scope.registering bare).files options = .ok files := enumerated
      rw [run_eq_folded _ options processors valid, listed]
      rfl
    refine ⟨_, runs, ?_⟩
    rw [whole, runs]
    rfl
  · intro name registered
    constructor
    · rintro file module rfl
      exact scope.classOfBase_of_registered registered
    · intro result runs member
      rw [whole] at runs
      rcases Glob.map_eq_ok.1 runs with ⟨found, _, rfl⟩
      exact (PackageSet.mem_without.1 member).2 registered
  · intro registry name same
    constructor
    · rintro file module rfl
      exact scope.classOfBase_registering same
    · intro result other runs runsOther
      rw [whole] at runs
      rw [subtracts registry] at runsOther
      rcases Glob.map_eq_ok.1 runs with ⟨found, bareRun, rfl⟩
      rcases Glob.map_eq_ok.1 runsOther with ⟨again, bareAgain, rfl⟩
      rw [bareRun] at bareAgain
      cases bareAgain
      have struck : ∀ names, name ∈ (found.without names).packages ↔
          name ∈ found.packages ∧ name ∉ names := fun _ => PackageSet.mem_without
      rw [struck, struck, same]

/-- The one imported module is struck out once it is registered. -/
theorem importingOne_subtracts_registry :
    ∃ result, run importingOne .default none = .ok result ∧
      run (importingOne.registering ⟨"3.12", ["c"]⟩) .default none =
        .ok ⟨result.fileCount, result.failedFiles, result.packages.without ["c"]⟩ := by
  have listed : (importingOne.registering ⟨"3.12", ["c"]⟩).files .default =
      .ok [⟨1, ["b.py"]⟩] :=
    (files_eq_walk root_importingOne).trans walk_importingOne
  have claim := run_subtracts_registry (importingOne.registering ⟨"3.12", ["c"]⟩) .default none
    ⟨"3.12", []⟩ rfl
  exact claim.2.1 _ listed nofun

end Census
end ImportCensus

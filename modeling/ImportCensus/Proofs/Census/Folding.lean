import ImportCensus.Proofs.Census.Outcome

namespace ImportCensus
namespace Census

open Files (Node Path)
open Imports (absoluteBases moduleBase)

/-!
# What goes into a result

A run over files that can be listed comes down to going over these files one after the
other (`run_eq_walk`).  How its result changes with the files, or with what each of them
contributes, is said here once: fewer files give less of everything, the order of the
files has no influence, and names that are struck out of every contribution are struck
out of the result.
-/

/-! ## Sets and results without some names -/

namespace PackageSet

/-- A set without the names in a list. -/
def without (packages : PackageSet) (names : List String) : PackageSet :=
  ⟨packages.members.filter fun name => !names.contains name, packages.increasing.filter _⟩

@[simp] theorem mem_without {packages : PackageSet} {names : List String} {name : String} :
    name ∈ packages.without names ↔ name ∈ packages ∧ name ∉ names := by
  simp [mem_def, without]

end PackageSet

namespace Result

/-- A result with some names struck out of its packages. -/
def without (result : Result) (names : List String) : Result :=
  { result with packages := result.packages.without names }

theorem ext {first second : Result} (count : first.fileCount = second.fileCount)
    (failed : first.failedFiles = second.failedFiles)
    (packages : first.packages = second.packages) : first = second := by
  cases first
  cases second
  cases count
  cases failed
  cases packages
  rfl

end Result

/-! ## Third-party names of a file -/

variable {scope later : Scope} {file : Path} {files kept : List Path}

theorem classOfBase_eq_thirdParty_iff {base : String} :
    scope.classOfBase file base = .thirdParty ↔
      scope.registry.knows base = false ∧
        Project.isLocal scope.store scope.root file base = false := by
  unfold Scope.classOfBase
  cases scope.registry.knows base with
  | true => simp
  | false => cases Project.isLocal scope.store scope.root file base <;> simp

/-- The names that a file contributes are bases of modules that it imports, and their class
for this file is decided by the names alone. -/
theorem mem_thirdParty_iff {modules : List String} {name : String} :
    name ∈ scope.thirdParty file modules ↔
      (∃ module ∈ modules, moduleBase module = name) ∧ scope.classOfBase file name = .thirdParty := by
  rw [Scope.thirdParty, PackageSet.mem_ofList, List.mem_map]
  constructor
  · rintro ⟨module, member, rfl⟩
    have chosen := List.mem_filter.1 member
    exact ⟨⟨module, chosen.1, rfl⟩, beq_iff_eq.1 chosen.2⟩
  · rintro ⟨⟨module, member, rfl⟩, thirdParty⟩
    exact ⟨module, List.mem_filter.2 ⟨member, beq_iff_eq.2 thirdParty⟩, rfl⟩

/-- No file contributes a name that is registered or local to it. -/
theorem foreign_of_contribution {packages : PackageSet} {name : String}
    (contributes : scope.contribution file = .ok packages) (member : name ∈ packages) :
    scope.registry.knows name = false ∧
      Project.isLocal scope.store scope.root file name = false := by
  rcases contribution_eq_ok.1 contributes with ⟨document, _, rfl⟩
  exact classOfBase_eq_thirdParty_iff.1 (mem_thirdParty_iff.1 member).2

/-- A file of which the same is read contributes the same where its imports are of the same
class. -/
theorem contribution_congr (same : readReferences later.store file = readReferences scope.store file)
    (classes : ∀ references, readReferences scope.store file = .ok references ->
      ∀ module ∈ absoluteBases references,
        later.classOfBase file (moduleBase module) = scope.classOfBase file (moduleBase module)) :
    later.contribution file = scope.contribution file := by
  unfold Scope.contribution
  rw [same]
  cases read : readReferences scope.store file with
  | error fault => rfl
  | ok references =>
      apply congrArg Except.ok
      apply PackageSet.ext
      intro name
      rw [mem_thirdParty_iff, mem_thirdParty_iff]
      apply and_congr_right
      rintro ⟨module, imported, rfl⟩
      rw [classes references read module imported]

/-! ## Results of going over files -/

theorem files_eq_walk {options : Config.Options}
    (directory : scope.store.holds Node.isDirectory scope.root = true) :
    scope.files options =
      Project.walk scope.store scope.root options.exclude options.gitignore := by
  rw [Scope.files, checkRoot_of_holds directory]
  rfl

/-- A run in a directory goes over what a walk lists, or stops where the walk stops. -/
theorem run_eq_walk {options : Config.Options} {processors : Option Nat} (valid : options.Valid)
    (directory : scope.store.holds Node.isDirectory scope.root = true) :
    run scope options processors =
      (Project.walk scope.store scope.root options.exclude options.gitignore).map scope.folded := by
  rw [run_eq_folded scope options processors valid, files_eq_walk directory]

/-- A run in a directory goes over what a walk lists, unless it is to be shared among less
than one worker. -/
theorem run_eq_bind (directory : scope.store.holds Node.isDirectory scope.root = true)
    (options : Config.Options) (processors : Option Nat) :
    run scope options processors =
      (Project.walk scope.store scope.root options.exclude options.gitignore).bind fun files =>
        if files.isEmpty then .ok .none
        else if poolSize options.workers processors files.length < 1 then .error .negativeWorkers
        else .ok (scope.folded files) := by
  rw [run_eq_files_bind, files_eq_walk directory]

/-- What the sources give together decides about a run. -/
theorem run_congr {later : Scope} {options : Config.Options}
    (directory : scope.store.holds Node.isDirectory scope.root = true)
    (laterDirectory : later.store.holds Node.isDirectory later.root = true)
    (walks : Project.walk later.store later.root options.exclude options.gitignore =
      Project.walk scope.store scope.root options.exclude options.gitignore)
    (same : ∀ files, Project.walk scope.store scope.root options.exclude options.gitignore = .ok files ->
      later.folded files = scope.folded files) (processors : Option Nat) :
    run later options processors = run scope options processors := by
  rw [run_eq_bind directory, run_eq_bind laterDirectory, walks]
  cases listed : Project.walk scope.store scope.root options.exclude options.gitignore with
  | error error => simp only [Except.bind]
  | ok files => simp only [Except.bind, same files listed]

/-- The order of the files has no influence. -/
theorem folded_perm (same : files.Perm kept) : scope.folded files = scope.folded kept := by
  have tally := Tally.foldl_add_perm (same.map scope.contribution) .zero
  rw [Scope.folded, Scope.folded, tally, same.length_eq]

/-- Of fewer files, not more fail. -/
theorem failedFiles_folded_mono (fewer : kept.Sublist files) :
    (scope.folded kept).failedFiles ≤ (scope.folded files).failedFiles := by
  rw [scope.failedFiles_folded, scope.failedFiles_folded]
  exact fewer.countP_le

/-- Fewer files do not contribute further names. -/
theorem packages_folded_mono (fewer : kept.Sublist files) {name : String}
    (member : name ∈ (scope.folded kept).packages) : name ∈ (scope.folded files).packages := by
  rw [scope.mem_packages_folded] at member ⊢
  rcases member with ⟨file, stands, packages, contributes, within⟩
  exact ⟨file, fewer.subset stands, packages, contributes, within⟩

/-- Files that contribute the same give the same result. -/
theorem folded_congr
    (same : ∀ file ∈ files, later.contribution file = scope.contribution file) :
    later.folded files = scope.folded files := by
  rw [Scope.folded, Scope.folded, List.map_congr_left same]

/-- As many files fail as before if the same ones do. -/
theorem failedFiles_folded_congr (same : ∀ file ∈ files,
      (later.contribution file).isOk = (scope.contribution file).isOk) :
    (later.folded files).failedFiles = (scope.folded files).failedFiles := by
  rw [later.failedFiles_folded, scope.failedFiles_folded]
  apply List.countP_congr
  intro file member
  rw [same file member]

/-- It does not matter why a file fails. -/
theorem folded_congr_toOption
    (same : ∀ file ∈ files, (later.contribution file).toOption = (scope.contribution file).toOption) :
    later.folded files = scope.folded files := by
  have found : ∀ (result : Contribution) packages,
      result = .ok packages ↔ result.toOption = some packages := by
    intro result packages
    cases result <;> simp [Except.toOption]
  have usable : ∀ result : Contribution, result.isOk = result.toOption.isSome := by
    intro result
    cases result <;> rfl
  apply Result.ext
  · rfl
  · apply failedFiles_folded_congr
    intro file member
    rw [usable, usable, same file member]
  · apply PackageSet.ext
    intro name
    have reported : name ∈ (later.folded files).packages ↔ name ∈ (scope.folded files).packages := by
      rw [later.mem_packages_folded, scope.mem_packages_folded]
      apply exists_congr
      intro file
      apply and_congr_right
      intro member
      simp only [found, same file member]
    exact reported

/-- A usable file that contributes no names is counted and changes nothing else. -/
theorem folded_cons_of_empty (contributes : scope.contribution file = .ok .empty) :
    scope.folded (file :: files) =
      { scope.folded files with fileCount := (scope.folded files).fileCount + 1 } := by
  apply Result.ext
  · rfl
  · have failed : (scope.folded (file :: files)).failedFiles = (scope.folded files).failedFiles := by
      rw [scope.failedFiles_folded, scope.failedFiles_folded, List.countP_cons, contributes]
      rfl
    exact failed
  · apply PackageSet.ext
    intro name
    have added : name ∈ (scope.folded (file :: files)).packages ↔
        name ∈ (scope.folded files).packages := by
      rw [scope.mem_packages_folded, scope.mem_packages_folded, List.exists_mem_cons_iff, contributes]
      simp
    exact added

/-- If one file alone may contribute something else, not more than one further file fails. -/
theorem failedFiles_folded_le_succ {other : Path} (distinct : files.Nodup)
    (same : ∀ file ∈ files, file ≠ other -> later.contribution file = scope.contribution file) :
    (later.folded files).failedFiles ≤ (scope.folded files).failedFiles + 1 := by
  by_cases listed : other ∈ files
  · have split := List.perm_cons_erase listed
    have rest : (later.folded (files.erase other)).failedFiles =
        (scope.folded (files.erase other)).failedFiles := by
      rw [folded_congr]
      intro file member
      have apart := (distinct.mem_erase_iff).1 member
      exact same file apart.2 apart.1
    rw [later.failedFiles_folded, scope.failedFiles_folded] at rest
    rw [folded_perm split, folded_perm split, later.failedFiles_folded, scope.failedFiles_folded,
      List.countP_cons, List.countP_cons, rest]
    split_ifs <;> omega
  · have every : later.folded files = scope.folded files := by
      apply folded_congr
      intro file member
      exact same file member fun here => listed (here ▸ member)
    rw [every]
    exact Nat.le_succ _

/-- A name that is reported for other contributions of one file is still reported, or this
file contributes it. -/
theorem packages_folded_or {other : Path}
    (same : ∀ file ∈ files, file ≠ other -> later.contribution file = scope.contribution file)
    {name : String} (member : name ∈ (later.folded files).packages) :
    name ∈ (scope.folded files).packages ∨
      other ∈ files ∧ ∃ packages, later.contribution other = .ok packages ∧ name ∈ packages := by
  rw [Scope.mem_packages_folded] at member ⊢
  rcases member with ⟨file, listed, packages, contributes, within⟩
  by_cases here : file = other
  · subst here
    exact .inr ⟨listed, packages, contributes, within⟩
  · rw [same file listed here] at contributes
    exact .inl ⟨file, listed, packages, contributes, within⟩

/-- If this file fails, exactly what the others contribute is reported. -/
theorem mem_packages_folded_of_failed {other : Path}
    (same : ∀ file ∈ files, file ≠ other -> later.contribution file = scope.contribution file)
    (failed : (later.contribution other).isOk = false) {name : String} :
    name ∈ (later.folded files).packages ↔ ∃ file ∈ files, file ≠ other ∧
      ∃ packages, scope.contribution file = .ok packages ∧ name ∈ packages := by
  rw [Scope.mem_packages_folded]
  constructor
  · rintro ⟨file, listed, packages, contributes, within⟩
    have elsewhere : file ≠ other := by
      rintro rfl
      rw [contributes] at failed
      cases failed
    rw [same file listed elsewhere] at contributes
    exact ⟨file, listed, elsewhere, packages, contributes, within⟩
  · rintro ⟨file, listed, elsewhere, packages, contributes, within⟩
    exact ⟨file, listed, packages, (same file listed elsewhere).trans contributes, within⟩

/-- What is struck out of every contribution is struck out of the result, and nothing else
changes. -/
theorem folded_without {names : List String} (every : ∀ file ∈ files,
      later.contribution file = (scope.contribution file).map fun found => found.without names) :
    later.folded files = (scope.folded files).without names := by
  apply Result.ext
  · rfl
  · apply failedFiles_folded_congr
    intro file member
    rw [every file member]
    cases scope.contribution file with
    | error fault => rfl
    | ok packages => rfl
  · apply PackageSet.ext
    intro name
    have kept : name ∈ ((scope.folded files).without names).packages ↔
        name ∈ (scope.folded files).packages ∧ name ∉ names := PackageSet.mem_without
    rw [kept, later.mem_packages_folded, scope.mem_packages_folded]
    constructor
    · rintro ⟨file, member, packages, contributes, within⟩
      rw [every file member] at contributes
      cases found : scope.contribution file with
      | error fault =>
          rw [found] at contributes
          cases contributes
      | ok others =>
          rw [found] at contributes
          cases contributes
          have struck := PackageSet.mem_without.1 within
          exact ⟨⟨file, member, others, found, struck.1⟩, struck.2⟩
    · rintro ⟨⟨file, member, packages, contributes, within⟩, absent⟩
      refine ⟨file, member, packages.without names, ?_, PackageSet.mem_without.2 ⟨within, absent⟩⟩
      rw [every file member, contributes]
      rfl

end Census
end ImportCensus

import ImportCensus.Proofs.Census.Interference
import ImportCensus.Proofs.Census.Reported
import ImportCensus.Proofs.Project.Adding

namespace ImportCensus
namespace Census

open Files (Node Path Store)
open Imports (Reference absoluteBases collect moduleBase)
open Project (Adds Lacks addModule)

/-!
# Adding a module to a project

An empty source that is put into the root of a project is a further file that contributes
nothing, and makes its name local.  Each file therefore contributes what it contributed
before without this name, and so does the project as a whole.  No other name changes its
class, since a base is a single name and two sources of one directory have the same name
only if they belong to the same module.
-/

variable {store : Store} {scope : Scope} {file real : Path} {name : String}

/-! ## Files -/

/-- An empty file is a usable one that imports nothing. -/
theorem contribution_of_empty (opened : scope.store.content file = .ok []) :
    scope.contribution file = .ok .empty := by
  have references : readReferences scope.store file = .ok [] := by
    unfold readReferences readText
    rw [opened]
    cbv
  rw [Scope.contribution, references]
  rfl

/-! ## Contributions -/

/-- Names other than the new one have the class that they had. -/
theorem classOfBase_after {grown : Store} (adds : Adds scope.store scope.root real name grown)
    {above : List String} {base : String} (other : base ≠ name) (single : '/' ∉ base.toList)
    (within : scope.store.root.kindAt (real.names ++ above) = some .directory) (file : String) :
    (scope.inStore grown).classOfBase ⟨1, real.names ++ above ++ [file]⟩ base =
      scope.classOfBase ⟨1, real.names ++ above ++ [file]⟩ base := by
  unfold Scope.classOfBase
  rw [← adds.isLocal_after other single within file]
  rfl

/-- The new name is no third-party name for any file. -/
theorem classOfBase_new {grown : Store} (adds : Adds scope.store scope.root real name grown)
    (file : Path) : (scope.inStore grown).classOfBase file name ≠ .thirdParty := by
  intro thirdParty
  have foreign := (classOfBase_eq_thirdParty_iff.1 thirdParty).2
  cases foreign.symm.trans (adds.isLocal_new file)

/-- The sources that there were contribute what they contributed, without the new name. -/
theorem contribution_after {grown : Store} (adds : Adds scope.store scope.root real name grown)
    {ignore : Project.Ignore} (source : file ∈ Project.sourceFiles scope.store real ignore) :
    (scope.inStore grown).contribution file =
      (scope.contribution file).map fun found => found.without [name] := by
  have read : readReferences (scope.inStore grown).store file = readReferences scope.store file :=
    readReferences_congr (adds.content_after source)
  have anchored : real.anchor = 1 := Project.anchor_realRoot adds.resolved
  rcases (Project.mem_sourceFiles adds.formed anchored).1 source with ⟨above, own, rfl, isSource⟩
  have within := ((Node.listed_iff adds.formed).1 isSource.listed).1
  unfold Scope.contribution
  rw [read]
  cases found : readReferences scope.store ⟨1, real.names ++ above ++ [own]⟩ with
  | error fault => rfl
  | ok references =>
      apply congrArg Except.ok
      apply PackageSet.ext
      intro base
      rw [PackageSet.mem_without, mem_thirdParty_iff, mem_thirdParty_iff, List.mem_singleton]
      by_cases here : base = name
      · subst here
        simp [classOfBase_new adds]
      · have same : (∃ module ∈ absoluteBases references, moduleBase module = base) ->
            (scope.inStore grown).classOfBase ⟨1, real.names ++ above ++ [own]⟩ base =
              scope.classOfBase ⟨1, real.names ++ above ++ [own]⟩ base := by
          rintro ⟨module, member, rfl⟩
          have identifier := isIdentifier_of_readReferences found module member
          exact classOfBase_after adds here (identifier.not_mem (by decide)) within own
        constructor
        · rintro ⟨imported, thirdParty⟩
          exact ⟨⟨imported, (same imported).symm.trans thirdParty⟩, here⟩
        · rintro ⟨⟨imported, thirdParty⟩, _⟩
          exact ⟨imported, (same imported).trans thirdParty⟩

/-! ## Results -/

/-- Going over the files with the new source gives what it gave, without the new name. -/
theorem folded_after {grown : Store} (adds : Adds scope.store scope.root real name grown)
    (ignore : Project.Ignore) :
    (scope.inStore grown).folded (Project.sourceFiles grown real ignore) =
      let before := scope.folded (Project.sourceFiles scope.store real ignore)
      ⟨before.fileCount + (if ignore.file [name ++ ".py"] then 0 else 1), before.failedFiles,
        before.packages.without [name]⟩ := by
  have old : (scope.inStore grown).folded (Project.sourceFiles scope.store real ignore) =
      (scope.folded (Project.sourceFiles scope.store real ignore)).without [name] :=
    folded_without fun file source => contribution_after adds source
  have new : (scope.inStore grown).contribution ⟨1, real.names ++ [name ++ ".py"]⟩ = .ok .empty :=
    contribution_of_empty adds.content_new
  rw [folded_perm (adds.sourceFiles_after ignore)]
  by_cases left : ignore.file [name ++ ".py"] = true
  · rw [if_pos left, if_pos left, old]
    rfl
  · rw [if_neg left, if_neg left, folded_cons_of_empty new, old]
    rfl

/-- Adding a local module removes its own name from the report and nothing else.  Let an
empty source be put into the root of a project without links, where there was none of its
name.  A run then stops for the same reason as before, or it reports what it reported
before without this name; as many files fail, and one file more is counted unless the new
one is left out.  The new name is third-party for no file, and every other name has the
class that it had for each file, at any depth. -/
theorem run_loses_added_module (scope : Scope) (options : Config.Options) (processors : Option Nat)
    (real : Path) (name : String) (excluded : Option Glob.Spec) (valid : options.Valid)
    (lacks : Lacks scope.store scope.root real name)
    (compiles : Project.readPatterns (options.exclude.map String.toList) = .ok excluded) :
    (∀ error, Project.activeIgnoreSpec scope.store real options.gitignore = .error error ->
        run scope options processors = .error error ∧
          run (scope.inStore (addModule scope.store scope.root name)) options processors =
            .error error) ∧
      (∀ ignored, Project.activeIgnoreSpec scope.store real options.gitignore = .ok ignored ->
        ∃ before after, run scope options processors = .ok before ∧
          run (scope.inStore (addModule scope.store scope.root name)) options processors =
            .ok after ∧
          after.packages = before.packages.without [name] ∧
          after.failedFiles = before.failedFiles ∧
          after.fileCount = before.fileCount +
            if Project.Ignore.file ⟨excluded.toList ++ ignored.toList⟩ [name ++ ".py"] then 0 else 1) ∧
      (∀ file module, moduleBase module = name ->
        (scope.inStore (addModule scope.store scope.root name)).classify file module ≠ .thirdParty) ∧
      ∀ above own, scope.store.root.kindAt (real.names ++ above) = some .directory ->
        ∀ module, '/' ∉ (moduleBase module).toList -> moduleBase module ≠ name ->
          (scope.inStore (addModule scope.store scope.root name)).classify
              ⟨1, real.names ++ above ++ [own]⟩ module =
            scope.classify ⟨1, real.names ++ above ++ [own]⟩ module := by
  generalize added : addModule scope.store scope.root name = grown
  have adds := lacks.adds added.symm
  have directoryAfter : grown.holds Node.isDirectory scope.root = true :=
    (adds.writes.holds_isDirectory scope.root).trans lacks.isDirectory
  have runs : run scope options processors =
      ((Project.activeIgnoreSpec scope.store real options.gitignore).map fun ignored =>
        Project.sourceFiles scope.store real ⟨excluded.toList ++ ignored.toList⟩).map
        scope.folded := by
    rw [run_eq_walk valid lacks.isDirectory, Project.walk_eq lacks.resolved compiles]
  have runsAfter : run (scope.inStore grown) options processors =
      ((Project.activeIgnoreSpec scope.store real options.gitignore).map fun ignored =>
        Project.sourceFiles grown real ⟨excluded.toList ++ ignored.toList⟩).map
        (scope.inStore grown).folded := by
    rw [← adds.activeIgnoreSpec_after, ← Project.walk_eq adds.realRoot_after compiles]
    exact run_eq_walk valid directoryAfter
  refine ⟨?_, ?_, ?_, ?_⟩
  · intro error failed
    rw [failed] at runs runsAfter
    exact ⟨runs, runsAfter⟩
  · intro ignored active
    rw [active] at runs runsAfter
    refine ⟨_, _, runs, runsAfter, ?_⟩
    rw [folded_after adds]
    exact ⟨rfl, rfl, rfl⟩
  · rintro file module rfl
    exact classOfBase_new adds file
  · intro above own within module single other
    exact classOfBase_after adds other single within own

theorem lacks_importingOne : Lacks importingOne.store importingOne.root ⟨1, []⟩ "c" where
  formed := importingOne_wellFormed
  isDirectory := root_importingOne
  resolved := Project.realRoot_of_finds importingOne_wellFormed finds_importingOne
  linkFree := fun below => Node.kindAt_ne_link rfl ([] ++ below)
  identifier := ⟨'c', [], rfl, by decide, nofun⟩
  missing := by
    have path : (⟨1, []⟩ : Path).child ("c" ++ ".py") = ⟨1, ["c.py"]⟩ := by cbv
    have place : importingOne.store.place ⟨1, ["c.py"]⟩ = .error .missing := by
      rw [Store.place_eq_follow (by cbv) (by cbv)]
      cbv
    intro base member
    have root : base = ⟨1, []⟩ := by simpa [importingOne] using member
    rw [root, path]
    exact Store.node_of_error place

/-- The one imported module is added to the project, and is reported no longer. -/
theorem importingOne_loses_added_module :
    ∃ before after, run importingOne .default none = .ok before ∧
      run (importingOne.inStore (addModule importingOne.store importingOne.root "c")) .default none =
        .ok after ∧
      after.fileCount = before.fileCount + 1 ∧ "c" ∈ before.packages ∧
      ∀ name, name ∈ after.packages ↔ name ∈ before.packages ∧ name ≠ "c" := by
  have valid : Config.Options.default.Valid := nofun
  have claim := run_loses_added_module importingOne .default none ⟨1, []⟩ "c" none valid
    lacks_importingOne rfl
  rcases claim.2.1 none rfl with ⟨before, after, runs, runsAfter, packages, _, count⟩
  have whole : run importingOne .default none = .ok (importingOne.folded [⟨1, ["b.py"]⟩]) := by
    rw [run_eq_walk valid root_importingOne]
    exact congrArg (Except.map importingOne.folded) walk_importingOne
  have result := Except.ok.inj (runs.symm.trans whole)
  have reported : "c" ∈ before.packages := by
    have contribution := contribution_importingOne
    rw [result, Scope.mem_packages_folded]
    cases contributes : importingOne.contribution ⟨1, ["b.py"]⟩ with
    | error fault =>
        rw [contributes] at contribution
        cases contribution
    | ok found =>
        rw [contributes] at contribution
        refine ⟨_, List.mem_singleton.2 rfl, found, contributes, ?_⟩
        rw [PackageSet.mem_def, Option.some.inj contribution]
        exact List.mem_singleton.2 rfl
  refine ⟨before, after, runs, runsAfter, count, reported, ?_⟩
  intro name
  rw [packages, PackageSet.mem_without, List.mem_singleton]

end Census
end ImportCensus

import ImportCensus.Proofs.Census.Reported
import ImportCensus.Proofs.Glob.Below
import ImportCensus.Proofs.Project.Written

namespace ImportCensus
namespace Census

open Files (IsEntryName Node Path Store)

/-!
# What a file can interfere with

The content of a file has a say in what this file contributes, and in nothing else.  Which
files there are and which modules are local is decided by the kinds of nodes; contents are
read of the file that is looked at and of the ignore file alone.  Two runs over stores that
differ in the content of one file therefore differ by the contributions of this file,
provided that no link leads to it: the target of a link is looked at under other names.
-/

/-! ## The same project in another store -/

namespace Scope

/-- The same root and the same registry, with other files. -/
def inStore (scope : Scope) (store : Store) : Scope := { scope with store := store }

end Scope

variable {store written : Store} {scope : Scope} {file root : Path} {place : List String}
  {content : List Nat}

theorem readReferences_congr (same : written.content file = store.content file) :
    readReferences written file = readReferences store file := by
  unfold readReferences readText
  rw [same]

theorem holds_of_checkRoot {found : Path} (checked : Project.checkRoot store root = .ok found) :
    store.holds Node.isDirectory root = true := by
  unfold Project.checkRoot at checked
  split at checked
  · cases checked
  · cases checked
  · cases checked
  · cases checked
  · rename_i directory
    unfold Store.test at directory
    unfold Store.holds
    cases found : store.node root with
    | error fault =>
        rw [found] at directory
        dsimp only at directory
        split at directory <;> cases directory
    | ok node =>
        rw [found] at directory
        exact Except.ok.inj directory

theorem directory_of_files {options : Config.Options} {files : List Path}
    (enumerated : scope.files options = .ok files) :
    scope.store.holds Node.isDirectory scope.root = true := by
  rcases bind_eq_ok.1 enumerated with ⟨found, checked, _⟩
  exact holds_of_checkRoot checked

/-! ## Writing over a file -/

/-- No module becomes local, and none ceases to be. -/
theorem isLocal_written_over (overwrites : store.Overwrites place content written)
    {names : List String} (finds : store.Finds root names) (file : Path) (name : String) :
    Project.isLocal written root file name = Project.isLocal store root file name := by
  have modules : ∀ directory, Project.hasModule written directory name =
      Project.hasModule store directory name :=
    fun _ => Project.hasModule_written overwrites.toWrites fun _ _ => .inr overwrites.replaces
  rw [Project.isLocal, Project.isLocal, modules, modules,
    Project.isNamed_written overwrites.formed overwrites.formedAfter overwrites.toWrites finds]

/-- Files of which the same is read contribute the same, if the same modules are local. -/
theorem contribution_inStore
    (same : written.content file = scope.store.content file)
    (locals : ∀ name, '/' ∉ name.toList -> Project.isLocal written scope.root file name =
      Project.isLocal scope.store scope.root file name) :
    (scope.inStore written).contribution file = scope.contribution file := by
  apply contribution_congr
  · exact readReferences_congr same
  · intro references read module imported
    have identifier := isIdentifier_of_readReferences read module imported
    unfold Scope.classOfBase
    rw [← locals _ (identifier.not_mem (by decide))]
    rfl

/-- What is written over a file that is not the ignore file changes nothing about the files
that are walked. -/
theorem walk_written_over (overwrites : store.Overwrites place content written)
    {names : List String} (finds : store.Finds root names)
    (notIgnoreFile : place ≠ names ++ [Project.ignoreFile]) (exclude : List String)
    (gitignore : Bool) :
    Project.walk written root exclude gitignore = Project.walk store root exclude gitignore := by
  have resolved := Project.realRoot_of_finds overwrites.formed finds
  have again := Project.realRoot_of_finds overwrites.formedAfter (overwrites.finds finds)
  have entry : IsEntryName Project.ignoreFile := by decide
  have path : (⟨1, names⟩ : Path).child Project.ignoreFile = ⟨1, names ++ [Project.ignoreFile]⟩ :=
    Path.child_eq entry _
  have proper := overwrites.formed.proper finds.within entry
  have specs : Project.ignoreFileSpec written ⟨1, names⟩ = Project.ignoreFileSpec store ⟨1, names⟩ := by
    apply Project.ignoreFileSpec_written overwrites.toWrites
    rw [overwrites.alike.place_eq, path]
    exact overwrites.unlinked.place_ne proper finds.within notIgnoreFile.symm
  have sources : ∀ ignore, Project.sourceFiles written ⟨1, names⟩ ignore =
      Project.sourceFiles store ⟨1, names⟩ ignore :=
    fun _ => Project.sourceFiles_written_over overwrites rfl
  rw [Project.walk_of_realRoot resolved, Project.walk_of_realRoot again,
    Project.ofOptions_written specs]
  cases Project.Ignore.ofOptions store ⟨1, names⟩ exclude gitignore with
  | error error => rfl
  | ok ignore => exact congrArg Except.ok (sources ignore)

/-- What is read of a source is the same, if it is not what is written. -/
theorem content_written_over (overwrites : store.Overwrites place content written)
    {real : Path} {ignore : Project.Ignore} (anchored : real.anchor = 1)
    (source : file ∈ Project.sourceFiles store real ignore) (elsewhere : file ≠ ⟨1, place⟩) :
    written.content file = store.content file := by
  have formed := overwrites.formed
  rcases (Project.mem_sourceFiles formed anchored).1 source with ⟨above, name, rfl, isSource⟩
  have proper : ∀ other ∈ real.names ++ above ++ [name], other ≠ ".." :=
    fun other member => (isSource.entryNames formed other member).notAbove
  have within := ((Node.listed_iff formed).1 isSource.listed).1
  apply overwrites.content_eq (overwrites.alike.place_eq _)
  apply overwrites.unlinked.place_ne proper within
  rintro rfl
  exact elsewhere rfl

/-- A run goes over the same files, or stops for the same reason. -/
theorem files_written_over (options : Config.Options)
    (overwrites : scope.store.Overwrites place content written)
    (notIgnoreFile : ∀ real, Project.realRoot scope.store scope.root = .ok real ->
      place ≠ real.names ++ [Project.ignoreFile]) :
    (scope.inStore written).files options = scope.files options := by
  have checks : Project.checkRoot (scope.inStore written).store (scope.inStore written).root =
      Project.checkRoot scope.store scope.root :=
    Project.checkRoot_alike overwrites.alike scope.root
  unfold Scope.files
  rw [checks]
  cases checked : Project.checkRoot scope.store scope.root with
  | error error =>
      show (Except.error error : Except Project.ProjectError (List Path)) = .error error
      rfl
  | ok root =>
      rcases Store.holds_isDirectory.1 (holds_of_checkRoot checked) with ⟨names, placed, within⟩
      have finds : scope.store.Finds scope.root names := ⟨placed, within⟩
      exact walk_written_over overwrites finds
        (notIgnoreFile _ (Project.realRoot_of_finds overwrites.formed finds)) _ _

/-- The content of a file influences what this file contributes and nothing else.  Let a file
be written over that is not the ignore file of the root and that no link leads to.  Then a
run goes over the same files in the same order, or stops for the same reason; every other
file contributes the same; as many files are counted, at most one more or less of them
fails; and whatever is reported before or after alone is contributed by this file then.  If
the file is not usable afterwards, what is reported is what the others contribute. -/
theorem run_confines_content (scope : Scope) (options : Config.Options) (processors : Option Nat)
    (written : Store) (place : List String) (content : List Nat)
    (overwrites : scope.store.Overwrites place content written)
    (notIgnoreFile : ∀ real, Project.realRoot scope.store scope.root = .ok real ->
      place ≠ real.names ++ [Project.ignoreFile]) :
    (scope.inStore written).files options = scope.files options ∧
      (∀ error, scope.files options = .error error ->
        run scope options processors = .error error ∧
          run (scope.inStore written) options processors = .error error) ∧
      (∀ error, run scope options processors = .error error ↔
        run (scope.inStore written) options processors = .error error) ∧
      ∀ files, scope.files options = .ok files ->
        Project.walk scope.store scope.root options.exclude options.gitignore = .ok files ∧
        Project.walk written scope.root options.exclude options.gitignore = .ok files ∧
        (∀ file ∈ files, file ≠ ⟨1, place⟩ ->
          (scope.inStore written).contribution file = scope.contribution file) ∧
        (options.Valid -> ∃ before, run scope options processors = .ok before) ∧
        ∀ before, run scope options processors = .ok before ->
          ∃ after, run (scope.inStore written) options processors = .ok after ∧
          after.fileCount = before.fileCount ∧
          after.failedFiles ≤ before.failedFiles + 1 ∧
          before.failedFiles ≤ after.failedFiles + 1 ∧
          (∀ name ∈ after.packages, name ∈ before.packages ∨ ⟨1, place⟩ ∈ files ∧
            ∃ packages, (scope.inStore written).contribution ⟨1, place⟩ = .ok packages ∧
              name ∈ packages) ∧
          (∀ name ∈ before.packages, name ∈ after.packages ∨ ⟨1, place⟩ ∈ files ∧
            ∃ packages, scope.contribution ⟨1, place⟩ = .ok packages ∧ name ∈ packages) ∧
          (¬Usable written ⟨1, place⟩ -> ∀ name, name ∈ after.packages ↔
            ∃ file ∈ files, file ≠ ⟨1, place⟩ ∧
              ∃ packages, scope.contribution file = .ok packages ∧ name ∈ packages) := by
  have formed := overwrites.formed
  have sameFiles := files_written_over options overwrites notIgnoreFile
  have stops : ∀ error, scope.files options = .error error ->
      run scope options processors = .error error ∧
        run (scope.inStore written) options processors = .error error :=
    fun error failed => ⟨run_of_files_error failed processors,
      run_of_files_error (sameFiles.trans failed) processors⟩
  refine ⟨sameFiles, stops, ?_, ?_⟩
  · intro error
    cases enumerated : scope.files options with
    | error other => rw [(stops other enumerated).1, (stops other enumerated).2]
    | ok files =>
        rw [run_of_files enumerated, run_of_files (sameFiles.trans enumerated)]
        split
        · rfl
        · exact iff_of_false nofun nofun
  · intro files enumerated
    have directory := directory_of_files enumerated
    have enumeratedAfter := sameFiles.trans enumerated
    have walked := (files_eq_walk directory).symm.trans enumerated
    have walkedAfter : Project.walk written scope.root options.exclude options.gitignore =
        .ok files :=
      (files_eq_walk (directory_of_files enumeratedAfter)).symm.trans enumeratedAfter
    rcases Store.holds_isDirectory.1 directory with ⟨names, placed, within⟩
    have finds : scope.store.Finds scope.root names := ⟨placed, within⟩
    have sources := Project.walk_of_realRoot (Project.realRoot_of_finds formed finds)
      options.exclude options.gitignore
    rcases Glob.map_eq_ok.1 (sources.symm.trans walked) with ⟨ignore, _, rfl⟩
    have distinct := Project.nodup_sourceFiles formed ⟨1, names⟩ ignore
    have others : ∀ file ∈ Project.sourceFiles scope.store ⟨1, names⟩ ignore, file ≠ ⟨1, place⟩ ->
        (scope.inStore written).contribution file = scope.contribution file := by
      intro file source elsewhere
      apply contribution_inStore
      · exact content_written_over overwrites rfl source elsewhere
      · exact fun name _ => isLocal_written_over overwrites finds file name
    have back : ∀ file ∈ Project.sourceFiles scope.store ⟨1, names⟩ ignore, file ≠ ⟨1, place⟩ ->
        scope.contribution file = (scope.inStore written).contribution file := by
      intro file source elsewhere
      exact (others file source elsewhere).symm
    refine ⟨walked, walkedAfter, others, ?_, ?_⟩
    · intro valid
      rw [run_eq_folded scope options processors valid, enumerated]
      exact ⟨_, rfl⟩
    · intro before ran
      have ranAfter := run_of_files enumeratedAfter processors
      rw [run_of_files enumerated] at ran
      split at ran
      · cases ran
      · next legal =>
        cases ran
        rw [if_neg legal] at ranAfter
        refine ⟨_, ranAfter, rfl, failedFiles_folded_le_succ distinct others,
          failedFiles_folded_le_succ distinct back, fun name => packages_folded_or others,
          fun name => packages_folded_or back, ?_⟩
        intro unusable name
        apply mem_packages_folded_of_failed others
        have usable : ((scope.inStore written).contribution ⟨1, place⟩).isOk = true ↔
            Usable written ⟨1, place⟩ := contribution_isOk
        exact Bool.eq_false_iff.2 (mt usable.1 unusable)

/-- An import, and a parenthesis that is never closed. -/
def unclosed : List Nat := [105, 109, 112, 111, 114, 116, 32, 101, 10, 40]

/-- The project of one source, where the source is broken behind its import. -/
def brokenOne : Store := importingOne.store.put ⟨1, ["b.py"]⟩ (.file unclosed)

theorem importingOne_wellFormed : importingOne.store.root.WellFormed := by
  have name : IsEntryName "b.py" := by decide
  simp [importingOne, Node.WellFormed, Node.AllWellFormed, name]

theorem place_importingOne : importingOne.store.place ⟨1, ["b.py"]⟩ = .ok ["b.py"] := by
  rw [Store.place_eq_follow (by cbv) (by cbv)]
  cbv

theorem finds_importingOne : importingOne.store.Finds importingOne.root [] where
  placed := by
    rw [Store.place_eq_follow (by cbv) (by cbv)]
    cbv
  within := rfl

theorem entryPlace_importingOne :
    importingOne.store.entryPlace ⟨1, ["b.py"]⟩ = [] ++ ["b.py"] := by
  have parent : (⟨1, ["b.py"]⟩ : Path).parent = importingOne.root := rfl
  rw [Store.entryPlace, parent, finds_importingOne.placed]
  rfl

theorem overwrites_brokenOne :
    importingOne.store.Overwrites ([] ++ ["b.py"]) unclosed brokenOne where
  toWrites := Store.writes_put unclosed entryPlace_importingOne rfl (.inr rfl)
  formed := importingOne_wellFormed
  formedAfter :=
    Store.wellFormed_put importingOne_wellFormed entryPlace_importingOne rfl (by decide) rfl
  replaces := rfl
  unlinked := Store.unlinked_of_linkPlaces rfl _

theorem unusable_brokenOne : ¬Usable brokenOne ⟨1, ["b.py"]⟩ := by
  have placed := (overwrites_brokenOne.alike.place_eq ⟨1, ["b.py"]⟩).trans place_importingOne
  have failed : (readReferences brokenOne ⟨1, ["b.py"]⟩).isOk = false := by
    unfold readReferences readText
    rw [overwrites_brokenOne.content_here placed]
    cbv
  intro usable
  cases failed.symm.trans (readReferences_isOk.2 usable)

/-- Where the one source is broken nothing is reported, and the import before the error is
not reported either. -/
theorem importingOne_confines_content :
    ∃ before after, run importingOne .default none = .ok before ∧
      run (importingOne.inStore brokenOne) .default none = .ok after ∧
      after.fileCount = before.fileCount ∧ ∀ name, name ∉ after.packages := by
  have listed : importingOne.files .default = .ok [⟨1, ["b.py"]⟩] :=
    (files_eq_walk root_importingOne).trans walk_importingOne
  have notIgnoreFile : ∀ real, Project.realRoot importingOne.store importingOne.root = .ok real ->
      [] ++ ["b.py"] ≠ real.names ++ [Project.ignoreFile] := by
    intro real _ same
    have last := (List.append_inj' same rfl).2
    revert last
    decide
  have claim := run_confines_content importingOne .default none brokenOne _ unclosed
    overwrites_brokenOne notIgnoreFile
  rcases claim.2.2.2 _ listed with ⟨_, _, _, completes, confined⟩
  rcases completes nofun with ⟨before, runs⟩
  rcases confined before runs with ⟨after, runsAfter, count, _, _, _, _, unusable⟩
  refine ⟨before, after, runs, runsAfter, count, ?_⟩
  intro name reported
  rcases (unusable unusable_brokenOne name).1 reported with ⟨file, source, elsewhere, _⟩
  exact elsewhere (List.mem_singleton.1 source)

end Census
end ImportCensus

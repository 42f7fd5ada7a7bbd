import ImportCensus.Proofs.Census.Folding
import ImportCensus.Proofs.Project.Narrowing

namespace ImportCensus
namespace Census

open Files (Node Path Store)

/-!
# Excluding more never reports more

With further exclude patterns that keep their verdict a run goes over some of the files
that it goes over without them, and what each of these files contributes is the same:
whether a module is local is asked of the store, and not of the files that are left.  A
module that is hidden by a pattern therefore stays local for the files that are not.
-/

variable {scope : Scope}

/-- Options with further exclude patterns. -/
def excluding (options : Config.Options) (more : List String) : Config.Options :=
  { options with exclude := options.exclude ++ more }

/-- Excluding more never reports more.  A run with further exclude patterns, none of which
turns its verdict around, stops for the same reason as the run without them, or it goes
over some of its files in the same order, and has a result with no more files, no more
failures and no further packages.  It reports what the files that are left contribute,
and no name that is local to one of these is contributed by it. -/
theorem run_narrows (scope : Scope) (options : Config.Options) (more : List String)
    (processors : Option Nat) (real : Path) (both : Option Glob.Spec) (valid : options.Valid)
    (directory : scope.store.holds Node.isDirectory scope.root = true)
    (resolved : Project.realRoot scope.store scope.root = .ok real)
    (compiles : Project.readPatterns ((options.exclude ++ more).map String.toList) = .ok both)
    (positive : ∀ pattern ∈ more, (Text.trim pattern.toList).head? ≠ some '!') :
    (∀ error, Project.activeIgnoreSpec scope.store real options.gitignore = .error error ->
        run scope options processors = .error error ∧
          run scope (excluding options more) processors = .error error) ∧
      ∀ ignored, Project.activeIgnoreSpec scope.store real options.gitignore = .ok ignored ->
        ∃ files kept before after,
          Project.walk scope.store scope.root options.exclude options.gitignore = .ok files ∧
          Project.walk scope.store scope.root (options.exclude ++ more) options.gitignore =
            .ok kept ∧
          kept.Sublist files ∧
          run scope options processors = .ok before ∧
          run scope (excluding options more) processors = .ok after ∧
          after.fileCount ≤ before.fileCount ∧
          after.failedFiles ≤ before.failedFiles ∧
          (∀ name ∈ after.packages, name ∈ before.packages) ∧
          (∀ name, name ∈ after.packages ↔
            ∃ file ∈ kept, ∃ packages, scope.contribution file = .ok packages ∧ name ∈ packages) ∧
          ∀ file ∈ kept, ∀ packages, scope.contribution file = .ok packages ->
            ∀ name ∈ packages, Project.isLocal scope.store scope.root file name = false := by
  have stillValid : (excluding options more).Valid := valid
  rcases Project.sourceFiles_further scope.store real compiles positive with
    ⟨excluded, further, compilesFirst, _, fewer⟩
  have walked : Project.walk scope.store scope.root options.exclude options.gitignore =
      (Project.activeIgnoreSpec scope.store real options.gitignore).map fun ignored =>
        Project.sourceFiles scope.store real ⟨excluded.toList ++ ignored.toList⟩ :=
    Project.walk_eq resolved compilesFirst
  have walkedFurther : Project.walk scope.store scope.root (options.exclude ++ more)
      options.gitignore =
      (Project.activeIgnoreSpec scope.store real options.gitignore).map fun ignored =>
        Project.sourceFiles scope.store real ⟨both.toList ++ ignored.toList⟩ :=
    Project.walk_eq resolved compiles
  constructor
  · intro error failed
    rw [failed] at walked walkedFurther
    constructor
    · rw [run_eq_walk valid directory, walked]
      rfl
    · rw [run_eq_walk stillValid directory]
      exact congrArg (Except.map scope.folded) walkedFurther
  · intro ignored active
    rw [active] at walked walkedFurther
    have sublist : (Project.sourceFiles scope.store real ⟨both.toList ++ ignored.toList⟩).Sublist
        (Project.sourceFiles scope.store real ⟨excluded.toList ++ ignored.toList⟩) := by
      rw [fewer ignored.toList]
      exact List.filter_sublist
    refine ⟨_, _, _, _, walked, walkedFurther, sublist, ?_, ?_, sublist.length_le,
      failedFiles_folded_mono sublist, fun name => packages_folded_mono sublist,
      scope.mem_packages_folded _, ?_⟩
    · rw [run_eq_walk valid directory, walked]
      rfl
    · rw [run_eq_walk stillValid directory]
      exact congrArg (Except.map scope.folded) walkedFurther
    · intro file _ packages contributes name member
      exact (foreign_of_contribution contributes member).2

/-- A project of a source and a module that the source imports. -/
def importingLocal : Scope where
  store := ⟨.directory [("a.py", .file [105, 109, 112, 111, 114, 116, 32, 98]),
    ("b.py", .file [])], []⟩
  root := ⟨1, []⟩
  registry := ⟨"3.12", []⟩

theorem directory_importingLocal :
    importingLocal.store.holds Node.isDirectory importingLocal.root = true := by cbv

theorem realRoot_importingLocal :
    Project.realRoot importingLocal.store importingLocal.root = .ok ⟨1, []⟩ := by cbv

theorem isLocal_importingLocal (file : Path) :
    Project.isLocal importingLocal.store importingLocal.root file "b" = true := by
  have path : importingLocal.root.child ("b" ++ ".py") = ⟨1, ["b.py"]⟩ := by cbv
  have place : importingLocal.store.place ⟨1, ["b.py"]⟩ = .ok ["b.py"] := by
    rw [Store.place_eq_follow (by cbv) (by cbv)]
    cbv
  have stands : importingLocal.store.holds Node.isFile
      (importingLocal.root.child ("b" ++ ".py")) = true := by
    rw [path, Store.holds, Store.node, place]
    cbv
  have module : Project.hasModule importingLocal.store importingLocal.root "b" = true := by
    rw [Project.hasModule, Bool.or_eq_true]
    exact .inr (List.any_eq_true.2 ⟨".py", List.mem_cons_self, stands⟩)
  rw [Project.isLocal, module, Bool.or_true, Bool.true_or]

/-- The module stays local where a pattern hides it, behind one that turns its verdict
around. -/
theorem importingLocal_narrows :
    ∃ before after, run importingLocal ⟨none, ["!a.py"], false⟩ none = .ok before ∧
      run importingLocal (excluding ⟨none, ["!a.py"], false⟩ [" b.* "]) none = .ok after ∧
      after.fileCount ≤ before.fileCount ∧ "b" ∉ after.packages := by
  have compiles : Project.readPatterns (["!a.py", " b.* "].map String.toList) = .ok (some
      [⟨true, .path [.anyDepth, .glob ("a.py".toList.map .char)]⟩,
        ⟨false, .path [.anyDepth, .glob [.char 'b', .char '.', .many]]⟩]) := by cbv
  have valid : Config.Options.Valid ⟨none, ["!a.py"], false⟩ := by
    intro workers asked
    cases asked
  have claim := run_narrows importingLocal ⟨none, ["!a.py"], false⟩ [" b.* "] none _ _ valid
    directory_importingLocal realRoot_importingLocal compiles (by decide)
  rcases claim.2 none rfl with
    ⟨files, kept, before, after, _, _, _, runs, runsFurther, count, _, _, reports, foreign⟩
  refine ⟨before, after, runs, runsFurther, count, ?_⟩
  intro reported
  rcases (reports "b").1 reported with ⟨file, left, packages, contributes, member⟩
  cases (isLocal_importingLocal file).symm.trans (foreign file left packages contributes "b" member)

end Census
end ImportCensus

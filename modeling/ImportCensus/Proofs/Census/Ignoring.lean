import ImportCensus.Proofs.Census.Interference
import ImportCensus.Proofs.Files.Stepping
import ImportCensus.Proofs.Glob.Rejection

namespace ImportCensus
namespace Census

open Files (Node Path Store)
open Project (ProjectError ignoreFile ignoreFileSpec ignoreLines readPatterns realRoot)

/-!
# Runs that respect an ignore file

An ignore file may hold any bytes: what is no text is dropped, and blank lines and remarks are
passed over.  But each line that is left has to be a pattern, and the first that is rejected
stops the run, as does a path that is too long to be looked up (`IgnoreFault`).  There is
nothing else in an ignore file that could: a run that has a root and workers has a result if
and only if the file has no such fault.
-/

/-- What is wrong with the ignore file of a directory. -/
inductive IgnoreFault (store : Store) (directory : Path) : ProjectError -> Prop
  | overlong (overlong : store.Overlong (directory.child ignoreFile)) :
      IgnoreFault store directory (.file ⟨.nameTooLong, directory.child ignoreFile⟩)
  | rejected {content : List Nat} {before after : List (List Char)} {line : List Char}
      {error : Glob.PatternError}
      (opened : store.content (directory.child ignoreFile) = .ok content)
      (lines : Glob.meaningful (ignoreLines content) = before ++ line :: after)
      (accepted : ∀ other ∈ before, ∀ fault, ¬Glob.Rejects other fault)
      (rejects : Glob.Rejects line error) : IgnoreFault store directory (.pattern error)

variable {store : Store} {directory : Path} {error : ProjectError}

theorem readPatterns_eq_error {lines : List (List Char)} : readPatterns lines = .error error ↔
    ∃ rejected, error = .pattern rejected ∧ Glob.Spec.ofLines lines = .error rejected := by
  unfold readPatterns
  cases Glob.Spec.ofLines lines <;> simp [eq_comm]

/-- Without a file that could be opened there is nothing to be ignored, unless the look-up is
given up. -/
theorem ignoreFileSpec_unopened
    (unopened : ∀ content, store.content (directory.child ignoreFile) ≠ .ok content) :
    ignoreFileSpec store directory = .error error ↔
      store.Overlong (directory.child ignoreFile) ∧
        error = .file ⟨.nameTooLong, directory.child ignoreFile⟩ := by
  unfold ignoreFileSpec Store.test
  dsimp only
  rcases store.node_cases (directory.child ignoreFile) with
    ⟨node, found, reaches⟩ | ⟨fault, failed, absence, _, fits⟩ | ⟨failed, overlong⟩
  · have noFile : node.isFile = false := by
      cases node with
      | file content =>
          refine absurd ?_ (unopened content)
          unfold Store.content
          rw [found]
          rfl
      | directory entries => rfl
      | link target => rfl
    rw [found]
    dsimp only
    rw [noFile]
    simp [reaches.fits]
  · rw [failed]
    dsimp only
    rw [if_pos absence]
    simp [fits]
  · rw [failed]
    simp [overlong, Store.isAbsence, eq_comm]

/-- The patterns of an ignore file can be had unless there is a fault in it. -/
theorem ignoreFileSpec_eq_error :
    ignoreFileSpec store directory = .error error ↔ IgnoreFault store directory error := by
  cases opened : store.content (directory.child ignoreFile) with
  | error fault =>
      rw [ignoreFileSpec_unopened (by simp [opened])]
      constructor
      · rintro ⟨overlong, rfl⟩
        exact .overlong overlong
      · intro fault
        cases fault with
        | overlong overlong => exact ⟨overlong, rfl⟩
        | rejected again => cases opened.symm.trans again
  | ok content =>
      rw [Project.ignoreFileSpec_eq opened, readPatterns_eq_error]
      simp only [Glob.Spec.ofLines_eq_error]
      constructor
      · rintro ⟨rejected, rfl, before, line, after, lines, accepted, rejects⟩
        exact .rejected opened lines accepted rejects
      · intro fault
        cases fault with
        | overlong overlong =>
            have failed := Store.overlong_iff_node.1 overlong
            cases failed.symm.trans (Store.node_of_content opened)
        | rejected again lines accepted rejects =>
            cases opened.symm.trans again
            exact ⟨_, rfl, _, _, _, lines, accepted, rejects⟩

section

variable {scope : Scope} {row : List String} {options : Config.Options} {processors : Option Nat}

/-- A run without exclude patterns stops where its ignore file cannot be read. -/
theorem run_ignoring_eq (formed : scope.store.root.WellFormed)
    (finds : scope.store.Finds scope.root row) (valid : options.Valid) (noExclude : options.exclude = [])
    (ignoring : options.gitignore = true) :
    run scope options processors = .error error ↔
      ignoreFileSpec scope.store ⟨1, row⟩ = .error error := by
  have directory : scope.store.holds Node.isDirectory scope.root = true :=
    Store.holds_isDirectory.2 ⟨row, finds.placed, finds.within⟩
  rw [run_eq_walk valid directory, Glob.map_eq_error, noExclude, ignoring,
    Project.walk_of_realRoot (Project.realRoot_of_finds formed finds), Glob.map_eq_error]
  have noOptions : readPatterns (([] : List String).map String.toList) = .ok none := rfl
  unfold Project.Ignore.ofOptions
  rw [noOptions]
  cases ignoreFileSpec scope.store ⟨1, row⟩ <;> simp [bind, Except.bind, pure, Except.pure]

end

/-- An ignore file stops a run through its own faults only.  The patterns of an ignore file can
be had unless there is a fault in it; and a run in a directory, with workers and without
exclude patterns, has the error of the fault in the ignore file of its real root if there is
one, and a result if there is none. -/
theorem run_stops_at_ignore_fault (scope : Scope) (row : List String) (workers : Option Int)
    (processors : Option Nat) (formed : scope.store.root.WellFormed)
    (finds : scope.store.Finds scope.root row)
    (valid : (⟨workers, [], true⟩ : Config.Options).Valid) :
    (∀ directory error, ignoreFileSpec scope.store directory = .error error ↔
        IgnoreFault scope.store directory error) ∧
      (∀ error, run scope ⟨workers, [], true⟩ processors = .error error ↔
        IgnoreFault scope.store ⟨1, row⟩ error) ∧
      ((∃ result, run scope ⟨workers, [], true⟩ processors = .ok result) ↔
        ∀ error, ¬IgnoreFault scope.store ⟨1, row⟩ error) := by
  have stops (error : ProjectError) : run scope ⟨workers, [], true⟩ processors = .error error ↔
      IgnoreFault scope.store ⟨1, row⟩ error := by
    rw [run_ignoring_eq formed finds valid rfl rfl, ignoreFileSpec_eq_error]
  refine ⟨fun _ _ => ignoreFileSpec_eq_error, stops, ?_⟩
  simp only [← stops]
  cases run scope ⟨workers, [], true⟩ processors <;> simp

/-- A project of one source, with an ignore file whose only line is a mark with nothing behind
it. -/
def exclaimingOne : Scope where
  store := ⟨.directory [("b.py", .file [105, 109, 112, 111, 114, 116, 32, 99]),
    (".gitignore", .file [33, 10])], []⟩
  root := ⟨1, []⟩
  registry := ⟨"3.12", []⟩

theorem exclaimingOne_wellFormed : exclaimingOne.store.root.WellFormed := by
  simp only [exclaimingOne, Node.WellFormed, Node.AllWellFormed, List.map]
  decide

theorem finds_exclaimingOne : exclaimingOne.store.Finds exclaimingOne.root [] where
  placed := by
    rw [Store.place_eq_follow (by cbv) (by cbv)]
    cbv
  within := rfl

theorem content_exclaimingOne :
    exclaimingOne.store.content ((⟨1, []⟩ : Path).child ignoreFile) = .ok [33, 10] := by
  have path : (⟨1, []⟩ : Path).child ignoreFile = ⟨1, [".gitignore"]⟩ := by cbv
  have place : exclaimingOne.store.place ⟨1, [".gitignore"]⟩ = .ok [".gitignore"] := by
    rw [Store.place_eq_follow (by cbv) (by cbv)]
    cbv
  rw [path, Store.content, Store.node, place]
  cbv

theorem lines_exclaimingOne : Glob.meaningful (ignoreLines [33, 10]) = [['!']] := by cbv

theorem fault_exclaimingOne :
    IgnoreFault exclaimingOne.store ⟨1, []⟩ (.pattern (.malformed (String.ofList ['!']))) :=
  @IgnoreFault.rejected _ _ _ [] [] _ _ content_exclaimingOne lines_exclaimingOne nofun (.empty rfl)

/-- A mark with nothing behind it stops the run. -/
theorem exclaimingOne_stops_at_ignore_fault :
    run exclaimingOne ⟨none, [], true⟩ none = .error (.pattern (.malformed (String.ofList ['!']))) :=
  ((run_stops_at_ignore_fault exclaimingOne [] none none exclaimingOne_wellFormed
    finds_exclaimingOne nofun).2.1 _).2 fault_exclaimingOne

/-- Not every ignore file leaves a run its result. -/
theorem ignore_file_stops_run :
    ¬∀ (scope : Scope) (row : List String), scope.store.root.WellFormed ->
      scope.store.Finds scope.root row ->
      ∃ result, run scope ⟨none, [], true⟩ none = .ok result := by
  intro completes
  rcases completes exclaimingOne [] exclaimingOne_wellFormed finds_exclaimingOne with ⟨result, ran⟩
  have valid : (⟨none, [], true⟩ : Config.Options).Valid := nofun
  have stopped : run exclaimingOne ⟨none, [], true⟩ none = .error _ :=
    (run_ignoring_eq exclaimingOne_wellFormed finds_exclaimingOne valid rfl rfl).2
      (ignoreFileSpec_eq_error.2 fault_exclaimingOne)
  rw [ran] at stopped
  cases stopped

end Census
end ImportCensus

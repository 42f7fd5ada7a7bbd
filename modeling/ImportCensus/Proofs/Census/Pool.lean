import ImportCensus.Census.Survey
import ImportCensus.Proofs.Files.WellFormed
import Mathlib

namespace ImportCensus
namespace Census

open Files (Path Store)

/-!
# Workers that share the files

The files of a survey may be shared among workers.  Each worker takes one file at a
time and leaves behind what that file contributes; a single coordinator adds the
contributions to a tally, in whatever order they come in.  `Pool.Step` says what may
happen next, and leaves open which of the possible steps does.

Every step moves one file one place on.  `Pool.Kept` holds after any number of
steps: no file is lost or doubled, and the tally is that of the files accounted for.
Because contributions may be added in any order, a pool that is done has the result
of going over the files one after the other.  The file system is taken to stay as it
is meanwhile, and the coordinator to be handed each contribution once.
-/

/-! ## Adding contributions up -/

namespace Tally

theorem ext {first second : Tally} (failed : first.failedFiles = second.failedFiles)
    (packages : first.packages = second.packages) : first = second := by
  cases first
  cases second
  cases failed
  cases packages
  rfl

/-- Two contributions may be added in either order. -/
theorem add_right_comm (tally : Tally) (first second : Contribution) :
    (tally.add first).add second = (tally.add second).add first := by
  cases first with
  | error fault => cases second <;> rfl
  | ok packages =>
      cases second with
      | error fault => rfl
      | ok others =>
          apply ext
          · rfl
          · apply PackageSet.ext
            intro name
            simp only [add, PackageSet.mem_union]
            exact or_right_comm

/-- The order of contributions has no influence on what they add up to. -/
theorem foldl_add_perm {contributions others : List Contribution}
    (same : contributions.Perm others) (tally : Tally) :
    contributions.foldl add tally = others.foldl add tally :=
  same.foldl_eq' (fun first _ second _ sum => add_right_comm sum first second) tally

theorem failedFiles_foldl_add (contributions : List Contribution) (tally : Tally) :
    (contributions.foldl add tally).failedFiles =
      tally.failedFiles + contributions.countP fun found => !found.isOk := by
  induction contributions generalizing tally with
  | nil => rfl
  | cons first rest ih =>
      rw [List.foldl_cons, ih, List.countP_cons]
      cases first with
      | error fault => simp [add, Except.isOk, Except.toBool]; omega
      | ok packages => simp [add, Except.isOk, Except.toBool]

theorem mem_packages_foldl_add (contributions : List Contribution) (tally : Tally) (name : String) :
    name ∈ (contributions.foldl add tally).packages ↔
      name ∈ tally.packages ∨ ∃ packages, .ok packages ∈ contributions ∧ name ∈ packages := by
  induction contributions generalizing tally with
  | nil => simp
  | cons first rest ih =>
      rw [List.foldl_cons, ih]
      cases first with
      | error fault => simp [add]
      | ok packages =>
          simp only [add, PackageSet.mem_union, List.mem_cons, Except.ok.injEq]
          grind

end Tally

/-- What comes of going over some files one after the other. -/
def Scope.folded (scope : Scope) (files : List Path) : Result :=
  let tally := (files.map scope.contribution).foldl Tally.add .zero
  ⟨files.length, tally.failedFiles, tally.packages⟩

namespace Scope

variable (scope : Scope) (files : List Path)

theorem failedFiles_folded :
    (scope.folded files).failedFiles = files.countP fun file => !(scope.contribution file).isOk := by
  have counted := Tally.failedFiles_foldl_add (files.map scope.contribution) .zero
  rw [List.countP_map] at counted
  exact counted.trans (Nat.zero_add _)

theorem mem_packages_folded (name : String) :
    name ∈ (scope.folded files).packages ↔
      ∃ file ∈ files, ∃ packages, scope.contribution file = .ok packages ∧ name ∈ packages := by
  have added := Tally.mem_packages_foldl_add (files.map scope.contribution) .zero name
  refine added.trans ?_
  constructor
  · rintro (none | ⟨packages, member, within⟩)
    · exact absurd none PackageSet.not_mem_empty
    · rcases List.mem_map.1 member with ⟨file, found, contributes⟩
      exact ⟨file, found, packages, contributes, within⟩
  · rintro ⟨file, found, packages, contributes, within⟩
    exact .inr ⟨packages, List.mem_map.2 ⟨file, found, contributes⟩, within⟩

theorem failedFiles_folded_le : (scope.folded files).failedFiles ≤ (scope.folded files).fileCount := by
  rw [failedFiles_folded]
  exact List.countP_le_length

/-- Where every file has failed there are no packages. -/
theorem packages_folded_of_all_failed
    (all : (scope.folded files).failedFiles = (scope.folded files).fileCount) :
    (scope.folded files).packages = .empty := by
  rw [failedFiles_folded] at all
  have failed := List.countP_eq_length.1 all
  apply PackageSet.ext
  intro name
  rw [mem_packages_folded]
  constructor
  · rintro ⟨file, found, packages, contributes, _⟩
    have isError := failed file found
    rw [contributes] at isError
    cases isError
  · intro none
    exact absurd none PackageSet.not_mem_empty

end Scope

/-! ## Pools -/

/-- Where the files of a survey are, on their way through a pool of workers. -/
structure Pool where
  /-- The files that no worker has taken yet. -/
  waiting : List Path
  running : List Path
  /-- The files that a worker is done with, each with what it contributes. -/
  finished : List (Path × Contribution)
  /-- The files whose contributions have been added to the tally, the first one first. -/
  accounted : List Path
  tally : Tally

namespace Pool

/-- A pool that all files have been handed to. -/
def start (files : List Path) : Pool := ⟨files, [], [], [], .zero⟩

/-- No file is left to be worked on or to be added. -/
def Done (pool : Pool) : Prop := pool.waiting = [] ∧ pool.running = [] ∧ pool.finished = []

/-- What a pool has come to. -/
def result (pool : Pool) : Result :=
  ⟨pool.accounted.length, pool.tally.failedFiles, pool.tally.packages⟩

/-- What may happen next in a pool of at most so many workers: a free worker takes
any waiting file, any running file is finished, or any finished file is added. -/
inductive Step (scope : Scope) (size : Nat) : Pool -> Pool -> Prop
  | take (before : List Path) {after running : List Path} {finished : List (Path × Contribution)}
      {accounted : List Path} {tally : Tally} {file : Path} (free : running.length < size) :
      Step scope size ⟨before ++ file :: after, running, finished, accounted, tally⟩
        ⟨before ++ after, file :: running, finished, accounted, tally⟩
  | finish (before : List Path) {waiting after : List Path} {finished : List (Path × Contribution)}
      {accounted : List Path} {tally : Tally} {file : Path} :
      Step scope size ⟨waiting, before ++ file :: after, finished, accounted, tally⟩
        ⟨waiting, before ++ after, (file, scope.contribution file) :: finished, accounted, tally⟩
  | add (before : List (Path × Contribution)) {waiting running : List Path}
      {after : List (Path × Contribution)} {accounted : List Path} {tally : Tally} {file : Path}
      {contribution : Contribution} :
      Step scope size
        ⟨waiting, running, before ++ (file, contribution) :: after, accounted, tally⟩
        ⟨waiting, running, before ++ after, accounted ++ [file], tally.add contribution⟩

/-- One pool comes about from another by any number of steps. -/
def Reaches (scope : Scope) (size : Nat) : Pool -> Pool -> Prop :=
  Relation.ReflTransGen (Step scope size)

/-- What holds of a pool as long as it works on some files. -/
structure Kept (scope : Scope) (size : Nat) (files : List Path) (pool : Pool) : Prop where
  /-- Every file is in one place, as often as it was handed in. -/
  every : (pool.waiting ++ pool.running ++ pool.finished.map Prod.fst ++ pool.accounted).Perm files
  computed : ∀ found ∈ pool.finished, found.2 = scope.contribution found.1
  added : pool.tally = (pool.accounted.map scope.contribution).foldl Tally.add .zero
  bounded : pool.running.length ≤ size

variable {scope : Scope} {size : Nat} {files : List Path} {pool next : Pool}

theorem kept_start : Kept scope size files (start files) where
  every := by simp [start]
  computed := nofun
  added := rfl
  bounded := Nat.zero_le _

/-- Each step keeps every file in one place and the tally up to date. -/
theorem Kept.step (kept : Kept scope size files pool) (step : Step scope size pool next) :
    Kept scope size files next := by
  cases step with
  | @take before after running finished accounted tally file free =>
      refine ⟨?_, kept.computed, kept.added, free⟩
      refine List.Perm.trans ?_ kept.every
      simp only [List.append_assoc, List.cons_append]
      refine List.Perm.append_left before ?_
      exact List.perm_middle
  | @finish before waiting after finished accounted tally file =>
      refine ⟨?_, ?_, kept.added, ?_⟩
      · refine List.Perm.trans ?_ kept.every
        simp only [List.append_assoc, List.cons_append, List.map_cons]
        refine List.Perm.append_left waiting (List.Perm.append_left before ?_)
        exact List.perm_middle
      · intro found member
        rcases List.mem_cons.1 member with rfl | member
        · rfl
        · exact kept.computed found member
      · have bounded := kept.bounded
        simp only [List.length_append, List.length_cons] at bounded ⊢
        omega
  | @add before waiting running after accounted tally file contribution =>
      refine ⟨?_, ?_, ?_, kept.bounded⟩
      · refine List.Perm.trans ?_ kept.every
        simp only [List.append_assoc, List.cons_append, List.map_append, List.map_cons]
        refine List.Perm.append_left waiting (List.Perm.append_left running ?_)
        refine List.Perm.append_left _ ?_
        rw [← List.append_assoc]
        exact List.perm_append_comm
      · intro found member
        apply kept.computed found
        rcases List.mem_append.1 member with early | late
        · exact List.mem_append_left _ early
        · exact List.mem_append_right _ (List.mem_cons_of_mem _ late)
      · have computed : contribution = scope.contribution file :=
          kept.computed (file, contribution) (List.mem_append_right _ List.mem_cons_self)
        have added : tally = (accounted.map scope.contribution).foldl Tally.add .zero := kept.added
        rw [List.map_append, List.foldl_append, ← added, computed]
        rfl

theorem Kept.reaches {later : Pool} (kept : Kept scope size files pool)
    (reached : Reaches scope size pool later) : Kept scope size files later := by
  induction reached with
  | refl => exact kept
  | tail _ step ih => exact ih.step step

/-- A pool that is not done can go on, if it has a worker at all. -/
theorem done_or_step (positive : 1 ≤ size) (pool : Pool) :
    pool.Done ∨ ∃ next, Step scope size pool next := by
  rcases pool with ⟨waiting, running, finished, accounted, tally⟩
  cases finished with
  | cons found finished => exact .inr ⟨_, .add []⟩
  | nil =>
      cases running with
      | cons file running => exact .inr ⟨_, .finish []⟩
      | nil =>
          cases waiting with
          | cons file waiting => exact .inr ⟨_, .take [] positive⟩
          | nil => exact .inl ⟨rfl, rfl, rfl⟩

/-- How many steps are still to come. -/
def left (pool : Pool) : Nat :=
  3 * pool.waiting.length + 2 * pool.running.length + pool.finished.length

theorem left_step (step : Step scope size pool next) : next.left < pool.left := by
  cases step <;> simp only [left, List.length_append, List.length_cons] <;> omega

/-- No pool goes on for ever. -/
theorem step_wellFounded : WellFounded fun next pool => Step scope size pool next :=
  Subrelation.wf left_step (measure left).wf

/-- Under every schedule, a pool of some size that is handed some files ends, and it
has come to one and the same result then. -/
structure Settles (scope : Scope) (size : Nat) (files : List Path) (result : Result) : Prop where
  ends : WellFounded fun next pool => Step scope size pool next
  goesOn : ∀ pool, Reaches scope size (start files) pool ->
    pool.Done ∨ ∃ next, Step scope size pool next
  bounded : ∀ pool, Reaches scope size (start files) pool -> pool.running.length ≤ size
  /-- Each file has been accounted for once. -/
  once : ∀ pool, Reaches scope size (start files) pool -> pool.Done -> pool.accounted.Perm files
  settled : ∀ pool, Reaches scope size (start files) pool -> pool.Done -> pool.result = result

/-- A pool that is done has accounted for each file once. -/
theorem Kept.accounted_perm (kept : Kept scope size files pool) (done : pool.Done) :
    pool.accounted.Perm files := by
  have every := kept.every
  rw [done.1, done.2.1, done.2.2] at every
  exact every

/-- A pool that is done has the result of going over its files one after the other. -/
theorem Kept.result_eq (kept : Kept scope size files pool) (done : pool.Done) :
    pool.result = scope.folded files := by
  have accounted := kept.accounted_perm done
  have tally := kept.added.trans (Tally.foldl_add_perm (accounted.map scope.contribution) .zero)
  rw [result, Scope.folded, tally, accounted.length_eq]

theorem settles (scope : Scope) (positive : 1 ≤ size) (files : List Path) :
    Settles scope size files (scope.folded files) where
  ends := step_wellFounded
  goesOn pool _ := done_or_step positive pool
  bounded _ reached := (kept_start.reaches reached).bounded
  once _ reached done := (kept_start.reaches reached).accounted_perm done
  settled _ reached done := (kept_start.reaches reached).result_eq done

end Pool

/-! ## Runs -/

/-- The files that a run goes over, if the root and the patterns are in order. -/
def Scope.files (scope : Scope) (options : Config.Options) :
    Except Project.ProjectError (List Path) := do
  let _ ← Project.checkRoot scope.store scope.root
  Project.walk scope.store scope.root options.exclude options.gitignore

theorem one_le_poolSize {asked : Option Int} {processors : Option Nat} {files : Nat}
    (valid : ∀ n, asked = some n -> 1 ≤ n) (positive : 1 ≤ files) :
    1 ≤ poolSize asked processors files := by
  have default : 1 ≤ Config.defaultWorkers processors := by
    unfold Config.defaultWorkers
    omega
  unfold poolSize
  extract_lets wanted
  have wants : 1 ≤ wanted := by
    unfold wanted
    split
    · exact Int.ofNat_le.2 default
    · exact Int.ofNat_le.2 default
    · exact valid _ rfl
  omega

/-- The result of a survey is that of going over its files one after the other. -/
theorem result_of_contributions (scope : Scope) (files : List Path) (workers : Nat) :
    Survey.result ⟨files.map fun file => (file, scope.contribution file), workers⟩ =
      scope.folded files := by
  simp [Survey.result, Scope.folded, Function.comp_def]

/-- A run goes over the files one after the other, unless they are to be shared among less
than one worker. -/
theorem run_eq_files_bind (scope : Scope) (options : Config.Options) (processors : Option Nat) :
    run scope options processors = (scope.files options).bind fun files =>
      if files.isEmpty then .ok .none
      else if poolSize options.workers processors files.length < 1 then .error .negativeWorkers
      else .ok (scope.folded files) := by
  unfold run survey Scope.files
  cases Project.checkRoot scope.store scope.root with
  | error error => rfl
  | ok root =>
      cases Project.walk scope.store scope.root options.exclude options.gitignore with
      | error error => rfl
      | ok files =>
          cases files with
          | nil => rfl
          | cons file rest =>
              by_cases few : poolSize options.workers processors (file :: rest).length < 1
              · simp only [bind, Except.bind, List.isEmpty_cons, Bool.false_eq_true, if_false,
                  if_pos few]
              · simp only [bind, Except.bind, List.isEmpty_cons, Bool.false_eq_true, if_false,
                  if_neg few, pure, Except.pure, result_of_contributions]

/-- Without files there is nothing to share. -/
theorem run_of_files {scope : Scope} {options : Config.Options} {files : List Path}
    (enumerated : scope.files options = .ok files) (processors : Option Nat) :
    run scope options processors =
      if files ≠ [] ∧ poolSize options.workers processors files.length < 1 then .error .negativeWorkers
      else .ok (scope.folded files) := by
  rw [run_eq_files_bind, enumerated]
  cases files with
  | nil => rfl
  | cons file rest => simp [Except.bind]

theorem run_of_files_error {scope : Scope} {options : Config.Options} {error : Project.ProjectError}
    (failed : scope.files options = .error error) (processors : Option Nat) :
    run scope options processors = .error error := by
  rw [run_eq_files_bind, failed]
  rfl

/-- A run with a legal number of workers has the result of going over the files one
after the other, or stops for a reason that lies in the root or in the patterns. -/
theorem run_eq_folded (scope : Scope) (options : Config.Options) (processors : Option Nat)
    (valid : options.Valid) :
    run scope options processors = (scope.files options).map scope.folded := by
  cases enumerated : scope.files options with
  | error error => exact run_of_files_error enumerated processors
  | ok files =>
      have legal : ¬(files ≠ [] ∧ poolSize options.workers processors files.length < 1) := by
        rintro ⟨some, few⟩
        exact absurd (one_le_poolSize valid (List.length_pos_of_ne_nil some)) (Int.not_le.2 few)
      rw [run_of_files enumerated, if_neg legal]
      rfl

/-- A run has the same result under every schedule of its files in a pool of any size,
and for every legal number of workers: each file is accounted for once, and what is
reported is what comes of going over the files one after the other. -/
theorem run_independent_of_schedule (scope : Scope) (options : Config.Options)
    (processors : Option Nat) (valid : options.Valid) :
    (∀ files, scope.files options = .ok files ->
      (files = [] ∨ 1 ≤ poolSize options.workers processors files.length) ∧
      ∃ result, run scope options processors = .ok result ∧
        (∀ size, 1 ≤ size -> Pool.Settles scope size files result) ∧
        result = scope.folded files ∧
        result.fileCount = files.length ∧
        result.failedFiles = files.countP (fun file => !(scope.contribution file).isOk) ∧
        (∀ name, name ∈ result.packages ↔
          ∃ file ∈ files, ∃ packages, scope.contribution file = .ok packages ∧ name ∈ packages) ∧
        result.failedFiles ≤ result.fileCount ∧
        (result.failedFiles = result.fileCount -> result.packages = .empty)) ∧
      ∀ (other : Config.Options) (others : Option Nat), other.Valid ->
        other.exclude = options.exclude -> other.gitignore = options.gitignore ->
        run scope other others = run scope options processors := by
  constructor
  · intro files enumerated
    constructor
    · cases files with
      | nil => exact .inl rfl
      | cons file rest => exact .inr (one_le_poolSize valid (Nat.le_add_left 1 rest.length))
    · refine ⟨scope.folded files, ?_, fun size positive => Pool.settles scope positive files, rfl, rfl,
        scope.failedFiles_folded files, scope.mem_packages_folded files,
        scope.failedFiles_folded_le files, scope.packages_folded_of_all_failed files⟩
      rw [run_eq_folded scope options processors valid, enumerated]
      rfl
  · intro other others otherValid exclude gitignore
    have files : scope.files other = scope.files options := by
      rw [Scope.files, Scope.files, exclude, gitignore]
    rw [run_eq_folded scope other others otherValid, files,
      run_eq_folded scope options processors valid]

/-- A project of an empty source and a source that is no text. -/
def halfReadable : Scope where
  store := ⟨.directory [("b.py", .file [255]), ("a.py", .file [])], []⟩
  root := ⟨1, []⟩
  registry := ⟨"3.12", []⟩

theorem files_halfReadable :
    halfReadable.files .default = .ok [⟨1, ["a.py"]⟩, ⟨1, ["b.py"]⟩] := by
  simp only [Scope.files, Project.checkRoot, Project.walk, Project.sourceFiles, Store.test,
    Store.holds, Store.node, Store.place_eq_cond]
  cbv

theorem contribution_halfReadable_empty :
    (halfReadable.contribution ⟨1, ["a.py"]⟩).isOk = true := by
  simp only [Scope.contribution, readReferences, readText, Store.content, Store.node,
    Store.place_eq_cond]
  cbv

theorem contribution_halfReadable_noText :
    (halfReadable.contribution ⟨1, ["b.py"]⟩).isOk = false := by
  simp only [Scope.contribution, readReferences, readText, Store.content, Store.node,
    Store.place_eq_cond]
  cbv

/-- Whatever the schedule, one of the two files is counted as failed. -/
theorem halfReadable_independent_of_schedule :
    ∃ result, run halfReadable .default none = .ok result ∧ result.fileCount = 2 ∧
      result.failedFiles = 1 ∧
      ∀ size, 1 ≤ size -> Pool.Settles halfReadable size [⟨1, ["a.py"]⟩, ⟨1, ["b.py"]⟩] result := by
  have claim := (run_independent_of_schedule halfReadable .default none nofun).1 _
    files_halfReadable
  rcases claim.2 with ⟨result, runs, settles, _, count, failed, _⟩
  refine ⟨result, runs, count, ?_, settles⟩
  simp [failed, contribution_halfReadable_empty, contribution_halfReadable_noText]

end Census
end ImportCensus

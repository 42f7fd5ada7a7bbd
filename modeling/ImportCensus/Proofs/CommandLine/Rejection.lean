import ImportCensus.Files.Edit
import ImportCensus.Proofs.CommandLine.Stages
import ImportCensus.Proofs.Files.Fitting
import ImportCensus.Proofs.Project.Root

namespace ImportCensus
namespace CommandLine

open Files (Node Path Store)
open Project (ProjectError RootVerdict checkRoot)

/-!
# Roots that are turned down

A scan and the command both begin with the check of the root.  A root that does not pass it
ends them there: the scan has the error of the check, and the command tells it if it blames
the root.  What the root leads to is all that has been looked at by then, so nothing else in
the store can make a difference.
-/

variable {store : Store} {root : Path} {error : ProjectError}

/-- A scan ends with the error of the check, whatever it was asked to do. -/
theorem run_of_unchecked (unchecked : checkRoot store root = .error error) (registry : Registry)
    (options : Config.Options) (processors : Option Nat) :
    Census.run ⟨store, root, registry⟩ options processors = .error error := by
  unfold Census.run Census.survey
  rw [show checkRoot (Census.Scope.mk store root registry).store _ = _ from unchecked]
  rfl

/-- A refusal with nothing logged is the message on a line of its own. -/
theorem refusal_nil (message : String) :
    refusal [] message = ⟨2, .fixed "", false, lineOf message⟩ := by
  unfold refusal
  rw [List.map_nil, String.join_nil, String.empty_append]
  rfl

/-- An error that blames the root is told on a line of its own, with the exit code two. -/
theorem ofProjectError_of_blames (blames : BlamesRoot error) :
    ofProjectError [] error = .ok ⟨2, .fixed "", false, lineOf error.message⟩ := by
  cases error with
  | missingRoot root => exact congrArg Except.ok (refusal_nil _)
  | rootNoDirectory root => exact congrArg Except.ok (refusal_nil _)
  | _ => exact absurd blames id

/-- The check of a root is exact: it has the verdict on the root and no other.  Where it fails,
a scan fails with its error, and the command refuses with the exit code two and nothing but
the message if the error blames the root, and hands the error on if not.  All this is so in
every store in which the root leads to the same. -/
theorem root_validated_first (store : Store) (root : Path) :
    (∀ outcome, checkRoot store root = outcome ↔ RootVerdict store root outcome) ∧
      ∀ error, checkRoot store root = .error error -> ∀ surroundings : Surroundings,
        surroundings.store.node root = store.node root ->
        (∀ options processors,
          Census.run ⟨surroundings.store, root, surroundings.registry⟩ options processors =
            .error error) ∧
        ∀ arguments request, readArguments arguments = .ok request -> request.path = root ->
          (BlamesRoot error -> command surroundings arguments =
            .ok ⟨2, .fixed "", false, lineOf error.message⟩) ∧
          (¬BlamesRoot error -> command surroundings arguments = .error (.project error)) := by
  refine ⟨fun outcome => Project.checkRoot_iff, ?_⟩
  intro error unchecked surroundings same
  have again : checkRoot surroundings.store root = .error error :=
    (Project.checkRoot_congr same).trans unchecked
  refine ⟨fun options processors => run_of_unchecked again _ _ _, ?_⟩
  rintro arguments request accepted rfl
  have carried : command surroundings arguments = ofProjectError [] error := by
    unfold command
    rw [accepted]
    exact carryOut_unchecked again
  rw [carried]
  exact ⟨ofProjectError_of_blames, ofProjectError_of_not_blames []⟩

/-- A name that is too long makes an overlong path, also where there is nothing at all. -/
theorem overlong_of_name {name : String} (noNull : '\x00' ∉ name.toList)
    (long : Files.longestName < name.utf8ByteSize) : Store.empty.Overlong ⟨0, [name]⟩ where
  noNull := by
    rw [Files.Path.null_mem_text]
    rintro ⟨other, member, null⟩
    rw [List.mem_singleton.1 member] at null
    exact noNull null
  long := by
    have within : Store.empty.root.kindAt [] = some .directory := rfl
    have proper : name ≠ ".." := by
      rintro rfl
      exact absurd long (by decide)
    exact .inr ⟨0, Nat.zero_le _, ⟨[], [name]⟩, .none _, .long within proper long⟩

/-- A name that is one byte too long. -/
def overlongName : String := String.ofList (List.replicate 256 'x')

theorem noNull_replicate (count : Nat) :
    '\x00' ∉ (String.ofList (List.replicate count 'x')).toList :=
  fun null => absurd (Files.eq_of_mem_replicate null) (by decide)

theorem overlong_replicate {count : Nat} (long : Files.longestName < count) :
    Store.empty.Overlong ⟨0, [String.ofList (List.replicate count 'x')]⟩ := by
  apply overlong_of_name (noNull_replicate count)
  rwa [Files.utf8ByteSize_replicate rfl]

theorem overlong_overlongName : Store.empty.Overlong ⟨0, [overlongName]⟩ :=
  overlong_replicate (by decide)

/-- Not every root is accepted or blamed: a name may be too long for the question. -/
theorem overlongName_not_blamed :
    ¬∀ (store : Store) (root : Path), checkRoot store root = .ok root ∨
      ∃ error, checkRoot store root = .error error ∧ BlamesRoot error := by
  intro decided
  have failed := Project.checkRoot_iff.2 (.overlong overlong_overlongName)
  rcases decided .empty ⟨0, [overlongName]⟩ with accepted | ⟨error, blamed, blames⟩
  · rw [failed] at accepted
    cases accepted
  · rw [failed] at blamed
    cases blamed
    exact blames

end CommandLine
end ImportCensus

import ImportCensus.Proofs.Project.Coverage

namespace ImportCensus
namespace Project

open Files (Path Store)

/-!
# Two lists of patterns

The exclude patterns and those of the ignore file are asked one after the other, and
a path is left out if either list selects it.  Since a walk is a filtered one
(`sourceFiles_eq_filter`), a walk with both lists lists what both walks with one of
them list.  A pattern that turns a verdict around does so in its own list only.
-/

namespace Ignore

variable {first second : List Glob.Spec} {names : List String}

theorem file_append :
    (⟨first ++ second⟩ : Ignore).file names = (file ⟨first⟩ names || file ⟨second⟩ names) :=
  List.any_append

theorem directory_append :
    (⟨first ++ second⟩ : Ignore).directory names =
      (directory ⟨first⟩ names || directory ⟨second⟩ names) :=
  List.any_append

/-- What two rows of lists admit is what each of them admits. -/
theorem admits_append {above : List String} :
    (⟨first ++ second⟩ : Ignore).admits above names =
      (admits ⟨first⟩ above names && admits ⟨second⟩ above names) := by
  induction names generalizing above with
  | nil => rfl
  | cons name rest ih =>
      cases rest with
      | nil => rw [admits, admits, admits, file_append, Bool.not_or]
      | cons next rest =>
          rw [admits, admits, admits, ih, directory_append, Bool.not_or]
          ac_rfl

end Ignore

variable {store : Store} {root real : Path}

/-- The sources that two rows of lists leave are those of one row which the other row
leaves as well. -/
theorem sourceFiles_append (store : Store) (root : Path) (first second : List Glob.Spec) :
    sourceFiles store root ⟨first ++ second⟩ =
      (sourceFiles store root ⟨first⟩).filter (· ∈ sourceFiles store root ⟨second⟩) := by
  rw [sourceFiles_eq_filter store root ⟨first ++ second⟩, sourceFiles_eq_filter store root ⟨first⟩,
    sourceFiles_eq_filter store root ⟨second⟩, List.filter_filter]
  apply List.filter_congr
  intro path member
  rw [Ignore.admits_append, Bool.and_comm]
  simp [List.mem_filter, member]

theorem sourceFiles_append_comm (store : Store) (root : Path) (first second : List Glob.Spec) :
    sourceFiles store root ⟨first ++ second⟩ = sourceFiles store root ⟨second ++ first⟩ := by
  rw [sourceFiles_eq_filter store root ⟨first ++ second⟩,
    sourceFiles_eq_filter store root ⟨second ++ first⟩]
  apply List.filter_congr
  intro path _
  rw [Ignore.admits_append, Ignore.admits_append, Bool.and_comm]

/-- Patterns that are given as options are read as lines are. -/
theorem readPatterns_options (lines : List (List Char)) :
    readPatterns ((lines.map String.ofList).map String.toList) = readPatterns lines := by
  simp

/-- Leaving out by the ignore file and by options intersect: with both, a walk lists what
it lists with the options alone and also lists with the lines of the ignore file as
options, in either order of looking.  Asking for the ignore file never adds a path, and
asking for it alone is the same as giving its lines as options. -/
theorem walk_intersects_patterns (store : Store) (root real : Path) (exclude : List String)
    (content : List Nat) (excluded ignored : Option Glob.Spec)
    (resolved : realRoot store root = .ok real)
    (opened : store.content (real.child ignoreFile) = .ok content)
    (compiles : readPatterns (exclude.map String.toList) = .ok excluded)
    (ignores : readPatterns (ignoreLines content) = .ok ignored) :
    ∃ both byOptions byFile, walk store root exclude true = .ok both ∧
      walk store root exclude false = .ok byOptions ∧
      walk store root ((ignoreLines content).map String.ofList) false = .ok byFile ∧
      both = byOptions.filter (· ∈ byFile) ∧ both = byFile.filter (· ∈ byOptions) ∧
      both.Sublist byOptions ∧ walk store root [] true = .ok byFile := by
  have active : activeIgnoreSpec store real true = .ok ignored := by
    rw [activeIgnoreSpec, if_pos rfl, ignoreFileSpec_eq opened, ignores]
  have passive : activeIgnoreSpec store real false = .ok none := rfl
  have asOptions := (readPatterns_options (ignoreLines content)).trans ignores
  have noOptions : readPatterns (([] : List String).map String.toList) = .ok none := rfl
  refine ⟨sourceFiles store real ⟨excluded.toList ++ ignored.toList⟩,
    sourceFiles store real ⟨excluded.toList⟩, sourceFiles store real ⟨ignored.toList⟩,
    ?_, ?_, ?_, sourceFiles_append .., ?_, ?_, ?_⟩
  · rw [walk_eq resolved compiles, active]
    rfl
  · rw [walk_eq resolved compiles, passive]
    simp [Except.map]
  · rw [walk_eq resolved asOptions, passive]
    simp [Except.map]
  · rw [sourceFiles_append_comm, sourceFiles_append]
  · rw [sourceFiles_append]
    exact List.filter_sublist
  · rw [walk_eq resolved noOptions, active]
    rfl

/-- An option that turns its verdict around brings nothing back from a directory that
the ignore file leaves out. -/
theorem tangled_intersects_patterns :
    ∃ both byOptions byFile, walk tangled ⟨1, ["p"]⟩ ["gone.py", "!skip/"] true = .ok both ∧
      walk tangled ⟨1, ["p"]⟩ ["gone.py", "!skip/"] false = .ok byOptions ∧
      walk tangled ⟨1, ["p"]⟩ ["skip/"] false = .ok byFile ∧
      both = byOptions.filter (· ∈ byFile) ∧ ⟨1, ["p", "skip", "b.py"]⟩ ∉ both := by
  have options : readPatterns (["gone.py", "!skip/"].map String.toList) = .ok (some
      [⟨false, .path [.anyDepth, .glob ("gone.py".toList.map .char)]⟩,
        ⟨true, belowSkip.shape⟩]) := by cbv
  have ignores : readPatterns (ignoreLines [115, 107, 105, 112, 47]) = .ok (some [belowSkip]) := by
    rw [ignoreLines_tangled]
    cbv
  rcases walk_intersects_patterns tangled ⟨1, ["p"]⟩ ⟨1, ["p"]⟩ ["gone.py", "!skip/"] _ _ _
    realRoot_tangled content_tangled options ignores with
    ⟨both, byOptions, byFile, walksBoth, walksOptions, walksFile, same, _⟩
  rw [ignoreLines_tangled] at walksFile ignores
  refine ⟨both, byOptions, byFile, walksBoth, walksOptions, by simpa using walksFile, same, ?_⟩
  intro member
  rw [same, List.mem_filter, decide_eq_true_eq] at member
  rw [walk_eq realRoot_tangled ((readPatterns_options _).trans ignores)] at walksFile
  have listed : ⟨1, ["p", "skip", "b.py"]⟩ ∈ sourceFiles tangled ⟨1, ["p"]⟩ ⟨[[belowSkip]]⟩ := by
    cases walksFile
    exact member.2
  rw [sourceFiles_eq_filter, List.mem_filter] at listed
  have left : Ignore.admits ⟨[[belowSkip]]⟩ [] ["skip", "b.py"] = false := by cbv
  cases left.symm.trans listed.2

end Project
end ImportCensus

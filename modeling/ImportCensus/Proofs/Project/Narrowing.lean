import ImportCensus.Proofs.Glob.Appending
import ImportCensus.Proofs.Project.Exclusion
import ImportCensus.Proofs.Project.Pruning

namespace ImportCensus
namespace Project

open Files (Path Store)

/-!
# Excluding more

Further exclude patterns that keep their verdict take files away from a walk and bring
none back, whatever the patterns before them do: the walk lists those of its files that
the walk with the further patterns alone lists as well.  Whether a directory is entered
and whether a file is kept are both decided by `Ignore.selects`, so that it is enough to
know what the longer list selects.
-/

variable {store : Store} {root real : Path} {ignore other : Ignore}

/-! ## What is selected decides -/

theorem Ignore.admits_congr (same : ∀ path, ignore.selects path = other.selects path)
    (above names : List String) : ignore.admits above names = other.admits above names := by
  induction names generalizing above with
  | nil => rfl
  | cons name rest ih =>
      cases rest with
      | nil => rw [admits, admits, file, file, same]
      | cons next rest => rw [admits, admits, directory, directory, same, ih]

/-- Lists of patterns that select the same paths leave the same sources. -/
theorem sourceFiles_congr (same : ∀ path, ignore.selects path = other.selects path) :
    sourceFiles store root ignore = sourceFiles store root other := by
  rw [sourceFiles_eq_filter store root ignore, sourceFiles_eq_filter store root other]
  apply List.filter_congr
  intro path _
  exact Ignore.admits_congr same [] _

/-- Where the options hold no patterns they select nothing, as an empty list does. -/
theorem selects_options (excluded : Option Glob.Spec) (others : List Glob.Spec) (path : List Char) :
    (⟨excluded.toList ++ others⟩ : Ignore).selects path =
      ((excluded.getD []).selects path || (⟨others⟩ : Ignore).selects path) := by
  cases excluded with
  | none => rfl
  | some spec => rfl

/-! ## Further patterns -/

/-- Lines without an exclamation mark in front are read as patterns that keep their verdict. -/
theorem positive_of_readPatterns {lines : List (List Char)} {excluded : Option Glob.Spec}
    (compiles : readPatterns lines = .ok excluded)
    (positive : ∀ line ∈ lines, (Text.trim line).head? ≠ some '!') :
    ∀ pattern ∈ excluded.getD [], pattern.negated = false := by
  cases excluded with
  | none => exact nofun
  | some spec =>
      intro pattern member
      rcases of_mem_readPatterns compiles member with ⟨line, stands, read⟩
      exact Glob.Pattern.negated_of_read read (positive line stands)

theorem readPatterns_eq_ok {lines : List (List Char)} {excluded : Option Glob.Spec} :
    readPatterns lines = .ok excluded ↔ Glob.Spec.ofLines lines = .ok excluded := by
  unfold readPatterns
  cases Glob.Spec.ofLines lines with
  | ok spec => simp
  | error error => simp

/-- Where the patterns of the options can be read together with further ones that keep their
verdict, both can be read apart, and the sources that are left are those which both leave. -/
theorem sourceFiles_further (store : Store) (root : Path) {exclude more : List String} {both : Option Glob.Spec}
    (compiles : readPatterns ((exclude ++ more).map String.toList) = .ok both)
    (positive : ∀ pattern ∈ more, (Text.trim pattern.toList).head? ≠ some '!') :
    ∃ excluded further, readPatterns (exclude.map String.toList) = .ok excluded ∧
      readPatterns (more.map String.toList) = .ok further ∧
      ∀ others : List Glob.Spec, sourceFiles store root ⟨both.toList ++ others⟩ =
        (sourceFiles store root ⟨excluded.toList ++ others⟩).filter
          (· ∈ sourceFiles store root ⟨further.toList⟩) := by
  rw [List.map_append, readPatterns_eq_ok] at compiles
  rcases Glob.Spec.ofLines_append compiles with ⟨excluded, further, first, second, joined⟩
  refine ⟨excluded, further, readPatterns_eq_ok.2 first, readPatterns_eq_ok.2 second, ?_⟩
  intro others
  have marks : ∀ pattern ∈ further.getD [], pattern.negated = false := by
    apply positive_of_readPatterns (readPatterns_eq_ok.2 second)
    intro line stands
    rcases List.mem_map.1 stands with ⟨pattern, given, rfl⟩
    exact positive pattern given
  have same : ∀ path, (⟨both.toList ++ others⟩ : Ignore).selects path =
      (⟨(excluded.toList ++ others) ++ further.toList⟩ : Ignore).selects path := by
    intro path
    have behind := selects_options further [] path
    rw [List.append_nil] at behind
    have apart : (⟨(excluded.toList ++ others) ++ further.toList⟩ : Ignore).selects path =
        ((⟨excluded.toList ++ others⟩ : Ignore).selects path ||
          (⟨further.toList⟩ : Ignore).selects path) := List.any_append
    have none : (⟨[]⟩ : Ignore).selects path = false := rfl
    rw [apart, selects_options, selects_options, joined, Glob.Spec.selects_append marks, behind, none]
    ac_rfl
  rw [sourceFiles_congr same, sourceFiles_append]

end Project
end ImportCensus

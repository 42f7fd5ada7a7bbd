import ImportCensus.Proofs.Glob.Below

namespace ImportCensus
namespace Glob

/-!
# Lists of patterns that go on

Of several patterns the last one that matches a path decides.  Patterns that keep their
verdict can therefore only add to what the patterns before them select, even if some of
those turn verdicts around (`Spec.selects_append`).  That is not so for patterns which
turn verdicts around themselves.
-/

namespace Spec

variable {lines more : List (List Char)}

/-! ## Reading -/

theorem meaningful_append (lines more : List (List Char)) :
    meaningful (lines ++ more) = meaningful lines ++ meaningful more := by
  unfold meaningful
  rw [List.map_append, List.filter_append]

/-- The patterns of some lines are those of the meaningful ones. -/
theorem map_getD_ofLines (lines : List (List Char)) :
    (ofLines lines).map (fun found => found.getD []) = (meaningful lines).mapM Pattern.read := by
  unfold ofLines
  cases meaningful lines with
  | nil => rfl
  | cons first rest =>
      dsimp only
      cases (first :: rest).mapM Pattern.read with
      | error error => rfl
      | ok spec => rfl

/-- Where some lines and more lines can be read together, they can be read apart. -/
theorem ofLines_append {both : Option Spec} (reads : ofLines (lines ++ more) = .ok both) :
    ∃ first second, ofLines lines = .ok first ∧ ofLines more = .ok second ∧
      both.getD [] = first.getD [] ++ second.getD [] := by
  have together := map_getD_ofLines (lines ++ more)
  rw [reads, meaningful_append, List.mapM_append, ← map_getD_ofLines, ← map_getD_ofLines] at together
  cases first : ofLines lines with
  | error error =>
      rw [first] at together
      cases together
  | ok front =>
      rw [first] at together
      cases second : ofLines more with
      | error error =>
          rw [second] at together
          cases together
      | ok behind =>
          rw [second] at together
          exact ⟨front, behind, rfl, rfl, Except.ok.inj together⟩

/-! ## Verdicts -/

/-- What a list selects is what its last matching pattern says; patterns that keep their
verdict, put behind it, select what they match and leave the rest to the list. -/
theorem selects_append {spec further : Spec}
    (positive : ∀ pattern ∈ further, pattern.negated = false) (path : List Char) :
    (spec ++ further).selects path = (spec.selects path || further.selects path) := by
  rw [selects, selects, selects, verdict?, verdict?, verdict?, List.reverse_append,
    List.find?_append]
  cases found : further.reverse.find? fun pattern => pattern.shape.matches (relative path) with
  | none => simp
  | some pattern =>
      have member : pattern ∈ further := List.mem_reverse.1 (List.mem_of_find?_eq_some found)
      simp [positive pattern member]

end Spec

end Glob
end ImportCensus

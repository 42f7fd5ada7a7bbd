import ImportCensus.Project.Error
import ImportCensus.Proofs.Files.Stepping

namespace ImportCensus
namespace Project

/-!
# The check of a root

A root is accepted if, links followed, it leads to a directory, and it is rejected with one of
two messages if it leads to something else or to nothing (`checkRoot_iff`).  One kind of root
is neither accepted nor rejected: where a name is too long to be looked up, the failure of the
look-up is handed on as it is.
-/

open Files

/-- What the check of a root comes to, and when. -/
inductive RootVerdict (store : Store) (root : Path) : Except ProjectError Path -> Prop
  | accepted (reaches : store.Reaches root .directory) : RootVerdict store root (.ok root)
  | noDirectory {kind : Kind} (reaches : store.Reaches root kind) (other : kind ≠ .directory) :
      RootVerdict store root (.error (.rootNoDirectory root))
  | absent (nowhere : ∀ kind, ¬store.Reaches root kind) (fits : ¬store.Overlong root) :
      RootVerdict store root (.error (.missingRoot root))
  | overlong (overlong : store.Overlong root) :
      RootVerdict store root (.error (.file ⟨.nameTooLong, root⟩))

section

variable {store other : Store} {root : Path} {outcome : Except ProjectError Path}

theorem checkRoot_of_node {node : Node} (found : store.node root = .ok node) :
    checkRoot store root = if node.isDirectory then .ok root else .error (.rootNoDirectory root) := by
  unfold checkRoot Store.test
  rw [found]
  dsimp only
  cases node.isDirectory <;> rfl

theorem checkRoot_of_error {fault : LookupFault} (failed : store.node root = .error fault) :
    checkRoot store root =
      if Store.isAbsence fault then .error (.missingRoot root) else .error (.file ⟨fault, root⟩) := by
  unfold checkRoot Store.test
  rw [failed]
  cases fault <;> rfl

/-- Whatever is asked for as a root, the check has a verdict. -/
theorem rootVerdict_checkRoot (store : Store) (root : Path) :
    RootVerdict store root (checkRoot store root) := by
  rcases store.node_cases root with
    ⟨node, found, reaches⟩ | ⟨fault, failed, absence, nowhere, fits⟩ | ⟨failed, overlong⟩
  · rw [checkRoot_of_node found]
    split
    · rename_i directory
      rw [Node.isDirectory_iff.1 directory] at reaches
      exact .accepted reaches
    · rename_i other
      exact .noDirectory reaches (mt Node.isDirectory_iff.2 other)
  · rw [checkRoot_of_error failed, if_pos absence]
    exact .absent nowhere fits
  · rw [checkRoot_of_error failed]
    exact .overlong overlong

namespace RootVerdict

/-- There are no two verdicts on a root. -/
theorem unique {again : Except ProjectError Path} (verdict : RootVerdict store root outcome)
    (other : RootVerdict store root again) : outcome = again := by
  cases verdict with
  | accepted reaches =>
      cases other with
      | accepted => rfl
      | noDirectory again different => exact absurd (again.unique reaches) different
      | absent nowhere => exact absurd reaches (nowhere _)
      | overlong overlong => exact absurd overlong reaches.fits
  | noDirectory reaches different =>
      cases other with
      | accepted again => exact absurd (reaches.unique again) different
      | noDirectory => rfl
      | absent nowhere => exact absurd reaches (nowhere _)
      | overlong overlong => exact absurd overlong reaches.fits
  | absent nowhere fits =>
      cases other with
      | accepted reaches => exact absurd reaches (nowhere _)
      | noDirectory reaches => exact absurd reaches (nowhere _)
      | absent => rfl
      | overlong overlong => exact absurd overlong fits
  | overlong overlong =>
      cases other with
      | accepted reaches => exact absurd overlong reaches.fits
      | noDirectory reaches => exact absurd overlong reaches.fits
      | absent _ fits => exact absurd overlong fits
      | overlong => rfl

end RootVerdict

/-- The check of a root comes to the verdict on it, and to no other. -/
theorem checkRoot_iff : checkRoot store root = outcome ↔ RootVerdict store root outcome := by
  constructor
  · rintro rfl
    exact rootVerdict_checkRoot store root
  · exact (rootVerdict_checkRoot store root).unique

/-- The check of a root depends on nothing but what the root leads to. -/
theorem checkRoot_congr (same : other.node root = store.node root) :
    checkRoot other root = checkRoot store root := by
  unfold checkRoot Store.test
  rw [same]

/-- A root that passes the check is handed back as it is, and its text has no null character. -/
theorem of_checkRoot_eq_ok {found : Path} (checked : checkRoot store root = .ok found) :
    found = root ∧ store.Reaches root .directory := by
  cases checkRoot_iff.1 checked with
  | accepted reaches => exact ⟨rfl, reaches⟩

end

end Project
end ImportCensus

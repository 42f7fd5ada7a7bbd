import ImportCensus.Proofs.Census.Folding
import ImportCensus.Proofs.Imports.Segments

namespace ImportCensus
namespace Census

open Files (Path Store)
open Imports (Reference absoluteBases isIdentifier_of_mem_absoluteBases moduleBase
  moduleBase_of_mem_absoluteBases)
open Source (IsIdentifier)

/-!
# What a run reports

Whatever the project is, the result of a run comes of going over some files.  No more files
have failed than there are, and each name that is reported was read as an identifier.
-/

variable {store : Store} {scope : Scope} {file : Path}

/-- The bases that a file imports are identifiers. -/
theorem isIdentifier_of_readReferences {references : List Reference}
    (read : readReferences store file = .ok references) :
    ∀ module ∈ absoluteBases references, IsIdentifier (moduleBase module).toList := by
  rcases readReferences_eq_ok.1 read with ⟨document, reads, rfl⟩
  rcases reads.accepted with ⟨text, accepted⟩
  intro base member
  rw [moduleBase_of_mem_absoluteBases member]
  exact isIdentifier_of_mem_absoluteBases accepted member

theorem isIdentifier_of_contribution {packages : PackageSet} {name : String}
    (contributes : scope.contribution file = .ok packages) (member : name ∈ packages) :
    IsIdentifier name.toList := by
  rcases bind_eq_ok.1 contributes with ⟨references, read, made⟩
  cases made
  rcases (mem_thirdParty_iff.1 member).1 with ⟨module, imported, rfl⟩
  exact isIdentifier_of_readReferences read module imported

/-- The result of a run comes of going over some files. -/
theorem folded_of_run {options : Config.Options} {processors : Option Nat} {result : Result}
    (ran : run scope options processors = .ok result) : ∃ files, result = scope.folded files := by
  rcases bind_eq_ok.1 ran with ⟨survey, surveyed, made⟩
  cases made
  rcases bind_eq_ok.1 surveyed with ⟨root, _, surveyed⟩
  rcases bind_eq_ok.1 surveyed with ⟨files, _, surveyed⟩
  split at surveyed
  · cases surveyed
    exact ⟨[], rfl⟩
  · dsimp only at surveyed
    split at surveyed
    · cases surveyed
    · cases surveyed
      exact ⟨files, result_of_contributions scope files _⟩

theorem failedFiles_le_of_run {options : Config.Options} {processors : Option Nat} {result : Result}
    (ran : run scope options processors = .ok result) : result.failedFiles ≤ result.fileCount := by
  rcases folded_of_run ran with ⟨files, rfl⟩
  exact scope.failedFiles_folded_le files

theorem isIdentifier_of_run {options : Config.Options} {processors : Option Nat} {result : Result}
    (ran : run scope options processors = .ok result) :
    ∀ name ∈ result.packages.members, IsIdentifier name.toList := by
  rcases folded_of_run ran with ⟨files, rfl⟩
  intro name member
  rcases (scope.mem_packages_folded files name).1 member with ⟨file, _, packages, contributes, within⟩
  exact isIdentifier_of_contribution contributes within

end Census
end ImportCensus

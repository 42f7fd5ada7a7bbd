import ImportCensus.Proofs.CommandLine.Arguments
import ImportCensus.Proofs.Config.Merging
import ImportCensus.Proofs.Sequence

namespace ImportCensus
namespace CommandLine

/-!
# Numbers in arguments

An integer is read from an argument only if it has no more digits than can be written again
(`natAbs_lt_of_integerOf?`).  However the arguments are put together, the number of workers in
their settings has been read in this way (`readable_of_readArguments`).  So what is wrong with the
settings of arguments can always be told (`refused_of_readArguments`), although there are
overrides with which it cannot.
-/

variable {settings later : Settings} {progress reached : Progress}

/-- A number that is read from a text has a limited number of digits. -/
theorem natAbs_lt_of_integerOf? {value : String} {n : Int} (read : integerOf? value = some n) :
    n.natAbs < Nat.pow 10 Number.mostDigits := by
  have grows : ∀ {count most : Nat}, count ≤ most -> Nat.pow 10 count ≤ Nat.pow 10 most :=
    fun few => Nat.pow_le_pow_right (by decide) few
  unfold integerOf? at read
  split at read
  · rename_i few
    exact Nat.lt_of_lt_of_le (Number.natAbs_lt_of_integer? (by decide) read) (grows few)
  · cases read

/-- The number of workers, if one is asked for, is one that can be read. -/
def Settings.Readable (settings : Settings) : Prop :=
  ∀ n, settings.workers = some n -> n.natAbs < Nat.pow 10 Number.mostDigits

/-! ## Taking words -/

namespace Settings.Readable

theorem give (readable : settings.Readable) {flag : Flag} {value : String}
    (given : settings.give flag value = .ok later) : later.Readable := by
  cases flag with
  | workers =>
      unfold Settings.give at given
      cases read : integerOf? value with
      | none =>
          rw [read] at given
          cases given
      | some number =>
          rw [read] at given
          cases given
          rintro n ⟨⟩
          exact natAbs_lt_of_integerOf? read
  | help | version => cases given
  | exclude | sort | json | gitignore | verbose =>
      cases given
      exact readable

theorem switch (readable : settings.Readable) {flag : Flag}
    (switched : settings.switch flag = .ok later) : later.Readable := by
  cases flag with
  | help | version => cases switched
  | workers | exclude | sort | json | gitignore | verbose =>
      cases switched
      exact readable

theorem switches (readable : settings.Readable) {flags : List Flag}
    (switched : flags.foldlM Settings.switch settings = .ok later) : later.Readable := by
  induction flags generalizing settings with
  | nil =>
      cases switched
      exact readable
  | cons flag flags ih =>
      rw [List.foldlM_cons] at switched
      rcases bind_eq_ok.1 switched with ⟨next, first, behind⟩
      exact ih (readable.switch first) behind

theorem takeJoined (readable : progress.settings.Readable) {found : Found} {value : String}
    (taken : takeJoined progress found value = .ok reached) : reached.settings.Readable := by
  unfold CommandLine.takeJoined at taken
  split at taken
  · rcases bind_eq_ok.1 taken with ⟨next, given, same⟩
    cases same
    exact readable.give given
  · split at taken
    · rcases bind_eq_ok.1 taken with ⟨joined, _, taken⟩
      rcases bind_eq_ok.1 taken with ⟨next, switched, same⟩
      cases same
      exact readable.switches switched
    · cases taken

theorem takePlain (readable : progress.settings.Readable) (words : List Word) :
    (takePlain progress words).settings.Readable := by
  unfold CommandLine.takePlain
  split <;> exact readable

/-- The number stays readable with a flag, if it does with the words behind it. -/
theorem takeFlag {limit : Nat} (behind : ∀ {before : Progress} {words : List Word},
      before.settings.Readable -> takeAll limit before words = .ok reached -> reached.settings.Readable)
    (readable : progress.settings.Readable) {found : Found} {rest : List Word}
    (taken : takeFlag limit progress found rest = .ok reached) : reached.settings.Readable := by
  unfold CommandLine.takeFlag at taken
  split at taken
  · rcases bind_eq_ok.1 taken with ⟨next, joined, taken⟩
    exact behind (readable.takeJoined joined) taken
  · split at taken
    · split at taken
      · rcases bind_eq_ok.1 taken with ⟨next, given, taken⟩
        exact behind (readable.give given) taken
      · cases taken
    · rcases bind_eq_ok.1 taken with ⟨next, switched, taken⟩
      exact behind (readable.switch switched) taken

/-- However many words are taken, the number stays readable. -/
theorem takeAll {limit : Nat} {words : List Word} (readable : progress.settings.Readable)
    (taken : takeAll limit progress words = .ok reached) : reached.settings.Readable := by
  induction limit generalizing progress words with
  | zero =>
      cases taken
      exact readable
  | succ limit ih =>
      rw [takeAll_succ] at taken
      have plain := readable.takePlain (plainRun words)
      generalize CommandLine.takePlain progress (plainRun words) = before at plain taken
      dsimp only at taken
      split at taken
      · cases taken
        exact plain
      · exact plain.takeFlag ih taken
      · refine ih ?_ taken
        exact plain

end Settings.Readable

/-! ## Reading arguments -/

/-- The number of workers that arguments ask for can be read. -/
theorem readable_of_readArguments {arguments : List String} {request : Request}
    (read : readArguments arguments = .ok request) : request.settings.Readable := by
  rw [readArguments_eq] at read
  rcases bind_eq_ok.1 read with ⟨reached, taken, read⟩
  have readable : reached.settings.Readable := by
    unfold takeTexts at taken
    split at taken
    · refine Settings.Readable.takeAll ?_ taken
      nofun
    · cases taken
  unfold Progress.request at read
  split at read
  · cases read
  · split at read
    · cases read
      exact readable
    · cases read

/-- What can be read can be written again. -/
theorem admits_of_readArguments {arguments : List String} {request : Request}
    (read : readArguments arguments = .ok request) (stack : Stack) {n : Int}
    (asked : request.settings.workers = some n) : Limits.Admits (.usual stack) n := by
  rintro most ⟨⟩
  exact readable_of_readArguments read n asked

/-- Settings of arguments that are laid over options are refused for nothing but a number of
workers that is not positive, and this is told. -/
theorem refused_of_readArguments {arguments : List String} {request : Request}
    (read : readArguments arguments = .ok request) (stack : Stack) {base : Config.Options}
    {refused : Config.Refusal}
    (merged : base.merge (.usual stack) request.settings.overrides = .error refused) :
    ∃ n, n < 1 ∧ request.settings.workers = some n ∧ refused = .config (.workersOption n) := by
  rcases request.settings.overrides.legal_or_not with legal | ⟨n, asked, less⟩
  · rw [Config.merge_of_legal legal] at merged
    cases merged
  · have admits := admits_of_readArguments read stack asked
    rw [Config.merge_of_illegal asked less, Config.refusal_workersOption admits] at merged
    cases merged
    exact ⟨n, less, asked, rfl⟩

theorem report_ne_untold {surroundings : Surroundings} {root : Files.Path} {isLogged : Bool}
    {log : List String} {options : Config.Options} {excess : Excess} :
    report surroundings root settings isLogged log options ≠ .error (.untold excess) := by
  unfold report
  dsimp only
  split
  · rename_i error _
    cases error <;> nofun
  · nofun

/-- The command never fails for flags that are wrong in a way that cannot be told. -/
theorem command_ne_untold (surroundings : Surroundings) (arguments : List String) (excess : Excess) :
    command surroundings arguments ≠ .error (.untold excess) := by
  unfold command
  split
  · nofun
  · nofun
  · nofun
  · rename_i request read
    unfold carryOut
    dsimp only
    split
    · rename_i error _
      cases error <;> nofun
    · split
      · nofun
      · nofun
      · split
        · nofun
        · rename_i refused merged
          rcases refused_of_readArguments read surroundings.stack merged with ⟨n, _, _, same⟩
          cases same
        · exact report_ne_untold

end CommandLine
end ImportCensus

import ImportCensus.Proofs.Config.Loading
import ImportCensus.Proofs.Sequence

namespace ImportCensus
namespace Config

/-!
# The schema of configurations

Which data fit the schema is told without the reader: `Fits` relates a datum to the options that
it holds, and `FirstFault` to what is wrong with it, where each fault comes behind those that are
looked for earlier.  Reading a datum accepts exactly what fits and refuses everything else for its
first fault, if what the message of this fault quotes can be written.  An integer in it may have
too many digits, and then there is no error of the configuration (`not_every_fault_told`).
-/

variable {limits : Limits} {source : String} {entries others : List (Datum × Datum)} {found : Option Datum} {options : Options}
  {fault : ConfigFault} {texts names : List String} {key raw : Datum}

/-! ## The schema -/

/-- An entry gives a number of workers that is allowed. -/
structure AllowsWorkers (found : Option Datum) (workers : Option Int) : Prop where
  gives : GivesWorkers found workers
  positive : ∀ n, workers = some n -> 1 ≤ n

/-- A datum fits the schema and holds these options. -/
inductive Fits : Datum -> Options -> Prop
  | null : Fits .null .default
  | mapping {entries : List (Datum × Datum)} {options : Options} (holds : Holds entries options)
      (valid : options.Valid) : Fits (.mapping entries) options

/-- The keys of some entries that do not belong to the schema. -/
def unknownKeysOf (entries : List (Datum × Datum)) : List Datum :=
  (entries.map Prod.fst).filter fun key => !isKnown key

/-- What is wrong with a datum, and was not wrong with what is looked at before. -/
inductive FirstFault : Datum -> ConfigFault -> Prop
  | noMapping {raw : Datum} (some : raw ≠ .null) (other : ∀ entries, raw ≠ .mapping entries) :
      FirstFault raw .noMapping
  | unknownKeys {entries : List (Datum × Datum)} (some : unknownKeysOf entries ≠ []) :
      FirstFault (.mapping entries) (.unknownKeys (unknownKeysOf entries))
  | workers {entries : List (Datum × Datum)} {found : Datum} (known : unknownKeysOf entries = [])
      (given : Datum.lookup? "workers" entries = some found)
      (refused : ∀ workers, ¬AllowsWorkers (some found) workers) :
      FirstFault (.mapping entries) (.workers found)
  | exclude {entries : List (Datum × Datum)} {workers : Option Int} (known : unknownKeysOf entries = [])
      (allows : AllowsWorkers (Datum.lookup? "workers" entries) workers)
      (refused : ∀ patterns, ¬GivesExclude (Datum.lookup? "exclude" entries) patterns) :
      FirstFault (.mapping entries) .exclude
  | gitignore {entries : List (Datum × Datum)} {workers : Option Int} {patterns : List String} {found : Datum}
      (known : unknownKeysOf entries = [])
      (allows : AllowsWorkers (Datum.lookup? "workers" entries) workers)
      (gives : GivesExclude (Datum.lookup? "exclude" entries) patterns)
      (given : Datum.lookup? "gitignore" entries = some found)
      (refused : ∀ value, ¬GivesGitignore (some found) value) :
      FirstFault (.mapping entries) (.gitignore found)

/-- The mapping that spells options out. -/
def Options.spelledOut (options : Options) : Datum :=
  .mapping [(.text "workers", options.workers.elim .null .integer),
    (.text "exclude", .list (options.exclude.map .text)), (.text "gitignore", .boolean options.gitignore)]

theorem isKnown_iff : isKnown key = true ↔ ∃ name ∈ knownKeys, key = .text name := by
  unfold isKnown
  split
  · next name =>
    rw [List.contains_iff_mem]
    constructor
    · exact fun member => ⟨name, member, rfl⟩
    · rintro ⟨_, member, same⟩
      cases same
      exact member
  · next other =>
    refine iff_of_false nofun ?_
    rintro ⟨name, _, rfl⟩
    exact other name rfl

theorem unknownKeysOf_eq_nil : unknownKeysOf entries = [] ↔
    ∀ entry ∈ entries, ∃ name ∈ knownKeys, entry.1 = .text name := by
  simp only [unknownKeysOf, List.filter_eq_nil_iff, List.forall_mem_map, Bool.not_eq_true', Bool.not_eq_false,
    isKnown_iff]

/-! ## Entries -/

/-- A result whose error is told by what it is about is an error if and only if nothing is
accepted. -/
theorem eq_error_iff {ε α : Type} {result : Except ε α} {accepts : α -> Prop} {error : ε} (tells : ε -> Prop)
    (isOk : ∀ value, result = .ok value ↔ accepts value) (told : ∀ other, result = .error other -> tells other)
    (single : ∀ first second, tells first -> tells second -> first = second) :
    result = .error error ↔ tells error ∧ ∀ value, ¬accepts value := by
  cases result with
  | error other =>
      constructor
      · rintro ⟨⟩
        exact ⟨told _ rfl, fun value accepted => nomatch (isOk value).2 accepted⟩
      · rintro ⟨tells, _⟩
        rw [single _ _ tells (told _ rfl)]
  | ok value => exact iff_of_false nofun fun refused => refused.2 value ((isOk value).1 rfl)

/-- The number of workers in a file is checked. -/
theorem valid_of_workersOf {found : Option Datum} {workers : Option Int}
    (accepted : workersOf found = .ok workers) : ∀ n, workers = some n -> 1 ≤ n := by
  unfold workersOf at accepted
  split at accepted
  · cases accepted
    nofun
  · cases accepted
    nofun
  · split at accepted
    · next positive =>
      cases accepted
      rintro _ ⟨⟩
      exact positive
    · cases accepted
  · cases accepted

theorem workersOf_eq_ok {workers : Option Int} : workersOf found = .ok workers ↔ AllowsWorkers found workers := by
  constructor
  · intro accepted
    refine ⟨?_, valid_of_workersOf accepted⟩
    unfold workersOf at accepted
    split at accepted
    · cases accepted
      exact .absent
    · cases accepted
      exact .null
    · split at accepted
      · cases accepted
        exact .integer _
      · cases accepted
    · cases accepted
  · exact fun allows => allows.gives.workersOf_eq allows.positive

theorem workersOf_eq_error : workersOf found = .error fault ↔
    (∃ datum, found = some datum ∧ fault = .workers datum) ∧ ∀ workers, ¬AllowsWorkers found workers := by
  refine eq_error_iff (fun fault => ∃ datum, found = some datum ∧ fault = .workers datum)
    (fun _ => workersOf_eq_ok) ?_ ?_
  · intro other failed
    unfold workersOf at failed
    split at failed
    · cases failed
    · cases failed
    · split at failed
      · cases failed
      · cases failed
        exact ⟨_, rfl, rfl⟩
    · cases failed
      exact ⟨_, rfl, rfl⟩
  · rintro _ _ ⟨datum, rfl, rfl⟩ ⟨_, ⟨⟩, rfl⟩
    rfl

theorem textsOf?_eq_some {items : List Datum} : textsOf? items = some texts ↔ items = texts.map Datum.text := by
  constructor
  · intro read
    induction items generalizing texts with
    | nil =>
        cases read
        rfl
    | cons item rest ih =>
        cases item with
        | text value =>
            rw [textsOf?, Option.map_eq_some_iff] at read
            rcases read with ⟨others, read, rfl⟩
            rw [ih read]
            rfl
        | _ => cases read
  · rintro rfl
    exact textsOf?_map_text texts

theorem excludeOf_eq_ok {patterns : List String} : excludeOf found = .ok patterns ↔ GivesExclude found patterns := by
  constructor
  · intro accepted
    unfold excludeOf at accepted
    split at accepted
    · cases accepted
      exact .absent
    · cases accepted
      exact .null
    · cases accepted
      exact .single _
    · split at accepted
      · next read =>
        cases accepted
        rw [textsOf?_eq_some.1 read]
        exact .list _
      · cases accepted
    · cases accepted
  · exact GivesExclude.excludeOf_eq

theorem excludeOf_eq_error : excludeOf found = .error fault ↔
    fault = .exclude ∧ ∀ patterns, ¬GivesExclude found patterns := by
  refine eq_error_iff (fun fault => fault = .exclude) (fun _ => excludeOf_eq_ok) ?_ ?_
  · intro other failed
    unfold excludeOf at failed
    split at failed
    · cases failed
    · cases failed
    · cases failed
    · split at failed
      · cases failed
      · cases failed
        rfl
    · cases failed
      rfl
  · rintro _ _ rfl rfl
    rfl

theorem gitignoreOf_eq_ok {value : Bool} : gitignoreOf found = .ok value ↔ GivesGitignore found value := by
  constructor
  · intro accepted
    unfold gitignoreOf at accepted
    split at accepted
    · cases accepted
      exact .absent
    · cases accepted
      exact .boolean value
    · cases accepted
  · exact GivesGitignore.gitignoreOf_eq

theorem gitignoreOf_eq_error : gitignoreOf found = .error fault ↔
    (∃ datum, found = some datum ∧ fault = .gitignore datum) ∧ ∀ value, ¬GivesGitignore found value := by
  refine eq_error_iff (fun fault => ∃ datum, found = some datum ∧ fault = .gitignore datum)
    (fun _ => gitignoreOf_eq_ok) ?_ ?_
  · intro other failed
    unfold gitignoreOf at failed
    split at failed
    · cases failed
    · cases failed
    · cases failed
      exact ⟨_, rfl, rfl⟩
  · rintro _ _ ⟨datum, rfl, rfl⟩ ⟨_, ⟨⟩, rfl⟩
    rfl

/-! ## Keys -/

/-- Texts in increasing order are the same for every order in which they come. -/
theorem sortTexts_eq_iff : sortTexts texts = names ↔ names.Perm texts ∧ names.Pairwise (· ≤ ·) := by
  have sorted : (sortTexts texts).Pairwise (· ≤ ·) := by
    refine (List.pairwise_mergeSort ?_ ?_ texts).imp of_decide_eq_true
    · intro first second third before behind
      exact decide_eq_true (String.le_trans (of_decide_eq_true before) (of_decide_eq_true behind))
    · intro first second
      rw [Bool.or_eq_true, decide_eq_true_iff, decide_eq_true_iff]
      exact String.le_total first second
  have permuted : (sortTexts texts).Perm texts := List.mergeSort_perm _ _
  constructor
  · rintro rfl
    exact ⟨permuted, sorted⟩
  · rintro ⟨all, increasing⟩
    exact List.Perm.eq_of_pairwise (fun _ _ _ _ => String.le_antisymm) sorted increasing (permuted.trans all.symm)

theorem sortTexts_eq_of_perm {others : List String} (same : texts.Perm others) :
    sortTexts texts = sortTexts others := by
  have sorted := sortTexts_eq_iff.1 (rfl : sortTexts others = _)
  exact sortTexts_eq_iff.2 ⟨sorted.1.trans same.symm, sorted.2⟩

/-- Entries in another order have the same unknown keys. -/
theorem perm_unknownKeysOf (same : entries.Perm others) :
    (unknownKeysOf entries).Perm (unknownKeysOf others) := (same.map _).filter _

/-! ## Mappings -/

theorem optionsOf_of_unknown (some : unknownKeysOf entries ≠ []) :
    optionsOf entries = .error (.unknownKeys (unknownKeysOf entries)) := by
  unfold optionsOf
  dsimp only
  split
  · next none => exact absurd none some
  · rfl

theorem optionsOf_of_known (known : unknownKeysOf entries = []) : optionsOf entries = (do
    let workers ← workersOf (Datum.lookup? "workers" entries)
    let exclude ← excludeOf (Datum.lookup? "exclude" entries)
    let gitignore ← gitignoreOf (Datum.lookup? "gitignore" entries)
    return ⟨workers, exclude, gitignore⟩) := by
  unfold optionsOf
  dsimp only
  split
  · rfl
  · next some => exact absurd known some

theorem optionsOf_eq_ok : optionsOf entries = .ok options ↔ Holds entries options ∧ options.Valid := by
  constructor
  · intro accepted
    by_cases known : unknownKeysOf entries = []
    · rw [optionsOf_of_known known] at accepted
      rcases bind_eq_ok.1 accepted with ⟨workers, allows, accepted⟩
      rcases bind_eq_ok.1 accepted with ⟨patterns, gives, accepted⟩
      rcases bind_eq_ok.1 accepted with ⟨value, turns, accepted⟩
      cases accepted
      have allowed := workersOf_eq_ok.1 allows
      exact ⟨⟨unknownKeysOf_eq_nil.1 known, allowed.gives, excludeOf_eq_ok.1 gives, gitignoreOf_eq_ok.1 turns⟩,
        allowed.positive⟩
    · rw [optionsOf_of_unknown known] at accepted
      cases accepted
  · exact fun fits => optionsOf_of_holds fits.1 fits.2

/-- A mapping is refused for its first fault. -/
theorem optionsOf_eq_error : optionsOf entries = .error fault ↔ FirstFault (.mapping entries) fault := by
  constructor
  · intro failed
    by_cases known : unknownKeysOf entries = []
    · rw [optionsOf_of_known known] at failed
      cases allows : workersOf (Datum.lookup? "workers" entries) with
      | error other =>
          rw [allows] at failed
          cases failed
          rcases workersOf_eq_error.1 allows with ⟨⟨datum, given, rfl⟩, refused⟩
          exact .workers known given (given ▸ refused)
      | ok workers =>
          rw [allows] at failed
          have allowed := workersOf_eq_ok.1 allows
          cases gives : excludeOf (Datum.lookup? "exclude" entries) with
          | error other =>
              rw [gives] at failed
              cases failed
              rcases excludeOf_eq_error.1 gives with ⟨rfl, refused⟩
              exact .exclude known allowed refused
          | ok patterns =>
              rw [gives] at failed
              cases turns : gitignoreOf (Datum.lookup? "gitignore" entries) with
              | error other =>
                  rw [turns] at failed
                  cases failed
                  rcases gitignoreOf_eq_error.1 turns with ⟨⟨datum, given, rfl⟩, refused⟩
                  exact .gitignore known allowed (excludeOf_eq_ok.1 gives) given (given ▸ refused)
              | ok value =>
                  rw [turns] at failed
                  cases failed
    · rw [optionsOf_of_unknown known] at failed
      cases failed
      exact .unknownKeys known
  · intro first
    cases first with
    | noMapping _ other => exact absurd rfl (other entries)
    | unknownKeys some => exact optionsOf_of_unknown some
    | workers known given refused =>
        rw [optionsOf_of_known known, workersOf_eq_error.2 ⟨⟨_, given, rfl⟩, given ▸ refused⟩]
        rfl
    | exclude known allows refused =>
        rw [optionsOf_of_known known, workersOf_eq_ok.2 allows, excludeOf_eq_error.2 ⟨rfl, refused⟩]
        rfl
    | gitignore known allows gives given refused =>
        rw [optionsOf_of_known known, workersOf_eq_ok.2 allows, excludeOf_eq_ok.2 gives,
          gitignoreOf_eq_error.2 ⟨⟨_, given, rfl⟩, given ▸ refused⟩]
        rfl

/-! ## Data -/

theorem ofDatum_eq_ok : Options.ofDatum source raw = .ok options ↔ Fits raw options := by
  constructor
  · intro accepted
    unfold Options.ofDatum at accepted
    split at accepted
    · cases accepted
      exact .null
    · split at accepted
      · next read =>
        cases accepted
        exact .mapping (optionsOf_eq_ok.1 read).1 (optionsOf_eq_ok.1 read).2
      · cases accepted
    · cases accepted
  · intro fits
    cases fits with
    | null => rfl
    | mapping holds valid => rw [Options.ofDatum, optionsOf_of_holds holds valid]

theorem ofDatum_eq_error {error : ConfigError} : Options.ofDatum source raw = .error error ↔
    ∃ fault, error = .schema source fault ∧ FirstFault raw fault := by
  unfold Options.ofDatum
  split
  · refine iff_of_false nofun ?_
    rintro ⟨_, _, first⟩
    cases first
    contradiction
  · cases result : optionsOf _ with
    | ok options =>
        refine iff_of_false nofun ?_
        rintro ⟨fault, _, first⟩
        cases result.symm.trans (optionsOf_eq_error.2 first)
    | error fault =>
        constructor
        · rintro ⟨⟩
          exact ⟨fault, rfl, optionsOf_eq_error.1 result⟩
        · rintro ⟨other, rfl, first⟩
          cases result.symm.trans (optionsOf_eq_error.2 first)
          rfl
  · next some other =>
    constructor
    · rintro ⟨⟩
      exact ⟨_, rfl, .noMapping some other⟩
    · rintro ⟨fault, rfl, first⟩
      cases first with
      | noMapping => rfl
      | _ => exact absurd rfl (other _)

theorem Fits.valid (fits : Fits raw options) : options.Valid := by
  cases fits with
  | null => exact nofun
  | mapping holds valid => exact valid

theorem fits_spelledOut (valid : options.Valid) : Fits options.spelledOut options := by
  refine .mapping ⟨?_, ?_, .list options.exclude, .boolean options.gitignore⟩ valid
  · simp [knownKeys]
  · show GivesWorkers (some (options.workers.elim .null .integer)) options.workers
    cases options.workers with
    | none => exact .null
    | some n => exact .integer n

/-! ## What can be told -/

theorem parse_eq_ok : Options.parse limits source raw = .ok options ↔ Fits raw options :=
  mapError_eq_ok.trans ofDatum_eq_ok

theorem parse_eq_config {error : ConfigError} :
    Options.parse limits source raw = .error (.config error) ↔
      ∃ fault, error = .schema source fault ∧ FirstFault raw fault ∧
        ∀ outline ∈ fault.shows, limits.Allows outline := by
  rw [Options.parse, mapError_eq_error]
  constructor
  · rintro ⟨refused, failed, told⟩
    rcases ofDatum_eq_error.1 failed with ⟨fault, rfl, first⟩
    rcases refusal_eq_config.1 told with ⟨allowed, rfl⟩
    exact ⟨fault, rfl, first, allowed⟩
  · rintro ⟨fault, rfl, first, allowed⟩
    exact ⟨_, ofDatum_eq_error.2 ⟨fault, rfl, first⟩, refusal_eq_config.2 ⟨allowed, rfl⟩⟩

theorem of_parse_eq_untold {excess : Excess}
    (untold : Options.parse limits source raw = .error (.untold excess)) :
    ∃ fault, FirstFault raw fault ∧ ∃ outline ∈ fault.shows, limits.Oversteps quoting outline excess := by
  rcases mapError_eq_error.1 untold with ⟨error, failed, untold⟩
  rcases ofDatum_eq_error.1 failed with ⟨fault, rfl, first⟩
  exact ⟨fault, first, oversteps_of_refusal untold⟩

theorem parse_of_unknown (some : unknownKeysOf entries ≠ [])
    (allowed : ∀ key ∈ unknownKeysOf entries, limits.Allows key.keyOutline) :
    Options.parse limits source (.mapping entries) =
      .error (.config (.schema source (.unknownKeys (unknownKeysOf entries)))) := by
  refine parse_eq_config.2 ⟨_, rfl, .unknownKeys some, ?_⟩
  exact List.forall_mem_map.2 allowed

/-- A datum with a fault does not fit the schema. -/
theorem FirstFault.not_fits (first : FirstFault raw fault) : ¬Fits raw options := by
  intro fits
  have failed : Options.ofDatum "" raw = .error (.schema "" fault) :=
    ofDatum_eq_error.2 ⟨fault, rfl, first⟩
  cases failed.symm.trans (ofDatum_eq_ok.2 fits)

/-- A datum has one first fault at most. -/
theorem FirstFault.unique {other : ConfigFault} (first : FirstFault raw fault)
    (again : FirstFault raw other) : fault = other := by
  have failed : Options.ofDatum "" raw = .error (.schema "" fault) :=
    ofDatum_eq_error.2 ⟨fault, rfl, first⟩
  cases failed.symm.trans (ofDatum_eq_error.2 ⟨other, rfl, again⟩)
  rfl

/-- Which data are read and which are refused, with limits: a datum gives options if and only if it
is null or a mapping of known keys whose entries give them.  A datum that has a fault is refused for
the first: that it is no mapping, then unknown keys, then the number of workers, the patterns, and
the ignore file.  The refusal is an error of the configuration if all that the message quotes can be
written, and an excess of what it quotes if not.  Unknown keys are all named, in increasing order,
and so in the same way for every order of the entries.  Valid options are read back from the mapping
that spells them out. -/
theorem schema_exact (limits : Limits) (source : String) :
    (∀ raw options, Options.parse limits source raw = .ok options ↔ Fits raw options) ∧
      (∀ raw error, Options.parse limits source raw = .error (.config error) ↔
        ∃ fault, error = .schema source fault ∧ FirstFault raw fault ∧
          ∀ outline ∈ fault.shows, limits.Allows outline) ∧
      (∀ raw excess, Options.parse limits source raw = .error (.untold excess) ->
        ∃ fault, FirstFault raw fault ∧
          ∃ outline ∈ fault.shows, limits.Oversteps quoting outline excess) ∧
      (∀ entries others, entries.Perm others -> unknownKeysOf entries ≠ [] ->
        (∀ key ∈ unknownKeysOf entries, limits.Allows key.keyOutline) ->
        ∃ error again names, Options.parse limits source (.mapping entries) = .error (.config error) ∧
          Options.parse limits source (.mapping others) = .error (.config again) ∧
          names.Perm ((unknownKeysOf entries).map Datum.keyText) ∧ names.Pairwise (· ≤ ·) ∧
          error.message = source ++ ": " ++ ("unknown keys: " ++ ", ".intercalate names) ∧
          again.message = error.message) ∧
      ∀ options, options.Valid -> Options.parse limits source options.spelledOut = .ok options := by
  refine ⟨fun _ _ => parse_eq_ok, fun _ _ => parse_eq_config, fun _ _ => of_parse_eq_untold, ?_, ?_⟩
  · intro entries others same some allowed
    have unknown := perm_unknownKeysOf same
    have someOther : unknownKeysOf others ≠ [] := fun none => some (none ▸ unknown).eq_nil
    have allowedOther : ∀ key ∈ unknownKeysOf others, limits.Allows key.keyOutline :=
      fun key member => allowed key (unknown.mem_iff.2 member)
    refine ⟨_, _, sortTexts ((unknownKeysOf entries).map Datum.keyText), parse_of_unknown some allowed,
      parse_of_unknown someOther allowedOther, (sortTexts_eq_iff.1 rfl).1, (sortTexts_eq_iff.1 rfl).2, rfl, ?_⟩
    have sorted : sortTexts ((unknownKeysOf others).map Datum.keyText) =
        sortTexts ((unknownKeysOf entries).map Datum.keyText) := sortTexts_eq_of_perm (unknown.symm.map _)
    exact congrArg (fun names => source ++ ": " ++ ("unknown keys: " ++ ", ".intercalate names)) sorted
  · exact fun options valid => parse_eq_ok.2 (fits_spelledOut valid)

/-- A mapping with two keys that are unknown, and with no positive number of workers. -/
def strayKeys : List (Datum × Datum) := [(.text "b", .null), (.text "workers", .integer 0), (.integer 1, .null)]

/-- The keys are told in both orders, with their names in increasing order, if at least one digit
can be written. -/
theorem strayKeys_schema_exact :
    strayKeys.Perm strayKeys.reverse ∧
      (∃ error, Options.parse ⟨.unbounded, some 1⟩ "a" (.mapping strayKeys.reverse) = .error (.config error) ∧
        error.message = "a: unknown keys: 1, b") ∧
      (⟨some 2, ["c", "d"], true⟩ : Options).Valid ∧
      Options.parse ⟨.unbounded, some 1⟩ "a" (Options.spelledOut ⟨some 2, ["c", "d"], true⟩) =
        .ok ⟨some 2, ["c", "d"], true⟩ := by
  have reversed : strayKeys.Perm strayKeys.reverse := strayKeys.reverse_perm.symm
  have valid : (⟨some 2, ["c", "d"], true⟩ : Options).Valid := by
    rintro _ ⟨⟩
    decide
  have exact := schema_exact ⟨.unbounded, some 1⟩ "a"
  have unknown : unknownKeysOf strayKeys = [.text "b", .integer 1] := rfl
  have allowed : ∀ key ∈ unknownKeysOf strayKeys, Limits.Allows ⟨.unbounded, some 1⟩ key.keyOutline := by
    rw [unknown, ← List.forall_mem_map]
    exact (Limits.tell_eq_ok.1 (rfl : Limits.tell _ quoting _ () = .ok ())).1
  rcases exact.2.2.2.1 _ _ reversed nofun allowed with
    ⟨error, again, names, _, told, all, increasing, message, same⟩
  have sorted : names = ["1", "b"] := by
    rw [unknown] at all
    exact (sortTexts_eq_iff.2 ⟨all, increasing⟩).symm.trans (sortTexts_eq_iff.2 ⟨.swap _ _ _, by decide⟩)
  refine ⟨reversed, ⟨again, told, ?_⟩, valid, exact.2.2.2.2 _ valid⟩
  rw [same, message, sorted]
  rfl

/-- A number of workers that is not positive is what is wrong with a mapping of it alone. -/
theorem firstFault_workers {n : Int} (less : n < 1) :
    FirstFault (.mapping [(.text "workers", .integer n)]) (.workers (.integer n)) := by
  refine .workers rfl rfl ?_
  rintro _ ⟨⟨⟩, positive⟩
  exact absurd (positive n rfl) (Int.not_le.2 less)

/-- What is wrong is not always told: a negative number of workers may have one digit more than
can be written. -/
theorem not_every_fault_told :
    ¬∀ source raw fault, FirstFault raw fault ->
      ∃ error, Options.parse (.usual .unbounded) source raw = .error (.config error) := by
  intro told
  have positive : ∀ most, 0 < Nat.pow 10 most := fun _ => Nat.pow_pos (by decide)
  obtain ⟨long, same⟩ : ∃ long, long = Nat.pow 10 Number.mostDigits := ⟨_, rfl⟩
  have power : 0 < long := same ▸ positive _
  have first := firstFault_workers (n := -(long : Int)) (by omega)
  rcases told "a" _ _ first with ⟨error, failed⟩
  rcases parse_eq_config.1 failed with ⟨fault, _, again, allowed⟩
  rw [← first.unique again] at allowed
  have admits := (allowed _ (List.mem_singleton.2 rfl)).integers (-(long : Int)) (List.mem_singleton.2 rfl)
  have few := admits Number.mostDigits rfl
  rw [Int.natAbs_neg, Int.natAbs_natCast, ← same] at few
  exact absurd few (Nat.lt_irrefl _)

end Config
end ImportCensus

import ImportCensus.Config.File
import ImportCensus.Proofs.Files.Spelling
import ImportCensus.Proofs.Limits

namespace ImportCensus
namespace Config

open Files (Path Store)

/-!
# Loading the configuration file

The configuration file is found behind the path of a root, and this path plays no other
part than to be told in messages.  Two roots behind which the file has the same place give
the same options, or fail in the same way.
-/

/-- In what way a configuration file gives no options.  Faults of one kind differ in what
their messages tell. -/
inductive FaultKind where
  | config
  | value (fault : Yaml.ValueFault)
  | file (fault : Files.LookupFault)
  | untold (excess : Excess)
  deriving Repr

def LoadFault.kind : LoadFault -> FaultKind
  | .config _ => .config
  | .value fault => .value fault
  | .file error => .file error.fault
  | .untold excess => .untold excess

variable {store : Store} {first second : Path} {limits : Limits}

theorem mapError_map {α β ε δ : Type} (result : Except ε α) (change : α -> β) (kind : ε -> δ) :
    (result.map change).mapError kind = (result.mapError kind).map change := by
  cases result <;> rfl

/-- The name of the source is told in messages only. -/
theorem ofDatum_kind (source other : String) (datum : Datum) :
    (ofDatum limits source datum).mapError LoadFault.kind =
      (ofDatum limits other datum).mapError LoadFault.kind := by
  have refused : ∀ fault : ConfigFault,
      (LoadFault.ofRefusal ((ConfigError.schema source fault).refusal limits)).kind =
        (LoadFault.ofRefusal ((ConfigError.schema other fault).refusal limits)).kind := by
    intro fault
    unfold ConfigError.refusal Limits.tell ConfigError.shows
    cases limits.firstExcess? quoting limits.levels fault.shows <;> rfl
  unfold ofDatum Options.parse Options.ofDatum
  cases datum with
  | null => rfl
  | mapping entries =>
      dsimp only
      cases optionsOf entries with
      | ok options => rfl
      | error fault => exact congrArg Except.error (refused fault)
  | _ => exact congrArg Except.error (refused .noMapping)

theorem ofContent_kind (source other : String) (content : List Nat) :
    (ofContent limits source content).mapError LoadFault.kind =
      (ofContent limits other content).mapError LoadFault.kind := by
  unfold ofContent
  cases Text.decode content with
  | error fault => rfl
  | ok decoded =>
      dsimp only
      split
      · unfold ofText
        cases Yaml.read (Text.foldNewlines decoded) with
        | ok datum => exact ofDatum_kind source other datum
        | error fault =>
            cases fault with
            | value fault => rfl
            | _ =>
                unfold Limits.tell
                dsimp only
                cases limits.firstExcess? quoting limits.levels _ <;> rfl
      · rfl

/-- Where the file has the same place behind two roots, loading it comes to the same. -/
theorem loadFile_kind
    (same : store.place (first.child configFile) = store.place (second.child configFile)) :
    (loadFile limits store first).mapError LoadFault.kind =
      (loadFile limits store second).mapError LoadFault.kind := by
  have nodes := Store.node_eq_of_place same
  have tests : store.test Files.Node.isFile (first.child configFile) =
      store.test Files.Node.isFile (second.child configFile) := by
    unfold Store.test
    rw [nodes]
  have contents : store.content (first.child configFile) =
      store.content (second.child configFile) := by
    unfold Store.content
    rw [nodes]
  unfold loadFile
  dsimp only
  rw [tests, contents]
  cases store.test Files.Node.isFile (second.child configFile) with
  | error fault => rfl
  | ok isFile =>
      cases isFile with
      | false => rfl
      | true =>
          cases store.content (second.child configFile) with
          | error fault => rfl
          | ok content =>
              dsimp only
              rw [mapError_map, mapError_map, ofContent_kind]

/-- Where the file is missing, it gives no options. -/
theorem loadFile_of_missing {root : Path}
    (missing : store.place (root.child configFile) = .error .missing) :
    loadFile limits store root = .ok none := by
  unfold loadFile Store.test
  dsimp only
  rw [Store.node_of_error missing]
  rfl

/-- A path that is too long says nothing of the file. -/
theorem loadFile_of_nameTooLong {root : Path}
    (long : store.place (root.child configFile) = .error .nameTooLong) :
    loadFile limits store root = .error (.file ⟨.nameTooLong, root.child configFile⟩) := by
  unfold loadFile Store.test
  dsimp only
  rw [Store.node_of_error long]
  rfl

/-- Where the file is there, its content gives the options. -/
theorem loadFile_of_content {root : Path} {content : List Nat}
    (isFile : store.test Files.Node.isFile (root.child configFile) = .ok true)
    (opened : store.content (root.child configFile) = .ok content) :
    loadFile limits store root = (ofContent limits (root.child configFile).text content).map some := by
  unfold loadFile
  dsimp only
  rw [isFile, opened]

/-- A root without the file has the options that are given by default. -/
theorem load_eq (limits : Limits) (store : Store) (root : Path) :
    load limits store root = (loadFile limits store root).map fun found => found.getD .default := by
  unfold load
  cases loadFile limits store root <;> rfl

theorem load_kind
    (same : store.place (first.child configFile) = store.place (second.child configFile)) :
    (load limits store first).mapError LoadFault.kind =
      (load limits store second).mapError LoadFault.kind := by
  rw [load_eq, load_eq, mapError_map, mapError_map, loadFile_kind same]

/-! ## Refusals -/

/-- An error is told if all that its message quotes can be written. -/
theorem refusal_eq_config {error told : ConfigError} : error.refusal limits = .config told ↔
    (∀ outline ∈ error.shows, limits.Allows outline) ∧ told = error := by
  have outcome : limits.tell quoting error.shows error = .ok told ↔ _ := Limits.tell_eq_ok
  rw [← outcome]
  unfold ConfigError.refusal
  cases limits.tell quoting error.shows error with
  | ok found =>
      constructor <;>
        · rintro ⟨⟩
          rfl
  | error excess => exact iff_of_false nofun nofun

theorem oversteps_of_refusal {error : ConfigError} {excess : Excess}
    (untold : error.refusal limits = .untold excess) :
    ∃ outline ∈ error.shows, limits.Oversteps quoting outline excess := by
  unfold ConfigError.refusal at untold
  split at untold
  · cases untold
  · next failed =>
    cases untold
    exact Limits.oversteps_of_tell failed

/-- A number of workers can be told if it has no more digits than can be written. -/
theorem refusal_workersOption {n : Int} (admits : limits.Admits n) :
    (ConfigError.workersOption n).refusal limits = .config (.workersOption n) :=
  refusal_eq_config.2 ⟨List.forall_mem_singleton.2 (Limits.allows_integer.2 admits), rfl⟩

/-- What an entry says about the number of workers. -/
inductive GivesWorkers : Option Datum -> Option Int -> Prop
  | absent : GivesWorkers none none
  | null : GivesWorkers (some .null) none
  | integer (n : Int) : GivesWorkers (some (.integer n)) (some n)

/-- What an entry says about the patterns. -/
inductive GivesExclude : Option Datum -> List String -> Prop
  | absent : GivesExclude none []
  | null : GivesExclude (some .null) []
  | single (pattern : String) : GivesExclude (some (.text pattern)) [pattern]
  | list (patterns : List String) : GivesExclude (some (.list (patterns.map .text))) patterns

/-- What an entry says about the ignore file. -/
inductive GivesGitignore : Option Datum -> Bool -> Prop
  | absent : GivesGitignore none false
  | boolean (value : Bool) : GivesGitignore (some (.boolean value)) value

/-- The entries of a mapping hold options and nothing else. -/
structure Holds (entries : List (Datum × Datum)) (options : Options) : Prop where
  known : ∀ entry ∈ entries, ∃ key ∈ knownKeys, entry.1 = .text key
  workers : GivesWorkers (Datum.lookup? "workers" entries) options.workers
  exclude : GivesExclude (Datum.lookup? "exclude" entries) options.exclude
  gitignore : GivesGitignore (Datum.lookup? "gitignore" entries) options.gitignore

/-- The content of a file is read as a mapping that holds options. -/
structure SpellsOut (stack : Stack) (content : List Nat) (options : Options) : Prop where
  read : ∃ text entries, Text.decode content = .ok text ∧
    stack.reads (Text.foldNewlines text) = true ∧
    Yaml.read (Text.foldNewlines text) = .ok (.mapping entries) ∧ Holds entries options

theorem textsOf?_map_text (patterns : List String) :
    textsOf? (patterns.map Datum.text) = some patterns := by
  induction patterns with
  | nil => rfl
  | cons pattern patterns ih =>
      rw [List.map_cons, textsOf?, ih]
      rfl

theorem GivesWorkers.workersOf_eq {found : Option Datum} {given : Option Int}
    (gives : GivesWorkers found given) (positive : ∀ n, given = some n -> 1 ≤ n) :
    workersOf found = .ok given := by
  cases gives with
  | absent => rfl
  | null => rfl
  | integer n => exact if_pos (positive n rfl)

theorem GivesExclude.excludeOf_eq {found : Option Datum} {given : List String}
    (gives : GivesExclude found given) : excludeOf found = .ok given := by
  cases gives with
  | absent => rfl
  | null => rfl
  | single pattern => rfl
  | list patterns => rw [excludeOf, textsOf?_map_text]

theorem GivesGitignore.gitignoreOf_eq {found : Option Datum} {given : Bool}
    (gives : GivesGitignore found given) : gitignoreOf found = .ok given := by
  cases gives <;> rfl

/-- Such entries give these options, if their number of workers is positive. -/
theorem optionsOf_of_holds {entries : List (Datum × Datum)} {options : Options}
    (holds : Holds entries options) (valid : options.Valid) : optionsOf entries = .ok options := by
  have known : (entries.map Prod.fst).filter (fun key => !isKnown key) = [] := by
    rw [List.filter_eq_nil_iff]
    intro key member
    rcases List.mem_map.1 member with ⟨entry, listed, rfl⟩
    rcases holds.known entry listed with ⟨key, isKey, same⟩
    rw [same, isKnown, List.contains_iff_mem.2 isKey]
    exact Bool.false_ne_true
  unfold optionsOf
  dsimp only
  rw [known, holds.workers.workersOf_eq valid, holds.exclude.excludeOf_eq,
    holds.gitignore.gitignoreOf_eq]
  rfl

/-- Options are logged when they have been read from a file, which takes a number of workers that
can be written. -/
def Options.Told (limits : Limits) (options : Options) : Prop :=
  ∀ n, options.workers = some n -> limits.Admits n

theorem allows_shows_iff {options : Options} :
    (∀ outline ∈ options.shows, limits.Allows outline) ↔ options.Told limits := by
  unfold Options.shows Options.Told
  cases options.workers with
  | none => exact iff_of_true nofun nofun
  | some n =>
      rw [Option.map_some, Option.toList_some, List.forall_mem_singleton, Limits.allows_integer]
      constructor
      · rintro admits _ ⟨⟩
        exact admits
      · exact fun told => told n rfl

/-- What cannot be written of some options is their number of workers. -/
theorem oversteps_of_shows {options : Options} {outline : Outline} {activity : String} {excess : Excess}
    (shown : outline ∈ options.shows) (oversteps : limits.Oversteps activity outline excess) :
    ∃ n most, options.workers = some n ∧ limits.digits = some most ∧ 10 ^ most ≤ n.natAbs ∧
      excess = .digits most := by
  rcases Option.map_eq_some_iff.1 (Option.mem_toList.1 shown) with ⟨n, asked, rfl⟩
  rcases Limits.of_oversteps_integer oversteps with ⟨most, bound, long, same⟩
  exact ⟨n, most, asked, bound, long, same⟩

/-- The options that a file spells out are logged, or the excess in them is there instead. -/
theorem ofContent_eq_tell {content : List Nat} {options : Options}
    (spellsOut : SpellsOut limits.toStack content options) (valid : options.Valid) (source : String) :
    ofContent limits source content =
      (limits.tell quoting options.shows options).mapError LoadFault.untold := by
  rcases spellsOut.read with ⟨text, entries, decoded, reads, read, holds⟩
  have parsed : Options.parse limits source (.mapping entries) = .ok options := by
    rw [Options.parse, Options.ofDatum, optionsOf_of_holds holds valid]
    rfl
  unfold ofContent
  rw [decoded]
  dsimp only
  rw [if_pos reads, ofText, read]
  dsimp only
  rw [ofDatum, parsed]

theorem ofContent_of_spellsOut {content : List Nat} {options : Options}
    (spellsOut : SpellsOut limits.toStack content options) (valid : options.Valid)
    (told : options.Told limits) (source : String) : ofContent limits source content = .ok options := by
  have logged : limits.tell quoting options.shows options = .ok options :=
    Limits.tell_eq_ok.2 ⟨allows_shows_iff.2 told, rfl⟩
  rw [ofContent_eq_tell spellsOut valid, logged]
  rfl

/-- A number of workers that has too many digits is read, but not logged. -/
theorem ofContent_of_long {content : List Nat} {options : Options} {n : Int} {most : Nat}
    (spellsOut : SpellsOut limits.toStack content options) (valid : options.Valid)
    (asked : options.workers = some n) (bound : limits.digits = some most) (long : 10 ^ most ≤ n.natAbs)
    (source : String) : ofContent limits source content = .error (.untold (.digits most)) := by
  have shown : options.shows = [.integer n] := by
    rw [Options.shows, asked]
    rfl
  rw [ofContent_eq_tell spellsOut valid, shown, Limits.tell, Limits.firstExcess?, Limits.excess?,
    Limits.ofInteger?_of_long bound long]
  rfl

end Config
end ImportCensus

import ImportCensus.Config.Datum

namespace ImportCensus
namespace Config

/-!
# Scan options

The settings of a scan, how they are read from a configuration datum, and how
later settings are laid over earlier ones.  Reading accepts exactly the schema
and reports the first fault in a fixed order: no mapping, unknown keys, workers,
exclude, gitignore.  A fault whose message cannot be written is not reported: the excess takes
its place (`Options.parse`, `Options.merge`).
-/

/-- The settings of a scan. -/
structure Options where
  /-- How many workers to use; by default it depends on the machine. -/
  workers : Option Int
  /-- Patterns of paths to leave out, relative to the root. -/
  exclude : List String
  /-- Whether the ignore file of the root is respected as well. -/
  gitignore : Bool
  deriving DecidableEq, Repr

namespace Options

def default : Options := ⟨none, [], false⟩

/-- Options with a positive number of workers, if with any. -/
def Valid (options : Options) : Prop := ∀ n, options.workers = some n -> 1 ≤ n

end Options

/-- What is wrong with a configuration. -/
inductive ConfigFault where
  | noMapping
  /-- The keys stand in the order of the mapping. -/
  | unknownKeys (keys : List Datum)
  | workers (found : Datum)
  | exclude
  | gitignore (found : Datum)
  deriving Repr

/-- Why options cannot be had. -/
inductive ConfigError where
  /-- A configuration from a source does not fit the schema. -/
  | schema (source : String) (fault : ConfigFault)
  /-- A configuration file cannot be read or is no document. -/
  | unreadable (source : String) (reason : String)
  /-- The number of workers given beside the configuration is not positive. -/
  | workersOption (found : Int)
  deriving Repr

def knownKeys : List String := ["workers", "exclude", "gitignore"]

/-- Texts in increasing order of their code points. -/
def sortTexts (texts : List String) : List String :=
  texts.mergeSort fun first second => decide (first ≤ second)

def ConfigFault.message : ConfigFault -> String
  | .noMapping => "must be a mapping with keys: " ++ ", ".intercalate knownKeys
  | .unknownKeys keys =>
    "unknown keys: " ++ ", ".intercalate (sortTexts (keys.map Datum.keyText))
  | .workers found => "workers: expected positive integer, got " ++ found.shown
  | .exclude => "exclude: expected a list of glob strings"
  | .gitignore found => "gitignore: expected true/false, got " ++ found.shown

def ConfigError.message : ConfigError -> String
  | .schema source fault => source ++ ": " ++ fault.message
  | .unreadable source reason => source ++ ": cannot read config: " ++ reason
  | .workersOption found =>
    "--workers: expected positive integer, got " ++ String.ofList (Json.integerChars found)

/-- What of the data in a message the limits bear on. -/
def ConfigFault.shows : ConfigFault -> List Outline
  | .noMapping | .exclude => []
  | .unknownKeys keys => keys.map Datum.keyOutline
  | .workers found | .gitignore found => [found.outline]

def ConfigError.shows : ConfigError -> List Outline
  | .schema _ fault => fault.shows
  | .unreadable _ _ => []
  | .workersOption found => [.integer found]

/-- What the stack is needed for where data are quoted. -/
def quoting : String := " while getting the repr of an object"

/-- Why no options are handed out. -/
inductive Refusal where
  | config (error : ConfigError)
  /-- The message of an error cannot be written. -/
  | untold (excess : Excess)
  deriving Repr

/-- An error, if its message can be written. -/
def ConfigError.refusal (limits : Limits) (error : ConfigError) : Refusal :=
  match limits.tell quoting error.shows error with
  | .ok error => .config error
  | .error excess => .untold excess

/-- Whether a key belongs to the schema. -/
def isKnown : Datum -> Bool
  | .text key => knownKeys.contains key
  | _ => false

/-- The number of workers that an entry gives. -/
def workersOf : Option Datum -> Except ConfigFault (Option Int)
  | none | some .null => .ok none
  | some (.integer n) => if 1 ≤ n then .ok (some n) else .error (.workers (.integer n))
  | some other => .error (.workers other)

/-- The texts of a list that holds nothing else. -/
def textsOf? : List Datum -> Option (List String)
  | [] => some []
  | .text value :: rest => (textsOf? rest).map fun others => value :: others
  | _ :: _ => none

/-- The patterns that an entry gives; a single text stands for a list of one. -/
def excludeOf : Option Datum -> Except ConfigFault (List String)
  | none | some .null => .ok []
  | some (.text value) => .ok [value]
  | some (.list items) =>
    match textsOf? items with
    | some texts => .ok texts
    | none => .error .exclude
  | some _ => .error .exclude

/-- Whether an entry turns the ignore file on. -/
def gitignoreOf : Option Datum -> Except ConfigFault Bool
  | none => .ok false
  | some (.boolean value) => .ok value
  | some other => .error (.gitignore other)

/-- The options of the entries of a mapping. -/
def optionsOf (entries : List (Datum × Datum)) : Except ConfigFault Options := do
  let unknown := (entries.map Prod.fst).filter fun key => !isKnown key
  match unknown with
  | [] =>
    let workers ← workersOf (Datum.lookup? "workers" entries)
    let exclude ← excludeOf (Datum.lookup? "exclude" entries)
    let gitignore ← gitignoreOf (Datum.lookup? "gitignore" entries)
    return ⟨workers, exclude, gitignore⟩
  | keys => .error (.unknownKeys keys)

/-- The options that a configuration datum spells out. -/
def Options.ofDatum (source : String) (datum : Datum) : Except ConfigError Options :=
  match datum with
  | .null => .ok .default
  | .mapping entries =>
    match optionsOf entries with
    | .ok options => .ok options
    | .error fault => .error (.schema source fault)
  | _ => .error (.schema source .noMapping)

/-- Read the options that a configuration datum spells out. -/
def Options.parse (limits : Limits) (source : String) (datum : Datum) : Except Refusal Options :=
  (Options.ofDatum source datum).mapError (ConfigError.refusal limits)

/-- Settings that are laid over options: what is absent changes nothing. -/
structure Overrides where
  workers : Option Int
  exclude : List String
  gitignore : Option Bool
  deriving DecidableEq, Repr

/-- Options with settings laid over them.  Patterns are added, all else is
replaced. -/
def Options.override (base : Options) (changes : Overrides) : Except ConfigError Options :=
  match changes.workers with
  | some n =>
    if n < 1 then .error (.workersOption n)
    else .ok ⟨some n, base.exclude ++ changes.exclude, changes.gitignore.getD base.gitignore⟩
  | none =>
    .ok ⟨base.workers, base.exclude ++ changes.exclude, changes.gitignore.getD base.gitignore⟩

/-- Lay settings over options. -/
def Options.merge (limits : Limits) (base : Options) (changes : Overrides) :
    Except Refusal Options :=
  (base.override changes).mapError (ConfigError.refusal limits)

/-- The number of workers on a machine with so many processors, if their number
is known. -/
def defaultWorkers (processors : Option Nat) : Nat :=
  min 32 ((match processors with
    | some 0 | none => 1
    | some n => n) + 4)

end Config
end ImportCensus

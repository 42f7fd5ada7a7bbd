namespace ImportCensus
namespace CommandLine

/-!
# Flags

The flags of the command, the spellings of each, and whether it takes a value.
-/

inductive Flag where
  | help
  | version
  | sort
  | json
  | workers
  | exclude
  | gitignore
  | verbose
  deriving DecidableEq, Repr

namespace Flag

/-- All flags, in the order in which spellings are compared. -/
def all : List Flag := [.help, .version, .sort, .json, .workers, .exclude, .gitignore, .verbose]

def spellings : Flag -> List String
  | .help => ["-h", "--help"]
  | .version => ["-V", "--version"]
  | .sort => ["--sort"]
  | .json => ["--json"]
  | .workers => ["--workers"]
  | .exclude => ["--exclude"]
  | .gitignore => ["--gitignore"]
  | .verbose => ["-v", "--verbose"]

def takesValue : Flag -> Bool
  | .workers | .exclude => true
  | _ => false

/-- How a flag is named in messages. -/
def name (flag : Flag) : String := "/".intercalate flag.spellings

/-- All spellings with their flags. -/
def table : List (String × Flag) :=
  all.flatMap fun flag => flag.spellings.map fun spelling => (spelling, flag)

/-- The flag of a spelling. -/
def ofSpelling? (spelling : String) : Option Flag :=
  (table.find? fun found => found.1 == spelling).map Prod.snd

end Flag

end CommandLine
end ImportCensus

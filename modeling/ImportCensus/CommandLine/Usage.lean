import ImportCensus.CommandLine.Flag
import ImportCensus.Report.Record
import ImportCensus.Text.Quoted

namespace ImportCensus
namespace CommandLine

/-!
# Usage

What the command says about itself, and what it says when its arguments make no
sense.
-/

/-- The name of the command. -/
def commandName : String := "tpi"

/-- The name of the argument that gives the root. -/
def rootName : String := "project_root"

def usage : String :=
  "usage: tpi [-h] [-V] [--sort] [--json] [--workers N] [--exclude GLOB]\n" ++
  "           [--gitignore] [-v]\n" ++
  "           project_root\n"

def help : String :=
  usage ++ "\n" ++
  "Find all third-party packages imported into your python project.\n" ++
  "\n" ++
  "positional arguments:\n" ++
  "  project_root    Path to the project's root directory.\n" ++
  "\n" ++
  "options:\n" ++
  "  -h, --help      show this help message and exit\n" ++
  "  -V, --version   show program's version number and exit\n" ++
  "  --sort          print packages in alphabetical order\n" ++
  "  --json          print a JSON report instead of text\n" ++
  "  --workers N     number of parsing threads (default: tpi.yaml or min(32,\n" ++
  "                  cpu+4))\n" ++
  "  --exclude GLOB  gitwildmatch pattern relative to the root; may be repeated\n" ++
  "  --gitignore     skip files ignored by the root .gitignore\n" ++
  "  -v, --verbose   debug logging to stderr\n"

def versionLine : String := commandName ++ " " ++ Report.version ++ "\n"

/-- What is wrong with the arguments. -/
inductive UsageError where
  | ambiguous (word : String) (spellings : List String)
  /-- A flag that takes a value has none. -/
  | noValue (flag : Flag)
  /-- A flag that takes no value has one. -/
  | surplusValue (flag : Flag) (value : String)
  | noInteger (flag : Flag) (value : String)
  | noRoot
  | unrecognized (words : List String)
  deriving DecidableEq, Repr

def UsageError.message : UsageError -> String
  | .ambiguous word spellings =>
    "ambiguous option: " ++ word ++ " could match " ++ ", ".intercalate spellings
  | .noValue flag => "argument " ++ flag.name ++ ": expected one argument"
  | .surplusValue flag value =>
    "argument " ++ flag.name ++ ": ignored explicit argument " ++ Text.quoted value
  | .noInteger flag value =>
    "argument " ++ flag.name ++ ": invalid int value: " ++ Text.quoted value
  | .noRoot => "the following arguments are required: " ++ rootName
  | .unrecognized words => "unrecognized arguments: " ++ " ".intercalate words

/-- What is said when the arguments make no sense. -/
def UsageError.complaint (e : UsageError) : String :=
  usage ++ commandName ++ ": error: " ++ e.message ++ "\n"

end CommandLine
end ImportCensus

import ImportCensus.Config.Options
import ImportCensus.Files.Error
import ImportCensus.Text.Utf8
import ImportCensus.Yaml.Value

namespace ImportCensus
namespace Config

/-!
# The configuration file

A project may have a configuration file in its root.  It has to be well-formed
UTF-8, and a document that fits the schema; without a file all options have their
defaults.

The limits of the process bear on a file in three places: its text may be nested too
deep to be read, the message of an error quotes data from it, and the options are
written into a line of the log.  Data beyond the limits end the loading there, and not
with an error of the configuration.
-/

/-- The name of the configuration file. -/
def configFile : String := "tpi.yaml"

/-- Why a configuration file gives no options. -/
inductive LoadFault where
  | config (error : ConfigError)
  /-- A scalar in the file has no value of the type that it asks for. -/
  | value (fault : Yaml.ValueFault)
  /-- It cannot be told whether there is a file. -/
  | file (error : Files.FileError)
  /-- The file is nested too deep to be read, or what there is to tell cannot be written. -/
  | untold (excess : Excess)
  deriving Repr

def LoadFault.message : LoadFault -> String
  | .config error => error.message
  | .value fault => fault.message
  | .file error => error.message
  | .untold excess => excess.message

def LoadFault.ofRefusal : Refusal -> LoadFault
  | .config error => .config error
  | .untold excess => .untold excess

/-- What of some options the limits bear on where they are logged. -/
def Options.shows (options : Options) : List Outline := (options.workers.map Outline.integer).toList

/-- The options that a datum spells out, once they have been logged.  The line is made up whether
or not it is asked for. -/
def ofDatum (limits : Limits) (source : String) (datum : Datum) : Except LoadFault Options :=
  match Options.parse limits source datum with
  | .error refusal => .error (.ofRefusal refusal)
  | .ok options => (limits.tell quoting options.shows options).mapError LoadFault.untold

/-- The options in the text of a configuration file. -/
def ofText (limits : Limits) (source : String) (text : List Char) : Except LoadFault Options :=
  match Yaml.read text with
  | .error (.value fault) => .error (.value fault)
  | .error fault =>
    match limits.tell quoting fault.shows (ConfigError.unreadable source (fault.message text)) with
    | .ok error => .error (.config error)
    | .error excess => .error (.untold excess)
  | .ok datum => ofDatum limits source datum

/-- The options in the content of a configuration file. -/
def ofContent (limits : Limits) (source : String) (content : List Nat) : Except LoadFault Options :=
  match Text.decode content with
  | .error fault => .error (.config (.unreadable source fault.message))
  | .ok decoded =>
    let text := Text.foldNewlines decoded
    if limits.reads text then ofText limits source text else .error (.untold (.stack ""))

/-- The options in the configuration file of a root, if there is one. -/
def loadFile (limits : Limits) (store : Files.Store) (root : Files.Path) :
    Except LoadFault (Option Options) :=
  let path := root.child configFile
  match store.test Files.Node.isFile path with
  | .error fault => .error (.file ⟨fault, path⟩)
  | .ok false => .ok none
  | .ok true =>
    match store.content path with
    | .error fault => .error (.config (.unreadable path.text (Files.FileError.message ⟨fault, path⟩)))
    | .ok content => (ofContent limits path.text content).map some

/-- The options of a project: those of its configuration file, or the defaults. -/
def load (limits : Limits) (store : Files.Store) (root : Files.Path) : Except LoadFault Options := do
  return (← loadFile limits store root).getD .default

end Config
end ImportCensus

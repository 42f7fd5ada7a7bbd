import ImportCensus.CommandLine.Arguments
import ImportCensus.CommandLine.Log
import ImportCensus.Report.Text

namespace ImportCensus
namespace CommandLine

/-!
# The command

The command checks the root, reads its configuration, lays the arguments over it,
surveys the project and reports the result.  What a user can mend is told on the
error stream, with the exit code that bad arguments have as well; all other
failures are handed on.
-/

/-- What the command works with beside its arguments. -/
structure Surroundings where
  store : Files.Store
  registry : Registry
  /-- The number of processors, if it is known. -/
  processors : Option Nat
  /-- Whether log lines are asked for from outside. -/
  debug : Bool
  stack : Stack

/-- The limits within which the command works. -/
def Surroundings.limits (surroundings : Surroundings) : Limits := .usual surroundings.stack

/-- What is written to the output stream. -/
inductive Output where
  | fixed (text : String)
  /-- The report of a result as text. -/
  | listing (result : Census.Result)
  /-- The report of a result as JSON. -/
  | json (result : Census.Result)

/-- The text of an output, given how many seconds have gone by and in which order the
packages of a set are listed. -/
def Output.render (elapsed : Number.Binary64) (order : Census.PackageSet -> List String) :
    Output -> String
  | .fixed text => text
  | .listing result =>
    Report.listing result (order result.packages) (Report.elapsedText elapsed)
  | .json result => (Report.Record.ofResult result elapsed).toJson.text ++ "\n"

structure Reply where
  code : Nat
  output : Output
  /-- Whether the packages of a listing are put in order. -/
  sorted : Bool
  errors : String

/-- What a reply writes to the output stream.  Packages that are not put in order are
listed as their set hands them out. -/
def Reply.written (elapsed : Number.Binary64) (handedOut : Census.PackageSet -> List String)
    (reply : Reply) : String :=
  reply.output.render elapsed (if reply.sorted then Census.PackageSet.members else handedOut)

/-- The exit code for what a user can mend. -/
def mendableCode : Nat := 2

/-- Failures that no user can be told to mend. -/
inductive Failure where
  | project (error : Project.ProjectError)
  | load (fault : Config.LoadFault)
  /-- What is wrong with the flags cannot be told. -/
  | untold (excess : Excess)

def Failure.message : Failure -> String
  | .project error => error.message
  | .load fault => fault.message
  | .untold excess => excess.message

/-- A message without the white space at its end, as one line. -/
def lineOf (message : String) : String :=
  String.ofList (Text.trimEnd message.toList) ++ "\n"

/-- The reply that tells what to mend. -/
def refusal (log : List String) (message : String) : Reply :=
  ⟨mendableCode, .fixed "", false, String.join (log.map logged) ++ lineOf message⟩

/-- The reply to a failed look at a project. -/
def ofProjectError (log : List String) (error : Project.ProjectError) : Except Failure Reply :=
  match error with
  | .missingRoot _ | .rootNoDirectory _ => .ok (refusal log error.message)
  | _ => .error (.project error)

/-- The changes that settings make to the options of a project. -/
def Settings.overrides (settings : Settings) : Config.Overrides :=
  ⟨settings.workers, settings.exclude, settings.gitignore⟩

/-- Survey a project with some options and report the result. -/
def report (surroundings : Surroundings) (root : Files.Path) (settings : Settings) (isLogged : Bool)
    (log : List String) (options : Config.Options) : Except Failure Reply :=
  let scope : Census.Scope := ⟨surroundings.store, root, surroundings.registry⟩
  match Census.survey scope options surroundings.processors with
  | .error error => ofProjectError log error
  | .ok survey =>
    let log := if isLogged then log ++ surveyLines root survey else []
    let output := if settings.json then .json survey.result else .listing survey.result
    .ok ⟨0, output, settings.sort, String.join (log.map logged)⟩

/-- Carry out what the arguments ask for. -/
def carryOut (surroundings : Surroundings) (request : Request) : Except Failure Reply :=
  let isLogged := request.settings.verbose || surroundings.debug
  match Project.checkRoot surroundings.store (.ofText request.root) with
  | .error error => ofProjectError [] error
  | .ok root =>
    match Config.loadFile surroundings.limits surroundings.store root with
    | .error (.config error) => .ok (refusal [] error.message)
    | .error fault => .error (.load fault)
    | .ok found =>
      let log := if isLogged then found.toList.map (loadedLine root) else []
      match (found.getD .default).merge surroundings.limits request.settings.overrides with
      | .error (.config error) => .ok (refusal log error.message)
      | .error (.untold excess) => .error (.untold excess)
      | .ok options => report surroundings root request.settings isLogged log options

/-- The reply of the command to some arguments. -/
def command (surroundings : Surroundings) (arguments : List String) : Except Failure Reply :=
  match readArguments arguments with
  | .error .help => .ok ⟨0, .fixed help, false, ""⟩
  | .error .version => .ok ⟨0, .fixed versionLine, false, ""⟩
  | .error (.error error) => .ok ⟨mendableCode, .fixed "", false, error.complaint⟩
  | .ok request => carryOut surroundings request

/-- What is written to the output stream in the end: nothing after a failure. -/
def written (elapsed : Number.Binary64) (handedOut : Census.PackageSet -> List String) :
    Except Failure Reply -> String
  | .ok reply => reply.written elapsed handedOut
  | .error _ => ""

end CommandLine
end ImportCensus

import ImportCensus.Census.Survey
import ImportCensus.Config.File

namespace ImportCensus
namespace CommandLine

/-!
# Log lines

What the command tells about its work if it is asked to.
-/

/-- Options as log lines show them. -/
def shownOptions (options : Config.Options) : String :=
  let workers := match options.workers with
    | some n => Config.Datum.integer n
    | none => .null
  "ScanOptions(workers=" ++ workers.shown ++ ", exclude=" ++
    (Config.Datum.tuple (options.exclude.map Config.Datum.text)).shown ++
    ", respect_gitignore=" ++ (Config.Datum.boolean options.gitignore).shown ++ ")"

def loadedLine (root : Files.Path) (options : Config.Options) : String :=
  "Loaded " ++ (root.child Config.configFile).text ++ ": " ++ shownOptions options

def skippedLine (failure : Files.Path × Census.FileFault) : String :=
  "Skipping " ++ failure.1.text ++ ": " ++ failure.2.message

/-- What is told about a survey. -/
def surveyLines (root : Files.Path) (survey : Census.Survey) : List String :=
  let count := survey.contributions.length
  let failures := survey.failures
  if count = 0 then ["No Python files under " ++ root.text]
  else
    ("Scanning " ++ toString count ++ " files with " ++ toString survey.workers ++ " workers") ::
      (failures.map skippedLine ++
        if failures.isEmpty then []
        else [toString failures.length ++ " of " ++ toString count ++ " files were skipped"])

/-- A log line with its level. -/
def logged (line : String) : String := "[DEBUG] " ++ line ++ "\n"

end CommandLine
end ImportCensus

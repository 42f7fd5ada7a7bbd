import ImportCensus.Census.Contribution
import ImportCensus.Census.Result
import ImportCensus.Config.Options
import ImportCensus.Project.Walk

namespace ImportCensus
namespace Census

/-!
# Surveys

A survey goes over the source files of a project once and keeps what each of them
contributes.  Its result adds the contributions up.  The number of workers that
share the files has no influence on the result; it only has to be legal.
-/

/-- What has been added up so far. -/
structure Tally where
  failedFiles : Nat
  packages : PackageSet

namespace Tally

def zero : Tally := ⟨0, .empty⟩

/-- A tally with one more contribution. -/
def add (tally : Tally) : Contribution -> Tally
  | .ok packages => ⟨tally.failedFiles, tally.packages.union packages⟩
  | .error _ => ⟨tally.failedFiles + 1, tally.packages⟩

end Tally

/-- The files of a project with their contributions, and the number of workers. -/
structure Survey where
  contributions : List (Files.Path × Contribution)
  workers : Nat

namespace Survey

/-- The faults of the files that cannot be used. -/
def failures (survey : Survey) : List (Files.Path × FileFault) :=
  survey.contributions.filterMap fun found =>
    match found.2 with
    | .error fault => some (found.1, fault)
    | .ok _ => none

/-- The result of a survey. -/
def result (survey : Survey) : Result :=
  let tally := (survey.contributions.map Prod.snd).foldl Tally.add .zero
  ⟨survey.contributions.length, tally.failedFiles, tally.packages⟩

end Survey

/-- How many workers share some files: as many as are asked for, or by default as
many as the machine can use, but never more than there are files. -/
def poolSize (asked : Option Int) (processors : Option Nat) (files : Nat) : Int :=
  let wanted : Int := match asked with
    | none | some 0 => Config.defaultWorkers processors
    | some n => n
  min wanted files

/-- Survey the files of a project. -/
def survey (scope : Scope) (options : Config.Options) (processors : Option Nat) :
    Except Project.ProjectError Survey := do
  let _ ← Project.checkRoot scope.store scope.root
  let files ← Project.walk scope.store scope.root options.exclude options.gitignore
  if files.isEmpty then return ⟨[], 0⟩
  else
    let workers := poolSize options.workers processors files.length
    if workers < 1 then .error .negativeWorkers
    else return ⟨files.map fun file => (file, scope.contribution file), workers.toNat⟩

/-- The third-party packages that a project imports. -/
def run (scope : Scope) (options : Config.Options) (processors : Option Nat) :
    Except Project.ProjectError Result := do
  return (← survey scope options processors).result

end Census
end ImportCensus

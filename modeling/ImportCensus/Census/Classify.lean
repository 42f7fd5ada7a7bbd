import ImportCensus.Census.PackageSet
import ImportCensus.Imports.Reference
import ImportCensus.Project.Locality
import ImportCensus.Registry

namespace ImportCensus
namespace Census

/-!
# Classes of modules

A module belongs to the standard library, to the project, or to a third party.
Only its base decides: the registry is asked first, then the project.
-/

/-- The classes of modules. -/
inductive ModuleClass where
  | standard
  | local
  | thirdParty
  deriving DecidableEq, Repr

/-- What decides about modules: the files, the root of the project, and the
registry of the standard library. -/
structure Scope where
  store : Files.Store
  root : Files.Path
  registry : Registry

namespace Scope

/-- The class of a module base that a file imports. -/
def classOfBase (scope : Scope) (file : Files.Path) (base : String) : ModuleClass :=
  if scope.registry.knows base then .standard
  else if Project.isLocal scope.store scope.root file base then .local
  else .thirdParty

/-- The class of a module that a file imports. -/
def classify (scope : Scope) (file : Files.Path) (module : String) : ModuleClass :=
  scope.classOfBase file (Imports.moduleBase module)

/-- The bases of the third-party modules among some modules that a file imports. -/
def thirdParty (scope : Scope) (file : Files.Path) (modules : List String) : PackageSet :=
  .ofList ((modules.filter fun module => scope.classify file module == .thirdParty).map
    Imports.moduleBase)

/-- The class of a module that a file imports, or why it cannot be told. -/
def askClass (scope : Scope) (file : Files.Path) (module : String) :
    Except Files.FileError ModuleClass := do
  let base := Imports.moduleBase module
  if scope.registry.knows base then return .standard
  else if ← Project.askLocal scope.store scope.root file base then return .local
  else return .thirdParty

/-- The bases of the third-party modules among some modules that a file imports, or why
one of them cannot be told. -/
def askThirdParty (scope : Scope) (file : Files.Path) (modules : List String) :
    Except Files.FileError PackageSet := do
  let classes ← modules.mapM (scope.askClass file)
  return .ofList (((modules.zip classes).filter fun found => found.2 == .thirdParty).map
    fun found => Imports.moduleBase found.1)

theorem classify_moduleBase (scope : Scope) (file : Files.Path) (module : String) :
    scope.classify file (Imports.moduleBase module) = scope.classify file module := by
  simp [classify, Imports.moduleBase_idem]

end Scope

end Census
end ImportCensus

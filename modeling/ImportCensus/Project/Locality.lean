import ImportCensus.Files.Resolve

namespace ImportCensus
namespace Project

/-!
# Local modules

A module is local if the root of the project has its name, or if a directory, a
source or a stub of its name lies in the root or beside the file that imports it.
A look-up that fails, for whatever reason, finds nothing.
-/

/-- Whether a directory, a source or a stub of a name lies in a directory. -/
def hasModule (store : Files.Store) (directory : Files.Path) (module : String) : Bool :=
  store.holds Files.Node.isDirectory (directory.child module) ||
    Files.sourceSuffixes.any fun suffix =>
      store.holds Files.Node.isFile (directory.child (module ++ suffix))

/-- Whether the real path of a root ends with a name. -/
def isNamed (store : Files.Store) (root : Files.Path) (name : String) : Bool :=
  match store.resolve root with
  | .ok path => path.name == name
  | .error _ => false

/-- Whether a module that a file imports is local. -/
def isLocal (store : Files.Store) (root file : Files.Path) (module : String) : Bool :=
  isNamed store root module || hasModule store root module || hasModule store file.parent module

/-- Whether a module that a file imports is local, or why that cannot be told.  The
root is resolved first; to resolve a path with a null character is refused, and that
is not taken for an answer. -/
def askLocal (store : Files.Store) (root file : Files.Path) (module : String) :
    Except Files.FileError Bool :=
  match store.resolve root with
  | .error .nullCharacter => .error ⟨.nullCharacter, root⟩
  | .error .circle | .ok _ => .ok (isLocal store root file module)

end Project
end ImportCensus

import ImportCensus.Glob.Spec
import ImportCensus.Project.Error
import ImportCensus.Text.Utf8

namespace ImportCensus
namespace Project

/-!
# What a scan leaves out

A scan leaves out what its exclude patterns select, and, if it is asked to, what
the ignore file of the root selects.  The two lists of patterns are kept apart: a
pattern that turns its verdict around has no say in the other list.
-/

/-- The name of the ignore file. -/
def ignoreFile : String := ".gitignore"

/-- The lines of an ignore file.  What is no text in it is dropped. -/
def ignoreLines (content : List Nat) : List (List Char) :=
  Text.lines (Text.foldNewlines (Text.decodeLenient content))

/-- The patterns of some lines, as a project reads them. -/
def readPatterns (lines : List (List Char)) : Except ProjectError (Option Glob.Spec) :=
  match Glob.Spec.ofLines lines with
  | .ok spec => .ok spec
  | .error error => .error (.pattern error)

/-- The patterns of the ignore file in a root, if there is one with patterns. -/
def ignoreFileSpec (store : Files.Store) (root : Files.Path) :
    Except ProjectError (Option Glob.Spec) :=
  let path := root.child ignoreFile
  match store.test Files.Node.isFile path with
  | .error fault => .error (.file ⟨fault, path⟩)
  | .ok false => .ok none
  | .ok true =>
    match store.content path with
    | .error fault => .error (.file ⟨fault, path⟩)
    | .ok content => readPatterns (ignoreLines content)

/-- The lists of patterns that are in force; each of them decides on its own. -/
structure Ignore where
  specs : List Glob.Spec
  deriving Repr

namespace Ignore

/-- What the exclude patterns and, if it is asked for, the ignore file leave out. -/
def ofOptions (store : Files.Store) (root : Files.Path) (exclude : List String)
    (gitignore : Bool) : Except ProjectError Ignore := do
  let excluded ← readPatterns (exclude.map String.toList)
  let ignored ← if gitignore then ignoreFileSpec store root else .ok none
  return ⟨excluded.toList ++ ignored.toList⟩

/-- Whether a path relative to the root is left out. -/
def selects (ignore : Ignore) (path : List Char) : Bool :=
  ignore.specs.any fun spec => spec.selects path

/-- The names of a path with slashes between them. -/
def slashed (names : List String) : List Char := ("/".intercalate names).toList

/-- Whether a file is left out. -/
def file (ignore : Ignore) (names : List String) : Bool := ignore.selects (slashed names)

/-- Whether a directory is left out, with all that is in it. -/
def directory (ignore : Ignore) (names : List String) : Bool :=
  ignore.selects (slashed names ++ ['/'])

end Ignore

end Project
end ImportCensus

import ImportCensus.Files.Resolve
import ImportCensus.Project.Ignore

namespace ImportCensus
namespace Project

/-!
# Source files of a project

The sources and stubs below a root: of each directory first its files by name,
then what its subdirectories hold, by their names.  Directories that are left out
are not entered, nor are the version control directory and links to directories.
A link that leads to no directory counts as a file, even if it leads nowhere.

A directory is listed by its path.  Where the path cannot be looked up, since it is
too long, the directory is passed over without a word, and so is all that it holds.
A walk nests as deeply as the directories do; that the stack of a machine sets a limit
to this, at about a thousand directories within each other, is left out here.
-/

/-- The directory of the version control, which is never entered. -/
def controlDirectory : String := ".git"

/-- Things with names in the order of their names. -/
def sortNamed {α : Type} (named : List (String × α)) : List (String × α) :=
  named.mergeSort fun first second => decide (first.1 ≤ second.1)

/-- Whether an entry counts as a directory.  Its listing tells what kind it is of, so
that only a link has to be looked up. -/
def countsAsDirectory (isDirectory : List String -> Bool) (place : List String) :
    Files.Node -> Bool
  | .directory _ => true
  | .file _ => false
  | .link _ => isDirectory place

/-- Whether an entry of a directory at a place below the root is yielded: it is no
directory, has the suffix of a source, and is not left out. -/
def isYielded (isDirectory : List String -> Bool) (ignore : Ignore) (place : List String)
    (entry : String × Files.Node) : Bool :=
  !countsAsDirectory isDirectory (place ++ [entry.1]) entry.2 && Files.isSourceName entry.1 &&
    !ignore.file (place ++ [entry.1])

/-- Whether a directory at a place below the root is entered. -/
def isEntered (ignore : Ignore) (place : List String) (name : String) : Bool :=
  name != controlDirectory && !ignore.directory (place ++ [name])

/-- The files of a directory in order. -/
def filesOf (isDirectory : List String -> Bool) (ignore : Ignore) (place : List String)
    (entries : List (String × Files.Node)) : List (List String) :=
  (sortNamed (entries.filter (isYielded isDirectory ignore place))).map
    fun entry => place ++ [entry.1]

mutual

/-- The source files in a node at a place below the root.  Whether the path of a place
leads to a directory is asked from outside: if that of a directory does not, the
directory cannot be listed. -/
def walkNode (isDirectory : List String -> Bool) (ignore : Ignore) (place : List String) :
    Files.Node -> List (List String)
  | .directory entries =>
    if isDirectory place then
      filesOf isDirectory ignore place entries ++
        (sortNamed (walkEntries isDirectory ignore place entries)).flatMap fun found => found.2
    else []
  | _ => []

/-- The source files in each of the directories among some entries. -/
def walkEntries (isDirectory : List String -> Bool) (ignore : Ignore) (place : List String) :
    List (String × Files.Node) -> List (String × List (List String))
  | [] => []
  | (name, node) :: rest =>
    let others := walkEntries isDirectory ignore place rest
    if isEntered ignore place name then
      (name, walkNode isDirectory ignore (place ++ [name]) node) :: others
    else others

end

/-- The source files below a directory that is given by its real path. -/
def sourceFiles (store : Files.Store) (root : Files.Path) (ignore : Ignore) :
    List Files.Path :=
  match store.root.at? root.names with
  | some node =>
    let isDirectory (place : List String) : Bool :=
      store.holds Files.Node.isDirectory ⟨1, root.names ++ place⟩
    (walkNode isDirectory ignore [] node).map fun place => ⟨root.anchor, root.names ++ place⟩
  | none => []

/-- The real path of a root. -/
def realRoot (store : Files.Store) (root : Files.Path) : Except ProjectError Files.Path :=
  match store.resolve root with
  | .ok path => .ok path
  | .error .circle => .error (.circularRoot root)
  | .error .nullCharacter => .error (.file ⟨.nullCharacter, root⟩)

/-- The source files of a project. -/
def walk (store : Files.Store) (root : Files.Path) (exclude : List String) (gitignore : Bool) :
    Except ProjectError (List Files.Path) := do
  let root ← realRoot store root
  let ignore ← Ignore.ofOptions store root exclude gitignore
  return sourceFiles store root ignore

end Project
end ImportCensus

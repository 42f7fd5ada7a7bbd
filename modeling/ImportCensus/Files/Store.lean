import ImportCensus.Files.Path

namespace ImportCensus
namespace Files

/-!
# Stores

A store is a tree of directories, files and symbolic links.  A path is looked
up name by name; links are followed on the way, at most forty of them, and two
dots lead to the parent of the directory that was reached.
-/

inductive Node where
  | file (content : List Nat)
  | directory (entries : List (String × Node))
  /-- A symbolic link with the text of its target. -/
  | link (target : String)
  deriving Repr, Inhabited

/-- Why a look-up fails. -/
inductive LookupFault where
  | missing
  | notDirectory
  | isDirectory
  | nameTooLong
  | tooManyLinks
  /-- The path holds a null character, which no name may. -/
  | nullCharacter
  deriving DecidableEq, Repr

/-- The longest name and the longest path, in bytes. -/
def longestName : Nat := 255

def longestPath : Nat := 4095

/-- How many links are followed in one look-up. -/
def mostLinks : Nat := 40

namespace Node

/-- The entry of a name. -/
def named? (name : String) : List (String × Node) -> Option Node
  | [] => none
  | (key, node) :: rest => if key = name then some node else named? name rest

/-- The node at a row of names, none of them a link. -/
def at? (node : Node) : List String -> Option Node
  | [] => some node
  | name :: rest =>
    match node with
    | .directory entries => (named? name entries).bind fun child => child.at? rest
    | _ => none

def isDirectory : Node -> Bool
  | .directory _ => true
  | _ => false

def isFile : Node -> Bool
  | .file _ => true
  | _ => false

end Node

/-- A root directory, and the names that lead from it to the working directory. -/
structure Store where
  root : Node
  working : List String
  deriving Repr

/-- Follow names from a directory; what is left over after the last name is the
row of names, free of links, that leads there from the root. -/
def follow (root : Node) (links : Nat) (place : List String) (pending : List String) :
    Except LookupFault (List String) :=
  match pending with
  | [] => .ok place
  | name :: rest =>
    match root.at? place with
    | some (.directory entries) =>
      if name = ".." then follow root links place.dropLast rest
      else if longestName < name.utf8ByteSize then .error .nameTooLong
      else match Node.named? name entries with
        | none => .error .missing
        | some (.link target) =>
          match links with
          | 0 => .error .tooManyLinks
          | links + 1 =>
            let path := Path.ofText target
            follow root links (if path.anchor = 0 then place else []) (path.names ++ rest)
        | some _ => follow root links (place ++ [name]) rest
    | _ => .error .notDirectory
termination_by (links, pending.length)

namespace Store

/-- The names that lead to where a path begins. -/
def origin (store : Store) (path : Path) : List String :=
  if path.anchor = 0 then store.working else []

/-- The real place of a path, links followed. -/
def place (store : Store) (path : Path) : Except LookupFault (List String) :=
  if path.text.toList.contains '\x00' then .error .nullCharacter
  else if longestPath < path.text.utf8ByteSize then .error .nameTooLong
  else follow store.root mostLinks (store.origin path) path.names

/-- The node that a path leads to, links followed. -/
def node (store : Store) (path : Path) : Except LookupFault Node := do
  match store.root.at? (← store.place path) with
  | some node => return node
  | none => .error .missing

/-- Whether a failure merely says that nothing is there. -/
def isAbsence : LookupFault -> Bool
  | .missing | .notDirectory | .tooManyLinks | .nullCharacter => true
  | .isDirectory | .nameTooLong => false

/-- Ask for a property of what a path leads to; where nothing is there it does
not hold, and other failures are reported. -/
def test (store : Store) (holds : Node -> Bool) (path : Path) : Except LookupFault Bool :=
  match store.node path with
  | .ok node => .ok (holds node)
  | .error fault => if isAbsence fault then .ok false else .error fault

/-- Ask for a property of what a path leads to; where the look-up fails for any
reason it does not hold. -/
def holds (store : Store) (property : Node -> Bool) (path : Path) : Bool :=
  match store.node path with
  | .ok node => property node
  | .error _ => false

/-- The content of the file that a path leads to. -/
def content (store : Store) (path : Path) : Except LookupFault (List Nat) := do
  match ← store.node path with
  | .file content => return content
  | _ => .error .isDirectory

end Store

/-- A failed look-up with the path that was asked for. -/
structure FileError where
  fault : LookupFault
  path : Path
  deriving DecidableEq, Repr

end Files
end ImportCensus

import ImportCensus.Files.Store

namespace ImportCensus
namespace Files

/-!
# Changing stores

A node is put at a place, with the directories that lead there, or removed from
it.  All other nodes stay as they are.
-/

/-- Entries with a node under a name, in place of the one that had it. -/
def setNamed (name : String) (node : Node) : List (String × Node) -> List (String × Node)
  | [] => [(name, node)]
  | (key, other) :: rest =>
    if key = name then (key, node) :: rest else (key, other) :: setNamed name node rest

namespace Node

/-- A node with another one at a row of names below it.  A directory that is
there already is not emptied by putting an empty one in its place. -/
def put (node : Node) : List String -> Option Node -> Node
  | [], some (.directory entries) =>
    match node with
    | .directory [] => .directory entries
    | other => other
  | [], _ => node
  | name :: rest, some (.directory entries) =>
    .directory (setNamed name (node.put rest (named? name entries)) entries)
  | name :: rest, _ => .directory [(name, node.put rest none)]

/-- A node without what is at a row of names below it. -/
def remove : List String -> Node -> Node
  | [name], .directory entries => .directory (entries.filter fun found => found.1 != name)
  | name :: rest, .directory entries =>
    .directory (entries.map fun found =>
      if found.1 = name then (found.1, remove rest found.2) else found)
  | _, node => node

end Node

namespace Store

/-- The store without anything in it. -/
def empty : Store := ⟨.directory [], []⟩

/-- The names that lead to an entry, links on the way to it followed. -/
def entryPlace (store : Store) (path : Path) : List String :=
  let names := store.origin path ++ path.names
  match store.place path.parent with
  | .ok place => if path.names.isEmpty then names else place ++ [path.name]
  | .error _ => names

/-- A store with a node at a path. -/
def put (store : Store) (path : Path) (node : Node) : Store :=
  { store with root := node.put (store.entryPlace path) (some store.root) }

/-- A store without the node at a path. -/
def remove (store : Store) (path : Path) : Store :=
  { store with root := store.root.remove (store.entryPlace path) }

end Store

end Files
end ImportCensus

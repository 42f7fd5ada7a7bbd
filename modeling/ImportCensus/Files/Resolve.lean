import ImportCensus.Files.Store

namespace ImportCensus
namespace Files

/-!
# Resolving paths

The absolute form of a path without links.  Unlike a look-up, resolving does not
need anything to be there: names that lead nowhere are kept, and two dots remove
the name before them.  A link that leads back to itself stays unresolved.
-/

/-- How far a path has been resolved: the names so far, and whether a link that
leads to itself was met, in which case nothing behind it is resolved. -/
structure Resolution where
  names : List String
  settled : Bool
  deriving DecidableEq, Repr

mutual

/-- The number of links in a node. -/
def Node.linkCount : Node -> Nat
  | .link _ => 1
  | .file _ => 0
  | .directory entries => linkCountAll entries

def Node.linkCountAll : List (String × Node) -> Nat
  | [] => 0
  | (_, node) :: rest => node.linkCount + linkCountAll rest

end

/-- The target of the link at a row of names that leads through directories only. -/
def linkTarget? (root : Node) (names : List String) : Option Path :=
  match root.at? names with
  | some (.link target) => some (.ofText target)
  | _ => none

/-- Resolve names from a place.  The links that are being resolved are open; to
meet an open link again means to go round in a circle.  Links nest at most as
deeply as there are links. -/
def resolveFrom (root : Node) (opened : List (List String)) (limit : Nat)
    (place : List String) (pending : List String) : Resolution :=
  match pending with
  | [] => ⟨place, true⟩
  | name :: rest =>
    if name = ".." then resolveFrom root opened limit place.dropLast rest
    else
      let here := place ++ [name]
      match linkTarget? root here with
      | none => resolveFrom root opened limit here rest
      | some target =>
        if opened.contains here then ⟨here ++ rest, false⟩
        else match limit with
          | 0 => ⟨here ++ rest, false⟩
          | limit + 1 =>
            let start := if target.anchor = 0 then place else []
            let inner := resolveFrom root (here :: opened) limit start target.names
            if inner.settled then resolveFrom root opened (limit + 1) inner.names rest
            else ⟨inner.names ++ rest, false⟩
termination_by (limit, pending.length)

/-- The names of an absolute path in which two dots remove the name before them. -/
def collapseDots (names : List String) : List String :=
  names.foldl (fun done name => if name = ".." then done.dropLast else done ++ [name]) []

/-- Why a path has no resolved form. -/
inductive ResolveFault where
  | circle
  | nullCharacter
  deriving DecidableEq, Repr

/-- The absolute form of a path without links. -/
def Store.resolve (store : Store) (path : Path) : Except ResolveFault Path :=
  if path.text.toList.contains '\x00' then .error .nullCharacter
  else
    let found :=
      resolveFrom store.root [] store.root.linkCount (store.origin path) path.names
    let resolved : Path := ⟨1, collapseDots found.names⟩
    match store.node resolved with
    | .error .tooManyLinks => .error .circle
    | _ => .ok resolved

end Files
end ImportCensus

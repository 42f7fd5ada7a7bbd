import ImportCensus.Imports.Reference
import ImportCensus.Source.Document
import ImportCensus.Text.Blank

namespace ImportCensus
namespace Imports

open Syntax (Kind PhraseKind Role Tree)
open Source (Document)

/-!
# Collecting import references

The import statements of a program are found through its statement blocks
alone: a module or a block is searched through all its named children, a compound
statement or clause only through its blocks and clauses.  Expressions are never
searched.  The search keeps a stack of nodes, so that nesting costs no call
depth.
-/

/-- A dotted name rebuilt from its identifiers; a node without any stands for
its own text, without the white space around it. -/
def dottedText (document : Document) (tree : Tree) : String :=
  let identifiers := tree.namedChildren.filter fun child => child.kind == .phrase .identifier
  match identifiers with
  | [] => String.ofList (Text.trim (document.textOf tree))
  | parts => ".".intercalate (parts.map fun part => String.ofList (document.textOf part))

/-- The module names of an import statement, each with its alias. -/
def directReferences (document : Document) (tree : Tree) : List Reference :=
  (tree.childrenIn .name).filterMap fun child =>
    if child.kind = .phrase .aliasedImport then
      (child.childrenIn .name).head?.map fun target =>
        .direct (dottedText document target)
          ((child.childrenIn .alias).head?.map fun name => String.ofList (document.textOf name))
    else if child.kind = .phrase .dottedName then some (.direct (dottedText document child) none)
    else none

/-- The names of a from-import, without their aliases. -/
def importedNames (document : Document) (tree : Tree) : List String :=
  if tree.namedChildren.any fun child => child.kind == .phrase .wildcardImport then ["*"]
  else
    (tree.childrenIn .name).filterMap fun child =>
      if child.kind = .phrase .aliasedImport then
        (child.childrenIn .name).head?.map (dottedText document)
      else some (dottedText document child)

/-- The module and the level that a from-import names. -/
def importedModule (document : Document) (tree : Tree) : Option String × Nat :=
  match (tree.childrenIn .moduleName).head? with
  | none => (none, 0)
  | some module =>
    if module.kind = .phrase .relativeImport then
      module.namedChildren.foldl (fun (found, level) child =>
        if child.kind = .phrase .importPrefix then
          (found, (document.textOf child).countP fun c => c == '.')
        else if child.kind = .phrase .dottedName then (some (dottedText document child), level)
        else (found, level)) (none, 0)
    else (some (dottedText document module), 0)

/-- The references of an import statement of any form; other nodes have none. -/
def referencesOf (document : Document) (tree : Tree) : List Reference :=
  match tree.kind with
  | .simple .importModules => directReferences document tree
  | .simple .importFrom =>
    let (module, level) := importedModule document tree
    [.names module level (importedNames document tree)]
  | .simple .futureImport => [.names (some "__future__") 0 (importedNames document tree)]
  | _ => []

/-- Whether a kind owns statement blocks. -/
def isCompound : Kind -> Bool
  | .compound _ => true
  | _ => false

/-- The children that the search goes on to. -/
def searched (tree : Tree) : List Tree :=
  match tree.kind with
  | .module | .block => tree.namedChildren
  | .compound _ =>
    tree.namedChildren.filter fun child => child.kind == .block || isCompound child.kind
  | _ => []

theorem searched_sublist (tree : Tree) : (searched tree).Sublist tree.children := by
  unfold searched Tree.namedChildren
  split
  · exact List.filter_sublist
  · exact List.filter_sublist
  · exact List.filter_sublist.trans List.filter_sublist
  · exact List.nil_sublist _

theorem sizeAll_le_of_sublist {first second : List Tree} (h : first.Sublist second) :
    Tree.sizeAll first ≤ Tree.sizeAll second := by
  induction h with
  | slnil => exact Nat.le_refl _
  | cons _ _ ih => simp only [Tree.sizeAll]; omega
  | cons_cons _ _ ih => simp only [Tree.sizeAll]; omega

theorem sizeAll_searched_lt (tree : Tree) : Tree.sizeAll (searched tree) < tree.size := by
  have := sizeAll_le_of_sublist (searched_sublist tree)
  cases tree with
  | node => simp only [Tree.size, Tree.children] at *; omega

/-- The references below a stack of nodes, the top of the stack first. -/
def collectFrom (document : Document) : List Tree -> List Reference
  | [] => []
  | tree :: stack =>
    referencesOf document tree ++ collectFrom document (searched tree ++ stack)
termination_by stack => Tree.sizeAll stack
decreasing_by
  have := sizeAll_searched_lt tree
  rw [Tree.sizeAll_append]
  simp only [Tree.sizeAll]
  omega

/-- All import references of a document, in document order. -/
def collect (document : Document) : List Reference :=
  collectFrom document [document.root]

end Imports
end ImportCensus

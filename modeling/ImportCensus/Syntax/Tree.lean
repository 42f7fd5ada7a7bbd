import ImportCensus.Syntax.Kind
import ImportCensus.Text.Position

namespace ImportCensus
namespace Syntax

/-!
# Syntax trees

An ordered tree of nodes with a kind, the stretch of text they cover, and the
role they play for their parent.  Nothing here restricts which kinds stand
where; trees that come from a source text are restricted by the types they are
made from.
-/

/-- The roles that set a child apart from its siblings. -/
inductive Role where
  | name
  | alias
  | moduleName
  deriving DecidableEq, Repr

inductive Tree where
  | node (kind : Kind) (role : Option Role) (span : Text.Span) (children : List Tree)
  deriving Repr

namespace Tree

def kind : Tree -> Kind
  | .node kind _ _ _ => kind

def role : Tree -> Option Role
  | .node _ role _ _ => role

def span : Tree -> Text.Span
  | .node _ _ span _ => span

def children : Tree -> List Tree
  | .node _ _ _ children => children

/-- The children that are more than a token's spelling. -/
def namedChildren (tree : Tree) : List Tree :=
  tree.children.filter fun child => child.kind.isNamed

/-- The children in a role. -/
def childrenIn (tree : Tree) (role : Role) : List Tree :=
  tree.children.filter fun child => child.role == some role

mutual

/-- All nodes of a tree, each before its descendants, siblings in order. -/
def preorder : Tree -> List Tree
  | .node kind role span children => .node kind role span children :: preorderAll children

/-- The nodes of a row of trees, one tree after the other. -/
def preorderAll : List Tree -> List Tree
  | [] => []
  | tree :: rest => tree.preorder ++ preorderAll rest

end

theorem preorderAll_eq_flatMap (trees : List Tree) :
    preorderAll trees = trees.flatMap preorder := by
  induction trees with
  | nil => rfl
  | cons tree rest ih => simp [preorderAll, ih]

theorem preorderAll_append (first second : List Tree) :
    preorderAll (first ++ second) = preorderAll first ++ preorderAll second := by
  simp [preorderAll_eq_flatMap]

mutual

/-- The number of nodes. -/
def size : Tree -> Nat
  | .node _ _ _ children => sizeAll children + 1

def sizeAll : List Tree -> Nat
  | [] => 0
  | tree :: rest => tree.size + sizeAll rest

end

theorem sizeAll_append (first second : List Tree) :
    sizeAll (first ++ second) = sizeAll first + sizeAll second := by
  induction first with
  | nil => simp [sizeAll]
  | cons tree rest ih => simp only [List.cons_append, sizeAll, ih]; omega

end Tree

end Syntax
end ImportCensus

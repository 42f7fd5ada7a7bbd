import ImportCensus.Source.Block
import ImportCensus.Source.Repair
import ImportCensus.Syntax.Cursor

namespace ImportCensus
namespace Source

open Syntax (Cursor Kind SimpleKind Tree)

/-!
# Documents

A document is a source text together with its syntax tree.  Only texts without
a syntax error have one.  A document may still hold statements of an older
dialect, which have nodes of their own but make the text unusable as a source:
`readSource` refuses it and names the first of them.
-/

structure Document where
  text : List Char
  root : Tree

namespace Document

/-- The text that a node covers. -/
def textOf (document : Document) (tree : Tree) : List Char :=
  tree.span.slice document.text

/-- All nodes, in the order in which a cursor reaches them. -/
def nodes (document : Document) : List Tree := (Cursor.ofTree document.root).walk

theorem nodes_eq_preorder (document : Document) : document.nodes = document.root.preorder :=
  Cursor.walk_ofTree document.root

/-- All nodes whose kinds have one of the given names, in document order. -/
def findNamed (document : Document) (names : List String) : List Tree :=
  document.nodes.filter fun tree => names.contains tree.kind.name

/-- The nodes for what could not be read, and those that stand for text that is missing.
A node does not show by itself that it stands for missing text. -/
def errors (isMissing : Tree -> Bool) (document : Document) : List Tree :=
  document.nodes.filter fun tree => tree.kind.name == "ERROR" || isMissing tree

/-- The nodes that go by the name of a statement of an older dialect. -/
def legacyStatements (document : Document) : List Tree :=
  document.findNamed ["print_statement", "exec_statement"]

end Document

/-- The root of a program's tree: it begins with the first row and ends with the text. -/
def moduleTree (text : List Char) (rows : List Row) (items : List Item) : Tree :=
  let stop := Text.Position.origin.advanceAll text
  let start := match rows with
    | row :: _ => row.start
    | [] => stop
  .node .module none ⟨start, stop⟩ (Item.treeAll items)

/-- Read rows as a program. -/
def Document.ofRows (text : List Char) (rows : List Row) : Except Fault Document := do
  let items ← program rows
  return ⟨text, moduleTree text rows items⟩

/-- Read a text as a program. -/
def Document.ofText (text : List Char) : Except Fault Document :=
  Document.ofRows text (rows text)

/-- Whether a text has a syntax error. -/
def hasSyntaxError (text : List Char) : Bool :=
  match Document.ofText text with
  | .ok _ => false
  | .error _ => true

/-- The statements of the older dialect. -/
inductive Legacy where
  | print
  | exec
  deriving DecidableEq, Repr

def Legacy.word : Legacy -> String
  | .print => "print"
  | .exec => "exec"

/-- The older statement that a kind of node stands for. -/
def legacy? : Kind -> Option Legacy
  | .simple .print => some .print
  | .simple .exec => some .exec
  | _ => none

/-- Why a text is no usable source. -/
inductive SourceError where
  /-- The text has a syntax error, at a place if one can be named. -/
  | syntaxError (place : Option Text.Position)
  /-- The text has a statement of the older dialect. -/
  | legacy (statement : Legacy) (place : Text.Position)
  deriving Repr

/-- A place for a reader who counts lines and columns from one. -/
def describePlace (place : Text.Position) : String :=
  "line " ++ toString (place.row + 1) ++ ", column " ++ toString (place.column + 1)

def SourceError.message : SourceError -> String
  | .syntaxError none => "invalid syntax"
  | .syntaxError (some place) => "invalid syntax at " ++ describePlace place
  | .legacy statement place =>
    "Python 2 " ++ statement.word ++ " statement at " ++ describePlace place

/-- The tokens of rows, line after line. -/
def tokensOf (rows : List Row) : List Token :=
  rows.flatMap fun row => match row with
    | .remark _ _ => []
    | .line line => line.tokens

/-- Whether a row ends before a place. -/
def Row.endsBefore (place : Text.Position) : Row -> Bool
  | .remark _ _ => true
  | .line content => (content.tokens.getLast (by simp [Line.tokens])).span.stop.offset < place.offset

/-- The place that is reported for a fault in the rows of a text. -/
def Fault.place (rows : List Row) (fault : Fault) : Option Text.Position :=
  match rows.dropWhile (Row.endsBefore fault.behind) with
  | .line line :: below =>
    faultPlace (rows.head?.elim .origin Row.start) line (tokensOf below) fault
  | _ => some fault.behind

/-- Read a text as a source: a program without statements of the older dialect. -/
def readSource (text : List Char) : Except SourceError Document :=
  let rows := rows text
  match Document.ofRows text rows with
  | .error fault => .error (.syntaxError (fault.place rows))
  | .ok document =>
    match document.nodes.findSome? fun tree =>
        (legacy? tree.kind).map fun statement => (statement, tree.span.start) with
    | some (statement, place) => .error (.legacy statement place)
    | none => .ok document

end Source
end ImportCensus

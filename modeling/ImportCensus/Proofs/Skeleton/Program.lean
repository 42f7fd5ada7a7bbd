import ImportCensus.Imports.Reference
import ImportCensus.Source.Lexeme

namespace ImportCensus
namespace Skeleton

open Imports (Reference)

/-!
# Program skeletons

A skeleton is a program reduced to its import statements and the statements that can
hold them.  Everything else in it is a name.  A skeleton is given by its structure, so
that what it imports can be told without reading any text: this is what the references
which are collected from its text are compared with.

Bodies are never empty, and the clauses behind a statement come in an order that their
types enforce: a stage says which clauses may follow, and whether none has to.
-/

/-! ## Names -/

def isNameStart (c : Char) : Bool := c.isAlpha || c == '_'

def isNameRest (c : Char) : Bool := c.isAlphanum || c == '_'

/-- Whether a text is an identifier of ASCII characters. -/
def isName : List Char -> Bool
  | [] => false
  | first :: rest => isNameStart first && rest.all isNameRest

/-- Words that have a meaning of their own in some places. -/
def softWords : List String := ["_", "case", "match", "type"]

/-- Names that older or later dialects treat in their own way. -/
def specialNames : List String := ["print", "exec", "__future__"]

/-- An identifier without any other meaning. -/
structure Name where
  text : String
  spelled : isName text.toList = true
  notReserved : text ∉ Source.reservedWords
  notSoft : text ∉ softWords
  notSpecial : text ∉ specialNames

/-- Names that are joined with dots. -/
structure Dotted where
  first : Name
  more : List Name

namespace Dotted

/-- The names with single dots between them. -/
def text (dotted : Dotted) : String :=
  ".".intercalate ((dotted.first :: dotted.more).map Name.text)

def ofName (name : Name) : Dotted := ⟨name, []⟩

end Dotted

/-! ## Import statements -/

/-- What is imported, perhaps under another name. -/
structure Renamed where
  target : Dotted
  rename : Option Name

/-- A name that is imported out of a module, perhaps under another name. -/
structure Member where
  name : Name
  rename : Option Name

def Member.renamed (member : Member) : Renamed := ⟨.ofName member.name, member.rename⟩

/-- Where names are imported from. -/
inductive Origin where
  | absolute (module : Dotted)
  /-- One dot and more, perhaps without a module behind them. -/
  | relative (more : Nat) (module : Option Dotted)

namespace Origin

/-- The number of leading dots. -/
def level : Origin -> Nat
  | .absolute _ => 0
  | .relative more _ => more + 1

def module? : Origin -> Option String
  | .absolute module => some module.text
  | .relative _ module => module.map Dotted.text

end Origin

/-- Which names are imported. -/
inductive Selection where
  | everything
  | members (first : Member) (more : List Member)

def Selection.names : Selection -> List String
  | .everything => ["*"]
  | .members first more => (first :: more).map fun member => member.name.text

/-! ## Statements with bodies -/

/-- What decorators may stand before. -/
inductive Definition where
  | function (async : Bool) (name : Name) (parameters : List Name)
  | classOf (name : Name)

/-- The beginning of a statement with a body. -/
inductive Header where
  | conditional (condition : Name)
  | forEach (async : Bool) (target source : Name)
  | whileTrue (condition : Name)
  | attempt
  | manage (async : Bool) (manager : Name) (rename : Option Name)
  | define (definition : Definition)

/-- The beginning of a further part of a statement. -/
inductive Clause where
  | elseIf (condition : Name)
  | otherwise
  | handler
  | handlerOf (caught : Name) (rename : Option Name)
  | atLast

/-- What has been seen of a statement, as far as its clauses depend on it. -/
inductive Stage where
  /-- A condition with its body. -/
  | conditional
  /-- The body of a loop. -/
  | loop
  /-- What is attempted, with nothing that says what to do if it fails. -/
  | attempt
  /-- At least one handler. -/
  | handled
  /-- Handlers, and what is done if nothing fails. -/
  | succeeded
  /-- Nothing can follow. -/
  | complete

namespace Stage

/-- The stage behind a clause, if the clause may follow. -/
def next? : Stage -> Clause -> Option Stage
  | .conditional, .elseIf _ => some .conditional
  | .conditional, .otherwise => some .complete
  | .loop, .otherwise => some .complete
  | .attempt, .handler | .attempt, .handlerOf _ _ => some .handled
  | .attempt, .atLast => some .complete
  | .handled, .handler | .handled, .handlerOf _ _ => some .handled
  | .handled, .otherwise => some .succeeded
  | .handled, .atLast => some .complete
  | .succeeded, .atLast => some .complete
  | _, _ => none

/-- Whether a statement may end here. -/
def mayEnd : Stage -> Bool
  | .attempt => false
  | _ => true

end Stage

/-- The stage behind a header and its body. -/
def Header.stage : Header -> Stage
  | .conditional _ => .conditional
  | .forEach _ _ _ | .whileTrue _ => .loop
  | .attempt => .attempt
  | .manage _ _ _ | .define _ => .complete

mutual

inductive Statement where
  | pass
  | importModules (first : Renamed) (more : List Renamed)
  | importFrom (origin : Origin) (selection : Selection)
  | compound (header : Header) (body : Block) (clauses : Clauses header.stage)
  | decorated (first : Name) (more : List Name) (definition : Definition) (body : Block)
  | choice (subject : Name) (cases : Cases)

/-- At least one statement. -/
inductive Block where
  | last (statement : Statement)
  | cons (statement : Statement) (rest : Block)

/-- The clauses that follow at a stage. -/
inductive Clauses : Stage -> Type where
  | done {stage : Stage} (ends : stage.mayEnd = true) : Clauses stage
  | cons {stage next : Stage} (clause : Clause) (follows : stage.next? clause = some next)
      (body : Block) (rest : Clauses next) : Clauses stage

/-- At least one case. -/
inductive Cases where
  | last (pattern : Name) (body : Block)
  | cons (pattern : Name) (body : Block) (rest : Cases)

end

/-- A whole program. -/
inductive Program where
  | empty
  | block (body : Block)

/-! ## What a skeleton imports -/

/-- The reference of one imported module. -/
def Renamed.reference (renamed : Renamed) : Reference :=
  .direct renamed.target.text (renamed.rename.map Name.text)

mutual

/-- The references of a statement in textual order. -/
def Statement.references : Statement -> List Reference
  | .pass => []
  | .importModules first more => (first :: more).map Renamed.reference
  | .importFrom origin selection => [.names origin.module? origin.level selection.names]
  | .compound _ body clauses => body.references ++ clauses.references
  | .decorated _ _ _ body => body.references
  | .choice _ cases => cases.references

def Block.references : Block -> List Reference
  | .last statement => statement.references
  | .cons statement rest => statement.references ++ rest.references

def Clauses.references : {stage : Stage} -> Clauses stage -> List Reference
  | _, .done _ => []
  | _, .cons _ _ body rest => body.references ++ rest.references

def Cases.references : Cases -> List Reference
  | .last _ body => body.references
  | .cons _ body rest => body.references ++ rest.references

end

def Program.references : Program -> List Reference
  | .empty => []
  | .block body => body.references

end Skeleton
end ImportCensus

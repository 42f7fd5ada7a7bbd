import ImportCensus.Source.Line
import ImportCensus.Syntax.Tree

namespace ImportCensus
namespace Source

open Syntax (Kind PhraseKind SimpleKind CompoundKind Role Tree)

/-!
# Phrases and statements

The grammar's result has a type that says which nodes may stand where.  A
phrase holds only tokens and phrases; a statement stands in a block or in the
module; blocks and clauses stand in compound statements and clauses.  The
generic tree of a program is made from this typed form by `Item.tree`, which
also puts the extras back where they stood.
-/

/-- A part of a statement. -/
inductive Phrase where
  /-- A token, under a kind of its own or under its spelling. -/
  | leaf (kind : Option PhraseKind) (token : Token)
  | node (kind : PhraseKind) (span : Text.Span) (parts : List Phrase)
  /-- A phrase that plays a role for its parent. -/
  | inRole (role : Role) (phrase : Phrase)
  deriving Repr

namespace Phrase

def span : Phrase -> Text.Span
  | .leaf _ token => token.span
  | .node _ span _ => span
  | .inRole _ phrase => phrase.span

/-- The kind of a phrase, if it is more than a token's spelling. -/
def kind? : Phrase -> Option PhraseKind
  | .leaf kind _ => kind
  | .node kind _ _ => some kind
  | .inRole _ phrase => phrase.kind?

def parts : Phrase -> List Phrase
  | .leaf _ _ => []
  | .node _ _ parts => parts
  | .inRole _ phrase => phrase.parts

/-- The stretch from the beginning of one phrase to the end of the last. -/
def spanOver (head : Phrase) (tail : List Phrase) : Text.Span :=
  ⟨head.span.start, ((head :: tail).getLast (by simp)).span.stop⟩

/-- A node over a non-empty row of parts. -/
def build (kind : PhraseKind) (head : Phrase) (tail : List Phrase) : Phrase :=
  .node kind (spanOver head tail) (head :: tail)

end Phrase

/-- The tree of an extra. -/
def Extra.tree (extra : Extra) : Tree :=
  .node (.phrase (match extra.kind with
    | .comment => .comment
    | .continuation => .lineContinuation)) none extra.span []

namespace Phrase

mutual

/-- The extras before a phrase, which belong to the node around it. -/
def lead : Phrase -> List Extra
  | .leaf _ token => token.before
  | .node _ _ parts => leadAll parts
  | .inRole _ phrase => phrase.lead

def leadAll : List Phrase -> List Extra
  | [] => []
  | phrase :: _ => phrase.lead

end

mutual

/-- The tree of a phrase in a role, without the extras before it. -/
def tree (role : Option Role) : Phrase -> Tree
  | .leaf kind token =>
    .node (match kind with
      | some kind => .phrase kind
      | none => .token token.text) role token.span []
  | .node kind span parts => .node (.phrase kind) role span (treesWithin parts)
  | .inRole role phrase => phrase.tree (some role)

/-- The trees of a row of parts; the extras before the first belong elsewhere. -/
def treesWithin : List Phrase -> List Tree
  | [] => []
  | phrase :: rest => phrase.tree none :: trees rest

/-- The trees of a row of phrases, each behind its extras. -/
def trees : List Phrase -> List Tree
  | [] => []
  | phrase :: rest => phrase.lead.map Extra.tree ++ phrase.tree none :: trees rest

end

end Phrase

mutual

/-- What stands in a block or in the module. -/
inductive Item where
  | simple (kind : SimpleKind) (span : Text.Span) (parts : List Phrase)
  | compound (body : Compound)
  /-- A semicolon. -/
  | separator (token : Token)
  | extra (trivia : Extra)

/-- A compound statement or one of its clauses. -/
inductive Compound where
  | mk (kind : CompoundKind) (span : Text.Span) (parts : List Part)

/-- A part of a compound statement. -/
inductive Part where
  | phrase (inner : Phrase)
  | block (span : Text.Span) (items : List Item)
  | clause (body : Compound)
  | extra (trivia : Extra)

end

def Compound.span : Compound -> Text.Span
  | .mk _ span _ => span

def Item.span : Item -> Text.Span
  | .simple _ span _ => span
  | .compound body => body.span
  | .separator token => token.span
  | .extra trivia => trivia.span

def Part.span : Part -> Text.Span
  | .phrase inner => inner.span
  | .block span _ => span
  | .clause body => body.span
  | .extra trivia => trivia.span

/-- A compound statement over a non-empty row of parts. -/
def Compound.build (kind : CompoundKind) (head : Part) (tail : List Part) : Compound :=
  .mk kind ⟨head.span.start, ((head :: tail).getLast (by simp)).span.stop⟩ (head :: tail)

/-- Statements that are a single word have no parts in the tree. -/
def isWordStatement : SimpleKind -> Bool
  | .pass | .breakLoop | .continueLoop => true
  | _ => false

mutual

def Item.tree : Item -> Tree
  | .simple kind span parts =>
    .node (.simple kind) none span (if isWordStatement kind then [] else Phrase.trees parts)
  | .compound body => body.tree
  | .separator token => .node (.token token.text) none token.span []
  | .extra trivia => trivia.tree

def Item.treeAll : List Item -> List Tree
  | [] => []
  | item :: rest => item.tree :: Item.treeAll rest

def Compound.tree : Compound -> Tree
  | .mk kind span parts => .node (.compound kind) none span (Part.treeAll parts)

def Part.trees : Part -> List Tree
  | .phrase inner => inner.lead.map Extra.tree ++ [inner.tree none]
  | .block span items => [.node .block none span (Item.treeAll items)]
  | .clause body => [body.tree]
  | .extra trivia => [trivia.tree]

def Part.treeAll : List Part -> List Tree
  | [] => []
  | part :: rest => part.trees ++ Part.treeAll rest

end

theorem Item.treeAll_append (front behind : List Item) :
    Item.treeAll (front ++ behind) = Item.treeAll front ++ Item.treeAll behind := by
  induction front with
  | nil => rfl
  | cons item rest ih => rw [List.cons_append, Item.treeAll, Item.treeAll, ih, List.cons_append]

theorem Part.treeAll_append (front behind : List Part) :
    Part.treeAll (front ++ behind) = Part.treeAll front ++ Part.treeAll behind := by
  induction front with
  | nil => rfl
  | cons part rest ih => rw [List.cons_append, Part.treeAll, Part.treeAll, ih, List.append_assoc]

end Source
end ImportCensus

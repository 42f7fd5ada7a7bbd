import ImportCensus.Imports.Collect
import Mathlib.Logic.Function.Iterate

namespace ImportCensus
namespace Imports

open Syntax (Kind Tree)
open Source (Document)

/-!
# What a search reaches

Collecting references works on a stack of nodes.  Here it is compared with what
a reader of a program means by a visible statement: one that is reached from the
root through statement blocks alone.  `Visible` says this place by place, and
`visible` lists the visible nodes by recursion over the tree.

The stack holds the nodes whose visible parts are still to come, top first.
After so many rounds exactly so many visible nodes have been taken off, in
document order, and the visible parts of the stack are the nodes that are left
(`pending_rounds`).  The search therefore ends with the last visible node, and
what it has found are the references of all of them.
-/

/-- The way from the root of a tree to a node: which child to take on each level. -/
abbrev Place := List Nat

/-- The node at a place. -/
def nodeAt (root : Tree) (place : Place) : Option Tree :=
  place.foldlM (fun tree index => tree.children[index]?) root

/-- The kinds of import statements. -/
def isImport : Kind -> Bool
  | .simple .importModules | .simple .importFrom | .simple .futureImport => true
  | _ => false

/-- A node is visible from the root if it is the root, a named child of a visible
module or block, or a block, compound statement or clause that is a child of a
visible compound statement or clause. -/
inductive Visible (root : Tree) : Place -> Tree -> Prop where
  | root : Visible root [] root
  | statement {place : Place} {tree child : Tree} {index : Nat}
      (above : Visible root place tree)
      (sequence : tree.kind = .module ∨ tree.kind = .block)
      (standing : tree.children[index]? = some child)
      (named : child.kind.isNamed = true) : Visible root (place ++ [index]) child
  | nested {place : Place} {tree child : Tree} {index : Nat}
      (above : Visible root place tree)
      (owner : isCompound tree.kind = true)
      (standing : tree.children[index]? = some child)
      (inner : child.kind = .block ∨ isCompound child.kind = true) :
      Visible root (place ++ [index]) child

/-- Whether a search goes on from a node of one kind to a child of another. -/
def leadsTo : Kind -> Kind -> Bool
  | .module, child | .block, child => child.isNamed
  | .compound _, child => child == .block || isCompound child
  | _, _ => false

theorem leadsTo_iff (above child : Kind) :
    leadsTo above child = true ↔
      (above = .module ∨ above = .block) ∧ child.isNamed = true ∨
        isCompound above = true ∧ (child = .block ∨ isCompound child = true) := by
  cases above <;> simp [leadsTo, isCompound]

mutual

/-- The visible nodes of a tree in document order, each with its place. -/
def visible : Tree -> List (Place × Tree)
  | .node kind role span children =>
    ([], .node kind role span children) :: visibleAmong kind 0 children

/-- The visible nodes among the children from an index on. -/
def visibleAmong (above : Kind) (index : Nat) : List Tree -> List (Place × Tree)
  | [] => []
  | child :: rest =>
    (if leadsTo above child.kind then
        (visible child).map fun entry => (index :: entry.1, entry.2)
      else []) ++ visibleAmong above (index + 1) rest

end

/-- The visible import statements in document order, each with its place. -/
def visibleImports (tree : Tree) : List (Place × Tree) :=
  (visible tree).filter fun entry => isImport entry.2.kind

/-! ## Places of visible nodes -/

/-- Visibility read from the root down: the first step leaves the root. -/
inductive Leads : Tree -> Place -> Tree -> Prop where
  | here (tree : Tree) : Leads tree [] tree
  | down {tree child target : Tree} {index : Nat} {place : Place}
      (standing : tree.children[index]? = some child)
      (leads : leadsTo tree.kind child.kind = true)
      (below : Leads child place target) : Leads tree (index :: place) target

theorem Leads.snoc {root tree child : Tree} {place : Place} {index : Nat}
    (above : Leads root place tree) (standing : tree.children[index]? = some child)
    (leads : leadsTo tree.kind child.kind = true) : Leads root (place ++ [index]) child := by
  induction above with
  | here tree => exact .down standing leads (.here child)
  | down first firstLeads _ ih => exact .down first firstLeads (ih standing leads)

theorem Visible.append {root tree target : Tree} {place more : Place}
    (above : Visible root place tree) (below : Leads tree more target) :
    Visible root (place ++ more) target := by
  induction below generalizing place with
  | here tree => simpa using above
  | @down tree child target index more standing leads _ ih =>
      rw [← List.singleton_append, ← List.append_assoc]
      apply ih
      rcases (leadsTo_iff _ _).1 leads with ⟨sequence, named⟩ | ⟨owner, inner⟩
      · exact .statement above sequence standing named
      · exact .nested above owner standing inner

theorem visible_iff_leads {root tree : Tree} {place : Place} :
    Visible root place tree ↔ Leads root place tree := by
  constructor
  · intro reached
    induction reached with
    | root => exact .here root
    | statement _ sequence standing named ih =>
        exact ih.snoc standing ((leadsTo_iff _ _).2 (.inl ⟨sequence, named⟩))
    | nested _ owner standing inner ih =>
        exact ih.snoc standing ((leadsTo_iff _ _).2 (.inr ⟨owner, inner⟩))
  · intro leads
    exact Visible.root.append leads

/-- Everything above a visible node is a module, a block, or a compound statement
or clause: no expression, decorator or other phrase lies on the way. -/
theorem Leads.above {root tree : Tree} {before after : Place} {index : Nat}
    (leads : Leads root (before ++ index :: after) tree) :
    ∃ above, nodeAt root before = some above ∧
      (above.kind = .module ∨ above.kind = .block ∨ isCompound above.kind = true) := by
  induction before generalizing root with
  | nil =>
      cases leads with
      | down _ first _ =>
          refine ⟨root, rfl, ?_⟩
          rcases (leadsTo_iff _ _).1 first with ⟨sequence, _⟩ | ⟨owner, _⟩
          · exact sequence.imp_right .inl
          · exact .inr (.inr owner)
  | cons first before ih =>
      cases leads with
      | down standing _ below =>
          rcases ih below with ⟨above, found, kind⟩
          refine ⟨above, ?_, kind⟩
          rw [nodeAt, List.foldlM_cons, standing]
          exact found

theorem mem_visibleAmong {above : Kind} {index : Nat} {children : List Tree}
    {entry : Place × Tree} :
    entry ∈ visibleAmong above index children ↔
      ∃ offset child, children[offset]? = some child ∧ leadsTo above child.kind = true ∧
        ∃ below ∈ visible child, entry = ((index + offset) :: below.1, below.2) := by
  induction children generalizing index with
  | nil => simp [visibleAmong]
  | cons first rest ih =>
      rw [visibleAmong, List.mem_append, ih]
      constructor
      · rintro (here | ⟨offset, child, standing, leads, below, member, same⟩)
        · split at here
          · rename_i leads
            rcases List.mem_map.1 here with ⟨below, member, same⟩
            exact ⟨0, first, rfl, leads, below, member, same.symm⟩
          · simp at here
        · refine ⟨offset + 1, child, standing, leads, below, member, ?_⟩
          rw [same, Nat.add_right_comm, Nat.add_assoc]
      · rintro ⟨offset, child, standing, leads, below, member, same⟩
        cases offset with
        | zero =>
            have firstChild : first = child := by simpa using standing
            subst firstChild
            rw [if_pos leads]
            exact .inl (List.mem_map.2 ⟨below, member, same.symm⟩)
        | succ offset =>
            refine .inr ⟨offset, child, by simpa using standing, leads, below, member, ?_⟩
            rw [same, Nat.add_right_comm, Nat.add_assoc]

theorem mem_visible_iff_leads {tree target : Tree} {place : Place} :
    (place, target) ∈ visible tree ↔ Leads tree place target := by
  induction place generalizing tree with
  | nil =>
      rcases tree with ⟨kind, role, span, children⟩
      constructor
      · intro member
        rcases List.mem_cons.1 member with same | member
        · cases same
          exact .here _
        · rcases mem_visibleAmong.1 member with ⟨_, _, _, _, _, _, same⟩
          cases same
      · intro leads
        cases leads
        exact List.mem_cons_self
  | cons index place ih =>
      rcases tree with ⟨kind, role, span, children⟩
      constructor
      · intro member
        rcases List.mem_cons.1 member with same | member
        · cases same
        · rcases mem_visibleAmong.1 member with ⟨offset, child, standing, leads, below, found, same⟩
          rw [Nat.zero_add] at same
          cases same
          exact .down standing leads (ih.1 found)
      · intro reached
        cases reached with
        | @down _ child _ _ _ standing leads below =>
            refine List.mem_cons_of_mem _ (mem_visibleAmong.2 ?_)
            exact ⟨index, child, standing, leads, (place, target), ih.2 below, by simp⟩

theorem mem_visible {root : Tree} {entry : Place × Tree} :
    entry ∈ visible root ↔ Visible root entry.1 entry.2 :=
  mem_visible_iff_leads.trans visible_iff_leads.symm

/-! ## Order of visible nodes -/

/-- One visible node stands before another in the document. -/
def Precedes (first second : Place × Tree) : Prop := first.1 < second.1

mutual

/-- Listing the visible nodes goes strictly forward through the document. -/
theorem visible_pairwise : (tree : Tree) -> (visible tree).Pairwise Precedes
  | .node kind role span children => by
      rw [visible]
      refine List.pairwise_cons.2 ⟨?_, visibleAmong_pairwise kind 0 children⟩
      intro entry member
      rcases mem_visibleAmong.1 member with ⟨_, _, _, _, _, _, same⟩
      rw [Precedes, same]
      exact List.nil_lt_cons _ _

theorem visibleAmong_pairwise (above : Kind) (index : Nat) :
    (children : List Tree) -> (visibleAmong above index children).Pairwise Precedes
  | [] => List.Pairwise.nil
  | child :: rest => by
      rw [visibleAmong]
      refine List.pairwise_append.2 ⟨?_, visibleAmong_pairwise above (index + 1) rest, ?_⟩
      · split
        · refine List.pairwise_map.2 ((visible_pairwise child).imp ?_)
          intro first second before
          exact List.cons_lt_cons_iff.2 (.inr ⟨rfl, before⟩)
        · exact List.Pairwise.nil
      · intro first here second later
        split at here
        · rcases List.mem_map.1 here with ⟨below, _, same⟩
          rcases mem_visibleAmong.1 later with ⟨offset, _, _, _, _, _, laterSame⟩
          rw [Precedes, ← same, laterSame]
          exact List.cons_lt_cons_iff.2 (.inl (by omega))
        · cases here

end

/-! ## Rounds of a search -/

/-- A search between two rounds: the stack of nodes, its top first, and the
references found so far. -/
structure Search where
  stack : List Tree
  found : List Reference

namespace Search

/-- The search that is about to begin at a node. -/
def start (root : Tree) : Search := ⟨[root], []⟩

/-- One round: the top of the stack is taken off and replaced by those of its
children that the search goes on to. -/
def round (document : Document) : Search -> Search
  | ⟨[], found⟩ => ⟨[], found⟩
  | ⟨tree :: stack, found⟩ => ⟨searched tree ++ stack, found ++ referencesOf document tree⟩

/-- The visible nodes that are still to be taken off: those of each node on the
stack, from the top down. -/
def pending (stack : List Tree) : List Tree :=
  stack.flatMap fun tree => (visible tree).map Prod.snd

end Search

theorem searched_eq_filter (tree : Tree) :
    searched tree = tree.children.filter fun child => leadsTo tree.kind child.kind := by
  unfold searched Tree.namedChildren
  cases tree.kind with
  | compound owner =>
      rw [List.filter_filter]
      apply List.filter_congr
      intro child _
      cases child.kind <;> simp [leadsTo, isCompound, Kind.isNamed]
  | _ => simp [leadsTo]

theorem map_snd_visibleAmong (above : Kind) (index : Nat) (children : List Tree) :
    (visibleAmong above index children).map Prod.snd =
      Search.pending (children.filter fun child => leadsTo above child.kind) := by
  induction children generalizing index with
  | nil => rfl
  | cons child rest ih =>
      rw [visibleAmong, List.map_append, ih]
      by_cases leads : leadsTo above child.kind = true
      · rw [if_pos leads, List.filter_cons, if_pos leads]
        simp [Search.pending, Function.comp_def]
      · rw [if_neg leads, List.filter_cons, if_neg leads]
        rfl

/-- The visible nodes of a node: itself, and those of the children that a search
goes on to. -/
theorem map_snd_visible (tree : Tree) :
    (visible tree).map Prod.snd = tree :: Search.pending (searched tree) := by
  rw [searched_eq_filter]
  cases tree with
  | node kind role span children =>
      rw [visible, List.map_cons, map_snd_visibleAmong]
      rfl

namespace Search

theorem pending_cons (tree : Tree) (stack : List Tree) :
    pending (tree :: stack) = tree :: pending (searched tree ++ stack) := by
  rw [pending, List.flatMap_cons, map_snd_visible]
  simp [pending]

/-- A round takes the first pending node off. -/
theorem pending_round (document : Document) (search : Search) :
    pending (search.round document).stack = (pending search.stack).tail := by
  rcases search with ⟨stack, found⟩
  cases stack with
  | nil => rfl
  | cons tree stack => rw [pending_cons]; rfl

/-- A round finds the references of the first pending node. -/
theorem found_round (document : Document) (search : Search) :
    (search.round document).found =
      search.found ++ ((pending search.stack).take 1).flatMap (referencesOf document) := by
  rcases search with ⟨stack, found⟩
  cases stack with
  | nil => simp [round, pending]
  | cons tree stack => simp [round, pending_cons]

/-- The state of a search after some rounds: so many visible nodes have been
taken off, and their references have been found. -/
theorem pending_rounds (document : Document) (search : Search) (rounds : Nat) :
    pending ((round document)^[rounds] search).stack = (pending search.stack).drop rounds ∧
      ((round document)^[rounds] search).found =
        search.found ++ ((pending search.stack).take rounds).flatMap (referencesOf document) := by
  induction rounds with
  | zero => simp
  | succ rounds ih =>
      rw [Function.iterate_succ_apply']
      constructor
      · rw [pending_round, ih.1, List.tail_drop]
      · rw [found_round, ih.1, ih.2, List.append_assoc, ← List.flatMap_append, List.take_add]

/-- Nothing is pending only where the stack is empty. -/
theorem pending_eq_nil {stack : List Tree} : pending stack = [] ↔ stack = [] := by
  cases stack with
  | nil => simp [pending]
  | cons tree stack => simp [pending_cons]

theorem collectFrom_eq (document : Document) (stack : List Tree) :
    collectFrom document stack = (pending stack).flatMap (referencesOf document) := by
  fun_induction collectFrom document stack with
  | case1 => rfl
  | case2 tree stack ih => rw [pending_cons, List.flatMap_cons, ih]

end Search

/-- Nodes of other kinds than import statements have no references. -/
theorem referencesOf_of_not_import (document : Document) {tree : Tree}
    (other : isImport tree.kind = false) : referencesOf document tree = [] := by
  unfold referencesOf
  split <;> simp_all [isImport]

theorem flatMap_visibleImports (document : Document) (tree : Tree) :
    (visibleImports tree).flatMap (fun entry => referencesOf document entry.2) =
      (visible tree).flatMap fun entry => referencesOf document entry.2 := by
  unfold visibleImports
  induction visible tree with
  | nil => rfl
  | cons entry rest ih =>
      cases kind : isImport entry.2.kind with
      | true => simp [kind, ih]
      | false => simp [kind, ih, referencesOf_of_not_import document kind]

/-- What is collected from a document: the references of its visible import
statements, in document order. -/
theorem collect_eq_flatMap (document : Document) :
    collect document =
      (visibleImports document.root).flatMap fun entry => referencesOf document entry.2 := by
  rw [collect, Search.collectFrom_eq, flatMap_visibleImports]
  simp [Search.pending, List.flatMap_map]

theorem mem_visibleImports {root : Tree} {entry : Place × Tree} :
    entry ∈ visibleImports root ↔ Visible root entry.1 entry.2 ∧ isImport entry.2.kind = true := by
  rw [visibleImports, List.mem_filter, mem_visible]

theorem visibleImports_pairwise (root : Tree) : (visibleImports root).Pairwise Precedes :=
  (visible_pairwise root).filter _

/-- A search ends, with the round that takes the last visible node off. -/
theorem stack_rounds_eq_nil (document : Document) (rounds : Nat) :
    ((Search.round document)^[rounds] (Search.start document.root)).stack = [] ↔
      (visible document.root).length ≤ rounds := by
  have left := (Search.pending_rounds document (.start document.root) rounds).1
  rw [← Search.pending_eq_nil, left, List.drop_eq_nil_iff]
  simp [Search.pending, Search.start]

theorem search_ends (document : Document) :
    (Search.round document)^[(visible document.root).length] (Search.start document.root) =
      ⟨[], collect document⟩ := by
  have stack := (stack_rounds_eq_nil document _).2 (Nat.le_refl _)
  have found := (Search.pending_rounds document (.start document.root)
    (visible document.root).length).2
  rw [List.take_of_length_le (by simp [Search.pending, Search.start])] at found
  rw [Search.start, List.nil_append, ← Search.collectFrom_eq] at found
  exact congrArg₂ Search.mk stack found

/-- The rounds of a search come to an end on every tree, and what they have then
found are the references of the import statements that are visible from the root,
each once and in document order.  No import statement below anything else than
modules, blocks, compound statements and clauses is among them. -/
theorem search_finds_visible_imports (document : Document) :
    (∀ rounds, ((Search.round document)^[rounds] (Search.start document.root)).stack = [] ↔
        (visible document.root).length ≤ rounds) ∧
      (Search.round document)^[(visible document.root).length] (Search.start document.root) =
        ⟨[], collect document⟩ ∧
      collect document =
        (visibleImports document.root).flatMap (fun entry => referencesOf document entry.2) ∧
      (∀ place tree, (place, tree) ∈ visibleImports document.root ↔
        Visible document.root place tree ∧ isImport tree.kind = true) ∧
      (visibleImports document.root).Pairwise Precedes ∧
      (∀ before index after tree, (before ++ index :: after, tree) ∈ visibleImports document.root →
        ∃ above, nodeAt document.root before = some above ∧
          (above.kind = .module ∨ above.kind = .block ∨ isCompound above.kind = true)) := by
  refine ⟨stack_rounds_eq_nil document, search_ends document, collect_eq_flatMap document,
    fun place tree => mem_visibleImports, visibleImports_pairwise document.root, ?_⟩
  intro before index after tree member
  exact (visible_iff_leads.1 (mem_visibleImports.1 member).1).above

/-- A statement whose condition and whose block both hold an import statement. -/
def guardedImports : Document :=
  let statement : Syntax.Tree := .node (.simple .importModules) none default []
  let condition : Syntax.Tree := .node (.phrase .lambda) none default [statement]
  let block : Syntax.Tree := .node .block none default [statement]
  ⟨[], .node .module none default [.node (.compound .ifStatement) none default [condition, block]]⟩

/-- Only the import statement in the block is found. -/
theorem search_passes_conditions :
    (visibleImports guardedImports.root).map Prod.fst = [[0, 1, 0]] ∧
      ∃ above, nodeAt guardedImports.root [0] = some above ∧
        (above.kind = .module ∨ above.kind = .block ∨ isCompound above.kind = true) :=
  ⟨rfl, (search_finds_visible_imports guardedImports).2.2.2.2.2 [0] 1 [0] _ (List.mem_singleton.2 rfl)⟩

end Imports
end ImportCensus

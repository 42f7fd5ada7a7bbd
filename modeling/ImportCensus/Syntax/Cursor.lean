import ImportCensus.Syntax.Tree

namespace ImportCensus
namespace Syntax

/-!
# Cursors

A cursor stands at a node of a tree and remembers the way back: for each level
the node above, the siblings before and the siblings behind.  It moves to the
first child, to the next sibling, or to the parent.  The node at which a cursor
is created has neither siblings nor a parent for it.

A walk takes these moves until none is left and yields each node when it is
first reached.  The main statement says that a walk from a new cursor is the
pre-order of the tree (`walk_ofTree`).
-/

/-- A level above a cursor: the siblings before it, nearest first, those behind
it, and the rest of the node above. -/
structure Level where
  kind : Kind
  role : Option Role
  span : Text.Span
  before : List Tree
  behind : List Tree
  deriving Repr

structure Cursor where
  focus : Tree
  /-- The levels above the focus, innermost first. -/
  levels : List Level
  deriving Repr

namespace Cursor

/-- A new cursor at a node. -/
def ofTree (tree : Tree) : Cursor := ⟨tree, []⟩

def firstChild? (cursor : Cursor) : Option Cursor :=
  match cursor.focus with
  | .node _ _ _ [] => none
  | .node kind role span (child :: rest) =>
    some ⟨child, ⟨kind, role, span, [], rest⟩ :: cursor.levels⟩

def nextSibling? (cursor : Cursor) : Option Cursor :=
  match cursor.levels with
  | ⟨kind, role, span, before, next :: rest⟩ :: outer =>
    some ⟨next, ⟨kind, role, span, cursor.focus :: before, rest⟩ :: outer⟩
  | _ => none

def parent? (cursor : Cursor) : Option Cursor :=
  match cursor.levels with
  | level :: outer =>
    some ⟨.node level.kind level.role level.span
      (level.before.reverse ++ cursor.focus :: level.behind), outer⟩
  | [] => none

/-- The trees behind the focus that a cursor has not reached, in document order. -/
def pending : List Level -> List Tree
  | [] => []
  | level :: outer => level.behind ++ pending outer

theorem pending_of_nextSibling? {cursor next : Cursor} (h : cursor.nextSibling? = some next) :
    pending cursor.levels = next.focus :: pending next.levels := by
  cases cursor with
  | mk focus levels =>
    cases levels with
    | nil => simp [nextSibling?] at h
    | cons level outer =>
      cases level with
      | mk kind role span before behind =>
        cases behind with
        | nil => simp [nextSibling?] at h
        | cons first rest =>
          simp only [nextSibling?, Option.some.injEq] at h
          subst h
          simp [pending]

theorem pending_of_parent? {cursor above : Cursor} (alone : cursor.nextSibling? = none)
    (h : cursor.parent? = some above) : pending cursor.levels = pending above.levels := by
  cases cursor with
  | mk focus levels =>
    cases levels with
    | nil => simp [parent?] at h
    | cons level outer =>
      cases level with
      | mk kind role span before behind =>
        cases behind with
        | nil =>
          simp only [parent?, Option.some.injEq] at h
          subst h
          simp [pending]
        | cons first rest => simp [nextSibling?] at alone

theorem pending_of_no_parent {cursor : Cursor} (h : cursor.parent? = none) :
    pending cursor.levels = [] := by
  cases cursor with
  | mk focus levels =>
    cases levels with
    | nil => simp [pending]
    | cons level outer => simp [parent?] at h

theorem length_of_parent? {cursor above : Cursor} (h : cursor.parent? = some above) :
    above.levels.length < cursor.levels.length := by
  cases cursor with
  | mk focus levels =>
    cases levels with
    | nil => simp [parent?] at h
    | cons level outer =>
      simp only [parent?, Option.some.injEq] at h
      subst h
      simp

/-- The number of nodes that a walk has still to reach. -/
def remaining (cursor : Cursor) (isReached : Bool) : Nat :=
  (if isReached then 0 else cursor.focus.size) + Tree.sizeAll (pending cursor.levels)

theorem remaining_of_nextSibling? {cursor next : Cursor} (h : cursor.nextSibling? = some next) :
    next.remaining false = cursor.remaining true := by
  simp [remaining, pending_of_nextSibling? h, Tree.sizeAll]

theorem remaining_of_parent? {cursor above : Cursor} (alone : cursor.nextSibling? = none)
    (h : cursor.parent? = some above) : above.remaining true = cursor.remaining true := by
  simp [remaining, pending_of_parent? alone h]

theorem remaining_of_firstChild? {cursor child : Cursor} (h : cursor.firstChild? = some child) :
    child.remaining false < cursor.remaining false := by
  cases cursor with
  | mk focus levels =>
    cases focus with
    | node kind role span children =>
      cases children with
      | nil => simp [firstChild?] at h
      | cons first rest =>
        simp only [firstChild?, Option.some.injEq] at h
        subst h
        simp only [remaining, pending, Tree.size, Tree.sizeAll, Tree.sizeAll_append,
          Bool.false_eq_true, if_false]
        omega

theorem remaining_reached (cursor : Cursor) :
    cursor.remaining true < cursor.remaining false := by
  cases cursor with
  | mk focus levels => cases focus with
    | node kind role span children => simp [remaining, Tree.size]

/-- The nodes that a walk yields from here on, where a flag says whether the
focus has been reached before. -/
def walkFrom (cursor : Cursor) (isReached : Bool) : List Tree :=
  match isReached with
  | false =>
    match _ : cursor.firstChild? with
    | some child => cursor.focus :: walkFrom child false
    | none => cursor.focus :: walkFrom cursor true
  | true =>
    match _ : cursor.nextSibling? with
    | some next => walkFrom next false
    | none =>
      match _ : cursor.parent? with
      | some above => walkFrom above true
      | none => []
termination_by (cursor.remaining isReached, isReached.toNat, cursor.levels.length)
decreasing_by
  · exact .left _ _ (remaining_of_firstChild? ‹_›)
  · exact .left _ _ (remaining_reached cursor)
  · rw [remaining_of_nextSibling? ‹_›]
    exact .right _ (.left _ _ Nat.zero_lt_one)
  · rw [remaining_of_parent? ‹_› ‹_›]
    exact .right _ (.right _ (length_of_parent? ‹_›))

/-- All nodes that a cursor reaches. -/
def walk (cursor : Cursor) : List Tree := cursor.walkFrom false

/-- A first child with the trees behind it is what the focus has below it. -/
theorem preorder_of_firstChild? {cursor child : Cursor} (h : cursor.firstChild? = some child) :
    cursor.focus.preorder ++ Tree.preorderAll (pending cursor.levels) =
      cursor.focus :: (child.focus.preorder ++ Tree.preorderAll (pending child.levels)) := by
  cases cursor with
  | mk focus levels =>
    cases focus with
    | node kind role span children =>
      cases children with
      | nil => simp [firstChild?] at h
      | cons first rest =>
        simp only [firstChild?, Option.some.injEq] at h
        subst h
        simp [pending, Tree.preorder, Tree.preorderAll_eq_flatMap]

theorem preorder_of_no_child {cursor : Cursor} (h : cursor.firstChild? = none) :
    cursor.focus.preorder = [cursor.focus] := by
  cases cursor with
  | mk focus levels =>
    cases focus with
    | node kind role span children =>
      cases children with
      | nil => simp [Tree.preorder, Tree.preorderAll]
      | cons first rest => simp [firstChild?] at h

/-- From an unreached focus a walk yields the focus's pre-order and then the trees
behind it; from a reached one only the latter. -/
theorem walkFrom_eq (cursor : Cursor) (isReached : Bool) :
    cursor.walkFrom isReached =
      (if isReached then [] else cursor.focus.preorder) ++
        Tree.preorderAll (pending cursor.levels) := by
  fun_induction walkFrom cursor isReached with
  | case1 cursor child h ih => simp [ih, preorder_of_firstChild? h]
  | case2 cursor h ih => simp [ih, preorder_of_no_child h]
  | case3 cursor next h ih => simp [ih, pending_of_nextSibling? h, Tree.preorderAll]
  | case4 cursor alone above h ih => simp [ih, pending_of_parent? alone h]
  | case5 cursor alone h => simp [pending_of_no_parent h, Tree.preorderAll]

/-- A walk from a new cursor is the pre-order of the tree. -/
theorem walk_ofTree (tree : Tree) : (ofTree tree).walk = tree.preorder := by
  simp [walk, walkFrom_eq, ofTree, pending, Tree.preorderAll]

end Cursor

end Syntax
end ImportCensus

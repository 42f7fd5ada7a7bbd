import ImportCensus.Proofs.Imports.Search
import ImportCensus.Proofs.Legacy.Verdict
import Mathlib

namespace ImportCensus
namespace Syntax

open Imports (Place Precedes nodeAt)
open Source (Document Legacy legacy? readSource treeMark? treeMark?_eq_some)

/-!
# Rounds of a walk

A walk knows nothing but its cursor and whether the node there has been reached before.  Each
round makes one move: down to a first child, across to a next sibling, up to a parent, or a
turn at a node without children.  Between the rounds, the nodes that have been yielded and
those that are still to come are together all nodes of the tree at which the walk began, each
at its place and in document order (`Follows.account`).  Each round but the last one comes one
step nearer to the end, and there are two of them for each node.
-/

variable {tree : Tree} {index : Nat}

theorem nodeAt_append (root : Tree) (place more : Place) :
    nodeAt root (place ++ more) = (nodeAt root place).bind fun tree => nodeAt tree more :=
  List.foldlM_append

/-! ## Nodes and their places -/

/-- A node below some place, seen from above. -/
def below (place : Place) (entry : Place × Tree) : Place × Tree := (place ++ entry.1, entry.2)

mutual

/-- All nodes of a tree in document order, each with its place. -/
def entries : Tree -> List (Place × Tree)
  | .node kind role span children => ([], .node kind role span children) :: entriesAmong 0 children

/-- The nodes of a row of children from an index on. -/
def entriesAmong (index : Nat) : List Tree -> List (Place × Tree)
  | [] => []
  | child :: rest => (entries child).map (below [index]) ++ entriesAmong (index + 1) rest

end

theorem map_below_below (place more : Place) (row : List (Place × Tree)) :
    (row.map (below more)).map (below place) = row.map (below (place ++ more)) := by
  rw [List.map_map]
  apply List.map_congr_left
  intro entry _
  exact congrArg (fun whole => (whole, entry.2)) (List.append_assoc place more entry.1).symm

theorem mem_entriesAmong {children : List Tree} {entry : Place × Tree} :
    entry ∈ entriesAmong index children ↔
      ∃ offset child, children[offset]? = some child ∧
        ∃ inner ∈ entries child, entry = below [index + offset] inner := by
  induction children generalizing index with
  | nil => simp [entriesAmong]
  | cons first rest ih =>
      rw [entriesAmong, List.mem_append, ih, List.mem_map]
      constructor
      · rintro (⟨inner, member, same⟩ | ⟨offset, child, standing, inner, member, same⟩)
        · exact ⟨0, first, rfl, inner, member, same.symm⟩
        · refine ⟨offset + 1, child, standing, inner, member, ?_⟩
          rw [same, Nat.add_right_comm, Nat.add_assoc]
      · rintro ⟨offset, child, standing, inner, member, same⟩
        cases offset with
        | zero =>
            cases Option.some.inj standing
            exact .inl ⟨inner, member, same.symm⟩
        | succ offset =>
            refine .inr ⟨offset, child, standing, inner, member, ?_⟩
            rw [same, Nat.add_right_comm, Nat.add_assoc]

/-- The entries of a tree are the nodes at its places. -/
theorem mem_entries {place : Place} {node : Tree} : (place, node) ∈ entries tree ↔ nodeAt tree place = some node := by
  induction place generalizing tree with
  | nil =>
      rcases tree with ⟨kind, role, span, children⟩
      rw [entries, List.mem_cons, mem_entriesAmong]
      constructor
      · rintro (same | ⟨_, _, _, _, _, same⟩)
        · cases same
          rfl
        · cases same
      · intro here
        cases Option.some.inj here
        exact .inl rfl
  | cons index place ih =>
      rcases tree with ⟨kind, role, span, children⟩
      have step : nodeAt (.node kind role span children) (index :: place) =
          children[index]?.bind fun child => nodeAt child place := rfl
      rw [entries, List.mem_cons, mem_entriesAmong, step, Option.bind_eq_some_iff]
      constructor
      · rintro (same | ⟨offset, child, standing, inner, member, same⟩)
        · cases same
        · rw [Nat.zero_add] at same
          cases same
          exact ⟨child, standing, ih.1 member⟩
      · rintro ⟨child, standing, here⟩
        refine .inr ⟨index, child, standing, (place, node), ih.2 here, ?_⟩
        rw [Nat.zero_add]
        rfl

mutual

/-- Places of entries strictly increase: above before below, siblings from left to right. -/
theorem pairwise_entries : (tree : Tree) -> (entries tree).Pairwise Precedes
  | .node kind role span children => by
      rw [entries]
      refine List.pairwise_cons.2 ⟨?_, pairwise_entriesAmong 0 children⟩
      intro entry member
      rcases mem_entriesAmong.1 member with ⟨_, _, _, _, _, rfl⟩
      exact List.nil_lt_cons _ _

theorem pairwise_entriesAmong (index : Nat) :
    (children : List Tree) -> (entriesAmong index children).Pairwise Precedes
  | [] => .nil
  | child :: rest => by
      rw [entriesAmong]
      refine List.pairwise_append.2 ⟨?_, pairwise_entriesAmong (index + 1) rest, ?_⟩
      · refine List.pairwise_map.2 ((pairwise_entries child).imp ?_)
        intro first second before
        exact List.cons_lt_cons_iff.2 (.inr ⟨rfl, before⟩)
      · intro first here second later
        rcases List.mem_map.1 here with ⟨_, _, rfl⟩
        rcases mem_entriesAmong.1 later with ⟨offset, _, _, _, _, rfl⟩
        exact List.cons_lt_cons_iff.2 (.inl (by omega))

end

mutual

/-- Without their places, the entries are the pre-order of the tree. -/
theorem map_snd_entries : (tree : Tree) -> (entries tree).map Prod.snd = tree.preorder
  | .node kind role span children => by
      rw [entries, Tree.preorder, List.map_cons, map_snd_entriesAmong 0 children]

theorem map_snd_entriesAmong (index : Nat) :
    (children : List Tree) -> (entriesAmong index children).map Prod.snd = Tree.preorderAll children
  | [] => rfl
  | child :: rest => by
      rw [entriesAmong, Tree.preorderAll, List.map_append, List.map_map, map_snd_entriesAmong (index + 1) rest,
        ← map_snd_entries child]
      rfl

end

/-! ## Places of cursors -/

namespace Cursor

/-- The place below the levels above a cursor. -/
def placeOf (levels : List Level) : Place := (levels.map fun level => level.before.length).reverse

theorem placeOf_cons (level : Level) (outer : List Level) :
    placeOf (level :: outer) = placeOf outer ++ [level.before.length] := by
  rw [placeOf, List.map_cons, List.reverse_cons]
  rfl

/-- The place of a cursor, seen from the node at which it was created. -/
def place (cursor : Cursor) : Place := placeOf cursor.levels

/-- The tree that a focus and the levels above it come from. -/
def closed : Tree -> List Level -> Tree
  | focus, [] => focus
  | focus, level :: outer =>
    closed (.node level.kind level.role level.span (level.before.reverse ++ focus :: level.behind)) outer

/-- The node at which a cursor was created. -/
def origin (cursor : Cursor) : Tree := closed cursor.focus cursor.levels

/-- A focus stands at its place in the tree it comes from. -/
theorem nodeAt_closed (focus : Tree) (levels : List Level) :
    nodeAt (closed focus levels) (placeOf levels) = some focus := by
  induction levels generalizing focus with
  | nil => rfl
  | cons level outer ih =>
      have standing : (level.before.reverse ++ focus :: level.behind)[level.before.length]? = some focus := by
        rw [← List.length_reverse, List.getElem?_append_right (Nat.le_refl _), Nat.sub_self]
        rfl
      rw [closed, placeOf_cons, nodeAt_append, ih, Option.bind_some]
      show (level.before.reverse ++ focus :: level.behind)[level.before.length]?.bind _ = _
      rw [standing]
      rfl

theorem nodeAt_origin (cursor : Cursor) : nodeAt cursor.origin cursor.place = some cursor.focus :=
  nodeAt_closed cursor.focus cursor.levels

/-! ## Moves -/

/-- Where a walk goes from a cursor, by whether the node there has been reached before. -/
def onward (cursor : Cursor) : Bool -> Option (Cursor × Bool)
  | false =>
    match cursor.firstChild? with
    | some child => some (child, false)
    | none => some (cursor, true)
  | true =>
    match cursor.nextSibling? with
    | some next => some (next, false)
    | none => cursor.parent?.map fun above => (above, true)

/-- The moves of a walk, with what they do to a cursor and to the flag. -/
inductive Moves : Cursor × Bool -> Cursor × Bool -> Prop
  | down {kind : Kind} {role : Option Role} {span : Text.Span} {child : Tree} {rest : List Tree} {levels : List Level} :
      Moves (⟨.node kind role span (child :: rest), levels⟩, false)
        (⟨child, ⟨kind, role, span, [], rest⟩ :: levels⟩, false)
  | turn {kind : Kind} {role : Option Role} {span : Text.Span} {levels : List Level} :
      Moves (⟨.node kind role span [], levels⟩, false) (⟨.node kind role span [], levels⟩, true)
  | across {kind : Kind} {role : Option Role} {span : Text.Span} {focus next : Tree} {before rest : List Tree}
      {outer : List Level} :
      Moves (⟨focus, ⟨kind, role, span, before, next :: rest⟩ :: outer⟩, true)
        (⟨next, ⟨kind, role, span, focus :: before, rest⟩ :: outer⟩, false)
  | up {kind : Kind} {role : Option Role} {span : Text.Span} {focus : Tree} {before : List Tree} {outer : List Level} :
      Moves (⟨focus, ⟨kind, role, span, before, []⟩ :: outer⟩, true)
        (⟨.node kind role span (before.reverse ++ [focus]), outer⟩, true)

/-- A round makes a move, unless it finds the node reached at which the cursor was created. -/
theorem onward_cases (cursor : Cursor) (isReached : Bool) :
    (∃ next, cursor.onward isReached = some next ∧ Moves (cursor, isReached) next) ∨
      cursor.onward isReached = none ∧ isReached = true ∧ cursor.levels = [] := by
  rcases cursor with ⟨⟨kind, role, span, children⟩, levels⟩
  cases isReached with
  | false =>
      cases children with
      | nil => exact .inl ⟨_, rfl, .turn⟩
      | cons child rest => exact .inl ⟨_, rfl, .down⟩
  | true =>
      rcases levels with _ | ⟨⟨above, aboveRole, aboveSpan, before, behind⟩, outer⟩
      · exact .inr ⟨rfl, rfl, rfl⟩
      · cases behind with
        | nil => exact .inl ⟨_, rfl, .up⟩
        | cons next rest => exact .inl ⟨_, rfl, .across⟩

variable {cursor next : Cursor} {isReached again : Bool}

/-- A cursor never leaves the tree at which it was created. -/
theorem Moves.origin_eq (moves : Moves (cursor, isReached) (next, again)) : next.origin = cursor.origin := by
  cases moves with
  | down => rfl
  | turn => rfl
  | up => rfl
  | across =>
      unfold origin closed
      dsimp only
      rw [List.reverse_cons, List.append_assoc, List.singleton_append]

/-- The nodes behind a focus that a walk has still to yield, with their places. -/
def awaited : List Level -> List (Place × Tree)
  | [] => []
  | level :: outer =>
    (entriesAmong (level.before.length + 1) level.behind).map (below (placeOf outer)) ++ awaited outer

/-- The nodes that a walk has still to yield, with their places. -/
def toCome (cursor : Cursor) (isReached : Bool) : List (Place × Tree) :=
  (if isReached then [] else (entries cursor.focus).map (below cursor.place)) ++ awaited cursor.levels

/-- A node that is reached for the first time is yielded, and nothing else changes what is to come. -/
theorem Moves.toCome_eq (moves : Moves (cursor, isReached) (next, again)) :
    cursor.toCome isReached =
      (if isReached then [] else [(cursor.place, cursor.focus)]) ++ next.toCome again := by
  have whole (levels : List Level) (focus : Tree) : below (placeOf levels) ([], focus) = (placeOf levels, focus) :=
    congrArg (fun place => (place, focus)) (List.append_nil (placeOf levels))
  cases moves with
  | down =>
      simp only [toCome, place, awaited, placeOf_cons, entries, entriesAmong, List.map_cons, List.map_append,
        map_below_below, whole, List.length_nil, List.append_assoc, List.cons_append, List.nil_append,
        Bool.false_eq_true, if_false]
  | turn =>
      simp only [toCome, place, entries, entriesAmong, List.map_cons, List.map_nil, whole, List.cons_append,
        List.nil_append, Bool.false_eq_true, if_false, if_true]
  | across =>
      simp only [toCome, place, awaited, placeOf_cons, entriesAmong, List.map_append, map_below_below,
        List.length_cons, List.append_assoc, List.nil_append, Bool.false_eq_true, if_false, if_true]
  | up =>
      simp only [toCome, awaited, entriesAmong, List.map_nil, List.nil_append, if_true]

/-- The rounds that are left until a walk is over, behind the node at its cursor. -/
def roundsBehind : List Level -> Nat
  | [] => 0
  | level :: outer => 2 * Tree.sizeAll level.behind + 1 + roundsBehind outer

/-- The rounds that are left until a walk is over: two for each node that is still to come, and one
for each that has been reached and not been left. -/
def roundsLeft (cursor : Cursor) (isReached : Bool) : Nat :=
  (if isReached then 1 else 2 * cursor.focus.size) + roundsBehind cursor.levels

theorem Moves.roundsLeft_eq (moves : Moves (cursor, isReached) (next, again)) :
    cursor.roundsLeft isReached = next.roundsLeft again + 1 := by
  cases moves with
  | down =>
      simp only [roundsLeft, roundsBehind, Tree.size, Tree.sizeAll, Bool.false_eq_true, if_false]
      omega
  | turn =>
      simp only [roundsLeft, Tree.size, Tree.sizeAll, Bool.false_eq_true, if_false, if_true]
      omega
  | across =>
      simp only [roundsLeft, roundsBehind, Tree.sizeAll, Bool.false_eq_true, if_false, if_true]
      omega
  | up =>
      simp only [roundsLeft, roundsBehind, Tree.sizeAll, if_true]
      omega

/-- The round that ends a walk is the last one, and nothing is to come then. -/
theorem roundsLeft_last (alone : cursor.levels = []) : cursor.roundsLeft true = 1 := by
  rw [roundsLeft, alone]
  rfl

theorem toCome_last (alone : cursor.levels = []) : cursor.toCome true = [] := by
  rw [toCome, alone]
  rfl

end Cursor

/-! ## Rounds -/

/-- A walk between two rounds: its cursor and whether the node there has been reached before,
unless the walk is over, and the cursors of the nodes that it has yielded. -/
structure Walk where
  position : Option (Cursor × Bool)
  found : List Cursor

namespace Walk

/-- A walk that is about to begin at a node. -/
def start (tree : Tree) : Walk := ⟨some (.ofTree tree, false), []⟩

/-- One round: a node that has not been reached before is yielded, and the cursor moves on. -/
def round : Walk -> Walk
  | ⟨none, found⟩ => ⟨none, found⟩
  | ⟨some (cursor, false), found⟩ => ⟨cursor.onward false, found ++ [cursor]⟩
  | ⟨some (cursor, true), found⟩ => ⟨cursor.onward true, found⟩

/-- The nodes that have been yielded, with their places. -/
def yielded (walk : Walk) : List (Place × Tree) :=
  walk.found.map fun cursor => (cursor.place, cursor.focus)

def toCome (walk : Walk) : List (Place × Tree) :=
  walk.position.elim [] fun here => here.1.toCome here.2

def roundsLeft (walk : Walk) : Nat :=
  walk.position.elim 0 fun here => here.1.roundsLeft here.2

/-- What holds of a walk through a tree between any two rounds. -/
structure Follows (tree : Tree) (walk : Walk) : Prop where
  /-- What has been yielded and what is to come are all nodes of the tree. -/
  account : walk.yielded ++ walk.toCome = entries tree
  /-- The cursor has not left the tree. -/
  inside : ∀ cursor isReached, walk.position = some (cursor, isReached) -> cursor.origin = tree

variable {walk : Walk}

theorem round_standing (cursor : Cursor) (isReached : Bool) (found : List Cursor) :
    round ⟨some (cursor, isReached), found⟩ =
      ⟨cursor.onward isReached, found ++ if isReached then [] else [cursor]⟩ := by
  cases isReached with
  | false => rfl
  | true => rw [round, if_pos rfl, List.append_nil]

theorem roundsLeft_eq_zero : walk.roundsLeft = 0 ↔ walk.position = none := by
  rcases walk with ⟨_ | ⟨⟨⟨kind, role, span, children⟩, levels⟩, isReached⟩, found⟩
  · exact iff_of_true rfl rfl
  · refine iff_of_false (Nat.ne_of_gt ?_) nofun
    show 0 < Cursor.roundsLeft _ _
    rw [Cursor.roundsLeft, Tree.size]
    split <;> omega

/-- A round comes one step nearer to the end. -/
theorem roundsLeft_round (walk : Walk) : walk.round.roundsLeft = walk.roundsLeft - 1 := by
  rcases walk with ⟨_ | ⟨cursor, isReached⟩, found⟩
  · rfl
  · rw [round_standing]
    show Option.elim (cursor.onward isReached) 0 _ = cursor.roundsLeft isReached - 1
    rcases cursor.onward_cases isReached with ⟨⟨next, again⟩, goes, moves⟩ | ⟨ends, rfl, alone⟩
    · rw [goes, moves.roundsLeft_eq]
      rfl
    · rw [ends, Cursor.roundsLeft_last alone]
      rfl

theorem follows_start (tree : Tree) : Follows tree (start tree) where
  account := by
    show (entries tree).map (below []) ++ [] = entries tree
    rw [List.append_nil]
    exact List.map_id _
  inside cursor isReached here := by
    cases here
    rfl

/-- A round neither loses nor adds a node, and stays in the tree. -/
theorem Follows.round (follows : Follows tree walk) : Follows tree walk.round := by
  rcases walk with ⟨_ | ⟨cursor, isReached⟩, found⟩
  · exact follows
  · have origin := follows.inside cursor isReached rfl
    have account : yielded ⟨some (cursor, isReached), found⟩ ++ cursor.toCome isReached = entries tree :=
      follows.account
    rw [round_standing]
    rcases cursor.onward_cases isReached with ⟨⟨next, again⟩, goes, moves⟩ | ⟨ends, rfl, alone⟩
    · rw [goes]
      constructor
      · rw [moves.toCome_eq, ← List.append_assoc] at account
        rw [← account]
        refine congrArg (· ++ next.toCome again) ?_
        rw [yielded, List.map_append]
        cases isReached <;> rfl
      · intro after flag here
        cases here
        rw [moves.origin_eq, origin]
    · rw [ends]
      constructor
      · rw [Cursor.toCome_last alone] at account
        rw [if_pos rfl, List.append_nil]
        exact account
      · nofun

/-- The state of a walk after some rounds. -/
theorem follows_rounds (tree : Tree) (rounds : Nat) :
    Follows tree (round^[rounds] (start tree)) ∧
      (round^[rounds] (start tree)).roundsLeft = 2 * tree.size - rounds := by
  induction rounds with
  | zero => exact ⟨follows_start tree, rfl⟩
  | succ rounds ih =>
      rw [Function.iterate_succ_apply', roundsLeft_round, ih.2]
      exact ⟨ih.1.round, Nat.sub_sub _ _ _⟩

/-- A walk is over after two rounds for each node, and not earlier. -/
theorem position_rounds_eq_none (tree : Tree) (rounds : Nat) :
    (round^[rounds] (start tree)).position = none ↔ 2 * tree.size ≤ rounds := by
  rw [← roundsLeft_eq_zero, (follows_rounds tree rounds).2, Nat.sub_eq_zero_iff_le]

/-- A walk that is over has yielded all nodes of its tree. -/
theorem yielded_rounds (tree : Tree) : (round^[2 * tree.size] (start tree)).yielded = entries tree := by
  have ended := (position_rounds_eq_none tree (2 * tree.size)).2 (Nat.le_refl _)
  have account := (follows_rounds tree (2 * tree.size)).1.account
  rwa [toCome, ended, Option.elim_none, List.append_nil] at account

end Walk

/-! ## The first node of a kind -/

/-- A node stands in a tree, and none that is wanted stands before it. -/
def IsFirst (wanted : Tree -> Bool) (root node : Tree) : Prop :=
  ∃ place, nodeAt root place = some node ∧ wanted node = true ∧
    ∀ earlier other, nodeAt root earlier = some other -> earlier < place -> wanted other = false

theorem filter_preorder (wanted : Tree -> Bool) (root : Tree) :
    root.preorder.filter wanted = ((entries root).filter fun entry => wanted entry.2).map Prod.snd := by
  rw [← map_snd_entries, List.filter_map]
  rfl

/-- The first wanted node of the pre-order is the one that stands first. -/
theorem head?_filter_preorder {wanted : Tree -> Bool} {root node : Tree} :
    (root.preorder.filter wanted).head? = some node ↔ IsFirst wanted root node := by
  rw [filter_preorder, List.head?_map, List.head?_filter, Option.map_eq_some_iff]
  constructor
  · rintro ⟨⟨place, _⟩, found, rfl⟩
    rcases List.find?_eq_some_iff_append.1 found with ⟨here, before, behind, whole, unwanted⟩
    have member : (place, _) ∈ entries root := List.mem_of_find?_eq_some found
    refine ⟨place, mem_entries.1 member, here, ?_⟩
    intro earlier other standing less
    have among := mem_entries.2 standing
    have ordered := pairwise_entries root
    rw [whole] at among ordered
    rcases List.mem_append.1 among with first | later
    · exact Bool.not_eq_true' _ ▸ unwanted _ first
    · rcases List.mem_cons.1 later with same | later
      · cases same
        exact absurd less (lt_irrefl _)
      · have after := (List.pairwise_cons.1 (List.pairwise_append.1 ordered).2.1).1 _ later
        exact absurd less (lt_asymm after)
  · rintro ⟨place, standing, here, none⟩
    refine ⟨(place, node), ?_, rfl⟩
    rcases List.append_of_mem (mem_entries.2 standing) with ⟨before, behind, whole⟩
    refine List.find?_eq_some_iff_append.2 ⟨here, before, behind, whole, ?_⟩
    intro earlier member
    have ordered := pairwise_entries root
    rw [whole] at ordered
    have less := (List.pairwise_append.1 ordered).2.2 earlier member (place, node) List.mem_cons_self
    have among : (earlier.1, earlier.2) ∈ entries root := whole ▸ List.mem_append_left _ member
    rw [none earlier.1 earlier.2 (mem_entries.1 among) less]
    rfl

theorem findSome?_eq_some_iff_head? {α β : Type} {choose : α -> Option β} {row : List α} {chosen : β} :
    row.findSome? choose = some chosen ↔
      ∃ item, (row.filter fun item => (choose item).isSome).head? = some item ∧ choose item = some chosen := by
  rw [← List.head?_filterMap]
  induction row with
  | nil => simp
  | cons first rest ih =>
      cases here : choose first with
      | none => rw [List.filterMap_cons_none here, ih, List.filter_cons_of_neg (by simp [here])]
      | some value =>
          rw [List.filterMap_cons_some here, List.filter_cons_of_pos (by simp [here])]
          simp [here]

/-- The statement of the older dialect for which a text is refused is the first one of its tree. -/
theorem readSource_eq_legacy_iff_first {text : List Char} {statement : Legacy} {place : Text.Position} :
    readSource text = .error (.legacy statement place) ↔
      ∃ document node, Document.ofText text = .ok document ∧
        IsFirst (fun tree => (legacy? tree.kind).isSome) document.root node ∧
        legacy? node.kind = some statement ∧ node.span.start = place := by
  have first (document : Document) : document.root.preorder.findSome? treeMark? = some (statement, place) ↔
      ∃ node, IsFirst (fun tree => (legacy? tree.kind).isSome) document.root node ∧
        legacy? node.kind = some statement ∧ node.span.start = place := by
    have marked (tree : Tree) : (treeMark? tree).isSome = (legacy? tree.kind).isSome := Option.isSome_map
    rw [findSome?_eq_some_iff_head?]
    simp only [marked, head?_filter_preorder, treeMark?_eq_some]
  rw [Source.readSource_eq_legacy]
  constructor
  · rintro ⟨document, reads, stands⟩
    rcases (first document).1 ((Source.standsFirst_iff reads).2 stands) with ⟨node, found⟩
    exact ⟨document, node, reads, found⟩
  · rintro ⟨document, node, reads, found⟩
    exact ⟨document, reads, (Source.standsFirst_iff reads).1 ((first document).2 ⟨node, found⟩)⟩

/-- The nodes that go by some names, with their places. -/
theorem findNamed_eq_map_entries (document : Document) (names : List String) :
    document.findNamed names =
      ((entries document.root).filter fun entry => names.contains entry.2.kind.name).map Prod.snd := by
  rw [Document.findNamed, document.nodes_eq_preorder, filter_preorder]

/-- A walk that begins at a node of a tree comes to an end, after two rounds for each node below and
including this one.  Between any two rounds its cursor stands at the start or below it, so that it has
never gone to a sibling of the start or above it.  It yields each of these nodes once, at its place, and
the places strictly increase: a node comes before those below it, and siblings come from left to right.
This is what the cursor's walk returns.  Therefore the nodes of a document that go by some names are
found in document order and none is missed, and the first error and the first statement of an older
dialect are the ones before which there is no other; a text is refused for the latter. -/
theorem walk_visits_each_node_once :
    (∀ (root start : Tree) (place : Place), nodeAt root place = some start ->
      (∀ rounds, (Walk.round^[rounds] (.start start)).position = none ↔ 2 * start.size ≤ rounds) ∧
      (∀ rounds cursor isReached, (Walk.round^[rounds] (.start start)).position = some (cursor, isReached) ->
        nodeAt root (place ++ cursor.place) = some cursor.focus) ∧
      ∃ found, Walk.round^[2 * start.size] (.start start) = ⟨none, found⟩ ∧
        found.map Cursor.focus = (Cursor.ofTree start).walk ∧
        found.Pairwise (fun first second => first.place < second.place) ∧
        ∀ more node, (∃ cursor ∈ found, cursor.place = more ∧ cursor.focus = node) ↔
          nodeAt root (place ++ more) = some node) ∧
    (∀ (document : Document) (names : List String), ∃ row : List (Place × Tree),
      document.findNamed names = row.map Prod.snd ∧ row.Pairwise Precedes ∧
        ∀ place node, (place, node) ∈ row ↔
          nodeAt document.root place = some node ∧ names.contains node.kind.name = true) ∧
    (∀ (document : Document) (isMissing : Tree -> Bool) (node : Tree),
      (document.errors isMissing).head? = some node ↔
        IsFirst (fun tree => tree.kind.name == "ERROR" || isMissing tree) document.root node) ∧
    (∀ (document : Document) (node : Tree), document.legacyStatements.head? = some node ↔
      IsFirst (fun tree => ["print_statement", "exec_statement"].contains tree.kind.name) document.root node) ∧
    ∀ text statement place, readSource text = .error (.legacy statement place) ↔
      ∃ document node, Document.ofText text = .ok document ∧
        IsFirst (fun tree => (legacy? tree.kind).isSome) document.root node ∧
        legacy? node.kind = some statement ∧ node.span.start = place := by
  refine ⟨?_, ?_, ?_, ?_, fun _ _ _ => readSource_eq_legacy_iff_first⟩
  · intro root start place standing
    have inRoot (more : Place) : nodeAt root (place ++ more) = nodeAt start more := by
      rw [nodeAt_append, standing, Option.bind_some]
    have ended := (Walk.position_rounds_eq_none start (2 * start.size)).2 (Nat.le_refl _)
    have yielded := Walk.yielded_rounds start
    refine ⟨Walk.position_rounds_eq_none start, ?_, (Walk.round^[2 * start.size] (.start start)).found,
      congrArg (fun position => Walk.mk position _) ended, ?_, ?_, ?_⟩
    · intro rounds cursor isReached here
      have origin := (Walk.follows_rounds start rounds).1.inside cursor isReached here
      rw [inRoot, ← origin]
      exact cursor.nodeAt_origin
    · rw [Cursor.walk_ofTree, ← map_snd_entries, ← yielded, Walk.yielded, List.map_map]
      rfl
    · have ordered := pairwise_entries start
      rw [← yielded, Walk.yielded, List.pairwise_map] at ordered
      exact ordered
    · intro more node
      rw [inRoot, ← mem_entries, ← yielded, Walk.yielded, List.mem_map]
      simp only [Prod.mk.injEq]
  · intro document names
    refine ⟨_, findNamed_eq_map_entries document names, (pairwise_entries document.root).filter _, ?_⟩
    intro place node
    rw [List.mem_filter, mem_entries]
  · intro document isMissing node
    rw [Document.errors, document.nodes_eq_preorder, head?_filter_preorder]
  · intro document node
    rw [Document.legacyStatements, Document.findNamed, document.nodes_eq_preorder, head?_filter_preorder]

/-- A function definition with an import statement in its block. -/
def definition : Tree :=
  .node (.compound .functionDefinition) none default [.node (.phrase .identifier) none default [],
    .node .block none default [.node (.simple .importModules) none default []]]

/-- The definition between two import statements. -/
def betweenImports : Tree :=
  let statement : Tree := .node (.simple .importModules) none default []
  .node .module none default [statement, definition, statement]

/-- A walk from the definition ends with its own import statement and does not reach those beside it. -/
theorem walk_stays_in_definition :
    nodeAt betweenImports [1] = some definition ∧
      (∀ rounds, (Walk.round^[rounds] (.start definition)).position = none ↔ 8 ≤ rounds) ∧
      ∃ found, Walk.round^[8] (.start definition) = ⟨none, found⟩ ∧
        found.map Cursor.place = [[], [0], [1], [1, 0]] ∧
        ∀ more node, (∃ cursor ∈ found, cursor.place = more ∧ cursor.focus = node) ↔
          nodeAt betweenImports ([1] ++ more) = some node := by
  have standing : nodeAt betweenImports [1] = some definition := rfl
  rcases walk_visits_each_node_once.1 betweenImports definition [1] standing with
    ⟨ends, _, found, ended, _, _, nodes⟩
  refine ⟨standing, ends, found, ended, ?_, nodes⟩
  have same : (Walk.round^[8] (.start definition)).found = found := congrArg Walk.found ended
  rw [← same]
  rfl

end Syntax
end ImportCensus

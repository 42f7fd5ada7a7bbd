import ImportCensus.Proofs.Legacy.Words
import ImportCensus.Proofs.Source.Statement

namespace ImportCensus
namespace Source

open Syntax (CompoundKind Kind Role SimpleKind Tree)

/-!
# Statements of the older dialect in lines

The statements of the older dialect that a reader of a line makes are told by the words among the
tokens which it takes, in their order.  So a reader `Gathers` marks if those of what it finds and
those of what it leaves are found, in this order, among what was before it.  Phrases hold no
statements, so that of most readers it matters only that they leave an end of their feed.
-/

/-- The mark of a node, if it is a statement of the older dialect. -/
def treeMark? (tree : Tree) : Option LegacyMark :=
  (legacy? tree.kind).map fun statement => (statement, tree.span.start)

/-- The statements of the older dialect in a row of trees, in document order. -/
def treeMarks (trees : List Tree) : List LegacyMark := (Tree.preorderAll trees).filterMap treeMark?

/-! ## Marks of trees -/

theorem treeMarks_append (first second : List Tree) :
    treeMarks (first ++ second) = treeMarks first ++ treeMarks second := by
  rw [treeMarks, Tree.preorderAll_append, List.filterMap_append]
  rfl

theorem treeMarks_cons (tree : Tree) (rest : List Tree) :
    treeMarks (tree :: rest) = treeMarks [tree] ++ treeMarks rest :=
  treeMarks_append [tree] rest

theorem treeMarks_single (tree : Tree) : treeMarks [tree] = tree.preorder.filterMap treeMark? := by
  rw [treeMarks, Tree.preorderAll, Tree.preorderAll, List.append_nil]

theorem treeMarks_node (kind : Kind) (role : Option Role) (span : Text.Span) (children : List Tree) :
    treeMarks [.node kind role span children] =
      ((legacy? kind).map fun statement => (statement, span.start)).toList ++ treeMarks children := by
  have mark : treeMark? (.node kind role span children) =
      (legacy? kind).map fun statement => (statement, span.start) := rfl
  rw [treeMarks_single, Tree.preorder, List.filterMap_cons, mark]
  cases legacy? kind <;> rfl

/-- A node that is no such statement has the marks of what it holds. -/
theorem treeMarks_inner {kind : Kind} (other : legacy? kind = none) (role : Option Role) (span : Text.Span)
    (children : List Tree) : treeMarks [.node kind role span children] = treeMarks children := by
  rw [treeMarks_node, other]
  rfl

theorem treeMarks_extras (extras : List Extra) : treeMarks (extras.map Extra.tree) = [] := by
  induction extras with
  | nil => rfl
  | cons extra rest ih =>
      rw [List.map_cons, treeMarks_cons, ih, Extra.tree, treeMarks_inner rfl]
      rfl

mutual

/-- No statement stands in a phrase. -/
theorem Phrase.treeMarks_tree : (phrase : Phrase) -> (role : Option Role) -> treeMarks [phrase.tree role] = []
  | .leaf none token, role => treeMarks_inner rfl role token.span []
  | .leaf (some _) token, role => treeMarks_inner rfl role token.span []
  | .node kind span parts, role => by
      rw [Phrase.tree, treeMarks_inner rfl, Phrase.treeMarks_treesWithin parts]
  | .inRole own phrase, _ => by rw [Phrase.tree, Phrase.treeMarks_tree phrase]

theorem Phrase.treeMarks_treesWithin : (parts : List Phrase) -> treeMarks (Phrase.treesWithin parts) = []
  | [] => rfl
  | phrase :: rest => by
      rw [Phrase.treesWithin, treeMarks_cons, Phrase.treeMarks_tree phrase, Phrase.treeMarks_trees rest]
      rfl

theorem Phrase.treeMarks_trees : (parts : List Phrase) -> treeMarks (Phrase.trees parts) = []
  | [] => rfl
  | phrase :: rest => by
      rw [Phrase.trees, treeMarks_append, treeMarks_extras, treeMarks_cons, Phrase.treeMarks_tree phrase,
        Phrase.treeMarks_trees rest]
      rfl

end

/-! ## Marks of items -/

/-- The statements of the older dialect in an item. -/
def Item.legacyMarks (item : Item) : List LegacyMark := treeMarks [item.tree]

/-- The statements of the older dialect in a row of items. -/
def Item.legacyMarksAll (items : List Item) : List LegacyMark := treeMarks (Item.treeAll items)

theorem Item.legacyMarksAll_cons (item : Item) (rest : List Item) :
    Item.legacyMarksAll (item :: rest) = item.legacyMarks ++ Item.legacyMarksAll rest :=
  treeMarks_cons _ _

theorem Item.legacyMarksAll_append (first second : List Item) :
    Item.legacyMarksAll (first ++ second) = Item.legacyMarksAll first ++ Item.legacyMarksAll second := by
  rw [Item.legacyMarksAll, Item.treeAll_append, treeMarks_append]
  rfl

theorem Item.legacyMarksAll_single (item : Item) : Item.legacyMarksAll [item] = item.legacyMarks := rfl

theorem Item.legacyMarks_separator (token : Token) : (Item.separator token).legacyMarks = [] := by
  rw [Item.legacyMarks, Item.tree, treeMarks_inner rfl]
  rfl

theorem Item.legacyMarks_simple (kind : SimpleKind) (span : Text.Span) (parts : List Phrase) :
    (Item.simple kind span parts).legacyMarks =
      ((legacy? (.simple kind)).map fun statement => (statement, span.start)).toList := by
  rw [Item.legacyMarks, Item.tree, treeMarks_node]
  split
  · exact List.append_nil _
  · rw [Phrase.treeMarks_trees, List.append_nil]

namespace Reader

variable {α β : Type} {reader : Reader α} {next : α -> Reader β} {kind : SimpleKind}
  {good : α -> Prop} {fine : β -> Prop} {statement : Legacy}

/-- A statement of the older dialect begins with its first part. -/
theorem statementOf_marks (head : Phrase) (tail : List Phrase) :
    (statementOf kind (head :: tail)).legacyMarks =
      ((legacy? (.simple kind)).map fun statement => (statement, head.span.start)).toList :=
  Item.legacyMarks_simple _ _ _

theorem statementOf_unmarked (other : legacy? (.simple kind) = none) (parts : List Phrase) :
    (statementOf kind parts).legacyMarks = [] := by
  rcases statementOf_eq kind parts with ⟨span, same⟩
  rw [same, Item.legacyMarks_simple, other]
  rfl

/-! ## What statements are made -/

/-- Everything that a reader finds is good, whatever it leaves. -/
def Makes (reader : Reader α) (good : α -> Prop) : Prop :=
  ∀ feed found rest, reader feed = .ok (found, rest) -> good found

theorem Makes.after (onward : ∀ found, Makes (next found) fine) : Makes (reader >>= next) fine := by
  intro feed found rest reads
  rcases bind_eq_ok.1 reads with ⟨_, _, _, goesOn⟩
  exact onward _ _ found rest goesOn

theorem Makes.pure {value : α} (holds : good value) : Makes (Pure.pure value) good := by
  intro feed found rest reads
  cases reads
  exact holds

theorem Makes.ite {condition : Prop} [Decidable condition] {first second : Reader α}
    (holds : Makes first good) (fails : Makes second good) : Makes (if condition then first else second) good := by
  split
  · exact holds
  · exact fails

/-- A reader of statements that are none of the older dialect. -/
def Unmarked (reader : Reader Item) : Prop := Makes reader fun item => item.legacyMarks = []

theorem unmarked_statementOf (other : legacy? (.simple kind) = none) (parts : List Phrase) :
    Unmarked (pure (statementOf kind parts)) :=
  .pure (statementOf_unmarked other parts)

theorem importModules_unmarked : Unmarked importModules :=
  .after fun _ => .after fun _ => unmarked_statementOf rfl _

theorem importFrom_unmarked : Unmarked importFrom := by
  refine .after fun _ => .after fun _ => .ite ?_ ?_
  · exact .after fun _ => .after fun _ => .after fun _ => unmarked_statementOf rfl _
  · refine .after fun _ => .after fun _ => .after fun _ => .ite ?_ ?_
    · exact .after fun _ => unmarked_statementOf rfl _
    · exact .after fun _ => unmarked_statementOf rfl _

theorem expressionStatement_unmarked : Unmarked expressionStatement :=
  .after fun _ => unmarked_statementOf rfl _

theorem typeAlias_unmarked : Unmarked typeAlias := by
  refine .after fun _ => .after fun _ => .after fun _ => ?_
  extract_lets behind
  have joined : ∀ parameters, Unmarked (behind parameters) :=
    fun _ => .after fun _ => .after fun _ => unmarked_statementOf rfl _
  exact .ite (.after fun _ => .after joined) (.after joined)

theorem returnStatement_unmarked : Unmarked returnStatement := by
  refine .after fun _ => .after fun _ => ?_
  extract_lets behind
  have joined : ∀ value, Unmarked (behind value) := fun _ => unmarked_statementOf rfl _
  exact .ite (.after fun _ => .after joined) (.after joined)

theorem deleteStatement_unmarked : Unmarked deleteStatement :=
  .after fun _ => .after fun _ => unmarked_statementOf rfl _

theorem raiseStatement_unmarked : Unmarked raiseStatement := by
  refine .after fun head => .after fun _ => ?_
  extract_lets behind
  have joined : ∀ value, Unmarked (behind value) := by
    intro value
    have caused : ∀ cause, Unmarked (pure (statementOf .raise (head :: value ++ cause))) :=
      fun _ => unmarked_statementOf rfl _
    exact .after fun _ => .ite (.after fun _ => .after fun _ => .after caused) (.after caused)
  exact .ite (.after fun _ => .after joined) (.after joined)

theorem assertStatement_unmarked : Unmarked assertStatement :=
  .after fun _ => .after fun _ => unmarked_statementOf rfl _

theorem declaration_unmarked (other : legacy? (.simple kind) = none) : Unmarked (declaration kind) :=
  .after fun _ => .after fun _ => unmarked_statementOf other _

theorem wordStatement_unmarked (other : legacy? (.simple kind) = none) :
    Unmarked (do return statementOf kind [← plain]) :=
  .after fun _ => unmarked_statementOf other _

end Reader

/-! ## Gathering -/

/-- The words ahead that may begin a statement of the older dialect. -/
def Feed.legacyMarks (feed : Feed) : List LegacyMark := feed.ahead.filterMap Token.legacyMark?

theorem Feed.legacyMarks_sublist {feed rest : Feed} (left : rest.ahead <:+ feed.ahead) :
    rest.legacyMarks.Sublist feed.legacyMarks :=
  left.sublist.filterMap _

/-- What is gathered from the first part and then from the rest is gathered from the whole. -/
theorem sublist_onward {α : Type} {first second whole middle rest : List α}
    (here : (first ++ middle).Sublist whole) (behind : (second ++ rest).Sublist middle) :
    (first ++ second ++ rest).Sublist whole := by
  rw [List.append_assoc]
  exact (behind.append_left first).trans here

namespace Reader

variable {α β : Type} {feed : Feed} {reader : Reader α} {next : α -> Reader β}
  {good : α -> Prop} {seen : α -> List LegacyMark} {marks : β -> List LegacyMark}
  {gathered : List LegacyMark} {token : Token} {statement : Legacy}

/-- Behind what has been gathered, the marks of what is found at the beginning of a feed and of
what is left are among those of the feed. -/
def GathersAt (gathered : List LegacyMark) (feed : Feed) (reader : Reader β) (marks : β -> List LegacyMark) :
    Prop :=
  ∀ found rest, reader feed = .ok (found, rest) ->
    (marks found ++ rest.legacyMarks).Sublist (gathered ++ feed.legacyMarks)

def Gathers (gathered : List LegacyMark) (reader : Reader β) (marks : β -> List LegacyMark) : Prop :=
  ∀ feed, GathersAt gathered feed reader marks

theorem GathersAt.bind (first : GathersAt [] feed reader seen)
    (onward : ∀ found, Gathers (gathered ++ seen found) (next found) marks) :
    GathersAt gathered feed (reader >>= next) marks := by
  intro found rest reads
  rcases bind_eq_ok.1 reads with ⟨middle, feed', read, goesOn⟩
  have behind := onward middle feed' found rest goesOn
  rw [List.append_assoc] at behind
  exact behind.trans ((first middle feed' read).append_left gathered)

/-- What is found has no marks, so that only what is left of the feed matters. -/
theorem GathersAt.past (finds : FindsAt feed reader good)
    (onward : ∀ found, Gathers gathered (next found) marks) : GathersAt gathered feed (reader >>= next) marks := by
  intro found rest reads
  rcases bind_eq_ok.1 reads with ⟨middle, feed', read, goesOn⟩
  have left := Feed.legacyMarks_sublist (finds middle feed' read).2
  exact (onward middle feed' found rest goesOn).trans (left.append_left gathered)

theorem GathersAt.ask {answer : α} (asked : reader feed = .ok (answer, feed))
    (onward : GathersAt gathered feed (next answer) marks) :
    GathersAt gathered feed (reader >>= next) marks := by
  intro found rest reads
  rcases bind_eq_ok.1 reads with ⟨middle, feed', read, goesOn⟩
  rw [asked] at read
  cases read
  exact onward found rest goesOn

theorem GathersAt.ite {condition : Prop} [Decidable condition] {first second : Reader β}
    (holds : condition -> GathersAt gathered feed first marks)
    (fails : ¬condition -> GathersAt gathered feed second marks) :
    GathersAt gathered feed (if condition then first else second) marks := by
  split
  · exact holds ‹_›
  · exact fails ‹_›

theorem GathersAt.orElse {first second : Reader β} (one : GathersAt gathered feed first marks)
    (other : GathersAt gathered feed second marks) : GathersAt gathered feed (orElse first second) marks := by
  intro found rest reads
  unfold Reader.orElse at reads
  cases tried : first feed with
  | ok result =>
      rw [tried] at reads
      cases reads
      exact one found rest tried
  | error fault =>
      rw [tried] at reads
      exact other found rest reads

/-- A reader of other statements takes nothing but what it leaves out. -/
theorem GathersAt.unmarked {reader : Reader Item} (finds : FindsAt feed reader (Item.Sound fun _ => True))
    (makes : Unmarked reader) : GathersAt [] feed reader Item.legacyMarks := by
  intro found rest reads
  rw [makes feed found rest reads]
  exact Feed.legacyMarks_sublist (finds found rest reads).2

theorem Gathers.bind (first : Gathers [] reader seen)
    (onward : ∀ found, Gathers (gathered ++ seen found) (next found) marks) :
    Gathers gathered (reader >>= next) marks :=
  fun feed => (first feed).bind onward

theorem Gathers.past (finds : Finds reader good) (onward : ∀ found, Gathers gathered (next found) marks) :
    Gathers gathered (reader >>= next) marks :=
  fun feed => .past (finds feed) onward

theorem Gathers.anyway [forward : Forward reader] (onward : ∀ found, Gathers gathered (next found) marks) :
    Gathers gathered (reader >>= next) marks :=
  .past forward.finds onward

theorem Gathers.pure {value : β} (within : (marks value).Sublist gathered) :
    Gathers gathered (Pure.pure value) marks := by
  intro feed found rest reads
  cases reads
  exact within.append_right _

theorem Gathers.fail : Gathers gathered (fail : Reader β) marks := by
  intro feed found rest reads
  cases reads

theorem Gathers.ite {condition : Prop} [Decidable condition] {first second : Reader β}
    (holds : Gathers gathered first marks) (fails : Gathers gathered second marks) :
    Gathers gathered (if condition then first else second) marks :=
  fun feed => .ite (fun _ => holds feed) fun _ => fails feed

/-! ## Statements -/

/-- The word that is taken first is where its statement begins. -/
theorem plain_gathers (head : feed.ahead.head? = some token) (name : token.kind = .name)
    (spelled : token.text = statement.word) :
    GathersAt [] feed plain fun found => [(statement, found.span.start)] := by
  intro found rest reads
  rcases feed with ⟨behind, _ | ⟨first, ahead⟩⟩
  · cases head
  · cases head
    cases reads
    have marked : token.legacyMark? = some (statement, token.span.start) :=
      legacyMark?_eq_some.2 ⟨name, spelled, rfl⟩
    show (_ :: ahead.filterMap Token.legacyMark?).Sublist ((token :: ahead).filterMap Token.legacyMark?)
    rw [List.filterMap_cons_some marked]
    exact .refl _

theorem printStatement_gathers (head : feed.ahead.head? = some token) (name : token.kind = .name)
    (spelled : token.text = Legacy.print.word) : GathersAt [] feed printStatement Item.legacyMarks := by
  have made : ∀ first rest, Gathers [(Legacy.print, first.span.start)]
      (pure (statementOf .print (first :: rest))) Item.legacyMarks := by
    intro first rest
    refine .pure ?_
    rw [statementOf_marks]
    exact .refl _
  refine (plain_gathers head name spelled).bind fun first => .anyway fun _ => .ite ?_ ?_
  · refine .anyway fun arrow => .past (expression_apart _) fun stream => .anyway fun limit => ?_
    exact .past (commaTail_apart element_expression_apart limit) fun rest => made first _
  · exact .past (commaList_apart element_expression_apart) fun _ => made first _

theorem expressionStatement_gathers : Gathers [] expressionStatement Item.legacyMarks :=
  fun feed => .unmarked (expressionStatement_sound feed) expressionStatement_unmarked

theorem printOrExpression_gathers (head : feed.ahead.head? = some token) (name : token.kind = .name)
    (spelled : token.text = Legacy.print.word) : GathersAt [] feed printOrExpression Item.legacyMarks := by
  have prints := printStatement_gathers head name spelled
  have expression := expressionStatement_gathers feed
  refine .ask rfl (.ite (fun _ => prints) fun _ => .orElse (expression.bind fun _ => ?_) ?_)
  · exact .anyway fun _ => .ite (.pure (.refl _)) .fail
  · exact .ite (fun _ => prints) fun _ => expression

theorem execOrExpression_gathers (head : feed.ahead.head? = some token) (name : token.kind = .name)
    (spelled : token.text = Legacy.exec.word) : GathersAt [] feed execOrExpression Item.legacyMarks := by
  refine .ask rfl (.ite (fun _ => ?_) fun _ => expressionStatement_gathers feed)
  have made : ∀ first rest, Gathers [(Legacy.exec, first.span.start)]
      (pure (statementOf .exec (first :: rest))) Item.legacyMarks := by
    intro first rest
    refine .pure ?_
    rw [statementOf_marks]
    exact .refl _
  refine (plain_gathers head name spelled).bind fun first => .anyway fun _ => ?_
  extract_lets behind
  have joined : ∀ code, Gathers [(Legacy.exec, first.span.start)] (behind code) Item.legacyMarks := by
    refine fun code => .anyway fun _ => .ite (.anyway fun link => ?_) (made first _)
    exact .past (strictCommaList_apart (expression_apart _)) fun _ => made first _
  exact .ite (.past identifier_apart joined) (.past (string_apart expression_apart) joined)

/-- A statement has the mark of the word that it begins with, if it is one of the older dialect. -/
theorem simpleStatement_gathers : Gathers [] simpleStatement Item.legacyMarks := by
  intro feed
  have all : feed.All fun _ => True := fun _ _ => trivial
  refine .ask rfl ?_
  cases head : feed.ahead.head? with
  | none => exact Gathers.fail feed
  | some token =>
      have sees : ∀ {text}, token.text = text -> Apart text -> feed.Apart := Feed.apart_of_head head
      dsimp only
      split
      case h_1 => exact .unmarked (importModules_sound feed all) importModules_unmarked
      case h_2 => exact .unmarked (importFrom_sound feed all) importFrom_unmarked
      case h_3 spelled => exact .unmarked (returnStatement_sound (sees spelled rfl)) returnStatement_unmarked
      case h_4 spelled => exact .unmarked (deleteStatement_sound (sees spelled rfl)) deleteStatement_unmarked
      case h_5 spelled => exact .unmarked (raiseStatement_sound (sees spelled rfl)) raiseStatement_unmarked
      case h_6 spelled => exact .unmarked (assertStatement_sound (sees spelled rfl)) assertStatement_unmarked
      case h_7 spelled => exact .unmarked (declaration_sound (sees spelled rfl) nofun nofun) (declaration_unmarked rfl)
      case h_8 spelled => exact .unmarked (declaration_sound (sees spelled rfl) nofun nofun) (declaration_unmarked rfl)
      case h_9 spelled =>
        exact .unmarked (wordStatement_sound (sees spelled rfl) nofun nofun) (wordStatement_unmarked rfl)
      case h_10 spelled =>
        exact .unmarked (wordStatement_sound (sees spelled rfl) nofun nofun) (wordStatement_unmarked rfl)
      case h_11 spelled =>
        exact .unmarked (wordStatement_sound (sees spelled rfl) nofun nofun) (wordStatement_unmarked rfl)
      case h_12 name spelled => exact printOrExpression_gathers head name spelled
      case h_13 name spelled => exact execOrExpression_gathers head name spelled
      case h_14 spelled =>
        refine .ask rfl (.ite (fun _ => ?_) fun _ => expressionStatement_gathers feed)
        exact .unmarked (typeAlias_sound (sees spelled rfl)) typeAlias_unmarked
      case h_15 => exact expressionStatement_gathers feed

theorem simpleStatements_gathers (limit : Nat) : Gathers [] (simpleStatements limit) Item.legacyMarksAll := by
  induction limit with
  | zero => exact .fail
  | succ limit ih =>
      refine simpleStatement_gathers.bind fun first => .anyway fun _ => .ite ?_ (.anyway fun _ => .ite ?_ .fail)
      · exact .pure (.refl _)
      refine .anyway fun separator => .anyway fun _ => .ite (.pure ?_) (ih.bind fun rest => .pure ?_)
      · rw [Item.legacyMarksAll_cons, Item.legacyMarksAll_single, Item.legacyMarks_separator, List.append_nil]
        exact .refl _
      · rw [Item.legacyMarksAll_cons, Item.legacyMarksAll_cons, Item.legacyMarks_separator]
        exact .refl _

theorem statements_gathers : Gathers [] statements Item.legacyMarksAll :=
  .anyway fun limit => simpleStatements_gathers (limit + 1)

end Reader

/-! ## Lines -/

/-- The statements of the older dialect that stand behind the colon of an opening. -/
def Opening.legacyMarks (opening : Opening) : List LegacyMark := Item.legacyMarksAll (opening.suite.getD [])

/-- The statements of the older dialect in a line. -/
def Reading.legacyMarks : Reading -> List LegacyMark
  | .statements items => Item.legacyMarksAll items
  | .opening header => header.legacyMarks
  | .decorator _ => []

namespace Reader

theorem openingWith_gathers (kind : CompoundKind) (parts : List Phrase) :
    Gathers [] (openingWith kind parts) Reading.legacyMarks := by
  refine .anyway fun _ => .ite (.pure (.refl _)) (statements_gathers.bind fun items => ?_)
  exact .pure (.refl _)

theorem line_gathers (inMatch : Bool) : Gathers [] (line inMatch) Reading.legacyMarks := by
  refine .ite (fun feed => .ask rfl (.ite (fun sees => ?_) fun _ => Gathers.fail feed)) (.anyway fun _ => .ite ?_ ?_)
  · refine .past (caseHeader_apart ?_) fun parts => openingWith_gathers _ parts
    intro token head
    rw [head] at sees
    exact text_of_is sees ▸ rfl
  · refine .anyway fun sign => .past (expression_apart _) fun value => .anyway fun _ => ?_
    exact .pure (.refl _)
  · refine .past header?_apart fun header => ?_
    split
    · exact openingWith_gathers _ _
    · exact statements_gathers.bind fun _ => .pure (.refl _)

end Reader

/-- The statements of the older dialect in a line are told by the words among its tokens. -/
theorem Line.read_gathers {inMatch : Bool} {line : Line} {reading : Reading}
    (reads : line.read inMatch = .ok reading) :
    reading.legacyMarks.Sublist (line.tokens.filterMap Token.legacyMark?) := by
  unfold Line.read at reads
  cases result : Reader.line inMatch ⟨line.first.span.start, line.tokens⟩ with
  | error fault => simp [result, Except.map] at reads
  | ok pair =>
      simp only [result, Except.map, Except.ok.injEq] at reads
      have gathers := Reader.line_gathers inMatch ⟨_, line.tokens⟩ pair.1 pair.2 result
      exact reads ▸ (List.sublist_append_left _ _).trans gathers

end Source
end ImportCensus

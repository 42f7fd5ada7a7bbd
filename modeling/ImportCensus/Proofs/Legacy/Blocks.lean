import ImportCensus.Proofs.Legacy.Statements
import ImportCensus.Proofs.Source.Block

namespace ImportCensus
namespace Source

open Syntax (CompoundKind)

/-!
# Statements of the older dialect in programs

The readers of blocks pass every row once and put what they find together in the order of the
rows.  So the statements of the older dialect in a document are told by words of its text, in
their order (`document_marks`): `BlocksGather` says this of each reader, and holds of every limit.
-/

/-! ## Marks of rows, parts and compounds -/

theorem Row.legacyMarks_line (line : Line) (below : List Row) :
    Row.legacyMarks (.line line :: below) = line.tokens.filterMap Token.legacyMark? ++ Row.legacyMarks below :=
  List.filterMap_append

/-- No words of statements stand in remarks. -/
theorem remarksFrom_legacyMarks (level : Nat) (rows : List Row) :
    Row.legacyMarks (remarksFrom level rows).2 = Row.legacyMarks rows := by
  induction rows with
  | nil => rfl
  | cons row rows ih =>
      unfold remarksFrom
      cases row with
      | line content => rfl
      | remark indent extra =>
          dsimp only
          split
          · exact ih
          · rfl

theorem legacyMarks_of_remarksFrom {level : Nat} {rows rest : List Row} {remarks : List Extra}
    (parted : remarksFrom level rows = (remarks, rest)) : Row.legacyMarks rest = Row.legacyMarks rows := by
  rw [← remarksFrom_legacyMarks level rows, parted]

theorem Item.legacyMarksAll_extras (extras : List Extra) :
    Item.legacyMarksAll (extras.map Item.extra) = [] := by
  induction extras with
  | nil => rfl
  | cons extra rest ih =>
      rw [List.map_cons, Item.legacyMarksAll_cons, ih, List.append_nil]
      exact treeMarks_extras [extra]

/-- The statements of the older dialect in a row of parts. -/
def Part.legacyMarksAll (parts : List Part) : List LegacyMark := treeMarks (Part.treeAll parts)

theorem Part.legacyMarksAll_append (first second : List Part) :
    Part.legacyMarksAll (first ++ second) = Part.legacyMarksAll first ++ Part.legacyMarksAll second := by
  rw [Part.legacyMarksAll, Part.treeAll_append, treeMarks_append]
  rfl

theorem Part.legacyMarksAll_cons (part : Part) (rest : List Part) :
    Part.legacyMarksAll (part :: rest) = treeMarks part.trees ++ Part.legacyMarksAll rest :=
  treeMarks_append _ _

theorem Part.legacyMarksAll_phrases (phrases : List Phrase) :
    Part.legacyMarksAll (phrases.map Part.phrase) = [] := by
  induction phrases with
  | nil => rfl
  | cons phrase rest ih =>
      rw [List.map_cons, Part.legacyMarksAll_cons, ih, Part.trees, treeMarks_append, treeMarks_extras,
        Phrase.treeMarks_tree]
      rfl

theorem Part.legacyMarksAll_extras (extras : List Extra) :
    Part.legacyMarksAll (extras.map Part.extra) = [] := by
  induction extras with
  | nil => rfl
  | cons extra rest ih =>
      rw [List.map_cons, Part.legacyMarksAll_cons, ih, List.append_nil]
      exact treeMarks_extras [extra]

theorem legacyMarksAll_blockOver (place : Text.Position) (items : List Item) :
    Part.legacyMarksAll [blockOver place items] = Item.legacyMarksAll items := by
  rw [Part.legacyMarksAll_cons]
  cases items with
  | nil => rfl
  | cons item rest =>
      rw [blockOver, Part.trees, treeMarks_inner rfl]
      exact List.append_nil _

/-- The statements of the older dialect in a compound statement or a clause. -/
def Compound.legacyMarks (body : Compound) : List LegacyMark := treeMarks [body.tree]

theorem legacyMarks_compoundOver (kind : CompoundKind) (parts : List Part) :
    (compoundOver kind parts).legacyMarks = Part.legacyMarksAll parts := by
  cases parts with
  | nil => exact treeMarks_inner rfl none ⟨.origin, .origin⟩ []
  | cons part rest => rw [compoundOver, Compound.legacyMarks, Compound.build, Compound.tree, treeMarks_inner rfl]; rfl

theorem Part.legacyMarksAll_clause (body : Compound) (rest : List Part) :
    Part.legacyMarksAll (.clause body :: rest) = body.legacyMarks ++ Part.legacyMarksAll rest := by
  rw [Part.legacyMarksAll_cons, Part.trees]
  rfl

/-! ## The readers of blocks -/

/-- The statements of the older dialect in what the readers of blocks give under a limit, and the
words in the rows that they leave, are among the words in what they are given, in their order. -/
structure BlocksGather (limit : Nat) : Prop where
  items (inMatch : Bool) (level : Nat) (rows : List Row) :
    Gives (blockItems inMatch level limit rows) fun found =>
      (Item.legacyMarksAll found.1 ++ Row.legacyMarks found.2).Sublist (Row.legacyMarks rows)
  statement (inMatch : Bool) (level : Nat) (line : Line) (below : List Row) :
    Gives (statementAt inMatch level limit line below) fun found =>
      (Item.legacyMarksAll found.1 ++ Row.legacyMarks found.2).Sublist (Row.legacyMarks (.line line :: below))
  compound (level : Nat) (opening : Opening) (after : List Extra) (below : List Row) :
    Gives (compoundAt level limit opening after below) fun found =>
      (found.1.legacyMarks ++ Row.legacyMarks found.2).Sublist (opening.legacyMarks ++ Row.legacyMarks below)
  suite (level : Nat) (opening : Opening) (after : List Extra) (below : List Row) :
    Gives (suite level limit opening after below) fun found =>
      (Part.legacyMarksAll found.1 ++ Row.legacyMarks found.2).Sublist (opening.legacyMarks ++ Row.legacyMarks below)
  clauses (owner : CompoundKind) (level last : Nat) (rows : List Row) :
    Gives (clausesAt owner level limit last rows) fun found =>
      (Part.legacyMarksAll found.1 ++ Row.legacyMarks found.2).Sublist (Row.legacyMarks rows)
  decorated (level : Nat) (parts : List Part) (after : List Extra) (below : List Row) :
    Gives (decorated level limit parts after below) fun found =>
      (found.1.legacyMarks ++ Row.legacyMarks found.2).Sublist (Part.legacyMarksAll parts ++ Row.legacyMarks below)

theorem blocksGather_zero : BlocksGather 0 where
  items _ _ _ := .error
  statement _ _ _ _ := .error
  compound _ _ _ _ := .error
  suite _ _ _ _ := .error
  clauses _ _ _ _ := .error
  decorated _ _ _ _ := .error

/-- What a line holds comes before what is below it. -/
theorem read_gathers (inMatch : Bool) (line : Line) (below : List Row) :
    Gives (line.read inMatch) fun reading =>
      (reading.legacyMarks ++ Row.legacyMarks below).Sublist (Row.legacyMarks (.line line :: below)) := by
  intro reading reads
  rw [Row.legacyMarks_line]
  exact (Line.read_gathers reads).append_right _

section Step

variable {limit : Nat} (less : BlocksGather limit)
include less

theorem blockItems_gathers (inMatch : Bool) (level : Nat) (rows : List Row) :
    Gives (blockItems inMatch level (limit + 1) rows) fun found =>
      (Item.legacyMarksAll found.1 ++ Row.legacyMarks found.2).Sublist (Row.legacyMarks rows) := by
  unfold blockItems
  split
  rename_i remarks rest parted
  have bare : (Item.legacyMarksAll (remarks.map Item.extra) ++ Row.legacyMarks rest).Sublist
      (Row.legacyMarks rows) := by
    rw [Item.legacyMarksAll_extras, ← legacyMarks_of_remarksFrom parted]
    exact .refl _
  split
  · rename_i line below
    refine .ite (.pure bare) ((less.statement _ _ _ _).bind fun here gathers => ?_)
    refine (less.items _ _ _).bind fun others further => .pure ?_
    rw [Item.legacyMarksAll_append, Item.legacyMarksAll_append]
    exact sublist_onward (sublist_onward bare gathers) further
  · exact .pure bare

theorem statementAt_gathers (inMatch : Bool) (level : Nat) (line : Line) (below : List Row) :
    Gives (statementAt inMatch level (limit + 1) line below) fun found =>
      (Item.legacyMarksAll found.1 ++ Row.legacyMarks found.2).Sublist (Row.legacyMarks (.line line :: below)) := by
  refine (read_gathers inMatch line below).bind fun reading gathers => ?_
  cases reading with
  | statements items =>
      refine .pure ?_
      rw [Item.legacyMarksAll_append, Item.legacyMarksAll_extras, List.append_nil]
      exact gathers
  | opening header =>
      refine .ite .error ((less.compound _ _ _ _).bind fun body further => .pure ?_)
      exact further.trans gathers
  | decorator phrase =>
      refine (less.decorated _ _ _ _).bind fun body further => .pure ?_
      rw [show [Part.phrase phrase] = [phrase].map Part.phrase from rfl, Part.legacyMarksAll_phrases] at further
      exact further.trans gathers

theorem compoundAt_gathers (level : Nat) (opening : Opening) (after : List Extra) (below : List Row) :
    Gives (compoundAt level (limit + 1) opening after below) fun found =>
      (found.1.legacyMarks ++ Row.legacyMarks found.2).Sublist (opening.legacyMarks ++ Row.legacyMarks below) := by
  refine (less.suite _ _ _ _).bind fun body gathers => (less.clauses _ _ _ _).bind fun others further => .pure ?_
  rw [legacyMarks_compoundOver, Part.legacyMarksAll_append]
  exact sublist_onward gathers further

theorem suite_gathers (level : Nat) (opening : Opening) (after : List Extra) (below : List Row) :
    Gives (suite level (limit + 1) opening after below) fun found =>
      (Part.legacyMarksAll found.1 ++ Row.legacyMarks found.2).Sublist
        (opening.legacyMarks ++ Row.legacyMarks below) := by
  unfold suite
  extract_lets header
  have bare : ∀ extras : List Extra, Part.legacyMarksAll (header ++ extras.map Part.extra) = [] := by
    intro extras
    rw [Part.legacyMarksAll_append, Part.legacyMarksAll_phrases, Part.legacyMarksAll_extras]
    rfl
  have withBlock : ∀ place items before, Part.legacyMarksAll before = [] ->
      Part.legacyMarksAll (before ++ [blockOver place items]) = Item.legacyMarksAll items := by
    intro place items before none
    rw [Part.legacyMarksAll_append, none, legacyMarksAll_blockOver]
    rfl
  split
  · rename_i items inline
    refine .pure ?_
    rw [withBlock _ _ _ (Part.legacyMarksAll_phrases _), Item.legacyMarksAll_append, Item.legacyMarksAll_extras,
      List.append_nil, Opening.legacyMarks, inline]
    exact .refl _
  · rename_i none
    rw [show opening.legacyMarks = [] by rw [Opening.legacyMarks, none]; rfl]
    refine .ite ?_ (.pure ?_)
    · split
      rename_i remarks rest parted
      refine (less.items _ _ _).bind fun found gathers => .pure ?_
      rw [legacyMarks_of_remarksFrom parted] at gathers
      rw [withBlock]
      · exact gathers
      · rw [Part.legacyMarksAll_append, bare, Part.legacyMarksAll_extras]
        rfl
    · rw [withBlock _ _ _ (bare after)]
      exact .refl _

theorem clausesAt_gathers (owner : CompoundKind) (level last : Nat) (rows : List Row) :
    Gives (clausesAt owner level (limit + 1) last rows) fun found =>
      (Part.legacyMarksAll found.1 ++ Row.legacyMarks found.2).Sublist (Row.legacyMarks rows) := by
  have none : Gives (pure ([], rows)) fun found : List Part × List Row =>
      (Part.legacyMarksAll found.1 ++ Row.legacyMarks found.2).Sublist (Row.legacyMarks rows) := .pure (.refl _)
  unfold clausesAt
  split
  rename_i remarks rest parted
  rw [← legacyMarks_of_remarksFrom parted] at none ⊢
  split
  · rename_i line below
    split
    · refine .ite ((read_gathers false line below).bind fun reading gathers => ?_) none
      split
      · refine (less.suite _ _ _ _).bind fun body here => (less.clauses _ _ _ _).bind fun others further => .pure ?_
        rw [Part.legacyMarksAll_append, Part.legacyMarksAll_extras, List.nil_append, Part.legacyMarksAll_clause,
          legacyMarks_compoundOver]
        exact sublist_onward (here.trans gathers) further
      · exact .error
    · exact none
  · exact none

theorem decorated_gathers (level : Nat) (parts : List Part) (after : List Extra) (below : List Row) :
    Gives (decorated level (limit + 1) parts after below) fun found =>
      (found.1.legacyMarks ++ Row.legacyMarks found.2).Sublist
        (Part.legacyMarksAll parts ++ Row.legacyMarks below) := by
  unfold decorated
  split
  rename_i remarks rest parted
  extract_lets joined
  have same : Part.legacyMarksAll joined = Part.legacyMarksAll parts := by
    rw [Part.legacyMarksAll_append, Part.legacyMarksAll_append, Part.legacyMarksAll_extras,
      Part.legacyMarksAll_extras, List.append_nil, List.append_nil]
  rw [← legacyMarks_of_remarksFrom parted, ← same]
  split
  · rename_i line further
    refine .ite .error ((read_gathers false line further).bind fun reading gathers => ?_)
    have onward := gathers.append_left (Part.legacyMarksAll joined)
    cases reading with
    | decorator phrase =>
        refine (less.decorated _ _ _ _).imp fun body here => ?_
        rw [Part.legacyMarksAll_append, show [Part.phrase phrase] = [phrase].map Part.phrase from rfl,
          Part.legacyMarksAll_phrases, List.append_nil] at here
        exact here.trans onward
    | opening header =>
        refine .ite ((less.compound _ _ _ _).bind fun body here => .pure ?_) .error
        rw [legacyMarks_compoundOver, Part.legacyMarksAll_append, Part.legacyMarksAll_clause, List.append_assoc,
          List.append_assoc]
        exact (here.append_left _).trans onward
    | statements items => exact .error
  · exact .error

end Step

theorem blocksGather (limit : Nat) : BlocksGather limit := by
  induction limit with
  | zero => exact blocksGather_zero
  | succ limit less =>
      exact ⟨blockItems_gathers less, statementAt_gathers less, compoundAt_gathers less,
        suite_gathers less, clausesAt_gathers less, decorated_gathers less⟩

theorem program_gathers {rows : List Row} {items : List Item} (reads : program rows = .ok items) :
    (Item.legacyMarksAll items).Sublist (Row.legacyMarks rows) := by
  have gives : Gives (program rows) fun items => (Item.legacyMarksAll items).Sublist (Row.legacyMarks rows) :=
    ((blocksGather _).items false 0 rows).bind fun _ gathers =>
      .pure ((List.sublist_append_left _ _).trans gathers)
  exact gives items reads

/-! ## Documents -/

/-- The statements of the older dialect in a document, with their places, are told by words of its
text, in the order of the text. -/
theorem document_marks {text : List Char} {document : Document} (reads : Document.ofText text = .ok document) :
    (treeMarks [document.root]).Sublist (Row.legacyMarks (rows text)) := by
  unfold Document.ofText Document.ofRows at reads
  cases result : program (rows text) with
  | error fault =>
      rw [result] at reads
      cases reads
  | ok items =>
      rw [result] at reads
      cases reads
      have inner : treeMarks [moduleTree text (rows text) items] = Item.legacyMarksAll items :=
        treeMarks_inner rfl none _ _
      exact inner ▸ program_gathers result

end Source
end ImportCensus

import ImportCensus.Proofs.Skeleton.Lines
import ImportCensus.Proofs.Source.Gathering

namespace ImportCensus
namespace Skeleton

open Imports (Reference Search leadsTo referencesOf)
open Source (Closes Compound Ends Fault Item Part Phrase Row blockItems blockOver clausesAt compoundAt
  compoundOver decorated statementAt suite)
open Syntax (CompoundKind Kind Role Tree)

/-!
# Reading printed blocks

The rows of a printed statement, block, or row of clauses are gathered into what was
printed, whatever follows, as long as what follows does not go on with it.  What is
gathered holds the references of the skeleton in their order.  All forms of nesting are
answered for together, by induction on the skeleton.
-/

/-! ## What trees hold -/

/-- Trees below a node of a kind in which a search finds references, and which hold no
statement of the older dialect. -/
structure Holds (text : List Char) (above : Kind) (trees : List Tree) (references : List Reference) : Prop where
  found : ∀ root, (Search.pending (trees.filter fun tree => leadsTo above tree.kind)).flatMap
    (referencesOf ⟨text, root⟩) = references
  modern : ∀ node ∈ Tree.preorderAll trees, Source.legacy? node.kind = none

variable {text : List Char} {above : Kind} {trees first second : List Tree}
  {references one other : List Reference}

theorem Holds.nil : Holds text above [] [] := ⟨fun _ => rfl, nofun⟩

theorem Holds.append (here : Holds text above first one) (behind : Holds text above second other) :
    Holds text above (first ++ second) (one ++ other) where
  found root := by
    rw [List.filter_append, Search.pending, List.flatMap_append, List.flatMap_append]
    exact congrArg₂ (· ++ ·) (here.found root) (behind.found root)
  modern := by
    rw [Tree.preorderAll_append]
    exact List.forall_mem_append.2 ⟨here.modern, behind.modern⟩

/-- Where a search goes on to a node without references of its own, it finds what is below. -/
theorem Holds.node {kind : Kind} {role : Option Role} {span : Text.Span} (leads : leadsTo above kind = true)
    (bare : ∀ root, referencesOf ⟨text, root⟩ (.node kind role span trees) = [])
    (modern : Source.legacy? kind = none) (below : Holds text kind trees references) :
    Holds text above [.node kind role span trees] references where
  found root := by
    have taken : leadsTo above (Syntax.Tree.node kind role span trees).kind = true := leads
    rw [List.filter_cons, if_pos taken, List.filter_nil, Search.pending_cons, List.flatMap_cons, bare,
      Imports.searched_eq_filter, List.append_nil, List.nil_append]
    exact below.found root
  modern := by
    rw [Tree.preorderAll, Tree.preorderAll, List.append_nil, Tree.preorder]
    exact List.forall_mem_cons.2 ⟨modern, below.modern⟩

/-- What stands inside a statement is not searched. -/
theorem Holds.inside (notSequence : above ≠ .module ∧ above ≠ .block)
    (inside : ∀ node ∈ Tree.preorderAll trees, Imports.Inside node.kind) : Holds text above trees [] where
  found root := by
    have unsearched : trees.filter (fun tree => leadsTo above tree.kind) = [] := by
      rw [List.filter_eq_nil_iff]
      intro tree member
      simp [(inside tree (Imports.mem_preorderAll_of_mem member)).not_leadsTo notSequence]
    rw [unsearched]
    rfl
  modern node member := by
    have kind := inside node member
    cases same : node.kind with
    | phrase | token => rfl
    | module | block | simple | compound =>
        rw [same] at kind
        exact kind.elim

/-- The items of a block hold references. -/
def HoldsItems (text : List Char) (items : List Item) (references : List Reference) : Prop :=
  Holds text .block (Item.treeAll items) references

/-- Parts hold references, whatever compound statement they are parts of. -/
def HoldsParts (text : List Char) (parts : List Part) (references : List Reference) : Prop :=
  ∀ kind, Holds text (.compound kind) (Part.treeAll parts) references

theorem HoldsItems.append {front behind : List Item} (here : HoldsItems text front one)
    (later : HoldsItems text behind other) : HoldsItems text (front ++ behind) (one ++ other) := by
  rw [HoldsItems, Item.treeAll_append]
  exact Holds.append here later

theorem HoldsParts.append {front behind : List Part} (here : HoldsParts text front one)
    (later : HoldsParts text behind other) : HoldsParts text (front ++ behind) (one ++ other) := by
  intro kind
  rw [Part.treeAll_append]
  exact (here kind).append (later kind)

theorem holdsItems_statement {item : Item} (stated : Stated text references item)
    (sound : item.Sound fun _ => True) : HoldsItems text [item] references := by
  rcases stated with ⟨⟨kind, span, parts, rfl, modern⟩, found⟩
  have inside : ∀ node ∈ Tree.preorderAll (if Source.isWordStatement kind then [] else Phrase.trees parts),
      Imports.Inside node.kind := Imports.simple_nodes sound.1
  have unsearched : Holds text (.simple kind)
      (if Source.isWordStatement kind then [] else Phrase.trees parts) [] :=
    .inside (by simp) inside
  constructor
  · intro root
    rw [Item.treeAll, Item.treeAll, List.filter_cons, if_pos (by rfl), List.filter_nil, Search.pending_cons,
      List.flatMap_cons, found, List.append_nil, Imports.searched_eq_filter]
    exact (congrArg (references ++ ·) (unsearched.found root)).trans (List.append_nil _)
  · rw [Item.treeAll, Item.treeAll, Tree.preorderAll, Tree.preorderAll, List.append_nil, Item.tree, Tree.preorder]
    exact List.forall_mem_cons.2 ⟨modern, unsearched.modern⟩

theorem holds_compound {kind : CompoundKind} {parts : List Part} (leads : leadsTo above (.compound kind) = true)
    (holds : HoldsParts text parts references) :
    Holds text above [(compoundOver kind parts).tree] references := by
  cases parts with
  | nil => exact .node leads (fun _ => rfl) rfl (holds kind)
  | cons head tail => exact .node leads (fun _ => rfl) rfl (holds kind)

theorem holdsItems_compound {kind : CompoundKind} {parts : List Part} (holds : HoldsParts text parts references) :
    HoldsItems text [.compound (compoundOver kind parts)] references :=
  holds_compound rfl holds

theorem holdsParts_clause {kind : CompoundKind} {parts : List Part} (holds : HoldsParts text parts references) :
    HoldsParts text [.clause (compoundOver kind parts)] references :=
  fun _ => holds_compound rfl holds

theorem holdsParts_block {place : Text.Position} {items : List Item} (holds : HoldsItems text items references) :
    HoldsParts text [blockOver place items] references := by
  intro kind
  cases items with
  | nil => exact .node rfl (fun _ => rfl) rfl holds
  | cons head tail => exact .node rfl (fun _ => rfl) rfl holds

theorem holdsParts_phrases {phrases : List Phrase} (apart : Phrase.AllApart phrases) :
    HoldsParts text (phrases.map Part.phrase) [] := by
  intro kind
  induction phrases with
  | nil => exact .nil
  | cons phrase rest ih =>
      rw [Phrase.allApart_cons] at apart
      have here : Holds text (.compound kind) (Part.phrase phrase).trees [] :=
        .inside (by simp) (Imports.part_phrase_nodes apart.1)
      exact here.append (ih apart.2)

/-- A header with its block holds what the block holds. -/
theorem holdsParts_suite {phrases : List Phrase} {items : List Item} (apart : Phrase.AllApart phrases)
    (holds : HoldsItems text items references) :
    HoldsParts text (Source.suiteParts phrases items) references :=
  (holdsParts_phrases apart).append (holdsParts_block holds)

/-! ## Scanned lines -/

/-- Rows that printed lines are scanned as. -/
def Scanned (text : List Char) (lines : List Line) (rows : List Row) : Prop :=
  List.Forall₂ (IsRow text) lines rows

variable {lines later : List Line} {rows front behind rest : List Row} {level limit last : Nat}
  {printed : Line} {line : Source.Line}

theorem scanned_append : Scanned text (lines ++ later) rows ↔
    ∃ front behind, rows = front ++ behind ∧ Scanned text lines front ∧ Scanned text later behind :=
  forall₂_append

theorem scanned_cons : Scanned text (printed :: lines) rows ↔
    ∃ line behind, rows = .line line :: behind ∧ IsLine text printed line ∧ Scanned text lines behind := by
  constructor
  · intro scanned
    cases scanned with
    | cons here others =>
        rcases here with ⟨line, rfl, isLine⟩
        exact ⟨line, _, rfl, isLine, others⟩
  · rintro ⟨line, behind, rfl, isLine, others⟩
    exact .cons ⟨line, rfl, isLine⟩ others

theorem IsLine.begins (isLine : IsLine text printed line) :
    ∃ place, line.first = printed.sentence.first.token place :=
  (List.forall₂_cons.1 isLine.spelled).1

/-- A sentence that begins no clause. -/
def IsStatement (sentence : Sentence) : Prop :=
  ∀ place, Source.clauseKind? (sentence.first.token place) = none

theorem isStatement_definition (definition : Definition) : IsStatement definition.sentence := by
  cases definition with
  | function async _ _ => cases async <;> exact fun _ => rfl
  | classOf _ => exact fun _ => rfl

theorem isStatement_header (header : Header) : IsStatement header.sentence := by
  cases header with
  | forEach async _ _ | manage async _ _ => cases async <;> exact fun _ => rfl
  | define definition => exact isStatement_definition definition
  | conditional _ | whileTrue _ | attempt => exact fun _ => rfl

/-- Lines that begin a statement of a level. -/
def BeginsStatement (level : Nat) (lines : List Line) : Prop :=
  ∃ sentence others, lines = ⟨level, sentence⟩ :: others ∧ IsStatement sentence

theorem statement_begins (statement : Statement) (level : Nat) : BeginsStatement level (statement.lines level) := by
  cases statement with
  | pass | importModules | importFrom | decorated | choice => exact ⟨_, _, rfl, fun _ => rfl⟩
  | compound header body clauses => exact ⟨_, _, rfl, isStatement_header header⟩

theorem block_begins (block : Block) (level : Nat) : BeginsStatement level (block.lines level) := by
  cases block with
  | last statement => exact statement_begins statement level
  | cons statement others =>
      rcases statement_begins statement level with ⟨sentence, more, same, isStatement⟩
      exact ⟨sentence, more ++ others.lines level, by rw [Block.lines, same, List.cons_append], isStatement⟩

theorem cases_begins (cases : Cases) (level : Nat) : BeginsStatement level (cases.lines level) := by
  cases cases with
  | last | cons => exact ⟨_, _, rfl, fun _ => rfl⟩

/-- Lines that begin a statement end another one of their level. -/
theorem ends_of_begins (begins : BeginsStatement level lines) (scanned : Scanned text lines front) :
    Ends (4 * level) (front ++ rest) := by
  rcases begins with ⟨sentence, others, rfl, isStatement⟩
  rcases scanned_cons.1 scanned with ⟨line, below, rfl, isLine, _⟩
  rcases isLine.begins with ⟨place, first⟩
  refine .line (Nat.le_of_eq isLine.indent) ?_
  rw [first]
  exact isStatement place

/-- The block before some clauses closes with them, or behind them if there are none. -/
theorem closes_of_clauses {stage : Stage} {clauses : Clauses stage} (scanned : Scanned text (clauses.lines level) front)
    (ends : Ends (4 * level) rest) : Closes (4 * (level + 1)) (front ++ rest) := by
  cases clauses with
  | done =>
      cases scanned
      exact ends.closes_of_lt (by omega)
  | cons clause follows body others =>
      rcases scanned_append.1 scanned with ⟨_, _, rfl, headed, _⟩
      rcases scanned_cons.1 headed with ⟨line, _, rfl, isLine, _⟩
      exact .line (by rw [isLine.indent]; show 4 * level < _; omega)

/-! ## Stages -/

/-- What is known of a statement at a stage: its kind, and the rank of its last clause. -/
inductive Fits : Stage -> CompoundKind -> Nat -> Prop
  | conditional : Fits .conditional .ifStatement 0
  | forEach : Fits .loop .forStatement 0
  | whileTrue : Fits .loop .whileStatement 0
  | attempt : Fits .attempt .tryStatement 0
  | handled : Fits .handled .tryStatement 0
  | succeeded : Fits .succeeded .tryStatement 1
  | complete {owner : CompoundKind} {last : Nat} : Fits .complete owner last

theorem fits_header (header : Header) : Fits header.stage header.kind 0 := by
  cases header <;> constructor

/-- A clause that may follow by its stage may follow by its rank. -/
theorem fits_next {stage next : Stage} {owner : CompoundKind} {clause : Clause} (fits : Fits stage owner last)
    (follows : stage.next? clause = some next) :
    ∃ rank, Source.clauseRank? owner clause.kind = some rank ∧ Source.mayFollow rank last = true ∧
      Fits next owner rank := by
  cases fits with
  | _ => cases clause <;> cases follows <;> exact ⟨_, rfl, rfl, by constructor⟩

theorem header_kind (header : Header) :
    (Source.isClause header.kind && !false) = false ∧ decide (header.kind = .matchStatement) = false := by
  cases header with
  | define definition => cases definition <;> exact ⟨rfl, rfl⟩
  | conditional | forEach | whileTrue | attempt | manage => exact ⟨rfl, rfl⟩

theorem clause_kind (clause : Clause) : decide (clause.kind = .matchStatement) = false := by
  cases clause <;> rfl

theorem definition_kind (definition : Definition) :
    Source.isDefinition definition.kind = true ∧ decide (definition.kind = .matchStatement) = false := by
  cases definition <;> exact ⟨rfl, rfl⟩

theorem clauseKind?_clause (clause : Clause) (place : Text.Position) :
    Source.clauseKind? (clause.sentence.first.token place) = some clause.kind := by
  cases clause <;> rfl

/-! ## Gathering -/

variable {inMatch : Bool} {kind : CompoundKind} {phrases : List Phrase} {middle below : List Row}

/-- Items that hold references are gathered, and rows are left. -/
def GathersItems (text : List Char) (outcome : Except Fault (List Item × List Row)) (rest : List Row)
    (references : List Reference) : Prop :=
  ∃ items, outcome = .ok (items, rest) ∧ HoldsItems text items references

def GathersParts (text : List Char) (outcome : Except Fault (List Part × List Row)) (rest : List Row)
    (references : List Reference) : Prop :=
  ∃ parts, outcome = .ok (parts, rest) ∧ HoldsParts text parts references

/-- A compound statement of a kind that holds references is gathered, and rows are left. -/
def GathersCompound (text : List Char) (kind : CompoundKind) (outcome : Except Fault (Compound × List Row))
    (rest : List Row) (references : List Reference) : Prop :=
  ∃ parts, outcome = .ok (compoundOver kind parts, rest) ∧ HoldsParts text parts references

/-- The first line of some rows begins a statement of a level that is gathered. -/
def GathersStatement (text : List Char) (level limit : Nat) (front rest : List Row)
    (references : List Reference) : Prop :=
  ∃ line below, front = .line line :: below ∧ line.indent = 4 * level ∧
    GathersItems text (statementAt false (4 * level) limit line (below ++ rest)) rest references

theorem gathers_closed (closes : Closes level rest) :
    GathersItems text (blockItems inMatch level (limit + 1) rest) rest [] :=
  ⟨[], Source.blockItems_closes closes, .nil⟩

theorem gathers_line (deep : level ≤ line.indent)
    (here : GathersItems text (statementAt inMatch level limit line below) middle one)
    (further : GathersItems text (blockItems inMatch level limit middle) rest other) :
    GathersItems text (blockItems inMatch level (limit + 1) (.line line :: below)) rest (one ++ other) := by
  rcases here with ⟨items, gathered, holds⟩
  rcases further with ⟨more, gatheredMore, holdsMore⟩
  exact ⟨items ++ more, Source.blockItems_line deep gathered gatheredMore, holds.append holdsMore⟩

theorem gathers_opening (reads : line.read inMatch = .ok (.opening ⟨kind, phrases, none⟩)) (bare : line.after = [])
    (isStatement : (Source.isClause kind && !inMatch) = false)
    (gathers : GathersCompound text kind (compoundAt level limit ⟨kind, phrases, none⟩ [] below) rest references) :
    GathersItems text (statementAt inMatch level (limit + 1) line below) rest references := by
  rcases gathers with ⟨parts, gathered, holds⟩
  exact ⟨_, Source.statementAt_opening reads bare isStatement gathered, holdsItems_compound holds⟩

theorem gathers_decorator {phrase : Phrase} (reads : line.read inMatch = .ok (.decorator phrase))
    (bare : line.after = [])
    (gathers : GathersCompound text .decoratedDefinition (decorated level limit [.phrase phrase] [] below) rest
      references) :
    GathersItems text (statementAt inMatch level (limit + 1) line below) rest references := by
  rcases gathers with ⟨parts, gathered, holds⟩
  exact ⟨_, Source.statementAt_decorator reads bare gathered, holdsItems_compound holds⟩

theorem gathers_block (begins : BeginsStatement (level + 1) lines) (scanned : Scanned text lines front)
    (apart : Phrase.AllApart phrases)
    (gathers : GathersItems text (blockItems (kind = .matchStatement) (4 * (level + 1)) limit (front ++ rest)) rest
      references) :
    GathersParts text (suite (4 * level) (limit + 1) ⟨kind, phrases, none⟩ [] (front ++ rest)) rest references := by
  rcases begins with ⟨sentence, others, rfl, _⟩
  rcases scanned_cons.1 scanned with ⟨line, below, rfl, isLine, _⟩
  rcases gathers with ⟨items, gathered, holds⟩
  have deep : 4 * level < 4 * (level + 1) := by omega
  exact ⟨_, Source.suite_block isLine.indent deep gathered, holdsParts_suite apart holds⟩

/-- A compound statement is gathered if its block and its clauses are. -/
theorem gathers_compound
    (body : GathersParts text (suite level limit ⟨kind, phrases, none⟩ [] below) middle one)
    (clauses : GathersParts text (clausesAt kind level limit 0 middle) rest other) :
    GathersCompound text kind (compoundAt level (limit + 1) ⟨kind, phrases, none⟩ [] below) rest (one ++ other) := by
  rcases body with ⟨parts, gathered, holds⟩
  rcases clauses with ⟨others, gatheredOthers, holdsOthers⟩
  exact ⟨_, Source.compoundAt_suite gathered gatheredOthers, holds.append holdsOthers⟩

theorem gathers_ended {owner : CompoundKind} (ends : Ends level rest) :
    GathersParts text (clausesAt owner level (limit + 1) last rest) rest [] :=
  ⟨[], Source.clausesAt_ends ends, fun _ => .nil⟩

/-- A compound statement without clauses is gathered if its block is. -/
theorem gathers_alone (ends : Ends level rest)
    (body : GathersParts text (suite level (limit + 1) ⟨kind, phrases, none⟩ [] below) rest references) :
    GathersCompound text kind (compoundAt level (limit + 2) ⟨kind, phrases, none⟩ [] below) rest references := by
  have alone := gathers_compound body (gathers_ended ends)
  rwa [List.append_nil] at alone

theorem gathers_clause {owner : CompoundKind} {rank : Nat} (isClause : Source.clauseKind? line.first = some kind)
    (ranked : Source.clauseRank? owner kind = some rank) (follows : Source.mayFollow rank last = true)
    (deep : level ≤ line.indent) (reads : line.read false = .ok (.opening ⟨kind, phrases, none⟩))
    (bare : line.after = [])
    (here : GathersParts text (suite level limit ⟨kind, phrases, none⟩ [] below) middle one)
    (further : GathersParts text (clausesAt owner level limit rank middle) rest other) :
    GathersParts text (clausesAt owner level (limit + 1) last (.line line :: below)) rest (one ++ other) := by
  rcases here with ⟨parts, gathered, holds⟩
  rcases further with ⟨others, gatheredOthers, holdsOthers⟩
  exact ⟨_, Source.clausesAt_clause isClause ranked follows deep reads bare gathered gatheredOthers,
    (holdsParts_clause holds).append holdsOthers⟩

/-- A case is a compound statement of its own among the cases. -/
theorem gathers_case {pattern : Name} {body : Block} (isLine : IsLine text ⟨level, caseSentence pattern⟩ line)
    (scanned : Scanned text (body.lines (level + 1)) front) (ends : Ends (4 * level) rest)
    (gathers : GathersItems text (blockItems false (4 * (level + 1)) limit (front ++ rest)) rest references) :
    GathersItems text (statementAt true (4 * level) (limit + 3) line (front ++ rest)) rest references := by
  rcases read_opening (case_takes isLine.spelled) with ⟨phrases, reads, apart⟩
  have suiteGathers : GathersParts text (suite (4 * level) (limit + 1) ⟨.caseClause, phrases, none⟩ []
      (front ++ rest)) rest references :=
    gathers_block (block_begins body (level + 1)) scanned apart gathers
  exact gathers_opening reads isLine.after rfl (gathers_alone ends suiteGathers)

/-- A definition is gathered behind its decorators if it is gathered alone. -/
theorem gathers_decorated {names : List Name} {definition : Definition}
    (scanned : Scanned text (names.map fun name => ⟨level, decoratorSentence name⟩) front)
    (isLine : IsLine text ⟨level, definition.sentence⟩ line)
    (reads : line.read false = .ok (.opening ⟨definition.kind, phrases, none⟩))
    (gathers : GathersCompound text definition.kind
      (compoundAt (4 * level) limit ⟨definition.kind, phrases, none⟩ [] below) rest references)
    {before : List Part} (leads : HoldsParts text before []) :
    GathersCompound text .decoratedDefinition
      (decorated (4 * level) (limit + 1 + names.length) before [] (front ++ .line line :: below)) rest references := by
  induction names generalizing front before with
  | nil =>
      cases scanned
      rcases gathers with ⟨parts, gathered, holds⟩
      have defines := (definition_kind definition).1
      have deep := Nat.le_of_eq isLine.indent.symm
      exact ⟨_, Source.decorated_definition deep reads isLine.after defines gathered,
        leads.append (holdsParts_clause holds)⟩
  | cons name names ih =>
      rcases scanned_cons.1 scanned with ⟨first, more, rfl, here, remaining⟩
      rcases read_decorator here.spelled with ⟨phrase, decorates, apart⟩
      have phrased : HoldsParts text [.phrase phrase] [] :=
        holdsParts_phrases (Phrase.allApart_single.2 apart)
      rcases ih remaining (leads.append phrased) with ⟨parts, gathered, holds⟩
      have deep := Nat.le_of_eq here.indent.symm
      exact ⟨parts, Source.decorated_decorator deep decorates here.after gathered, holds⟩

/-- A statement of one line is gathered. -/
theorem gathers_simple {sentence : Sentence} (scanned : Scanned text [⟨level, sentence⟩] front)
    (takes : ∀ line, IsLine text ⟨level, sentence⟩ line ->
      Source.Reader.Takes (Source.Reader.line false) line.tokens [] (HoldsStatement text references))
    (enough : 4 * front.length ≤ limit) : GathersStatement text level limit front rest references := by
  rcases scanned_cons.1 scanned with ⟨line, _, rfl, isLine, none⟩
  cases none
  rcases read_statement (takes line isLine) with ⟨item, reads, stated, sound⟩
  cases limit with
  | zero => exact absurd enough (by simp)
  | succ limit =>
      exact ⟨line, [], rfl, isLine.indent, _, Source.statementAt_statements reads isLine.after,
        holdsItems_statement stated sound⟩

mutual

/-- The rows of a statement are gathered into items that hold its references. -/
theorem statement_gathers (text : List Char) : (statement : Statement) -> (limit : Nat) -> {level : Nat} ->
    {front rest : List Row} -> Scanned text (statement.lines level) front -> Ends (4 * level) rest ->
    4 * front.length ≤ limit -> GathersStatement text level limit front rest statement.references
  | .pass, limit, level, front, rest, scanned, ends, enough => by
      apply gathers_simple scanned _ enough
      exact fun line isLine => pass_takes isLine.spelled
  | .importModules first more, limit, level, front, rest, scanned, ends, enough => by
      apply gathers_simple scanned _ enough
      exact fun line isLine => importModules_takes isLine.spelled isLine.covers
  | .importFrom origin selection, limit, level, front, rest, scanned, ends, enough => by
      apply gathers_simple scanned _ enough
      exact fun line isLine => importFrom_takes isLine.spelled isLine.chain isLine.covers
  | .compound header body clauses, limit, level, front, rest, scanned, ends, enough => by
      rcases scanned_append.1 scanned with ⟨_, clauseRows, rfl, headed, clausesScanned⟩
      rcases scanned_cons.1 headed with ⟨line, bodyRows, rfl, isLine, bodyScanned⟩
      rcases read_opening (header_takes isLine.spelled) with ⟨phrases, reads, apart⟩
      simp only [List.length_append, List.length_cons] at enough
      obtain ⟨limit, rfl⟩ : ∃ less, limit = less + 3 := ⟨limit - 3, by omega⟩
      have bodyGathers := block_gathers text body limit bodyScanned (closes_of_clauses clausesScanned ends) (by omega)
      have clausesGather := clauses_gather text clauses (limit + 1) (fits_header header) clausesScanned ends (by omega)
      have kind := header_kind header
      rw [← kind.2] at bodyGathers
      have suiteGathers := gathers_block (block_begins body (level + 1)) bodyScanned apart bodyGathers
      refine ⟨line, bodyRows ++ clauseRows, rfl, isLine.indent, ?_⟩
      rw [List.append_assoc]
      exact gathers_opening reads isLine.after kind.1 (gathers_compound suiteGathers clausesGather)
  | .decorated first more definition body, limit, level, front, rest, scanned, ends, enough => by
      rcases scanned_append.1 scanned with ⟨_, definedRows, rfl, decoratedRows, definedScanned⟩
      rcases scanned_cons.1 decoratedRows with ⟨line, moreRows, rfl, isLine, moreScanned⟩
      rcases scanned_cons.1 definedScanned with ⟨defining, bodyRows, rfl, isDefining, bodyScanned⟩
      rcases read_decorator isLine.spelled with ⟨phrase, decorates, apart⟩
      rcases read_opening (definition_takes isDefining.spelled) with ⟨phrases, reads, allApart⟩
      have count : more.length = moreRows.length := by simpa using moreScanned.length_eq
      simp only [List.length_append, List.length_cons, ← count] at enough
      obtain ⟨limit, rfl⟩ : ∃ less, limit = less + 2 + 1 + more.length + 1 :=
        ⟨limit - more.length - 4, by omega⟩
      have bodyGathers := block_gathers text body limit bodyScanned (ends.closes_of_lt (by omega)) (by omega)
      rw [← (definition_kind definition).2] at bodyGathers
      have suiteGathers := gathers_block (block_begins body (level + 1)) bodyScanned allApart bodyGathers
      have phrased : HoldsParts text [.phrase phrase] [] := holdsParts_phrases (Phrase.allApart_single.2 apart)
      have decoratedGathers := gathers_decorated moreScanned isDefining reads (gathers_alone ends suiteGathers) phrased
      refine ⟨line, moreRows ++ .line defining :: bodyRows, rfl, isLine.indent, ?_⟩
      rw [List.append_assoc]
      exact gathers_decorator decorates isLine.after decoratedGathers
  | .choice subject cases, limit, level, front, rest, scanned, ends, enough => by
      rcases scanned_cons.1 scanned with ⟨line, caseRows, rfl, isLine, casesScanned⟩
      rcases read_opening (choice_takes isLine.spelled) with ⟨phrases, reads, apart⟩
      simp only [List.length_cons] at enough
      obtain ⟨limit, rfl⟩ : ∃ less, limit = less + 3 := ⟨limit - 3, by omega⟩
      have casesGather := cases_gather text cases limit casesScanned (ends.closes_of_lt (by omega)) (by omega)
      have suiteGathers : GathersParts text (suite _ _ ⟨.matchStatement, phrases, none⟩ [] (caseRows ++ rest)) _ _ :=
        gathers_block (cases_begins cases (level + 1)) casesScanned apart casesGather
      exact ⟨line, _, rfl, isLine.indent, gathers_opening reads isLine.after rfl (gathers_alone ends suiteGathers)⟩

/-- The rows of a block are gathered into items that hold its references. -/
theorem block_gathers (text : List Char) : (block : Block) -> (limit : Nat) -> {level : Nat} ->
    {front rest : List Row} -> Scanned text (block.lines level) front -> Closes (4 * level) rest ->
    4 * front.length + 1 ≤ limit ->
    GathersItems text (blockItems false (4 * level) limit (front ++ rest)) rest block.references
  | .last statement, limit, level, front, rest, scanned, closes, enough => by
      cases limit with
      | zero => cases enough
      | succ limit =>
          rcases statement_gathers text statement limit scanned (.closes closes) (by omega)
            with ⟨line, below, rfl, indent, gathers⟩
          cases limit with
          | zero => simp at enough
          | succ limit =>
              have alone := gathers_line (Nat.le_of_eq indent.symm) gathers (gathers_closed closes)
              rwa [List.append_nil] at alone
  | .cons statement others, limit, level, front, rest, scanned, closes, enough => by
      rcases scanned_append.1 scanned with ⟨front, behind, rfl, here, further⟩
      rw [List.length_append] at enough
      cases limit with
      | zero => cases enough
      | succ limit =>
          have ends : Ends (4 * level) (behind ++ rest) := ends_of_begins (block_begins others level) further
          rcases statement_gathers text statement limit here ends (by omega) with ⟨line, below, rfl, indent, gathers⟩
          rw [List.length_cons] at enough
          have othersGather := block_gathers text others limit further closes (by omega)
          rw [List.append_assoc]
          exact gathers_line (Nat.le_of_eq indent.symm) gathers othersGather

/-- The rows of clauses are gathered into parts that hold their references. -/
theorem clauses_gather (text : List Char) : {stage : Stage} -> (clauses : Clauses stage) -> (limit : Nat) ->
    {owner : CompoundKind} -> {last level : Nat} -> {front rest : List Row} -> Fits stage owner last ->
    Scanned text (clauses.lines level) front -> Ends (4 * level) rest -> 4 * front.length + 1 ≤ limit ->
    GathersParts text (clausesAt owner (4 * level) limit last (front ++ rest)) rest clauses.references
  | _, .done _, limit, owner, last, level, front, rest, fits, scanned, ends, enough => by
      cases scanned
      cases limit with
      | zero => cases enough
      | succ limit => exact gathers_ended ends
  | _, .cons clause follows body others, limit, owner, last, level, front, rest, fits, scanned, ends, enough => by
      rcases scanned_append.1 scanned with ⟨_, otherRows, rfl, headed, othersScanned⟩
      rcases scanned_cons.1 headed with ⟨line, bodyRows, rfl, isLine, bodyScanned⟩
      rcases read_opening (clause_takes isLine.spelled) with ⟨phrases, reads, apart⟩
      rcases fits_next fits follows with ⟨rank, ranked, mayFollow, fitsNext⟩
      simp only [List.length_append, List.length_cons] at enough
      obtain ⟨limit, rfl⟩ : ∃ less, limit = less + 2 := ⟨limit - 2, by omega⟩
      have bodyGathers := block_gathers text body limit bodyScanned (closes_of_clauses othersScanned ends) (by omega)
      have othersGather := clauses_gather text others (limit + 1) fitsNext othersScanned ends (by omega)
      rw [← clause_kind clause] at bodyGathers
      have suiteGathers := gathers_block (block_begins body (level + 1)) bodyScanned apart bodyGathers
      have isClause : Source.clauseKind? line.first = some clause.kind := by
        rcases isLine.begins with ⟨place, first⟩
        rw [first]
        exact clauseKind?_clause clause place
      rw [List.append_assoc]
      exact gathers_clause isClause ranked mayFollow (Nat.le_of_eq isLine.indent.symm) reads isLine.after
        suiteGathers othersGather

/-- The rows of cases are gathered into items that hold their references. -/
theorem cases_gather (text : List Char) : (cases : Cases) -> (limit : Nat) -> {level : Nat} ->
    {front rest : List Row} -> Scanned text (cases.lines level) front -> Closes (4 * level) rest ->
    4 * front.length + 1 ≤ limit ->
    GathersItems text (blockItems true (4 * level) limit (front ++ rest)) rest cases.references
  | .last pattern body, limit, level, front, rest, scanned, closes, enough => by
      rcases scanned_cons.1 scanned with ⟨line, bodyRows, rfl, isLine, bodyScanned⟩
      rw [List.length_cons] at enough
      obtain ⟨limit, rfl⟩ : ∃ less, limit = less + 4 := ⟨limit - 4, by omega⟩
      have bodyGathers := block_gathers text body limit bodyScanned
        ((Ends.closes closes).closes_of_lt (by omega)) (by omega)
      have gathers := gathers_case isLine bodyScanned (.closes closes) bodyGathers
      have alone := gathers_line (Nat.le_of_eq isLine.indent.symm) gathers (gathers_closed closes)
      rwa [List.append_nil] at alone
  | .cons pattern body others, limit, level, front, rest, scanned, closes, enough => by
      rcases scanned_append.1 scanned with ⟨_, behind, rfl, here, further⟩
      rcases scanned_cons.1 here with ⟨line, bodyRows, rfl, isLine, bodyScanned⟩
      rw [List.length_append, List.length_cons] at enough
      obtain ⟨limit, rfl⟩ : ∃ less, limit = less + 4 := ⟨limit - 4, by omega⟩
      have ends : Ends (4 * level) (behind ++ rest) := ends_of_begins (cases_begins others level) further
      have bodyGathers := block_gathers text body limit bodyScanned (ends.closes_of_lt (by omega)) (by omega)
      have othersGather := cases_gather text others (limit + 3) further closes (by omega)
      have gathers := gathers_case isLine bodyScanned ends bodyGathers
      rw [List.append_assoc]
      exact gathers_line (Nat.le_of_eq isLine.indent.symm) gathers othersGather

end

end Skeleton
end ImportCensus

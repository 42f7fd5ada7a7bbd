import ImportCensus.Proofs.Skeleton.Imports
import ImportCensus.Proofs.Source.Statement

namespace ImportCensus
namespace Skeleton

open Imports (Reference importedModule importedNames referencesOf)
open Source (Document Item LexemeKind Opening Phrase Reading Shows Token)
open Source.Reader (CommaTokens Listed Takes)
open Syntax (CompoundKind Role Tree)

/-!
# Reading printed lines

Each form of printed line is read as what it was printed for: an import statement or
`pass` as a single simple statement with its references, a header or a clause as the
opening of a compound statement of its kind with nothing behind the colon, and a
decorator as a decorator.
-/

variable {text : List Char} {words : List Word} {tokens rest : List Token}

/-- A line is read by what takes all of its tokens. -/
theorem read_of_takes {inMatch : Bool} {line : Source.Line} {good : Reading -> Prop}
    (takes : Takes (Source.Reader.line inMatch) line.tokens [] good) :
    ∃ reading, line.read inMatch = .ok reading ∧ good reading := by
  rcases takes line.first.span.start with ⟨reading, place, reads, holds⟩
  rw [List.append_nil] at reads
  refine ⟨reading, ?_, holds⟩
  rw [Source.Line.read, reads]
  rfl

theorem spells_nil : Spells [] tokens ↔ tokens = [] := List.forall₂_nil_left_iff

/-! ## Simple statements -/

/-- A simple statement of today's language with its references. -/
structure Stated (text : List Char) (references : List Reference) (item : Item) : Prop where
  simple : ∃ kind span parts, item = .simple kind span parts ∧ Source.legacy? (.simple kind) = none
  found : ∀ root, referencesOf ⟨text, root⟩ item.tree = references

/-- A line holds a single simple statement. -/
def HoldsStatement (text : List Char) (references : List Reference) (reading : Reading) : Prop :=
  ∃ item, reading = .statements [item] ∧ Stated text references item

/-- A line that is neither a decorator nor a header holds simple statements. -/
theorem statement_takes {references : List Reference} {first : Token}
    (noDecorator : first.is .symbol "@" = false)
    (noHeader : ∀ behind, Source.Reader.header? ⟨behind, first :: tokens⟩ = .ok (none, ⟨behind, first :: tokens⟩))
    (takes : Takes Source.Reader.simpleStatement (first :: tokens) [] (Stated text references)) :
    Takes (Source.Reader.line false) (first :: tokens) [] (HoldsStatement text references) := by
  refine .ifMissing noDecorator ?_
  refine .ask none ?_ ?_
  · rw [List.append_nil]
    exact noHeader
  have single : Takes Source.Reader.statements (first :: tokens) [] fun items =>
      ∃ item, items = [item] ∧ Stated text references item := by
    refine .counted (.last takes ?_)
    intro item stated
    exact .ask true (fun _ => rfl) (.pure ⟨item, rfl, stated⟩)
  refine .last single ?_
  rintro _ ⟨item, rfl, stated⟩
  exact .pure ⟨item, rfl, stated⟩

theorem pass_takes (spelled : Spells passSentence.words tokens) :
    Takes (Source.Reader.line false) tokens [] (HoldsStatement text []) := by
  rcases spells_cons.1 spelled with ⟨place, _, rfl, none⟩
  cases none
  exact fun behind => ⟨_, _, rfl, _, rfl, ⟨_, _, _, rfl, rfl⟩, fun _ => rfl⟩

theorem importModules_takes {first : Renamed} {more : List Renamed}
    (spelled : Spells (importSentence first more).words tokens) (covers : ∀ token ∈ tokens, Covers text token) :
    Takes (Source.Reader.line false) tokens []
      (HoldsStatement text ((first :: more).map Renamed.reference)) := by
  rcases spells_cons.1 spelled with ⟨place, names, rfl, listed⟩
  rw [List.forall_mem_cons] at covers
  refine statement_takes rfl (fun _ => rfl) (.ask (some _) (fun _ => rfl) ?_)
  show Takes Source.Reader.importModules _ _ _
  refine .step (Source.Reader.expect_takes rfl) ?_
  rintro _ rfl
  refine .last (importedNames_takes listed covers.2 endsList_nil) ?_
  rintro _ ⟨head, others, rfl, reads, behind⟩
  have children := (trees_list reads behind).1
  exact .pure ⟨⟨_, _, _, rfl, rfl⟩, fun root => directReferences_renamed children⟩

/-- The children of a from-import: between two keywords the module, and then the names. -/
theorem from_children (span : Text.Span) {head link : Token} {module : Phrase} (names : List Phrase)
    (bare : head.before = [] ∧ link.before = []) (lead : module.lead = []) :
    (Item.simple .importFrom span
      (.leaf none head :: .inRole .moduleName module :: .leaf none link :: names)).tree.children =
      (Phrase.leaf none head).tree none :: module.tree (some .moduleName) ::
        (Phrase.leaf none link).tree none :: Phrase.trees names := by
  have none : ∀ token : Token, token.before = [] -> (Phrase.leaf none token).lead = [] := fun _ same => same
  have within : (Phrase.inRole .moduleName module).lead = [] := lead
  rw [Item.tree, if_neg (by decide), Tree.children, Phrase.trees, Phrase.trees, Phrase.trees,
    none head bare.1, within, none link bare.2]
  rfl

theorem referencesOf_importFrom {document : Document} {tree : Tree} (kind : tree.kind = .simple .importFrom) :
    referencesOf document tree =
      [.names (importedModule document tree).1 (importedModule document tree).2 (importedNames document tree)] := by
  unfold referencesOf
  rw [kind]

/-- A from-import refers to what its module and its names say. -/
theorem from_found {origin : Origin} {span : Text.Span} {head link : Token} {module : Phrase}
    {parts : List Phrase} {names : List String} (bare : head.before = [] ∧ link.before = [])
    (reads : OriginAs text origin module) (common : ∀ tree ∈ Phrase.trees parts, tree.role ≠ some .moduleName)
    (named : ∀ root around, around.children = (Phrase.leaf none head).tree none ::
      module.tree (some .moduleName) :: (Phrase.leaf none link).tree none :: Phrase.trees parts ->
        importedNames ⟨text, root⟩ around = names) :
    ∀ root, referencesOf ⟨text, root⟩ (Item.simple .importFrom span
      (.leaf none head :: .inRole .moduleName module :: .leaf none link :: parts)).tree =
        [.names origin.module? origin.level names] := by
  intro root
  have children := from_children span parts bare reads.1
  have modules : (Item.simple .importFrom span (.leaf none head :: .inRole .moduleName module ::
      .leaf none link :: parts)).tree.childrenIn .moduleName = [module.tree (some .moduleName)] := by
    have role : ((module.tree (some .moduleName)).role == some Role.moduleName) = true := by
      rw [reads.2.role]
      rfl
    have others : (Phrase.trees parts).filter (fun tree => tree.role == some Role.moduleName) = [] := by
      rw [List.filter_eq_nil_iff]
      intro tree member
      simpa using common tree member
    rw [Tree.childrenIn, children, List.filter_cons_of_neg (by exact Bool.false_ne_true), List.filter_cons, if_pos role,
      List.filter_cons_of_neg (by exact Bool.false_ne_true), others]
  have origins := reads.2.names root _ modules
  rw [referencesOf_importFrom rfl, origins, named root _ children]

/-- No module of a skeleton is the one that stands for later dialects. -/
theorem origin_ordinary {origin : Origin} (spelled : Spells origin.words tokens) :
    Shows .name "__future__" (tokens ++ rest) = false := by
  cases origin with
  | absolute module =>
      rcases spells_cons.1 spelled with ⟨place, _, rfl, _⟩
      have other : module.first.text ≠ "__future__" := by
        intro same
        exact module.first.notSpecial (by simp [same, specialNames])
      exact beq_eq_false_iff_ne.2 other
  | relative more module =>
      rcases spells_append.1 spelled with ⟨_, _, rfl, dotted, _⟩
      rcases spells_cons.1 dotted with ⟨_, _, rfl, _⟩
      rfl

/-- A star stands for all names. -/
theorem names_everything {root around : Tree} (star : Token)
    (stands : (Phrase.build .wildcardImport (.leaf none star) []).tree none ∈ around.children) :
    importedNames ⟨text, root⟩ around = ["*"] := by
  have starred : (around.namedChildren.any fun child => child.kind == .phrase .wildcardImport) = true :=
    List.any_eq_true.2 ⟨_, List.mem_filter.2 ⟨stands, rfl⟩, rfl⟩
  unfold importedNames
  rw [if_pos starred]

/-- The names of members are those that are printed. -/
theorem names_members {first : Member} {more : List Member} {parts : List Phrase} {head : Phrase}
    {root around module : Tree} {front link : Token} (reads : ReadAs text first.renamed head)
    (listed : Listed (ReadAs text) (more.map Member.renamed) parts)
    (role : module.role = some .moduleName) (kind : module.kind ≠ .phrase .wildcardImport)
    (children : around.children = (Phrase.leaf none front).tree none :: module ::
      (Phrase.leaf none link).tree none :: Phrase.trees (head :: parts)) :
    importedNames ⟨text, root⟩ around = (first :: more).map fun member => member.name.text := by
  have trees := trees_list reads listed
  have noName : ¬ (module.role == some Role.name) = true := by
    rw [role]
    decide
  have named : List.Forall₂ (IsRenamed text) ((first :: more).map Member.renamed) (around.childrenIn .name) := by
    rw [Tree.childrenIn, children, List.filter_cons_of_neg (by exact Bool.false_ne_true), List.filter_cons, if_neg noName,
      List.filter_cons_of_neg (by exact Bool.false_ne_true)]
    exact trees.1
  have noStar : ∀ child ∈ around.children, child.kind ≠ .phrase .wildcardImport := by
    rw [children]
    refine List.forall_mem_cons.2 ⟨isCommon_leaf.kind, List.forall_mem_cons.2 ⟨kind, ?_⟩⟩
    exact List.forall_mem_cons.2 ⟨isCommon_leaf.kind, fun tree member => (trees.2 tree member).kind⟩
  rw [importedNames_renamed named noStar, List.map_map]
  rfl

theorem importFrom_takes {origin : Origin} {selection : Selection}
    (spelled : Spells (fromSentence origin selection).words tokens)
    (chain : List.IsChain (Beside text) tokens) (covers : ∀ token ∈ tokens, Covers text token) :
    Takes (Source.Reader.line false) tokens []
      (HoldsStatement text [.names origin.module? origin.level selection.names]) := by
  rcases spells_cons.1 spelled with ⟨place, _, rfl, behind⟩
  rcases spells_append.1 behind with ⟨before, _, rfl, module, behind⟩
  rcases spells_cons.1 behind with ⟨link, selected, rfl, names⟩
  rw [List.forall_mem_cons, List.forall_mem_append, List.forall_mem_cons] at covers
  have ordinary : Shows .name "__future__"
      ((before ++ (Word.keyword "import" (by decide)).token link :: selected) ++ []) = false := by
    rw [List.append_assoc]
    exact origin_ordinary module
  have origins : Takes Source.Reader.importedModule before
      ((Word.keyword "import" (by decide)).token link :: selected ++ []) (OriginAs text origin) :=
    importedModule_takes module chain.tail.left_of_append covers.2.1 ⟨rfl, rfl⟩
  refine statement_takes rfl (fun _ => rfl) (.ask (some _) (fun _ => rfl) ?_)
  show Takes Source.Reader.importFrom _ _ _
  refine .step (Source.Reader.expect_takes rfl) ?_
  rintro _ rfl
  refine .ifMissing ordinary ?_
  refine .bind (Source.Reader.inRole_takes origins) ?_
  rintro _ ⟨inner, rfl, reads⟩
  refine .step (Source.Reader.expect_takes rfl) ?_
  rintro _ rfl
  cases selection with
  | everything =>
      rcases spells_cons.1 names with ⟨star, _, rfl, none⟩
      cases none
      refine .ifShown rfl (.last Source.Reader.plain_takes ?_)
      rintro _ rfl
      refine .pure ⟨⟨_, _, _, rfl, rfl⟩, from_found ⟨rfl, rfl⟩ reads ?_ ?_⟩
      · exact List.forall_mem_singleton.2 nofun
      · intro root around children
        refine names_everything ((Word.mark .star).token star) ?_
        rw [children]
        simp [Phrase.trees]
  | members first more =>
      have listed : Spells (first.renamed.words ++ behindCommas ((more.map Member.renamed).map Renamed.words))
          selected := by
        rw [List.map_map]
        exact names
      have noMark : ∀ text, Shows .symbol text (selected ++ []) = false := by
        intro text
        rcases spells_cons.1 listed with ⟨_, _, rfl, _⟩
        rfl
      have takes := importedNames_takes listed covers.2.2.2 endsList_nil
      refine .ifMissing (noMark "*") (.last (.ifMissing (noMark "(") takes) ?_)
      rintro _ ⟨head, others, rfl, first, more⟩
      refine .pure ⟨⟨_, _, _, rfl, rfl⟩, from_found ⟨rfl, rfl⟩ reads ?_ ?_⟩
      · exact fun tree member => ((trees_list first more).2 tree member).role
      · exact fun root around children => names_members first more reads.2.role reads.2.kind children

/-! ## Headers and clauses -/

def Definition.kind : Definition -> CompoundKind
  | .function _ _ _ => .functionDefinition
  | .classOf _ => .classDefinition

def Header.kind : Header -> CompoundKind
  | .conditional _ => .ifStatement
  | .forEach _ _ _ => .forStatement
  | .whileTrue _ => .whileStatement
  | .attempt => .tryStatement
  | .manage _ _ _ => .withStatement
  | .define definition => definition.kind

def Clause.kind : Clause -> CompoundKind
  | .elseIf _ => .elifClause
  | .otherwise => .elseClause
  | .handler | .handlerOf _ _ => .exceptClause
  | .atLast => .finallyClause

/-- A line that opens a compound statement or clause, with nothing behind its colon. -/
def Opens (kind : CompoundKind) (reading : Reading) : Prop :=
  ∃ parts, reading = .opening ⟨kind, parts, none⟩

/-- The tokens of a parameter. -/
def IsParameter (name : Name) (tokens : List Token) : Prop := Spells [name.word] tokens

/-- What may follow a parameter: neither an annotation nor a default. -/
def EndsParameter (behind : List Token) : Prop :=
  Shows .symbol ":" behind = false ∧ Shows .symbol "=" behind = false

theorem parameter_takes {name : Name} (is : IsParameter name tokens) (ends : EndsParameter rest) :
    Takes (Source.Reader.parameter Source.Reader.expression true) tokens rest fun _ => True := by
  simp only [IsParameter, spells_cons, spells_nil] at is
  rcases is with ⟨place, _, rfl, rfl⟩
  refine .ifMissing rfl (.ifMissing rfl (.ifMissing rfl
    (.ifMissing rfl ?_)))
  refine .last (Source.Reader.identifier_takes rfl) ?_
  rintro _ rfl
  refine .ifMissing ends.1 (.ifMissing ends.2 (.pure trivial))

theorem parameter_begins {name : Name} {behind : List Token} (is : IsParameter name tokens) :
    (tokens ++ behind).head?.any Source.Reader.startsParameter = true := by
  rcases spells_cons.1 is with ⟨place, _, rfl, _⟩
  rfl

theorem endsParameter_comma {sign : Token} {behind : List Token} (is : sign.is .symbol "," = true) :
    EndsParameter (sign :: behind) := by
  unfold Token.is at is
  rw [Bool.and_eq_true, beq_iff_eq, beq_iff_eq] at is
  simp [EndsParameter, Shows, Token.is, is.1, is.2]

theorem commaTokens_parameters {parameters : List Name}
    (spelled : Spells (behindCommas (parameters.map fun name => [name.word])) tokens) :
    CommaTokens IsParameter parameters tokens := by
  induction parameters generalizing tokens with
  | nil =>
      cases spelled
      exact .nil
  | cons first others ih =>
      rcases spells_cons.1 spelled with ⟨place, _, rfl, behind⟩
      rcases spells_append.1 behind with ⟨here, later, rfl, named, remaining⟩
      exact .cons rfl named (ih remaining)

theorem parameterList_takes {parameters : List Name}
    (spelled : Spells (.mark .opening :: parameterWords parameters ++ [.mark .closing]) tokens) :
    Takes Source.Reader.parameterList tokens rest fun _ => True := by
  rcases spells_cons.1 spelled with ⟨place, _, rfl, behind⟩
  rcases spells_append.1 behind with ⟨within, _, rfl, listed, closing⟩
  rcases spells_cons.1 closing with ⟨stop, _, rfl, none⟩
  cases none
  refine .step (Source.Reader.expect_takes rfl) ?_
  rintro opening -
  cases parameters with
  | nil =>
      cases listed
      refine .ask true (fun _ => rfl) (.given ?_)
      exact .last (Source.Reader.expect_takes rfl) fun _ _ => .pure trivial
  | cons first more =>
      rcases spells_cons.1 listed with ⟨start, others, rfl, commas⟩
      refine .ask false (fun _ => rfl) ?_
      have reads : ∀ name here behind, IsParameter name here -> EndsParameter behind ->
          Takes (Source.Reader.parameter Source.Reader.expression true) here behind fun _ => True :=
        fun _ _ _ => parameter_takes
      refine .bind (Source.Reader.commaList_takes reads (fun _ _ _ => parameter_begins)
        (fun _ _ => endsParameter_comma) (.cons ⟨start, rfl⟩ .nil) (commaTokens_parameters commas)
        ⟨rfl, rfl⟩ rfl) ?_
      rintro parts -
      exact .last (Source.Reader.expect_takes rfl) fun _ _ => .pure trivial

/-- The header of a function, behind the mark of an asynchronous one. -/
theorem functionHeader_takes {name : Name} {parameters : List Name} (marks : List Token)
    (spelled : Spells (.keyword "def" (by decide) :: name.word ::
      ((.mark .opening :: parameterWords parameters ++ [.mark .closing]) ++ [.mark .colon])) tokens)
    (marked : Takes (Source.Reader.word? "async") marks (tokens ++ []) fun _ => True) :
    Takes Source.Reader.functionHeader (marks ++ tokens) [] fun _ => True := by
  refine .bind marked ?_
  rintro async -
  rcases spells_cons.1 spelled with ⟨place, _, rfl, behind⟩
  refine .step (Source.Reader.expect_takes rfl) ?_
  rintro head -
  rcases spells_cons.1 behind with ⟨start, _, rfl, bracketed⟩
  refine .step (Source.Reader.inRole_takes (Source.Reader.identifier_takes rfl)) ?_
  rintro naming -
  rcases spells_append.1 bracketed with ⟨list, _, rfl, within, last⟩
  rcases spells_cons.1 last with ⟨stop, _, rfl, none⟩
  cases none
  have noTypes : Shows .symbol "[" ((list ++ [(Word.mark .colon).token stop]) ++ []) = false := by
    rcases spells_cons.1 within with ⟨_, _, rfl, _⟩
    rfl
  refine .ask false (fun behind => by rw [← noTypes]; rfl) ?_
  refine .given ?_
  refine .bind (parameterList_takes within) ?_
  rintro parts -
  refine .ask false (fun _ => rfl) (.given ?_)
  exact .last (Source.Reader.expect_takes rfl) fun _ _ => .pure trivial

/-- A header that is read opens its line. -/
theorem opening_takes {kind : CompoundKind} {first : Token} (noDecorator : first.is .symbol "@" = false)
    (takes : Takes Source.Reader.header? (first :: tokens) [] fun found =>
      ∃ parts, found = some (kind, parts)) :
    Takes (Source.Reader.line false) (first :: tokens) [] (Opens kind) := by
  refine .ifMissing noDecorator (.last takes ?_)
  rintro _ ⟨parts, rfl⟩
  exact .ask true (fun _ => rfl) (.pure ⟨parts, rfl⟩)

/-- The words of a sentence that may begin with the mark of an asynchronous statement. -/
theorem words_asyncSentence {async : Bool} {first : Word} {more : List Word}
    (balanced : (first :: more).foldl Word.depthBehind 0 = 0) :
    (asyncSentence async first more balanced).words =
      (if async then [.keyword "async" (by decide)] else []) ++ first :: more := by
  cases async <;> rfl

theorem function_takes {name : Name} {parameters : List Name} {async : Bool}
    (spelled : Spells (Definition.function async name parameters).sentence.words tokens) :
    Takes (Source.Reader.line false) tokens [] (Opens .functionDefinition) := by
  have parted : name.word :: .mark .opening :: parameterWords parameters ++ [.mark .closing, .mark .colon] =
      name.word :: ((.mark .opening :: parameterWords parameters ++ [.mark .closing]) ++ [.mark .colon]) := by
    simp
  rw [Definition.sentence, words_asyncSentence, parted] at spelled
  cases async with
  | false =>
      have header := functionHeader_takes [] spelled ?_
      · rcases spells_cons.1 spelled with ⟨place, _, rfl, _⟩
        refine opening_takes rfl (.ask (some _) (fun _ => rfl) ?_)
        exact .last header fun parts _ => .pure ⟨parts, rfl⟩
      · rcases spells_cons.1 spelled with ⟨place, _, rfl, _⟩
        exact .ifMissing rfl (.pure trivial)
  | true =>
      rcases spells_cons.1 spelled with ⟨mark, _, rfl, behind⟩
      have header := functionHeader_takes [(Word.keyword "async" (by decide)).token mark] behind ?_
      · rcases spells_cons.1 behind with ⟨place, _, rfl, _⟩
        refine opening_takes rfl (.ask (some _) (fun _ => rfl) ?_)
        refine .ask false (fun _ => rfl) (.ask false (fun _ => rfl)
          (.ask true (fun _ => rfl) ?_))
        exact .last header fun parts _ => .pure ⟨parts, rfl⟩
      · refine .ifShown rfl ?_
        exact .last Source.Reader.plain_takes fun _ _ => .pure trivial

theorem definition_takes {definition : Definition} (spelled : Spells definition.sentence.words tokens) :
    Takes (Source.Reader.line false) tokens [] (Opens definition.kind) := by
  cases definition with
  | function async name parameters => exact function_takes spelled
  | classOf name =>
      simp only [Definition.sentence, Sentence.words, spells_cons, spells_nil] at spelled
      rcases spelled with ⟨_, _, rfl, _, _, rfl, _, _, rfl, rfl⟩
      exact fun _ => ⟨_, _, rfl, _, rfl⟩

theorem manage_takes {async : Bool} {manager : Name} {rename : Option Name}
    (spelled : Spells (Header.manage async manager rename).sentence.words tokens) :
    Takes (Source.Reader.line false) tokens [] (Opens .withStatement) := by
  rw [Header.sentence, words_asyncSentence] at spelled
  cases async with
  | false =>
      simp only [Bool.false_eq_true, if_false, List.cons_append, List.nil_append, spells_cons] at spelled
      cases rename with
      | none =>
          simp only [labelWords, List.nil_append, spells_cons, spells_nil] at spelled
          rcases spelled with ⟨_, _, rfl, _, _, rfl, _, _, rfl, rfl⟩
          exact fun _ => ⟨_, _, rfl, _, rfl⟩
      | some name =>
          simp only [labelWords, List.cons_append, List.nil_append, spells_cons, spells_nil] at spelled
          rcases spelled with ⟨_, _, rfl, _, _, rfl, _, _, rfl, _, _, rfl, _, _, rfl, rfl⟩
          exact fun _ => ⟨_, _, rfl, _, rfl⟩
  | true =>
      simp only [if_true, List.cons_append, List.nil_append, spells_cons] at spelled
      cases rename with
      | none =>
          simp only [labelWords, List.nil_append, spells_cons, spells_nil] at spelled
          rcases spelled with ⟨_, _, rfl, _, _, rfl, _, _, rfl, _, _, rfl, rfl⟩
          exact fun _ => ⟨_, _, rfl, _, rfl⟩
      | some name =>
          simp only [labelWords, List.cons_append, List.nil_append, spells_cons, spells_nil] at spelled
          rcases spelled with ⟨_, _, rfl, _, _, rfl, _, _, rfl, _, _, rfl, _, _, rfl, _, _, rfl, rfl⟩
          exact fun _ => ⟨_, _, rfl, _, rfl⟩

theorem header_takes {header : Header} (spelled : Spells header.sentence.words tokens) :
    Takes (Source.Reader.line false) tokens [] (Opens header.kind) := by
  cases header with
  | conditional _ | whileTrue _ =>
      simp only [Header.sentence, Sentence.words, spells_cons, spells_nil] at spelled
      rcases spelled with ⟨_, _, rfl, _, _, rfl, _, _, rfl, rfl⟩
      exact fun _ => ⟨_, _, rfl, _, rfl⟩
  | forEach async target source =>
      cases async with
      | false =>
          simp only [Header.sentence, asyncSentence, Sentence.words, Bool.false_eq_true, if_false,
            spells_cons, spells_nil] at spelled
          rcases spelled with ⟨_, _, rfl, _, _, rfl, _, _, rfl, _, _, rfl, _, _, rfl, rfl⟩
          exact fun _ => ⟨_, _, rfl, _, rfl⟩
      | true =>
          simp only [Header.sentence, asyncSentence, Sentence.words, if_true, spells_cons, spells_nil] at spelled
          rcases spelled with ⟨_, _, rfl, _, _, rfl, _, _, rfl, _, _, rfl, _, _, rfl, _, _, rfl, rfl⟩
          exact fun _ => ⟨_, _, rfl, _, rfl⟩
  | attempt =>
      simp only [Header.sentence, Sentence.words, spells_cons, spells_nil] at spelled
      rcases spelled with ⟨_, _, rfl, _, _, rfl, rfl⟩
      exact fun _ => ⟨_, _, rfl, _, rfl⟩
  | manage async manager rename => exact manage_takes spelled
  | define definition => exact definition_takes spelled

theorem clause_takes {clause : Clause} (spelled : Spells clause.sentence.words tokens) :
    Takes (Source.Reader.line false) tokens [] (Opens clause.kind) := by
  cases clause with
  | elseIf condition =>
      simp only [Clause.sentence, Sentence.words, spells_cons, spells_nil] at spelled
      rcases spelled with ⟨_, _, rfl, _, _, rfl, _, _, rfl, rfl⟩
      exact fun _ => ⟨_, _, rfl, _, rfl⟩
  | otherwise | handler | atLast =>
      simp only [Clause.sentence, Sentence.words, spells_cons, spells_nil] at spelled
      rcases spelled with ⟨_, _, rfl, _, _, rfl, rfl⟩
      exact fun _ => ⟨_, _, rfl, _, rfl⟩
  | handlerOf caught rename =>
      cases rename with
      | none =>
          simp only [Clause.sentence, labelWords, Sentence.words, List.cons_append, List.nil_append,
            spells_cons, spells_nil] at spelled
          rcases spelled with ⟨_, _, rfl, _, _, rfl, _, _, rfl, rfl⟩
          exact fun _ => ⟨_, _, rfl, _, rfl⟩
      | some name =>
          simp only [Clause.sentence, labelWords, Sentence.words, List.cons_append, List.nil_append,
            spells_cons, spells_nil] at spelled
          rcases spelled with ⟨_, _, rfl, _, _, rfl, _, _, rfl, _, _, rfl, _, _, rfl, rfl⟩
          exact fun _ => ⟨_, _, rfl, _, rfl⟩

theorem decorator_takes {decorator : Name} (spelled : Spells (decoratorSentence decorator).words tokens) :
    Takes (Source.Reader.line false) tokens [] fun reading => ∃ phrase, reading = .decorator phrase := by
  simp only [decoratorSentence, Sentence.words, spells_cons, spells_nil] at spelled
  rcases spelled with ⟨_, _, rfl, _, _, rfl, rfl⟩
  exact fun _ => ⟨_, _, rfl, _, rfl⟩

theorem choice_takes {subject : Name} (spelled : Spells (choiceSentence subject).words tokens) :
    Takes (Source.Reader.line false) tokens [] (Opens .matchStatement) := by
  simp only [choiceSentence, Sentence.words, spells_cons, spells_nil] at spelled
  rcases spelled with ⟨_, _, rfl, _, _, rfl, _, _, rfl, rfl⟩
  exact fun _ => ⟨_, _, rfl, _, rfl⟩

theorem case_takes {pattern : Name} (spelled : Spells (caseSentence pattern).words tokens) :
    Takes (Source.Reader.line true) tokens [] (Opens .caseClause) := by
  simp only [caseSentence, Sentence.words, spells_cons, spells_nil] at spelled
  rcases spelled with ⟨_, _, rfl, _, _, rfl, _, _, rfl, rfl⟩
  exact fun _ => ⟨_, _, rfl, _, rfl⟩

/-! ## Lines and what they are read as -/

variable {line : Source.Line} {inMatch : Bool} {kind : CompoundKind}

theorem read_statement {references : List Reference}
    (takes : Takes (Source.Reader.line false) line.tokens [] (HoldsStatement text references)) :
    ∃ item, line.read false = .ok (.statements [item]) ∧ Stated text references item ∧
      item.Sound fun _ => True := by
  rcases read_of_takes takes with ⟨_, reads, item, rfl, stated⟩
  have sound := Source.Line.read_sound (fun _ _ => trivial) reads
  exact ⟨item, reads, stated, sound.1⟩

theorem read_opening (takes : Takes (Source.Reader.line inMatch) line.tokens [] (Opens kind)) :
    ∃ parts, line.read inMatch = .ok (.opening ⟨kind, parts, none⟩) ∧ Phrase.AllApart parts := by
  rcases read_of_takes takes with ⟨_, reads, parts, rfl⟩
  have sound := Source.Line.read_sound (fun _ _ => trivial) reads
  exact ⟨parts, reads, sound.1⟩

theorem read_decorator {decorator : Name} (spelled : Spells (decoratorSentence decorator).words line.tokens) :
    ∃ phrase, line.read false = .ok (.decorator phrase) ∧ phrase.Apart := by
  rcases read_of_takes (decorator_takes spelled) with ⟨_, reads, phrase, rfl⟩
  have sound := Source.Line.read_sound (fun _ _ => trivial) reads
  exact ⟨phrase, reads, sound⟩

end Skeleton
end ImportCensus

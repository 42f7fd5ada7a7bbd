import ImportCensus.Proofs.Source.CasePattern
import ImportCensus.Source.Statement

namespace ImportCensus
namespace Source

/-!
# What statements are made of

A statement is sound if none of its tokens could be mistaken for an import
statement and if an import statement itself holds nothing but tokens and imported
names, each with its role.  Every statement and header that is read from a line is
sound.
-/

open Syntax (CompoundKind SimpleKind)
open Phrase (AllApart allApart_nil allApart_single)

variable {property : Token -> Prop}

/-- An imported name, in its role, perhaps with an alias in a role of its own. -/
inductive Phrase.IsImportedName (property : Token -> Prop) : Phrase -> Prop
  | bare {span : Text.Span} {parts : List Phrase} (dotted : Phrase.Dotted property parts) :
      IsImportedName property (.inRole .name (.node .dottedName span parts))
  | renamed {around span : Text.Span} {parts : List Phrase} {link label : Token}
      (dotted : Phrase.Dotted property parts) :
      IsImportedName property (.inRole .name (.node .aliasedImport around
        [.inRole .name (.node .dottedName span parts), .leaf none link,
          .inRole .alias (.leaf (some .identifier) label)]))

/-- What an import statement holds: tokens and imported names. -/
def Phrase.OfImport (property : Token -> Prop) (part : Phrase) : Prop :=
  (∃ token, part = .leaf none token) ∨ part.IsImportedName property

/-- What names are imported from: a dotted name, or dots with or without one behind them. -/
inductive Phrase.IsModuleName (property : Token -> Prop) : Phrase -> Prop
  | absolute {span : Text.Span} {parts : List Phrase} (dotted : Phrase.Dotted property parts) :
      IsModuleName property (.node .dottedName span parts)
  | relative {around within : Text.Span} {dots : List Phrase} :
      IsModuleName property (.node .relativeImport around [.node .importPrefix within dots])
  | below {around within span : Text.Span} {dots parts : List Phrase}
      (dotted : Phrase.Dotted property parts) :
      IsModuleName property (.node .relativeImport around
        [.node .importPrefix within dots, .node .dottedName span parts])

/-- The parts of a from-import begin with a keyword and a module in its role. -/
def Phrase.AreFromImport (property : Token -> Prop) (parts : List Phrase) : Prop :=
  ∃ head module rest, parts = .leaf none head :: .inRole .moduleName module :: rest ∧
    module.IsModuleName property

mutual

/-- No token of an item could be mistaken for an import statement, and its import
statements have their shapes, with names that are read from tokens with a property. -/
def Item.Sound (property : Token -> Prop) : Item -> Prop
  | .simple kind _ parts =>
    AllApart parts ∧ (kind = .importModules -> ∀ part ∈ parts, part.OfImport property) ∧
      (kind = .importFrom -> Phrase.AreFromImport property parts)
  | .compound body => body.Sound property
  | .separator token => Apart token.text
  | .extra _ => True

def Item.AllSound (property : Token -> Prop) : List Item -> Prop
  | [] => True
  | item :: rest => item.Sound property ∧ Item.AllSound property rest

def Compound.Sound (property : Token -> Prop) : Compound -> Prop
  | .mk _ _ parts => Part.AllSound property parts

def Part.Sound (property : Token -> Prop) : Part -> Prop
  | .phrase inner => inner.Apart
  | .block _ items => Item.AllSound property items
  | .clause body => body.Sound property
  | .extra _ => True

def Part.AllSound (property : Token -> Prop) : List Part -> Prop
  | [] => True
  | part :: rest => part.Sound property ∧ Part.AllSound property rest

end

theorem Item.allSound_iff {items : List Item} :
    Item.AllSound property items ↔ ∀ item ∈ items, item.Sound property := by
  induction items with
  | nil => simp [Item.AllSound]
  | cons item rest ih => simp [Item.AllSound, ih]

theorem Part.allSound_iff {parts : List Part} :
    Part.AllSound property parts ↔ ∀ part ∈ parts, part.Sound property := by
  induction parts with
  | nil => simp [Part.AllSound]
  | cons part rest ih => simp [Part.AllSound, ih]

namespace Reader

variable {feed : Feed}

theorem statementOf_eq (kind : SimpleKind) (parts : List Phrase) :
    ∃ span, statementOf kind parts = .simple kind span parts := by
  cases parts with
  | nil => exact ⟨_, rfl⟩
  | cons head tail => exact ⟨_, rfl⟩

theorem statementOf_sound {kind : SimpleKind} {parts : List Phrase} (apart : AllApart parts)
    (notPlain : kind ≠ .importModules) (notFrom : kind ≠ .importFrom) :
    (statementOf kind parts).Sound property := by
  rcases statementOf_eq kind parts with ⟨span, same⟩
  rw [same, Item.Sound]
  exact ⟨apart, fun imports => absurd imports notPlain, fun imports => absurd imports notFrom⟩

/-! ## Imports -/

theorem importedName_ofImport : FindsIn property importedName fun found =>
    found.Apart ∧ found.IsImportedName property := by
  refine dottedName_dotted.bind ?_
  rintro _ ⟨span, parts, rfl, dotted⟩
  have partsApart := dotted.allApart
  refine .at rfl (fun feed all sees => ?_) (Finds.within (.pure ⟨by simpa using partsApart, .bare dotted⟩))
  refine (plain_token sees).bind ?_
  rintro _ ⟨link, rfl, linkApart⟩
  refine identifier_leaf.bind ?_
  rintro _ ⟨label, rfl⟩
  exact .pure ⟨by simp_all, .renamed dotted⟩

theorem comma_ofImport : Finds (symbol? ",") fun found =>
    ∀ comma, found = some comma -> comma.Apart ∧ comma.OfImport property := by
  refine symbol?_spelled.imp ?_
  intro found tokens comma same
  rcases tokens comma same with ⟨token, rfl, spelled⟩
  exact ⟨Phrase.apart_token.2 (spelled ▸ rfl), .inl ⟨token, rfl⟩⟩

theorem importedNames_ofImport : FindsIn property importedNames fun parts =>
    ∀ part ∈ parts, part.Apart ∧ part.OfImport property :=
  commaList_all (importedName_ofImport.imp fun _ name => ⟨name.1, .inr name.2⟩) comma_ofImport

theorem importedNames_apart : Finds importedNames AllApart :=
  importedNames_ofImport.everywhere.imp fun _ parts => Phrase.allApart_iff.2 fun part member =>
    (parts part member).1

theorem nameList_apart : Finds nameList AllApart := by
  refine .taken rfl (fun opening openingApart => ?_) importedNames_apart
  apply importedNames_apart.bind
  intro names namesApart
  refine .bind (symbol_apart rfl) fun closing closingApart => ?_
  exact .pure (by simp [*])

theorem importModules_sound : FindsIn property importModules (Item.Sound property) := by
  refine .bind (Finds.within (expect_token rfl)) ?_
  rintro _ ⟨head, rfl, headApart⟩
  apply importedNames_ofImport.bind
  intro names namesFit
  rcases statementOf_eq .importModules (.leaf none head :: names) with ⟨span, same⟩
  refine Finds.within (.pure ?_)
  rw [same, Item.Sound]
  refine ⟨?_, ?_, nofun⟩
  · rw [Phrase.allApart_cons, Phrase.apart_token, Phrase.allApart_iff]
    exact ⟨headApart, fun part member => (namesFit part member).1⟩
  · rintro _ part (_ | ⟨_, member⟩)
    · exact .inl ⟨head, rfl⟩
    · exact (namesFit part member).2

theorem dots_apart (limit : Nat) : Finds (dots limit) AllApart := by
  induction limit with
  | zero => exact .pure (by simp)
  | succ limit ih =>
      refine .bind (symbol?_apart rfl) fun dot dotApart => ?_
      cases dot with
      | none => exact .pure (by simp)
      | some dot => exact ih.bind fun rest restApart => .pure (by simp_all)

theorem importedModule_named : FindsIn property importedModule fun found =>
    found.Apart ∧ found.IsModuleName property := by
  apply FindsIn.anyway
  intro limit
  apply (dots_apart limit).within.bind
  intro level levelApart
  cases level with
  | nil =>
      refine dottedName_dotted.imp ?_
      rintro _ ⟨span, parts, rfl, dotted⟩
      exact ⟨Phrase.apart_node.2 dotted.allApart, .absolute dotted⟩
  | cons dot more =>
      refine .anyway fun _ => .ite (dottedName_dotted.bind ?_) (Finds.within (.pure ?_))
      · rintro _ ⟨span, parts, rfl, dotted⟩
        have partsApart := dotted.allApart
        exact Finds.within (.pure ⟨by simp_all, .below dotted⟩)
      · exact ⟨by simp_all, .relative⟩

theorem importFrom_sound : FindsIn property importFrom (Item.Sound property) := by
  refine .bind (Finds.within (expect_token rfl)) ?_
  rintro _ ⟨head, rfl, headApart⟩
  refine .taken rfl (fun module moduleApart => Finds.within ?_) ?_
  · refine .bind (word_apart rfl) fun link linkApart => nameList_apart.bind fun names namesApart => ?_
    exact .pure (statementOf_sound (by simp [*]) nofun nofun)
  · have source : FindsIn property (inRole .moduleName importedModule) fun found =>
        ∃ module, found = .inRole .moduleName module ∧ module.Apart ∧ module.IsModuleName property :=
      importedModule_named.bind fun module named => Finds.within (.pure ⟨module, rfl, named⟩)
    refine source.bind ?_
    rintro _ ⟨module, rfl, moduleApart, named⟩
    have sound : ∀ rest, AllApart rest -> (statementOf .importFrom
        (.leaf none head :: .inRole .moduleName module :: rest)).Sound property := by
      intro rest restApart
      rcases statementOf_eq .importFrom (.leaf none head :: .inRole .moduleName module :: rest)
        with ⟨span, same⟩
      rw [same, Item.Sound]
      exact ⟨by simp [*], nofun, fun _ => ⟨head, module, rest, rfl, named⟩⟩
    refine Finds.within (.bind (word_apart rfl) fun link linkApart => .taken rfl ?_ ?_)
    · exact fun star starApart => .pure (sound _ (by simp [*]))
    · exact nameList_apart.bind fun names namesApart => .pure (sound _ (by simp [*]))

/-! ## Expressions and assignments -/

theorem element_expression_apart : Finds (element expression) Phrase.Apart :=
  element_apart expression_apart

theorem elementList_apart : Finds elementList AllApart := commaList_apart element_expression_apart

/-- What stands before an assignment sign is settled without reading on. -/
theorem assigned_eq (parts : List Phrase) :
    assigned parts = fail ∨
      ∃ pattern, assigned parts = pure pattern ∧ (AllApart parts -> pattern.Apart) := by
  unfold assigned
  split
  · rename_i single
    cases turns : single.pattern? with
    | none => exact .inl rfl
    | some pattern =>
        refine .inr ⟨pattern, rfl, fun apart => ?_⟩
        exact Phrase.apart_of_pattern? turns (allApart_single.1 apart)
  · cases turns : Phrase.pattern?.patterns? parts with
    | none => exact .inl rfl
    | some patterns =>
        refine .inr ⟨_, rfl, fun apart => ?_⟩
        exact Phrase.apart_over.2 (Phrase.allApart_of_patterns? turns apart)

theorem assigned_bind {α : Type} {good : α -> Prop} {parts : List Phrase}
    {onward : Phrase -> Reader α} (apart : AllApart parts)
    (finds : ∀ pattern, pattern.Apart -> FindsAt feed (onward pattern) good) :
    FindsAt feed (assigned parts >>= onward) good := by
  rcases assigned_eq parts with same | ⟨pattern, same, turns⟩
  · rw [same]
    exact Finds.bind (Finds.fail : Finds fail fun _ => False) (fun _ => False.elim) feed
  · rw [same]
    exact .ask rfl (finds pattern (turns apart))

theorem apart_of_assigns {token : Token}
    (assigns : (token.kind == .symbol && (token.text == "=" || isAugmentedAssignment token.text)) = true) :
    Apart token.text := by
  simp only [Bool.and_eq_true, Bool.or_eq_true, beq_iff_eq] at assigns
  rcases assigns.2 with same | augmented
  · exact same ▸ rfl
  · have every : ∀ sign ∈ ["+=", "-=", "*=", "/=", "@=", "//=", "%=", "**=", ">>=", "<<=", "&=",
        "^=", "|="], Apart sign := by simp [Apart, importKindNames]
    exact every token.text (List.contains_iff_mem.1 augmented)

theorem assignment_apart (limit : Nat) :
    (∀ feed left, feed.Apart -> left.Apart -> FindsAt feed (assignmentTo left limit) Phrase.Apart) ∧
      Finds (assignedValue limit) Phrase.Apart := by
  induction limit with
  | zero => exact ⟨fun feed _ _ _ => Finds.fail feed, .fail⟩
  | succ limit ih =>
      constructor
      · intro feed left sees leftApart
        refine .ask rfl ((plain_apart sees).bind fun sign signApart => ?_)
        apply ih.2.bind
        intro right rightApart
        exact .pure (by simp [*])
      · apply Finds.anyway
        intro _
        refine .ite (yieldPhrase_apart expression_apart) ?_
        apply elementList_apart.bind
        intro parts partsApart
        refine .onNext (fun _ => apart_of_assigns) (fun feed sees => ?_) (.pure (by simp [*]))
        exact assigned_bind partsApart fun left leftApart => ih.1 feed left sees leftApart

theorem annotated_apart {left : Phrase} (leftApart : left.Apart) :
    Finds (annotated left) Phrase.Apart := by
  refine .bind (symbol_apart rfl) fun colon colonApart => ?_
  apply (annotation_apart expression_apart).bind
  intro type typeApart
  refine .taken rfl (fun sign signApart => .anyway fun limit => ?_) (.pure (by simp [*]))
  apply (assignment_apart (limit + 1)).2.bind
  intro right rightApart
  exact .pure (by simp [*])

theorem expressionParts_apart : Finds expressionParts AllApart := by
  apply Finds.anyway
  intro _
  refine .ite (fun feed => single_apart (yieldPhrase_apart expression_apart feed)) ?_
  apply elementList_apart.bind
  intro parts partsApart
  refine .onNext (fun _ => apart_of_assigns) (fun feed sees => ?_) (.anyway fun _ => .ite ?_ ?_)
  · refine assigned_bind partsApart fun left leftApart => .ask rfl ?_
    exact single_apart ((assignment_apart _).1 feed left sees leftApart)
  · split
    · intro feed
      refine assigned_bind partsApart fun left leftApart => ?_
      exact single_apart (annotated_apart leftApart feed)
    · exact .fail
  · exact .pure partsApart

theorem expressionStatement_sound : Finds expressionStatement (Item.Sound property) :=
  expressionParts_apart.bind fun _ apart => .pure (statementOf_sound apart nofun nofun)

/-! ## Statements of the older dialect -/

theorem printStatement_sound (sees : feed.Apart) : FindsAt feed printStatement (Item.Sound property) := by
  apply (plain_apart sees).bind
  intro head headApart
  refine .taken rfl (fun arrow arrowApart => ?_) ?_
  · apply (expression_apart _).bind
    intro stream streamApart
    apply Finds.anyway
    intro limit
    apply (commaTail_apart element_expression_apart limit).bind
    intro rest restApart
    exact .pure (statementOf_sound (by simp [*]) nofun nofun)
  · apply (commaList_apart element_expression_apart).bind
    intro values valuesApart
    exact .pure (statementOf_sound (by simp [*]) nofun nofun)

instance : Forward atStatementEnd where
  finds := .anyway fun _ => .ite (.pure trivial) Forward.finds

theorem printOrExpression_sound (sees : feed.Apart) : FindsAt feed printOrExpression (Item.Sound property) := by
  have expression : FindsAt feed expressionStatement (Item.Sound property) :=
    expressionStatement_sound feed
  refine .ask rfl (.ite (fun _ => printStatement_sound sees) fun _ => ?_)
  refine .orElse (expression.bind fun statement sound => ?_) ?_
  · exact .anyway fun _ => .ite (.pure sound) .fail
  · exact .ite (fun _ => printStatement_sound sees) fun _ => expression

theorem execOrExpression_sound (sees : feed.Apart) : FindsAt feed execOrExpression (Item.Sound property) := by
  refine .ask rfl (.ite (fun _ => ?_) fun _ => expressionStatement_sound feed)
  apply (plain_apart sees).bind
  intro head headApart
  apply Finds.anyway
  intro names
  extract_lets behind
  have joined : ∀ code, code.Apart -> Finds (behind code) (Item.Sound property) := by
    intro code codeApart
    refine .taken rfl (fun link linkApart => ?_) (.pure (statementOf_sound (by simp [*]) nofun nofun))
    apply (strictCommaList_apart (expression_apart _)).bind
    intro scopes scopesApart
    exact .pure (statementOf_sound (by simp [*]) nofun nofun)
  exact .ite (identifier_apart.bind joined) ((string_apart expression_apart).bind joined)

/-! ## Other simple statements -/

theorem typeParameters_apart : Finds typeParameters Phrase.Apart := by
  refine .bind (symbol_apart rfl) fun opening openingApart => ?_
  extract_lets one
  have oneApart : Finds one Phrase.Apart := by
    apply (annotation_apart expression_apart).bind
    intro type typeApart
    refine .taken rfl (fun colon colonApart => ?_) (.pure typeApart)
    apply (annotation_apart expression_apart).bind
    intro bound boundApart
    exact .pure (by simp [*])
  apply (commaList_apart oneApart).bind
  intro parts partsApart
  exact closed_apart rfl openingApart partsApart

theorem typeAlias_sound (sees : feed.Apart) : FindsAt feed typeAlias (Item.Sound property) := by
  apply (plain_apart sees).bind
  intro head headApart
  apply identifier_apart.bind
  intro name nameApart
  refine .anyway fun bracketed => ?_
  extract_lets behind
  have joined : ∀ parameters, AllApart parameters -> Finds (behind parameters) (Item.Sound property) := by
    intro parameters parametersApart
    refine .bind (symbol_apart rfl) fun sign signApart => ?_
    apply (annotation_apart expression_apart).bind
    intro value valueApart
    exact .pure (statementOf_sound (by simp [*]) nofun nofun)
  refine .ite (typeParameters_apart.bind fun parameters parametersApart => ?_) ?_
  · exact .bind (.pure (allApart_single.2 parametersApart)) joined
  · exact .bind (.pure allApart_nil) joined

theorem returnStatement_sound (sees : feed.Apart) : FindsAt feed returnStatement (Item.Sound property) := by
  apply (plain_apart sees).bind
  intro head headApart
  apply Finds.anyway
  intro some
  extract_lets behind
  have joined : ∀ value, AllApart value -> Finds (behind value) (Item.Sound property) :=
    fun value valueApart => .pure (statementOf_sound (by simp [*]) nofun nofun)
  refine .ite ((elements_apart expression_apart).bind fun value valueApart => ?_) ?_
  · exact .bind (.pure (allApart_single.2 valueApart)) joined
  · exact .bind (.pure allApart_nil) joined

theorem deleteStatement_sound (sees : feed.Apart) : FindsAt feed deleteStatement (Item.Sound property) := by
  apply (plain_apart sees).bind
  intro head headApart
  apply (elements_apart expression_apart).bind
  intro places placesApart
  exact .pure (statementOf_sound (by simp [*]) nofun nofun)

theorem raiseStatement_sound (sees : feed.Apart) : FindsAt feed raiseStatement (Item.Sound property) := by
  apply (plain_apart sees).bind
  intro head headApart
  apply Finds.anyway
  intro some
  extract_lets behind
  have joined : ∀ value, AllApart value -> Finds (behind value) (Item.Sound property) := by
    intro value valueApart
    have caused : ∀ cause, AllApart cause ->
        Finds (pure (statementOf .raise (head :: value ++ cause))) (Item.Sound property) :=
      fun cause causeApart => .pure (statementOf_sound (by simp [*]) nofun nofun)
    refine .taken rfl (fun link linkApart => ?_) (.bind (.pure allApart_nil) caused)
    apply (expression_apart _).bind
    intro reason reasonApart
    exact .bind (.pure (by simp [*])) caused
  refine .ite ((elements_apart expression_apart).bind fun value valueApart => ?_) ?_
  · exact .bind (.pure (allApart_single.2 valueApart)) joined
  · exact .bind (.pure allApart_nil) joined

theorem assertStatement_sound (sees : feed.Apart) : FindsAt feed assertStatement (Item.Sound property) := by
  apply (plain_apart sees).bind
  intro head headApart
  apply (strictCommaList_apart (expression_apart _)).bind
  intro parts partsApart
  exact .pure (statementOf_sound (by simp [*]) nofun nofun)

theorem declaration_sound {kind : SimpleKind} (sees : feed.Apart)
    (notPlain : kind ≠ .importModules) (notFrom : kind ≠ .importFrom) : FindsAt feed (declaration kind) (Item.Sound property) := by
  apply (plain_apart sees).bind
  intro head headApart
  apply (strictCommaList_apart identifier_apart).bind
  intro names namesApart
  exact .pure (statementOf_sound (by simp [*]) notPlain notFrom)

theorem wordStatement_sound {kind : SimpleKind} (sees : feed.Apart)
    (notPlain : kind ≠ .importModules) (notFrom : kind ≠ .importFrom) :
    FindsAt feed (do return statementOf kind [← plain]) (Item.Sound property) :=
  (plain_apart sees).bind fun _ apart => .pure (statementOf_sound (allApart_single.2 apart) notPlain notFrom)

theorem simpleStatement_sound : FindsIn property simpleStatement (Item.Sound property) := by
  intro feed all
  refine .ask rfl ?_
  cases head : feed.ahead.head? with
  | none => exact Finds.fail feed
  | some token =>
      dsimp only
      split
      case h_1 => exact importModules_sound feed all
      case h_2 => exact importFrom_sound feed all
      case h_3 spelled => exact returnStatement_sound (Feed.apart_of_head head spelled rfl)
      case h_4 spelled => exact deleteStatement_sound (Feed.apart_of_head head spelled rfl)
      case h_5 spelled => exact raiseStatement_sound (Feed.apart_of_head head spelled rfl)
      case h_6 spelled => exact assertStatement_sound (Feed.apart_of_head head spelled rfl)
      case h_7 spelled => exact declaration_sound (Feed.apart_of_head head spelled rfl) nofun nofun
      case h_8 spelled => exact declaration_sound (Feed.apart_of_head head spelled rfl) nofun nofun
      case h_9 spelled => exact wordStatement_sound (Feed.apart_of_head head spelled rfl) nofun nofun
      case h_10 spelled => exact wordStatement_sound (Feed.apart_of_head head spelled rfl) nofun nofun
      case h_11 spelled => exact wordStatement_sound (Feed.apart_of_head head spelled rfl) nofun nofun
      case h_12 spelled => exact printOrExpression_sound (Feed.apart_of_head head spelled rfl)
      case h_13 spelled => exact execOrExpression_sound (Feed.apart_of_head head spelled rfl)
      case h_14 spelled =>
        refine .ask rfl (.ite (fun _ => ?_) fun _ => expressionStatement_sound feed)
        exact typeAlias_sound (Feed.apart_of_head head spelled rfl)
      case h_15 => exact expressionStatement_sound feed

theorem simpleStatements_sound (limit : Nat) :
    FindsIn property (simpleStatements limit) (Item.AllSound property) := by
  induction limit with
  | zero => exact Finds.within .fail
  | succ limit ih =>
      apply simpleStatement_sound.bind
      intro first firstSound
      apply FindsIn.anyway
      intro _
      refine .ite ?_ ?_
      · exact Finds.within (.pure (by simp [Item.AllSound, *]))
      refine .at rfl (fun feed all sees => ?_) (Finds.within .fail)
      refine (take_apart sees).bindIn all fun token apart => .anyway fun _ => .ite ?_ ?_
      · exact Finds.within (.pure (by simp [Item.AllSound, Item.Sound, *]))
      · apply ih.bind
        intro rest restSound
        exact Finds.within (.pure (by simp [Item.AllSound, Item.Sound, *]))

theorem statements_sound : FindsIn property statements (Item.AllSound property) :=
  .anyway fun limit => simpleStatements_sound (limit + 1)

/-! ## Headers of compound statements -/

theorem conditionHeader_apart (sees : feed.Apart) : FindsAt feed conditionHeader AllApart := by
  apply (plain_apart sees).bind
  intro head headApart
  apply (expression_apart _).bind
  intro condition conditionApart
  refine .bind (symbol_apart rfl) fun colon colonApart => ?_
  exact .pure (by simp [*])

theorem bareHeader_apart (sees : feed.Apart) : FindsAt feed bareHeader AllApart := by
  refine (plain_apart sees).bind fun head headApart => .bind (symbol_apart rfl) fun colon colonApart => ?_
  exact .pure (by simp [*])

theorem forHeader_apart : Finds forHeader AllApart := by
  refine .bind (word?_apart rfl) fun async asyncApart => .bind (word_apart rfl) fun head headApart => ?_
  apply (targets_apart expression_apart).bind
  intro left leftApart
  refine .bind (word_apart rfl) fun link linkApart => ?_
  apply (elements_apart expression_apart).bind
  intro right rightApart
  refine .bind (symbol_apart rfl) fun colon colonApart => ?_
  exact .pure (by simp [*])

theorem withClause_apart {managers : List Phrase} (apart : AllApart managers) :
    (withClause managers).Apart := by
  unfold withClause
  extract_lets items
  have itemsApart : ∀ phrases, AllApart phrases -> AllApart (items phrases) := by
    intro phrases phrasesApart
    rw [Phrase.allApart_iff] at *
    intro item member
    rcases List.mem_map.1 member with ⟨phrase, within, rfl⟩
    split
    · simpa using phrasesApart phrase within
    · exact phrasesApart phrase within
  split
  · exact Phrase.apart_node.2 (itemsApart _ (by simpa using apart))
  · split
    · exact Phrase.apart_node.2 (itemsApart _ (by simpa using apart))
    · exact Phrase.apart_over.2 (itemsApart _ apart)
  · exact Phrase.apart_over.2 (itemsApart _ apart)

theorem withHeader_apart : Finds withHeader AllApart := by
  refine .bind (word?_apart rfl) fun async asyncApart => .bind (word_apart rfl) fun head headApart => ?_
  apply (commaList_apart (expression_apart _)).bind
  intro managers managersApart
  refine .bind (symbol_apart rfl) fun colon colonApart => ?_
  exact .pure (by simp [withClause_apart, *])

theorem parameterList_apart : Finds parameterList Phrase.Apart := by
  refine .bind (symbol_apart rfl) fun opening openingApart => .anyway fun bare => ?_
  extract_lets behind
  have joined : ∀ parts, AllApart parts -> Finds (behind parts) Phrase.Apart :=
    fun parts partsApart => closed_apart rfl openingApart partsApart
  refine .ite (.bind (.pure allApart_nil) joined) ?_
  exact (commaList_apart (parameter_apart expression_apart true)).bind joined

theorem functionHeader_apart : Finds functionHeader AllApart := by
  refine .bind (word?_apart rfl) fun async asyncApart => .bind (word_apart rfl) fun head headApart => ?_
  apply (inRole_apart identifier_apart).bind
  intro name nameApart
  apply Finds.anyway
  intro generic
  extract_lets behind
  have joined : ∀ types, AllApart types -> Finds (behind types) AllApart := by
    intro types typesApart
    apply parameterList_apart.bind
    intro parameters parametersApart
    have ended : ∀ result, AllApart result -> Finds (do
        let colon ← symbol ":"
        return async.toList ++ head :: name :: types ++ parameters :: result ++ [colon]) AllApart :=
      fun result resultApart => .bind (symbol_apart rfl) fun colon colonApart => .pure (by simp [*])
    refine .taken rfl (fun arrow arrowApart => ?_) (.bind (.pure allApart_nil) ended)
    apply (annotation_apart expression_apart).bind
    intro result resultApart
    exact .bind (.pure (by simp [*])) ended
  refine .ite (typeParameters_apart.bind fun types typesApart => ?_) ?_
  · exact .bind (.pure (allApart_single.2 typesApart)) joined
  · exact .bind (.pure allApart_nil) joined

theorem classHeader_apart : Finds classHeader AllApart := by
  refine .bind (word_apart rfl) fun head headApart => ?_
  apply (inRole_apart identifier_apart).bind
  intro name nameApart
  apply Finds.anyway
  intro generic
  extract_lets behind
  have joined : ∀ types, AllApart types -> Finds (behind types) AllApart := by
    intro types typesApart
    have ended : ∀ bases, AllApart bases -> Finds (do
        let colon ← symbol ":"
        return head :: name :: types ++ bases ++ [colon]) AllApart :=
      fun bases basesApart => .bind (symbol_apart rfl) fun colon colonApart => .pure (by simp [*])
    apply Finds.anyway
    intro derived
    refine .ite ?_ (.bind (.pure allApart_nil) ended)
    apply (arguments_apart expression_apart false).bind
    intro bases basesApart
    exact .bind (.pure (by simp [*])) ended
  refine .ite (typeParameters_apart.bind fun types typesApart => ?_) ?_
  · exact .bind (.pure (allApart_single.2 typesApart)) joined
  · exact .bind (.pure allApart_nil) joined

theorem exceptHeader_apart : Finds exceptHeader fun found => AllApart found.2 := by
  refine .bind (word_apart rfl) fun head headApart => .bind (symbol?_apart rfl) fun star starApart => ?_
  apply Finds.anyway
  intro catches
  extract_lets kind behind
  have joined : ∀ caught, AllApart caught -> Finds (behind caught) fun found => AllApart found.2 :=
    fun caught caughtApart => .bind (symbol_apart rfl) fun colon colonApart => .pure (by simp [*])
  refine .ite ((expression_apart _).bind fun value valueApart => ?_) ?_
  · refine .taken rfl (fun comma commaApart => ?_) (.bind (.pure (by simp [*])) joined)
    apply (expression_apart _).bind
    intro second secondApart
    exact .bind (.pure (by simp [*])) joined
  · exact .bind (.pure allApart_nil) joined

theorem matchHeader_apart (sees : feed.Apart) : FindsAt feed matchHeader AllApart := by
  apply (plain_apart sees).bind
  intro head headApart
  apply (commaList_apart element_expression_apart).bind
  intro subjects subjectsApart
  refine .bind (symbol_apart rfl) fun colon colonApart => ?_
  exact .pure (by simp [*])

theorem caseHeader_apart (sees : feed.Apart) : FindsAt feed caseHeader AllApart := by
  apply (plain_apart sees).bind
  intro head headApart
  apply (commaList_apart casePattern_apart).bind
  intro patterns patternsApart
  have ended : ∀ guard, AllApart guard -> Finds (do
      let colon ← symbol ":"
      return head :: patterns ++ guard ++ [colon]) AllApart :=
    fun guard guardApart => .bind (symbol_apart rfl) fun colon colonApart => .pure (by simp [*])
  refine .taken rfl (fun link linkApart => ?_) (.bind (.pure allApart_nil) ended)
  apply (expression_apart _).bind
  intro condition conditionApart
  exact .bind (.pure (by simp [*])) ended

/-- The parts of a header that may have been found are apart. -/
def HeaderApart (found : Option (CompoundKind × List Phrase)) : Prop :=
  ∀ header, found = some header -> AllApart header.2

theorem kindWith_apart {kind : CompoundKind} {header : Reader (List Phrase)}
    (finds : FindsAt feed header AllApart) : FindsAt feed (kindWith kind header) HeaderApart := by
  apply finds.bind
  intro parts apart
  refine .pure ?_
  rintro _ ⟨rfl⟩
  exact apart

theorem header?_apart : Finds header? HeaderApart := by
  have nothing : HeaderApart none := fun _ same => nomatch same
  refine .peeked fun feed => ?_
  cases head : feed.ahead.head? with
  | none => exact Finds.pure nothing feed
  | some token =>
      dsimp only
      split
      case h_1 spelled => exact kindWith_apart (conditionHeader_apart (Feed.apart_of_head head spelled rfl))
      case h_2 spelled => exact kindWith_apart (conditionHeader_apart (Feed.apart_of_head head spelled rfl))
      case h_3 spelled => exact kindWith_apart (conditionHeader_apart (Feed.apart_of_head head spelled rfl))
      case h_4 spelled => exact kindWith_apart (bareHeader_apart (Feed.apart_of_head head spelled rfl))
      case h_5 spelled => exact kindWith_apart (bareHeader_apart (Feed.apart_of_head head spelled rfl))
      case h_6 spelled => exact kindWith_apart (bareHeader_apart (Feed.apart_of_head head spelled rfl))
      case h_7 =>
        refine Finds.bind exceptHeader_apart (fun header apart => .pure ?_) feed
        rintro _ ⟨rfl⟩
        exact apart
      case h_8 => exact kindWith_apart (forHeader_apart feed)
      case h_9 => exact kindWith_apart (withHeader_apart feed)
      case h_10 => exact kindWith_apart (functionHeader_apart feed)
      case h_11 => exact kindWith_apart (classHeader_apart feed)
      case h_12 =>
        refine .ask rfl (.ite (fun _ => kindWith_apart (forHeader_apart feed)) fun _ => ?_)
        refine .ask rfl (.ite (fun _ => kindWith_apart (withHeader_apart feed)) fun _ => ?_)
        refine .ask rfl (.ite (fun _ => kindWith_apart (functionHeader_apart feed)) fun _ => ?_)
        exact Finds.pure nothing feed
      case h_13 =>
        refine .ask rfl (.ite (fun isMatch => ?_) fun _ => Finds.pure nothing feed)
        simp only [head, Option.any_some, Bool.and_eq_true] at isMatch
        exact kindWith_apart (matchHeader_apart (Feed.apart_of_head head (text_of_is isMatch.1.1) rfl))

end Reader

/-! ## Lines -/

/-- What a line amounts to is sound. -/
def Reading.Sound (property : Token -> Prop) : Reading -> Prop
  | .statements items => Item.AllSound property items
  | .opening header => AllApart header.parts ∧
      ∀ items, header.suite = some items -> Item.AllSound property items
  | .decorator phrase => phrase.Apart

namespace Reader

theorem openingWith_sound {kind : CompoundKind} {parts : List Phrase} (apart : AllApart parts) :
    FindsIn property (openingWith kind parts) (Reading.Sound property) := by
  apply FindsIn.anyway
  intro _
  refine .ite (Finds.within (.pure ⟨apart, by simp⟩)) ?_
  exact statements_sound.bind fun items sound => Finds.within (.pure ⟨apart, by simp [sound]⟩)

theorem line_sound (inMatch : Bool) : FindsIn property (line inMatch) (Reading.Sound property) := by
  refine .ite (.at rfl (fun feed all sees => ?_) (Finds.within .fail)) (.taken rfl ?_ ?_)
  · exact (caseHeader_apart sees).bindIn all fun parts apart => openingWith_sound apart
  · intro sign signApart
    refine Finds.within ((expression_apart _).bind fun value valueApart => .anyway fun _ => ?_)
    exact .pure (by simp [Reading.Sound, *])
  · refine header?_apart.within.bind fun header apart => ?_
    split
    · exact openingWith_sound (apart _ rfl)
    · exact statements_sound.bind fun items sound => Finds.within (.pure sound)

end Reader

theorem Line.read_sound {inMatch : Bool} {line : Line} {reading : Reading}
    (all : ∀ token ∈ line.tokens, property token) (reads : line.read inMatch = .ok reading) :
    reading.Sound property := by
  unfold Line.read at reads
  cases result : Reader.line inMatch ⟨line.first.span.start, line.tokens⟩ with
  | error fault => simp [result, Except.map] at reads
  | ok pair =>
      simp only [result, Except.map, Except.ok.injEq] at reads
      exact reads ▸ (Reader.line_sound inMatch ⟨_, line.tokens⟩ all pair.1 pair.2 result).1

end Source
end ImportCensus

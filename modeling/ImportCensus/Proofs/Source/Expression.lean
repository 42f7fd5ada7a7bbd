import ImportCensus.Proofs.Source.Reading
import ImportCensus.Source.Expression

namespace ImportCensus
namespace Source

/-!
# What expressions are made of

No expression holds a token under its own spelling that could be mistaken for
an import statement.  The readers of expressions take the reader for nested
expressions as an argument, so each is answered for under the assumption that the
nested ones are; `nested_apart` closes the circle.
-/

namespace Phrase

mutual

/-- Turning an expression into a pattern changes kinds, and no token. -/
theorem apart_of_pattern? : {phrase pattern : Phrase} -> phrase.pattern? = some pattern ->
    phrase.Apart -> pattern.Apart
  | .leaf kind token, pattern, turns, apart => by
      unfold pattern? at turns
      split at turns
      · cases turns
        exact apart
      · cases turns
  | .inRole role phrase, pattern, turns, apart => by
      unfold pattern? at turns
      rcases Option.map_eq_some_iff.1 turns with ⟨inner, innerTurns, same⟩
      rw [← same, apart_inRole]
      exact apart_of_pattern? innerTurns (apart_inRole.1 apart)
  | .node kind span parts, pattern, turns, apart => by
      have inner : ∀ patterns, pattern?.patterns? parts = some patterns -> AllApart patterns :=
        fun patterns turn => allApart_of_patterns? turn (apart_node.1 apart)
      unfold pattern? at turns
      split at turns
      all_goals
        first
        | (cases turns; exact apart)
        | (rcases Option.map_eq_some_iff.1 turns with ⟨patterns, turn, same⟩
           rw [← same, apart_node]
           exact inner patterns turn)
        | cases turns

theorem allApart_of_patterns? : {parts patterns : List Phrase} ->
    pattern?.patterns? parts = some patterns -> AllApart parts -> AllApart patterns
  | [], patterns, turns, _ => by
      cases turns
      exact allApart_nil
  | part :: rest, patterns, turns, apart => by
      rw [allApart_cons] at apart
      unfold pattern?.patterns? at turns
      split at turns
      · rename_i same
        cases same
      · rename_i same
        cases same
        rcases Option.map_eq_some_iff.1 turns with ⟨others, turn, same⟩
        rw [← same, allApart_cons]
        exact ⟨apart.1, allApart_of_patterns? turn apart.2⟩
      · rename_i same
        cases same
        split at turns
        · rename_i first others firstTurns othersTurn
          cases turns
          rw [allApart_cons]
          exact ⟨apart_of_pattern? firstTurns apart.1, allApart_of_patterns? othersTurn apart.2⟩
        · cases turns

end

end Phrase

namespace Reader

open Phrase

theorem visiblePiece_apart (token : Token) : AllApart (visiblePiece token) := by
  unfold visiblePiece
  split <;> simp

theorem contentTail_apart (limit : Nat) (stop : Text.Position) :
    Finds (contentTail stop limit) fun found => AllApart found.2 := by
  induction limit generalizing stop with
  | zero => exact .pure (by simp)
  | succ limit ih =>
      apply Finds.anyway
      intro _
      refine .ite (.anyway fun token => ?_) (.pure (by simp))
      apply (ih token.span.stop).bind
      intro rest restApart
      exact .pure (by simp [*, visiblePiece_apart])

theorem content_apart : Finds content Phrase.Apart := by
  apply Finds.anyway
  intro token
  apply Finds.anyway
  intro limit
  apply (contentTail_apart limit token.span.stop).bind
  intro rest restApart
  exact .pure (by simp [*, visiblePiece_apart])

theorem specTail_apart {field : Reader Phrase} (fields : Finds field Phrase.Apart) (limit : Nat) :
    Finds (specTail field limit) AllApart := by
  induction limit with
  | zero => exact .pure (by simp)
  | succ limit ih =>
      apply Finds.anyway
      intro _
      refine .ite ?_ (.anyway fun _ => .ite (.anyway fun _ => ih) (.pure (by simp)))
      apply fields.bind
      intro first firstApart
      apply ih.bind
      intro rest restApart
      exact .pure (by simp [*])

theorem ellipsis_apart : Finds ellipsis Phrase.Apart := by
  refine .anyway fun first => .anyway fun second => .anyway fun third => .ite ?_ .fail
  split
  · exact .pure (by simp)
  · exact .fail

section Nested

variable {inner : Strength -> Reader Phrase} (expressions : ∀ strength, Finds (inner strength) Phrase.Apart)
include expressions

theorem splat_apart : Finds (splat inner) Phrase.Apart := by
  refine .bind (symbol_apart rfl) fun star starApart => ?_
  apply (expressions _).bind
  intro value valueApart
  exact .pure (by simp [*])

theorem looseSplat_apart : Finds (looseSplat inner) Phrase.Apart := by
  refine .anyway fun start => .bind (symbol_apart rfl) fun star starApart => ?_
  apply (expressions _).bind
  intro value valueApart
  exact .ite (.pure (by simp [*])) .error

theorem doubleSplat_apart : Finds (doubleSplat inner) Phrase.Apart := by
  refine .bind (symbol_apart rfl) fun stars starsApart => ?_
  apply (expressions _).bind
  intro value valueApart
  exact .pure (by simp [*])

theorem element_apart : Finds (element inner) Phrase.Apart :=
  .anyway fun _ => .ite (looseSplat_apart expressions) (expressions _)

theorem elements_apart : Finds (elements inner) Phrase.Apart := by
  apply (commaList_apart (element_apart expressions)).bind
  intro parts partsApart
  exact .pure (by simp [*])

theorem target_apart : Finds (target inner) Phrase.Apart := by
  apply Finds.anyway
  intro start
  apply Finds.anyway
  intro starred
  extract_lets behind
  have joined : ∀ value, value.Apart -> Finds (behind value) Phrase.Apart := by
    intro value apart
    unfold behind
    cases turns : value.pattern? with
    | none => exact .error
    | some pattern => exact .pure (apart_of_pattern? turns apart)
  exact .ite ((splat_apart expressions).bind joined) ((expressions _).bind joined)

theorem targets_apart : Finds (targets inner) Phrase.Apart := by
  apply (commaList_apart (target_apart expressions)).bind
  intro parts partsApart
  exact .pure (by simp [*])

theorem yieldPhrase_apart : Finds (yieldPhrase inner) Phrase.Apart := by
  refine .bind (word_apart rfl) fun head headApart => ?_
  refine .taken rfl (fun source sourceApart => ?_) (.anyway fun _ => .ite ?_ ?_)
  · apply (expressions _).bind
    intro value valueApart
    exact .pure (by simp [*])
  · apply (elements_apart expressions).bind
    intro value valueApart
    exact .pure (by simp [*])
  · exact .pure (by simp [*])

theorem fieldValue_apart : Finds (fieldValue inner) Phrase.Apart :=
  .anyway fun _ => .ite (yieldPhrase_apart expressions) (elements_apart expressions)

theorem field_apart (depth : Nat) (kind : Syntax.PhraseKind) :
    Finds (field inner kind depth) Phrase.Apart := by
  induction depth generalizing kind with
  | zero => exact .fail
  | succ depth ih =>
      refine .bind (symbol_apart rfl) fun opening openingApart => ?_
      apply (fieldValue_apart expressions).bind
      intro value valueApart
      refine .bind (symbol?_apart rfl) fun equals equalsApart => .anyway fun converts => ?_
      extract_lets behind
      have joined : ∀ conversion, AllApart conversion -> Finds (behind conversion) Phrase.Apart := by
        intro conversion conversionApart
        unfold behind
        have closed : ∀ spec, AllApart spec -> Finds (do
            let closing ← symbol "\x7d"
            return build kind opening (value :: equals.toList ++ conversion ++ spec ++ [closing]))
            Phrase.Apart := fun spec specApart =>
          .bind (symbol_apart rfl) fun closing closingApart => .pure (by simp [*])
        refine .taken rfl (fun colon colonApart => .anyway fun limit => ?_) (.bind (.pure ?_) closed)
        · apply (specTail_apart (ih _) limit).bind
          intro pieces piecesApart
          apply Finds.anyway
          intro feed
          exact .bind (.pure (by simp [*])) closed
        · exact allApart_nil
      refine .ite (named_apart.bind fun name nameApart => ?_) ?_
      · exact .bind (.pure (by simp [*])) joined
      · exact .bind (.pure (by simp [*])) joined

theorem stringTail_apart (limit : Nat) : Finds (stringTail inner limit) AllApart := by
  induction limit with
  | zero => exact .pure (by simp)
  | succ limit ih =>
      apply Finds.anyway
      intro _
      refine .ite ?_ (.anyway fun _ => .ite (.anyway fun depth => ?_) ?_)
      · apply content_apart.bind
        intro first firstApart
        apply ih.bind
        intro rest restApart
        exact .pure (by simp [*])
      · apply (field_apart expressions depth _).bind
        intro first firstApart
        apply ih.bind
        intro rest restApart
        exact .pure (by simp [*])
      · exact .pure (by simp)

theorem string_apart : Finds (string inner) Phrase.Apart := by
  apply Finds.anyway
  intro start
  apply named_apart.bind
  intro opening openingApart
  apply Finds.anyway
  intro limit
  apply (stringTail_apart expressions limit).bind
  intro parts partsApart
  apply Finds.anyway
  intro _
  refine .ite (named_apart.bind fun closing closingApart => ?_) .error
  exact .pure (by simp [*])

theorem stringsTail_apart (limit : Nat) : Finds (stringsTail inner limit) AllApart := by
  induction limit with
  | zero => exact .pure (by simp)
  | succ limit ih =>
      apply Finds.anyway
      intro _
      refine .ite ?_ (.pure (by simp))
      apply (string_apart expressions).bind
      intro first firstApart
      apply ih.bind
      intro rest restApart
      exact .pure (by simp [*])

theorem strings_apart : Finds (strings inner) Phrase.Apart := by
  apply (string_apart expressions).bind
  intro first firstApart
  apply Finds.anyway
  intro limit
  apply (stringsTail_apart expressions limit).bind
  intro rest restApart
  exact .pure (by simp [*])

theorem source_apart : Finds (source inner) Phrase.Apart :=
  .anyway fun _ => .ite (looseSplat_apart expressions)
    (.anyway fun _ => .ite (expressions _) (expressions _))

theorem forClause_apart : Finds (forClause inner) Phrase.Apart := by
  refine .bind (word?_apart rfl) fun async asyncApart => .bind (word_apart rfl) fun head headApart => ?_
  apply (targets_apart expressions).bind
  intro left leftApart
  refine .bind (word_apart rfl) fun link linkApart => ?_
  apply (commaList_apart (source_apart expressions)).bind
  intro right rightApart
  exact .pure (by simp [*])

instance : Forward atFor where
  finds := .anyway fun _ => .ite (.pure trivial) (.anyway fun _ => .ite Forward.finds (.pure trivial))

theorem clausesTail_apart (limit : Nat) : Finds (clausesTail inner limit) AllApart := by
  induction limit with
  | zero => exact .pure (by simp)
  | succ limit ih =>
      apply Finds.anyway
      intro _
      refine .ite ?_ (.taken rfl (fun head headApart => ?_) (.pure (by simp)))
      · apply (forClause_apart expressions).bind
        intro first firstApart
        apply ih.bind
        intro rest restApart
        exact .pure (by simp [*])
      · apply (source_apart expressions).bind
        intro condition conditionApart
        apply ih.bind
        intro rest restApart
        exact .pure (by simp [*])

theorem clauses_apart : Finds (clauses inner) AllApart := by
  apply (forClause_apart expressions).bind
  intro first firstApart
  apply Finds.anyway
  intro limit
  apply (clausesTail_apart expressions limit).bind
  intro rest restApart
  exact .pure (by simp [*])

/-! ## Brackets -/

theorem item_apart : Finds (item inner) Phrase.Apart := by
  apply Finds.anyway
  intro _
  refine .ite (yieldPhrase_apart expressions) ?_
  refine .anyway fun _ => .ite (doubleSplat_apart expressions) ?_
  exact .anyway fun _ => .ite (splat_apart expressions) (expressions _)

section Closed

variable {kind : Syntax.PhraseKind} {opening first : Phrase} {text : String}

/-- A first part, the clauses behind it and a closing bracket make a node of an opening one, -/
theorem closedClauses_apart (apart : Apart text) (openingApart : opening.Apart)
    (firstApart : first.Apart) :
    Finds (do
      let rest ← clauses inner
      let closing ← symbol text
      return Phrase.build kind opening (first :: rest ++ [closing])) Phrase.Apart := by
  apply (clauses_apart expressions).bind
  intro rest restApart
  exact closed_apart apart openingApart (Phrase.allApart_cons.2 ⟨firstApart, restApart⟩)

omit expressions in
/-- and so do a first part, more parts behind commas and a closing bracket. -/
theorem closedTail_apart {element : Reader Phrase} {starts : Token -> Bool}
    (elements : Finds element Phrase.Apart) (apart : Apart text) (openingApart : opening.Apart)
    (firstApart : first.Apart) :
    Finds (do
      let rest ← commaTail starts element (← count)
      let closing ← symbol text
      return Phrase.build kind opening (first :: rest ++ [closing])) Phrase.Apart := by
  apply Finds.anyway
  intro limit
  apply (commaTail_apart elements limit).bind
  intro rest restApart
  exact closed_apart apart openingApart (Phrase.allApart_cons.2 ⟨firstApart, restApart⟩)

end Closed

theorem parenthesized_apart : Finds (parenthesized inner) Phrase.Apart := by
  refine .bind (symbol_apart rfl) fun opening openingApart => ?_
  refine .taken rfl (fun closing closingApart => .pure (by simp [*])) ?_
  apply (item_apart expressions).bind
  intro first firstApart
  apply Finds.anyway
  intro comprehends
  refine .ite ?_ (.anyway fun several => .ite ?_ ?_)
  · exact closedClauses_apart expressions rfl openingApart firstApart
  · exact closedTail_apart (item_apart expressions) rfl openingApart firstApart
  · exact .bind (symbol_apart rfl) fun closing closingApart => .pure (by simp [*])

theorem bracketed_apart : Finds (bracketed inner) Phrase.Apart := by
  refine .bind (symbol_apart rfl) fun opening openingApart => ?_
  refine .taken rfl (fun closing closingApart => .pure (by simp [*])) ?_
  apply (item_apart expressions).bind
  intro first firstApart
  apply Finds.anyway
  intro comprehends
  refine .ite ?_ ?_
  · exact closedClauses_apart expressions rfl openingApart firstApart
  · exact closedTail_apart (item_apart expressions) rfl openingApart firstApart

theorem pairBehind_apart {key : Phrase} (apart : key.Apart) :
    Finds (pairBehind inner key) Phrase.Apart := by
  refine .bind (symbol_apart rfl) fun colon colonApart => ?_
  apply (expressions _).bind
  intro value valueApart
  exact .pure (by simp [*])

theorem entry_apart : Finds (entry inner) Phrase.Apart := by
  refine .anyway fun _ => .ite (doubleSplat_apart expressions) ?_
  exact (expressions _).bind fun key keyApart => pairBehind_apart expressions keyApart

theorem braced_apart : Finds (braced inner) Phrase.Apart := by
  refine .bind (symbol_apart rfl) fun opening openingApart => ?_
  refine .taken rfl (fun closing closingApart => .pure (by simp [*])) ?_
  refine .taken rfl (fun comma commaApart => ?_) ?_
  · exact .bind (symbol_apart rfl) fun closing closingApart => .pure (by simp [*])
  apply Finds.anyway
  intro unpacks
  refine .ite ?_ ?_
  · apply (commaList_apart (entry_apart expressions)).bind
    intro entries entriesApart
    exact closed_apart rfl openingApart entriesApart
  apply (item_apart expressions).bind
  intro first firstApart
  apply Finds.anyway
  intro maps
  refine .ite ?_ ?_
  · apply (pairBehind_apart expressions firstApart).bind
    intro pair pairApart
    apply Finds.anyway
    intro comprehends
    refine .ite ?_ ?_
    · exact closedClauses_apart expressions rfl openingApart pairApart
    · exact closedTail_apart (entry_apart expressions) rfl openingApart pairApart
  · apply Finds.anyway
    intro comprehends
    refine .ite ?_ ?_
    · exact closedClauses_apart expressions rfl openingApart firstApart
    · exact closedTail_apart (item_apart expressions) rfl openingApart firstApart

/-! ## Arguments and subscripts -/

theorem keywordArgument_apart : Finds (keywordArgument inner) Phrase.Apart := by
  apply (inRole_apart identifier_apart).bind
  intro name nameApart
  refine .bind (symbol_apart rfl) fun equals equalsApart => ?_
  apply (expressions _).bind
  intro value valueApart
  exact .pure (by simp [*])

theorem argument_apart : Finds (argument inner) Phrase.Apart := by
  refine .taken rfl (fun star starApart => ?_) (.taken rfl (fun stars starsApart => ?_) ?_)
  · apply (expressions _).bind
    intro value valueApart
    exact .pure (by simp [*])
  · apply (expressions _).bind
    intro value valueApart
    exact .pure (by simp [*])
  · exact .anyway fun _ => .anyway fun _ =>
      .ite (keywordArgument_apart expressions) (expressions _)

theorem arguments_apart (generators : Bool) : Finds (arguments inner generators) Phrase.Apart := by
  refine .bind (symbol_apart rfl) fun opening openingApart => ?_
  refine .taken rfl (fun closing closingApart => .pure (by simp [*])) ?_
  refine .taken rfl (fun comma commaApart => ?_) ?_
  · exact .bind (symbol_apart rfl) fun closing closingApart => .pure (by simp [*])
  apply (argument_apart expressions).bind
  intro first firstApart
  apply Finds.anyway
  intro comprehends
  refine .ite ?_ ?_
  · exact closedClauses_apart expressions rfl openingApart firstApart
  · exact closedTail_apart (argument_apart expressions) rfl openingApart firstApart

theorem sliceBound_apart : Finds (sliceBound inner) AllApart := by
  refine .anyway fun _ => .ite ((expressions _).bind fun bound boundApart => ?_) (.pure (by simp))
  exact .pure (by simp [*])

theorem sliceBehind_apart {before : List Phrase} (apart : AllApart before) :
    Finds (sliceBehind inner before) Phrase.Apart := by
  refine .bind (symbol_apart rfl) fun colon colonApart => ?_
  apply (sliceBound_apart expressions).bind
  intro upper upperApart
  refine .taken rfl (fun second secondApart => ?_) (.pure (by simp [*]))
  apply (sliceBound_apart expressions).bind
  intro stride strideApart
  exact .pure (by simp [*])

theorem subscriptItem_apart : Finds (subscriptItem inner) Phrase.Apart := by
  apply Finds.anyway
  intro _
  refine .ite (looseSplat_apart expressions) ?_
  apply Finds.anyway
  intro _
  refine .ite (sliceBehind_apart expressions allApart_nil) ?_
  apply (expressions _).bind
  intro first firstApart
  apply Finds.anyway
  intro _
  refine .ite ?_ (.pure firstApart)
  exact sliceBehind_apart expressions (by simp [*])

/-! ## Primary expressions -/

theorem atom_apart : Finds (atom inner) Phrase.Apart := by
  apply Finds.anyway
  intro head
  cases head with
  | none => exact .fail
  | some token =>
      dsimp only
      split
      case h_4 => exact strings_apart expressions
      case h_10 => exact parenthesized_apart expressions
      case h_11 => exact bracketed_apart expressions
      case h_12 => exact braced_apart expressions
      case h_13 => exact ellipsis_apart
      case h_14 => exact .fail
      all_goals exact named_apart

theorem trailers_apart (limit : Nat) {left : Phrase} (apart : left.Apart) :
    Finds (trailers inner limit left) Phrase.Apart := by
  induction limit generalizing left with
  | zero => exact .pure apart
  | succ limit ih =>
      refine .taken rfl (fun dot dotApart => ?_) (.anyway fun _ => .ite ?_ (.taken rfl ?_ (.pure apart)))
      · apply identifier_apart.bind
        intro name nameApart
        exact ih (by simp [*])
      · apply (arguments_apart expressions true).bind
        intro actual actualApart
        exact ih (by simp [*])
      · intro opening openingApart
        apply (commaList_apart (subscriptItem_apart expressions)).bind
        intro keys keysApart
        refine .bind (symbol_apart rfl) fun closing closingApart => ?_
        exact ih (by simp [*])

theorem primary_apart : Finds (primary inner) Phrase.Apart :=
  (atom_apart expressions).bind fun _ apart => .anyway fun limit =>
    trailers_apart expressions limit apart

theorem awaited_apart : Finds (awaited inner) Phrase.Apart := by
  refine .bind (word_apart rfl) fun head headApart => .anyway fun _ => .ite ?_ ?_
  · apply (primary_apart expressions).bind
    intro value valueApart
    exact .pure (by simp [*])
  · split
    · exact .anyway fun limit => trailers_apart expressions limit apart_kind
    · exact .pure headApart

/-! ## Parameters -/

theorem annotation_apart : Finds ( annotation inner) Phrase.Apart := by
  apply Finds.anyway
  intro _
  refine .ite ?_ (.taken rfl (fun stars starsApart => ?_) ?_)
  · apply (looseSplat_apart expressions).bind
    intro splat splatApart
    exact .pure (by simp [splatApart.parts])
  · apply identifier_apart.bind
    intro name nameApart
    exact .pure (by simp [*])
  · apply (expressions _).bind
    intro value valueApart
    exact .pure (by simp [*])

theorem defaulted_apart {parameter : Phrase} (apart : parameter.Apart) :
    Finds (defaulted inner parameter) Phrase.Apart := by
  refine .taken rfl (fun equals equalsApart => ?_) (.pure apart)
  apply (expressions _).bind
  intro value valueApart
  exact .pure (by simp [*])

theorem parameter_apart (annotated : Bool) : Finds (parameter inner annotated) Phrase.Apart := by
  unfold parameter
  extract_lets typed
  have typedApart : ∀ head, head.Apart -> Finds (typed head) Phrase.Apart := by
    intro head headApart
    refine .takenIf rfl (fun colon colonApart => ?_) (.pure headApart)
    apply (annotation_apart expressions).bind
    intro type typeApart
    exact .pure (by simp [*])
  apply Finds.anyway
  intro _
  refine .ite ?_ (.taken rfl (fun star starApart => ?_) (.taken rfl ?_ (.taken rfl ?_ ?_)))
  · apply (parenthesized_apart expressions).bind
    intro value valueApart
    cases turns : value.pattern? with
    | none => exact .fail
    | some pattern => exact defaulted_apart expressions (apart_of_pattern? turns valueApart)
  · apply Finds.anyway
    intro _
    refine .ite (identifier_apart.bind fun name nameApart => ?_) ?_
    · exact typedApart _ (by simp [*])
    · exact .pure (by simp [*])
  · intro stars starsApart
    apply identifier_apart.bind
    intro name nameApart
    exact typedApart _ (by simp [*])
  · intro slash slashApart
    exact .pure (by simp [*])
  · apply identifier_apart.bind
    intro name nameApart
    refine .takenIf rfl (fun colon colonApart => ?_) (defaulted_apart expressions nameApart)
    apply (annotation_apart expressions).bind
    intro type typeApart
    refine .taken rfl (fun equals equalsApart => ?_) (.pure (by simp [*]))
    apply (expressions _).bind
    intro value valueApart
    exact .pure (by simp [*])

theorem lambda_apart : Finds (lambda inner) Phrase.Apart := by
  refine .bind (word_apart rfl) fun head headApart => .anyway fun bare => ?_
  extract_lets behind
  have joined : ∀ parameters, AllApart parameters -> Finds (behind parameters) Phrase.Apart := by
    intro parameters parametersApart
    refine .bind (symbol_apart rfl) fun colon colonApart => ?_
    apply (expressions _).bind
    intro body bodyApart
    exact .pure (by simp [*])
  refine .ite (.bind (.pure allApart_nil) joined) ?_
  apply (commaList_apart (parameter_apart expressions false)).bind
  intro parts partsApart
  exact .bind (.pure (by simp [*])) joined

/-! ## Operators -/

omit expressions in
theorem apart_of_operatorStrength? {token : Token} {strength : Strength}
    (is : operatorStrength? token = some strength) : Source.Apart token.text := by
  unfold operatorStrength? at is
  split at is
  all_goals
    first
    | (rename_i spelled; exact spelled ▸ rfl)
    | cases is

omit expressions in
theorem apart_of_isComparisonSymbol {text : String} (is : isComparisonSymbol text = true) :
    Source.Apart text := by
  have every : ∀ sign ∈ ["<", "<=", "==", "!=", ">=", ">", "<>"], Source.Apart sign := by
    simp [Source.Apart, importKindNames]
  exact every text (List.contains_iff_mem.1 is)

theorem operand_apart (strength : Strength) : Finds (operand inner strength) Phrase.Apart := by
  refine .peeked fun feed => ?_
  cases head : feed.ahead.head? with
  | none => exact Finds.fail feed
  | some token =>
      have sign : feed.Apart -> FindsAt feed (do
          let head ← plain
          let value ← inner .factor
          return .build .unaryOperator head [value]) Phrase.Apart := by
        intro sees
        apply (plain_apart sees).bind
        intro head headApart
        apply (expressions _).bind
        intro value valueApart
        exact .pure (by simp [*])
      dsimp only
      split
      · rename_i spelled
        refine .ite (fun _ => ?_) fun _ => Finds.fail feed
        apply (plain_apart (Feed.apart_of_head head spelled rfl)).bind
        intro head headApart
        apply (expressions _).bind
        intro value valueApart
        exact .pure (by simp [*])
      · exact .ite (fun _ => lambda_apart expressions feed) fun _ => Finds.fail feed
      · exact awaited_apart expressions feed
      · rename_i spelled
        exact sign (Feed.apart_of_head head spelled rfl)
      · rename_i spelled
        exact sign (Feed.apart_of_head head spelled rfl)
      · rename_i spelled
        exact sign (Feed.apart_of_head head spelled rfl)
      · exact primary_apart expressions feed

omit expressions in
theorem comparison?_apart : Finds comparison? fun found => AllApart found.toList := by
  refine .peeked fun feed => ?_
  cases head : feed.ahead.head? with
  | none => exact Finds.pure (by simp) feed
  | some token =>
      have taken : feed.Apart ->
          FindsAt feed (do return some (← plain)) fun found => AllApart found.toList := by
        intro sees
        apply (plain_apart sees).bind
        intro sign signApart
        exact .pure (by simp [*])
      dsimp only
      split
      · rename_i spelled
        exact taken (Feed.apart_of_head head spelled rfl)
      · rename_i spelled
        apply (plain_apart (Feed.apart_of_head head spelled rfl)).bind
        intro sign signApart
        apply Finds.anyway
        intro second
        split
        · rename_i kind token second
          cases kind <;> exact .pure (by simp [Source.Apart, importKindNames])
        · exact .pure (by simp [*])
      · refine .ask rfl (.ite (fun _ => ?_) fun _ => Finds.pure (by simp) feed)
        refine Finds.anyway (fun sign => .anyway fun second => ?_) feed
        split
        · rename_i kind token
          cases kind <;> exact .pure (by simp [Source.Apart, importKindNames])
        · exact .fail
      · refine .ite (fun compares => ?_) fun _ => Finds.pure (by simp) feed
        exact taken (Feed.apart_of_head head rfl (apart_of_isComparisonSymbol compares))
      · exact Finds.pure (by simp) feed

theorem comparisonTail_apart (limit : Nat) : Finds (comparisonTail inner limit) AllApart := by
  induction limit with
  | zero => exact .pure (by simp)
  | succ limit ih =>
      refine comparison?_apart.bind fun sign signApart => ?_
      cases sign with
      | none => exact .pure (by simp)
      | some sign =>
          apply (expressions _).bind
          intro right rightApart
          apply ih.bind
          intro rest restApart
          exact .pure (by simp_all)

theorem operators_apart (strength : Strength) (limit : Nat) {left : Phrase} (apart : left.Apart) :
    Finds (operators inner strength limit left) Phrase.Apart := by
  induction limit generalizing left with
  | zero => exact .pure apart
  | succ limit ih =>
      intro feed
      refine .ask rfl ?_
      cases found : feed.ahead.head?.bind operatorStrength? with
      | some found =>
          rcases Option.bind_eq_some_iff.1 found with ⟨token, head, is⟩
          refine .ite (fun _ => ?_) fun _ => Finds.pure apart feed
          have sees := Feed.apart_of_head head rfl (apart_of_operatorStrength? is)
          apply (plain_apart sees).bind
          intro sign signApart
          apply (expressions _).bind
          intro right rightApart
          exact ih (by simp [*])
      | none =>
          refine .ite (fun _ => ?_) fun _ => Finds.pure apart feed
          refine Finds.anyway (fun chainLimit => ?_) feed
          apply (comparisonTail_apart expressions chainLimit).bind
          intro chain chainApart
          split
          · exact .pure apart
          · exact ih (by simp [*])

theorem conditional_apart {value : Phrase} (apart : value.Apart) :
    Finds (conditional inner value) Phrase.Apart := by
  refine .taken rfl (fun head headApart => ?_) (.pure apart)
  apply (expressions _).bind
  intro condition conditionApart
  refine .bind (word_apart rfl) fun link linkApart => ?_
  apply (expressions _).bind
  intro alternative alternativeApart
  exact .pure (by simp [*])

theorem bindings_apart (limit : Nat) {value : Phrase} (apart : value.Apart) :
    Finds (bindings inner limit value) Phrase.Apart := by
  induction limit generalizing value with
  | zero => exact .pure apart
  | succ limit ih =>
      refine .taken rfl (fun link linkApart => ?_) (.pure apart)
      apply (expressions _).bind
      intro name nameApart
      exact ih (by simp [*])

theorem expressionWith_apart (strength : Strength) :
    Finds (expressionWith inner strength) Phrase.Apart := by
  have bounded : ∀ limit first, first.Apart -> Finds (operators inner strength limit first) Phrase.Apart :=
    fun limit first apart => operators_apart expressions strength limit apart
  refine .ite (.nameBefore rfl (fun name sign nameApart signApart => ?_) ?_) ?_
  · apply (expressions _).bind
    intro value valueApart
    exact .pure (by simp [*])
  · apply (operand_apart expressions strength).bind
    intro first firstApart
    apply Finds.anyway
    intro limit
    apply (bounded limit first firstApart).bind
    intro value valueApart
    apply (conditional_apart expressions valueApart).bind
    intro value valueApart
    exact .anyway fun limit => bindings_apart expressions limit valueApart
  · apply (operand_apart expressions strength).bind
    intro first firstApart
    apply Finds.anyway
    intro limit
    exact bounded limit first firstApart

end Nested

theorem nested_apart (limit : Nat) (strength : Strength) :
    Finds (nested limit strength) Phrase.Apart := by
  induction limit generalizing strength with
  | zero => exact .fail
  | succ limit ih => exact expressionWith_apart ih strength

/-- No token of an expression that stands under its own spelling could be
mistaken for an import statement. -/
theorem expression_apart (strength : Strength) : Finds (expression strength) Phrase.Apart :=
  .anyway fun limit => nested_apart (limit + 1) strength

end Reader

end Source
end ImportCensus

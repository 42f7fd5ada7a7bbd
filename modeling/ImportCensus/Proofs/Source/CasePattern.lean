import ImportCensus.Proofs.Source.Expression
import ImportCensus.Source.CasePattern

namespace ImportCensus
namespace Source

/-!
# What case patterns and dotted names are made of

Case patterns hold no token under its own spelling that could be mistaken for
an import statement.  The two readers that call each other, for closed patterns
and for entries of mappings, are answered for together, by induction on their
common limit.  A dotted name is made of the names that were ahead.
-/

variable {property : Token -> Prop}

/-- A row of names between dots; each name is read from a token with a property. -/
inductive Phrase.Dotted (property : Token -> Prop) : List Phrase -> Prop
  | last {token : Token} (kind : token.kind = .name) (has : property token) :
      Dotted property [.leaf (some .identifier) token]
  | before {token dot : Token} {rest : List Phrase} (kind : token.kind = .name)
      (has : property token) (spelled : dot.text = ".") (behind : Dotted property rest) :
      Dotted property (.leaf (some .identifier) token :: .leaf none dot :: rest)

theorem Phrase.Dotted.allApart {parts : List Phrase} (dotted : Phrase.Dotted property parts) :
    Phrase.AllApart parts := by
  induction dotted with
  | last => simp
  | before _ _ spelled _ ih =>
      rw [Phrase.allApart_cons, Phrase.allApart_cons, Phrase.apart_token, spelled]
      exact ⟨Phrase.apart_kind, rfl, ih⟩

namespace Reader

open Phrase

/-! ## Dotted names -/

theorem dottedTail_dotted (limit : Nat) : FindsIn property (dottedTail limit) fun tail =>
    ∀ token, token.kind = .name -> property token ->
      Dotted property (.leaf (some .identifier) token :: tail) := by
  induction limit with
  | zero => exact Finds.within (.pure fun _ => .last)
  | succ limit ih =>
      refine symbol?_spelled.within.bind fun dot found => ?_
      cases dot with
      | none => exact Finds.within (.pure fun _ => .last)
      | some dot =>
          rcases found dot rfl with ⟨sign, rfl, spelled⟩
          refine identifier_name.bind ?_
          rintro _ ⟨name, rfl, nameKind, nameHas⟩
          apply ih.bind
          intro rest behind
          refine Finds.within (.pure fun token kind has => ?_)
          exact .before kind has spelled (behind name nameKind nameHas)

/-- A dotted name is a node of its own kind over names that were ahead. -/
theorem dottedName_dotted : FindsIn property dottedName fun found =>
    ∃ span parts, found = .node .dottedName span parts ∧ Dotted property parts := by
  refine identifier_name.bind ?_
  rintro _ ⟨first, rfl, kind, has⟩
  apply FindsIn.anyway
  intro limit
  apply (dottedTail_dotted limit).bind
  intro rest behind
  exact Finds.within (.pure ⟨_, _, rfl, behind first kind has⟩)

theorem dottedName_apart : Finds dottedName Phrase.Apart := by
  refine dottedName_dotted.everywhere.imp ?_
  rintro _ ⟨span, parts, rfl, dotted⟩
  exact Phrase.apart_node.2 dotted.allApart

/-! ## Patterns -/

theorem number_apart : Finds number Phrase.Apart := by
  apply Finds.anyway
  intro head
  cases head with
  | none => exact .fail
  | some token => exact .ite named_apart (.ite named_apart .fail)

theorem numberPattern_apart : Finds numberPattern AllApart := by
  refine .bind (symbol?_apart rfl) fun sign signApart => number_apart.bind fun real realApart => ?_
  refine fun feed => .ask rfl (.ask rfl (.ite (fun sees => ?_) fun _ => ?_))
  · have apart : feed.Apart := by
      intro token head
      rw [head] at sees
      simp only [Option.any_some, Bool.or_eq_true] at sees
      rcases sees with plus | minus
      · exact text_of_is plus ▸ rfl
      · exact text_of_is minus ▸ rfl
    apply (plain_apart apart).bind
    intro link linkApart
    apply number_apart.bind
    intro imaginary imaginaryApart
    exact .pure (by simp [*])
  · exact Finds.pure (by simp [*]) feed

section Nested

variable {inner : Reader Phrase} (patterns : Finds inner Phrase.Apart)

include patterns in
theorem patternsUntil_apart {closing : String} (apart : Source.Apart closing) :
    Finds (patternsUntil inner closing) AllApart := by
  apply Finds.anyway
  intro some
  extract_lets behind
  have joined : ∀ parts, AllApart parts -> Finds (behind parts) AllApart := by
    intro parts partsApart
    apply Finds.bind (symbol_apart apart)
    intro closing closingApart
    exact .pure (by simp [*])
  refine .ite ((commaList_apart patterns).bind joined) ?_
  exact .bind (.pure allApart_nil) joined

theorem splatPattern_apart {feed : Feed} (sees : feed.Apart) :
    FindsAt feed splatPattern Phrase.Apart := by
  apply (plain_apart sees).bind
  intro star starApart
  apply identifier_apart.bind
  intro name nameApart
  exact .pure (by simp [*])

include patterns

/-- A bracketed pattern, from its opening bracket on. -/
theorem enclosed_apart {kind : Syntax.PhraseKind} {closing : String} {feed : Feed}
    (sees : feed.Apart) (apart : Source.Apart closing) :
    FindsAt feed (do
      let opening ← plain
      return [build kind opening (← patternsUntil inner closing)]) AllApart := by
  apply (plain_apart sees).bind
  intro opening openingApart
  apply (patternsUntil_apart patterns apart).bind
  intro parts partsApart
  exact .pure (by simp [*])

theorem closedPattern_succ {limit : Nat}
    (entries : Finds (entryPattern inner limit) Phrase.Apart) :
    Finds (closedPattern inner (limit + 1)) AllApart := by
  refine .peeked fun feed => ?_
  cases head : feed.ahead.head? with
  | none => exact Finds.fail feed
  | some token =>
      dsimp only
      split
      case h_1 spelled => exact single_apart (splatPattern_apart (Feed.apart_of_head head spelled rfl))
      case h_2 spelled => exact single_apart (splatPattern_apart (Feed.apart_of_head head spelled rfl))
      case h_3 => exact numberPattern_apart feed
      case h_4 => exact numberPattern_apart feed
      case h_5 => exact numberPattern_apart feed
      case h_6 => exact single_apart (strings_apart expression_apart feed)
      case h_7 => exact single_apart (named_apart feed)
      case h_8 => exact single_apart (named_apart feed)
      case h_9 => exact single_apart (named_apart feed)
      case h_10 spelled => exact enclosed_apart patterns (Feed.apart_of_head head spelled rfl) rfl
      case h_11 spelled => exact enclosed_apart patterns (Feed.apart_of_head head spelled rfl) rfl
      case h_12 spelled =>
        apply (plain_apart (Feed.apart_of_head head spelled rfl)).bind
        intro opening openingApart
        have closed : ∀ parts, AllApart parts -> Finds (do
            return [build .dictPattern opening (parts ++ [← symbol "\x7d"])]) AllApart := by
          intro parts partsApart
          refine .bind (symbol_apart rfl) fun closing closingApart => ?_
          exact .pure (by simp [*])
        refine .anyway fun some => .ite ((commaList_apart entries).bind closed) ?_
        exact .bind (.pure allApart_nil) closed
      case h_13 =>
        refine Finds.bind dottedName_apart (fun name nameApart => ?_) feed
        refine .taken rfl (fun opening openingApart => ?_) (.pure (by simp [*]))
        refine .bind (patternsUntil_apart patterns rfl) fun parts partsApart => ?_
        exact .pure (by simp [*])
      case h_14 => exact Finds.fail feed

theorem entryPattern_succ {limit : Nat} (keys : Finds (closedPattern inner limit) AllApart) :
    Finds (entryPattern inner (limit + 1)) Phrase.Apart := by
  refine .at rfl (fun feed sees => splatPattern_apart sees) ?_
  refine keys.bind fun key keyApart => .bind (symbol_apart rfl) fun colon colonApart => ?_
  apply patterns.bind
  intro value valueApart
  exact .pure (by simp [*])

theorem closedPattern_entryPattern_apart (limit : Nat) :
    Finds (closedPattern inner limit) AllApart ∧ Finds (entryPattern inner limit) Phrase.Apart := by
  induction limit with
  | zero => exact ⟨.fail, .fail⟩
  | succ limit ih => exact ⟨closedPattern_succ patterns ih.2, entryPattern_succ patterns ih.1⟩

theorem alternatives_apart (limit : Nat) : Finds (alternatives inner limit) AllApart := by
  induction limit with
  | zero => exact .pure (by simp)
  | succ limit ih =>
      refine .bind (symbol?_apart rfl) fun bar barApart => ?_
      cases bar with
      | none => exact .pure (by simp)
      | some bar =>
          apply (closedPattern_entryPattern_apart patterns 3).1.bind
          intro first firstApart
          apply ih.bind
          intro rest restApart
          exact .pure (by simp_all)

theorem unionPattern_apart : Finds (unionPattern inner) AllApart := by
  apply (closedPattern_entryPattern_apart patterns 3).1.bind
  intro first firstApart
  apply Finds.anyway
  intro limit
  apply (alternatives_apart patterns limit).bind
  intro rest restApart
  split
  · exact .pure firstApart
  · exact .pure (by simp [*])

theorem casePatternWith_apart : Finds (casePatternWith inner) Phrase.Apart := by
  refine .nameBefore rfl (fun name equals nameApart equalsApart => ?_) ?_
  · apply (unionPattern_apart patterns).bind
    intro value valueApart
    exact .pure (by simp [*])
  · apply (unionPattern_apart patterns).bind
    intro value valueApart
    refine .taken rfl (fun link linkApart => ?_) (.pure (by simp [*]))
    apply identifier_apart.bind
    intro name nameApart
    exact .pure (by simp [*])

end Nested

theorem nestedPattern_apart (limit : Nat) : Finds (nestedPattern limit) Phrase.Apart := by
  induction limit with
  | zero => exact .fail
  | succ limit ih => exact casePatternWith_apart ih

theorem casePattern_apart : Finds casePattern Phrase.Apart :=
  .anyway fun limit => nestedPattern_apart (limit + 1)

end Reader

end Source
end ImportCensus

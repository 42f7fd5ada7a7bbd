import ImportCensus.Proofs.Yaml.Confinement
import ImportCensus.Yaml.Document

namespace ImportCensus
namespace Yaml

/-!
# Faults of reading

While the nodes of a document are read there are no values yet, so that nearly all that can
be wrong has a place in the text.  Two numbers are made all the same: the code of an escape
between quotes, which must be the code of a character, and the version that a directive
declares, whose digits must not be too many.
-/

/-- A value that is made while a document is read, and cannot be. -/
inductive Unspellable : ValueFault -> Prop
  | character {code : Nat} (beyond : 0x110000 ≤ code) : Unspellable (.noCharacter code)
  | version {count : Nat} (many : Number.mostDigits < count) : Unspellable (.manyDigits count)

variable {cause : ValueFault -> Prop}

/-! ## Labels and directives -/

section Labels

variable (isOld : Bool) (partName : String) (start : Mark) (cursor : Cursor)

@[simp]
theorem confined_label (isAlias : Bool) : Confined cause (label isAlias cursor) := by
  unfold label
  simp

@[simp]
theorem confined_addressBytes (limit : Nat) :
    Confined cause (addressBytes partName start limit cursor) := by
  induction limit generalizing cursor with
  | zero => exact .ok _
  | succ limit ih =>
      unfold addressBytes
      simp [ih]

@[simp]
theorem confined_addressRest (limit : Nat) (done : List Char) :
    Confined cause (addressRest isOld partName start limit done cursor) := by
  induction limit generalizing done cursor with
  | zero => exact .ok _
  | succ limit ih =>
      unfold addressRest
      dsimp only
      split
      · exact .pure _
      · refine (confined_addressBytes _ _ _ _).andThen fun found => ?_
        split <;> simp [ih]

@[simp]
theorem confined_address : Confined cause (address isOld partName start cursor) := by
  unfold address
  simp

@[simp]
theorem confined_handle : Confined cause (handle partName start cursor) := by
  unfold handle
  simp

@[simp]
theorem confined_tag : Confined cause (tag isOld cursor) := by
  unfold tag
  simp

/-- A version is the one number that is made of the text around nodes. -/
@[simp]
theorem confined_versionNumber : Confined Unspellable (versionNumber start cursor) := by
  unfold versionNumber
  simpa using fun _ many => Unspellable.version many

@[simp]
theorem confined_versionDirective : Confined Unspellable (versionDirective start cursor) := by
  unfold versionDirective
  simp

@[simp]
theorem confined_tagDirective : Confined cause (tagDirective isOld start cursor) := by
  unfold tagDirective
  simp

@[simp]
theorem confined_directive : Confined Unspellable (directive isOld cursor) := by
  unfold directive
  simp

end Labels

/-! ## Scalars -/

section Scalars

variable (start : Mark) (cursor : Cursor)

@[simp]
theorem confined_quotedBreaks (limit : Nat) : Confined cause (quotedBreaks start limit cursor) := by
  induction limit generalizing cursor with
  | zero =>
      unfold quotedBreaks
      simp
  | succ limit ih =>
      unfold quotedBreaks
      split
      · exact .inside
      · dsimp only
        cases (cursor.skip isSpaceOrTab).lineBreak? with
        | none => exact .ok _
        | some found => exact (ih found.2).andThen fun _ => .pure _

/-- An escape spells a character by its code, which may be too large for one. -/
@[simp]
theorem confined_escaped : Confined Unspellable (escaped start cursor) := by
  unfold escaped
  dsimp only
  split
  · exact .ok _
  · split
    · exact .inside
    · simpa using Unspellable.character
  · exact confined_quotedBreaks _ _ _
  · exact .inside

@[simp]
theorem confined_quotedRun (double : Bool) (limit : Nat) (done : List Char) :
    Confined Unspellable (quotedRun double start limit done cursor) := by
  induction limit generalizing done cursor with
  | zero => exact .ok _
  | succ limit ih =>
      unfold quotedRun
      dsimp only
      split
      · exact ih _ _
      · split
        · exact ih _ _
        · split
          · split
            · next found =>
              have confined := confined_escaped start
                (Cursor.advance 1 (Cursor.advance (cursor.ahead isQuotable).length cursor))
              rw [found] at confined
              exact confined.error
            · exact ih _ _
          · exact .ok _

@[simp]
theorem confined_quotedSpace : Confined cause (quotedSpace start cursor) := by
  unfold quotedSpace
  dsimp only
  split
  · exact .inside
  · split <;> simp

@[simp]
theorem confined_quotedRest (double : Bool) (limit : Nat) (done : List Char) :
    Confined Unspellable (quotedRest double start limit done cursor) := by
  induction limit generalizing done cursor with
  | zero =>
      unfold quotedRest
      simp
  | succ limit ih =>
      unfold quotedRest
      simp [ih]

@[simp]
theorem confined_quotedScalar (double : Bool) :
    Confined Unspellable (quotedScalar double cursor) := by
  unfold quotedScalar
  simp

@[simp]
theorem confined_indentDigit : Confined cause (indentDigit start cursor) := by
  unfold indentDigit
  simp

@[simp]
theorem confined_blockHeader : Confined cause (blockHeader start cursor) := by
  unfold blockHeader
  dsimp only
  cases chomping? cursor.next with
  | some => simp
  | none =>
      refine (confined_indentDigit _ _).andThen fun found => ?_
      split <;> simp

@[simp]
theorem confined_blockScalar (isFolded : Bool) (around : Int) :
    Confined cause (blockScalar isFolded around cursor) := by
  unfold blockScalar
  refine (confined_blockHeader _ _).andThen fun found => ?_
  dsimp only
  split <;> simp

end Scalars

/-! ## Tokens -/

namespace Lexer

variable (lexer : Lexer)

@[simp]
theorem confined_forgetStale : Confined cause lexer.forgetStale := by
  unfold forgetStale noColon
  dsimp only
  split <;> simp

@[simp]
theorem confined_forgetKey : Confined cause lexer.forgetKey := by
  unfold forgetKey noColon
  split <;> simp

@[simp]
theorem confined_noteKey : Confined cause lexer.noteKey := by
  unfold noteKey
  simp

@[simp]
theorem confined_leaveBlocks : Confined cause lexer.leaveBlocks := by
  unfold leaveBlocks
  simp

@[simp]
theorem confined_lexKeyLike {read : Cursor -> Except Fault (Token × Cursor)}
    (confined : ∀ cursor, Confined cause (read cursor)) :
    Confined cause (lexer.lexKeyLike read) := by
  unfold lexKeyLike
  simp [confined]

@[simp]
theorem confined_lexValue : Confined cause lexer.lexValue := by
  unfold lexValue
  split <;> simp

/-- Of all tokens only directives and scalars in quotes make numbers. -/
@[simp]
theorem confined_lexHere : Confined Unspellable lexer.lexHere := by
  unfold lexHere
  simp [lexEnd, lexDirective, lexSeparator, lexOpening, lexClosing, lexFlowItem, lexBlockItem,
    lexKey, lexPlain, lexBlockScalar]

@[simp]
theorem confined_step : Confined Unspellable lexer.step := by
  unfold step
  simp

@[simp]
theorem confined_settled : Confined Unspellable lexer.settled := by
  have confined (limit : Nat) (lexer : Lexer) : Confined Unspellable (lexer.settle limit) := by
    induction limit generalizing lexer with
    | zero => exact .ok _
    | succ limit ih =>
        unfold settle
        simp [ih]
  exact confined _ lexer

end Lexer

@[simp]
theorem confined_peekToken (lexer : Lexer) : Confined Unspellable (peekToken.run lexer) := by
  unfold peekToken
  simp

@[simp]
theorem confined_takeToken (lexer : Lexer) : Confined Unspellable (takeToken.run lexer) := by
  unfold takeToken
  simp

/-! ## Parts of nodes -/

namespace Composing

variable (composer : Composer)

@[simp]
theorem confined_fail {α : Type} {fault : Fault} :
    Confined cause ((fail fault : Composing α).run composer) ↔
      Confined cause (.error fault : Except Fault α) :=
  ⟨.error, .error⟩

theorem confined_lexing {α : Type} {action : Lexing α}
    (confined : Confined cause (action.run composer.lexer)) :
    Confined cause ((lexing action).run composer) := by
  intro fault failed
  change lexing action composer = _ at failed
  unfold lexing at failed
  split at failed
  · cases failed
  · next found =>
    cases failed
    exact confined fault found

@[simp]
theorem confined_peek : Confined Unspellable (peek.run composer) :=
  confined_lexing _ (confined_peekToken _)

@[simp]
theorem confined_take : Confined Unspellable (take.run composer) :=
  confined_lexing _ (confined_takeToken _)

@[simp]
theorem confined_isNext (kinds : List TokenKind) :
    Confined Unspellable ((isNext kinds).run composer) := by
  unfold isNext
  simp

@[simp]
theorem confined_isOld : Confined Unspellable (isOld.run composer) := by
  unfold isOld
  simp

end Composing

open Composing

section Parts

variable (composer : Composer)

@[simp]
theorem confined_nodeLabels : Confined Unspellable (nodeLabels.run composer) := by
  unfold nodeLabels
  refine .run_andThen (confined_peek _) fun token composer => ?_
  split
  · refine .run_andThen (confined_take _) fun _ composer => ?_
    refine .run_andThen (confined_peek _) fun token composer => ?_
    split <;> simp
  · refine .run_andThen (confined_take _) fun _ composer => ?_
    refine .run_andThen (confined_peek _) fun token composer => ?_
    split <;> simp
  · simp

@[simp]
theorem confined_tagAddress (labels : NodeLabels) :
    Confined Unspellable ((tagAddress? labels).run composer) := by
  unfold tagAddress?
  split
  · simp
  · simp
  · rw [StateT.run_bind]
    refine Confined.andThen (by simp) fun found => ?_
    split <;> simp

@[simp]
theorem confined_remember (anchor : Option String) (node : Node) :
    Confined Unspellable ((remember anchor node).run composer) := by
  unfold remember
  split <;> simp

@[simp]
theorem confined_unexpected {α : Type} (activity : Activity) (start : Mark) (what : String) :
    Confined Unspellable ((unexpected activity start what : Composing α).run composer) := by
  unfold unexpected
  simp

@[simp]
theorem confined_missing (labels : NodeLabels) (address : Option String) (isBlock : Bool)
    (token : Token) (start : Mark) :
    Confined Unspellable ((missing labels address isBlock token start).run composer) := by
  unfold missing
  simp

/-- Behind the first of the items between brackets each has a comma in front of it. -/
theorem confined_separated {α : Type} (isFirst : Bool) {activity : Activity} {start : Mark}
    {what : String} {rest : Composing α}
    (confined : ∀ composer, Confined Unspellable (rest.run composer)) :
    Confined Unspellable (StateT.run (if !isFirst then do
      if ← isNext [.flowItem] then
        let _ ← take
        rest
      else
        let _ : Unit ← unexpected activity start what
        rest
      else rest) composer) := by
  simp [confined]

end Parts

/-! ## Nodes -/

/-- Up to a limit nodes are read without other faults about values.  A node holds items and
entries, and these hold nodes, so this is shown of all of them at once. -/
structure ReadsConfined (limit : Nat) : Prop where
  node (isBlock mayBeFlat : Bool) (composer : Composer) :
    Confined Unspellable ((node limit isBlock mayBeFlat).run composer)
  blockItems (start : Mark) (composer : Composer) :
    Confined Unspellable ((blockItems limit start).run composer)
  flatItems (composer : Composer) : Confined Unspellable ((flatItems limit).run composer)
  blockValue (composer : Composer) : Confined Unspellable ((blockValue limit).run composer)
  blockEntries (start : Mark) (composer : Composer) :
    Confined Unspellable ((blockEntries limit start).run composer)
  flowValue (ends : List TokenKind) (composer : Composer) :
    Confined Unspellable ((flowValue limit ends).run composer)
  flowItems (start : Mark) (isFirst : Bool) (composer : Composer) :
    Confined Unspellable ((flowItems limit start isFirst).run composer)
  flowEntries (start : Mark) (isFirst : Bool) (composer : Composer) :
    Confined Unspellable ((flowEntries limit start isFirst).run composer)
  entryWithoutValue (start : Mark) (composer : Composer) :
    Confined Unspellable ((entryWithoutValue limit start).run composer)

namespace ReadsConfined

variable {limit : Nat} (reads : ReadsConfined limit) (composer : Composer)

theorem zero : ReadsConfined 0 := by
  constructor <;> intros <;> exact .ok _

include reads

theorem node_succ (isBlock mayBeFlat : Bool) :
    Confined Unspellable ((Yaml.node (limit + 1) isBlock mayBeFlat).run composer) := by
  unfold Yaml.node
  refine .run_andThen (confined_peek _) fun token composer => ?_
  split
  · refine .run_andThen (confined_take _) fun token composer => ?_
    refine .run_andThen (by simp) fun found composer => ?_
    split <;> simp
  · refine .run_andThen (confined_nodeLabels _) fun labels composer => ?_
    refine .run_andThen (confined_tagAddress _ _) fun address composer => ?_
    refine .run_andThen (confined_peek _) fun token composer => ?_
    dsimp only
    split
    · simp
    · simp [reads.flowItems]
    · simp [reads.flowEntries]
    · simp [reads.flatItems]
    · simp [reads.blockItems]
    · simp [reads.blockEntries]
    · simp

theorem blockItems_succ (start : Mark) :
    Confined Unspellable ((Yaml.blockItems (limit + 1) start).run composer) := by
  unfold Yaml.blockItems
  refine .run_andThen (confined_peek _) fun token composer => ?_
  split <;> simp [reads.node, reads.blockItems]

theorem flatItems_succ : Confined Unspellable ((Yaml.flatItems (limit + 1)).run composer) := by
  unfold Yaml.flatItems
  refine .run_andThen (confined_peek _) fun token composer => ?_
  split <;> simp [reads.node, reads.flatItems]

theorem blockValue_succ : Confined Unspellable ((Yaml.blockValue (limit + 1)).run composer) := by
  unfold Yaml.blockValue
  simp [reads.node]

theorem blockEntries_succ (start : Mark) :
    Confined Unspellable ((Yaml.blockEntries (limit + 1) start).run composer) := by
  unfold Yaml.blockEntries
  refine .run_andThen (confined_peek _) fun token composer => ?_
  split <;> simp [reads.node, reads.blockEntries, reads.blockValue]

theorem flowValue_succ (ends : List TokenKind) :
    Confined Unspellable ((Yaml.flowValue (limit + 1) ends).run composer) := by
  unfold Yaml.flowValue
  simp [reads.node]

theorem flowItems_succ (start : Mark) (isFirst : Bool) :
    Confined Unspellable ((Yaml.flowItems (limit + 1) start isFirst).run composer) := by
  unfold Yaml.flowItems
  refine .run_andThen (confined_isNext _ _) fun isEnd composer => ?_
  rw [Confined.run_ite]
  split
  · simp
  · refine confined_separated composer isFirst fun composer => ?_
    refine .run_andThen (confined_peek _) fun token composer => ?_
    split <;> simp [reads.node, reads.flowItems, reads.flowValue]

theorem flowEntries_succ (start : Mark) (isFirst : Bool) :
    Confined Unspellable ((Yaml.flowEntries (limit + 1) start isFirst).run composer) := by
  unfold Yaml.flowEntries
  refine .run_andThen (confined_isNext _ _) fun isEnd composer => ?_
  rw [Confined.run_ite]
  split
  · simp
  · refine confined_separated composer isFirst fun composer => ?_
    refine .run_andThen (confined_peek _) fun token composer => ?_
    split <;> simp [reads.node, reads.flowEntries, reads.flowValue, reads.entryWithoutValue]

theorem entryWithoutValue_succ (start : Mark) :
    Confined Unspellable ((Yaml.entryWithoutValue (limit + 1) start).run composer) := by
  unfold Yaml.entryWithoutValue
  simp [reads.node, reads.flowEntries]

end ReadsConfined

/-- No node is read with other faults about values, however deep it goes. -/
theorem readsConfined (limit : Nat) : ReadsConfined limit := by
  induction limit with
  | zero => exact .zero
  | succ limit ih =>
      exact
        { node := fun isBlock mayBeFlat composer => ih.node_succ composer isBlock mayBeFlat
          blockItems := fun start composer => ih.blockItems_succ composer start
          flatItems := fun composer => ih.flatItems_succ composer
          blockValue := fun composer => ih.blockValue_succ composer
          blockEntries := fun start composer => ih.blockEntries_succ composer start
          flowValue := fun ends composer => ih.flowValue_succ composer ends
          flowItems := fun start isFirst composer => ih.flowItems_succ composer start isFirst
          flowEntries := fun start isFirst composer => ih.flowEntries_succ composer start isFirst
          entryWithoutValue := fun start composer => ih.entryWithoutValue_succ composer start }

/-! ## Documents -/

section Documents

variable (limit : Nat) (composer : Composer)

@[simp]
theorem confined_directives (version : Bool) (handles : List (String × String)) :
    Confined Unspellable ((directives limit version handles).run composer) := by
  induction limit generalizing version handles composer with
  | zero => exact .ok _
  | succ limit ih =>
      unfold directives
      refine .run_andThen (confined_peek _) fun token composer => ?_
      split <;> simp [ih]

@[simp]
theorem confined_skipEnds : Confined Unspellable ((skipEnds limit).run composer) := by
  induction limit generalizing composer with
  | zero => exact .ok _
  | succ limit ih =>
      unfold skipEnds
      simp [ih]

@[simp]
theorem confined_opening (mayBeBare : Bool) :
    Confined Unspellable ((opening? limit mayBeBare).run composer) := by
  unfold opening?
  simp

@[simp]
theorem confined_closing : Confined Unspellable (closing.run composer) := by
  unfold closing
  simp

theorem confined_single : Confined Unspellable ((single limit).run composer) := by
  unfold single
  refine .run_andThen (confined_take _) fun _ composer => ?_
  refine .run_andThen (confined_opening _ _ _) fun opening composer => ?_
  cases opening with
  | none => simp
  | some opening =>
      refine .run_andThen (confined_peek _) fun token composer => ?_
      refine .run_either ?_ ?_ fun root composer => ?_
      · simp
      · exact (readsConfined limit).node _ _ _
      · refine .run_andThen (confined_closing _) fun isMarked composer => ?_
        refine .run_andThen (confined_isOld _) fun isOld composer => ?_
        refine .run_andThen (confined_opening _ _ _) fun another composer => ?_
        split <;> simp

end Documents

/-- A text whose document cannot be read for a value has an escape without a character, or
a version with too many digits. -/
theorem readNode_confined (text : List Char) : Confined Unspellable (readNode text) := by
  unfold readNode
  split
  · next found =>
    rintro fault ⟨⟩
    unfold forbidden? at found
    split at found <;> cases found
  · have confined := confined_single (stepBound text) ⟨.ofText text, [], standardHandles⟩
    split
    · exact .ok _
    · next found =>
      rw [found] at confined
      exact confined.error

end Yaml
end ImportCensus

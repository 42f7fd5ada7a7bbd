import ImportCensus.Source.Line

namespace ImportCensus
namespace Source

/-!
# Where tokens stand

The place of a token follows from the lexemes before it, and these are the text up
to there.  Every token of a text therefore covers its own spelling, and a token that
is a name is spelled as an identifier.
-/

/-- A character that may begin an identifier, and characters that may follow it. -/
def IsIdentifier (spelling : List Char) : Prop :=
  ∃ first rest, spelling = first :: rest ∧ Text.isIdentifierStart first = true ∧
    ∀ c ∈ rest, Text.isIdentifierContinue c = true

/-- No other characters are in an identifier. -/
theorem IsIdentifier.not_mem {spelling : List Char} (identifier : IsIdentifier spelling) {c : Char}
    (stops : Text.isIdentifierContinue c = false) : c ∉ spelling := by
  rcases identifier with ⟨first, rest, rfl, starts, goesOn⟩
  intro member
  rcases List.mem_cons.1 member with rfl | later
  · cases stops.symm.trans (Text.isIdentifierContinue_of_start starts)
  · cases stops.symm.trans (goesOn c later)

/-- A token covers its spelling in a text, and is an identifier if it is a name. -/
structure Token.Standing (text : List Char) (token : Token) : Prop where
  covers : token.span.slice text = token.text.toList
  named : token.kind = .name -> IsIdentifier token.text.toList

/-! ## Lexemes -/

theorem Step.ofContent_kind (quote : Quote) (outer : List Mode) (c : Char) (rest : List Char) :
    (Step.ofContent quote outer c rest).kind ≠ .name := by
  unfold Step.ofContent
  grind

theorem Step.ofSpec_kind (outer : List Mode) (c : Char) (rest : List Char) :
    (Step.ofSpec outer c rest).kind ≠ .name := by
  unfold Step.ofSpec
  grind

theorem Numeral.literal_kind (text : List Char) : (Numeral.literal text).2 ≠ .name := by
  unfold Numeral.literal Numeral.decimalLiteral
  grind

/-- A name is scanned as far as characters go on with it. -/
theorem Step.ofCode_name {modes : List Mode} {c : Char} {rest : List Char} :
    (Step.ofCode modes c rest).kind = .name ->
      Text.isIdentifierStart c = true ∧
        (Step.ofCode modes c rest).more = (rest.takeWhile Text.isIdentifierContinue).length := by
  have number := Numeral.literal_kind (c :: rest)
  unfold Step.ofCode
  split
  · dsimp only
    split <;> nofun
  split
  · nofun
  split
  · nofun
  split
  · split <;> nofun
  split
  · split <;> nofun
  split
  · rename_i start
    exact fun _ => ⟨start, rfl⟩
  · intro name
    exfalso
    revert name
    split
    grind

theorem isIdentifier_of_step {modes : List Mode} {c : Char} {rest : List Char}
    (name : (step modes c rest).kind = .name) :
    IsIdentifier (c :: rest.take (step modes c rest).more) := by
  have code : (Step.ofCode modes c rest).kind = .name ∧
      (step modes c rest).more = (Step.ofCode modes c rest).more := by
    unfold step at name ⊢
    split at name
    · exact absurd name (Step.ofContent_kind _ _ _ _)
    · exact absurd name (Step.ofSpec_kind _ _ _)
    · exact ⟨name, rfl⟩
  rcases Step.ofCode_name code.1 with ⟨start, more⟩
  refine ⟨c, _, rfl, start, ?_⟩
  intro d member
  rw [code.2, more, ← List.prefix_iff_eq_take.1 (List.takeWhile_prefix _)] at member
  exact List.all_eq_true.1 List.all_takeWhile d member

theorem scan_named (modes : List Mode) (text : List Char) :
    ∀ lexeme ∈ scan modes text, lexeme.kind = .name -> IsIdentifier lexeme.text := by
  fun_induction scan modes text with
  | case1 =>
      intro lexeme member
      cases member
  | case2 modes c rest next ih =>
      intro lexeme member
      rcases List.mem_cons.1 member with rfl | later
      · exact isIdentifier_of_step
      · exact ih lexeme later

/-! ## Rows -/

variable {property : Token -> Prop}

/-- All tokens of the lines among some rows have a property. -/
def Row.AllTokens (property : Token -> Prop) (rows : List Row) : Prop :=
  ∀ line, Row.line line ∈ rows -> ∀ token ∈ line.tokens, property token

theorem Row.AllTokens.of_suffix {rows rest : List Row} (all : Row.AllTokens property rows)
    (left : rest <:+ rows) : Row.AllTokens property rest :=
  fun line member => all line (left.mem member)

theorem Row.AllTokens.tail {row : Row} {rows : List Row} (all : Row.AllTokens property (row :: rows)) :
    Row.AllTokens property rows :=
  all.of_suffix (List.suffix_cons row rows)

theorem Row.AllTokens.append {first second : List Row} (one : Row.AllTokens property first)
    (other : Row.AllTokens property second) : Row.AllTokens property (first ++ second) := by
  intro line member
  rcases List.mem_append.1 member with early | late
  · exact one line early
  · exact other line late

theorem Row.allTokens_remarks (indent : Nat) (extras : List Extra) :
    Row.AllTokens property (extras.map (Row.remark indent)) := by
  intro line member
  rcases List.mem_map.1 member with ⟨extra, _, same⟩
  cases same

/-- The rows of a line have the tokens that have been collected. -/
theorem LineState.finish_allTokens {state : LineState}
    (collected : ∀ token ∈ state.tokens, property token) : Row.AllTokens property state.finish := by
  unfold LineState.finish
  cases tokens : state.tokens.reverse with
  | nil => exact Row.allTokens_remarks _ _
  | cons first more =>
      intro line member token within
      rcases List.mem_singleton.1 member with same
      cases same
      apply collected
      rw [← List.mem_reverse, tokens]
      exact within

/-- A lexeme behind the beginning of a text covers its own characters. -/
theorem covers_of_append {text before behind spelling : List Char} {place : Text.Position}
    (whole : text = before ++ (spelling ++ behind)) (offset : place.offset = before.length) :
    (⟨place, place.advanceAll spelling⟩ : Text.Span).slice text = spelling := by
  have length : (place.advanceAll spelling).offset - place.offset = spelling.length := by
    rw [Text.Position.offset_advanceAll]
    omega
  unfold Text.Span.slice
  rw [length, offset, whole, List.drop_left, List.take_left]

/-- While a line is collected, its place is the length of the text before it. -/
theorem rowsFrom_standing {text : List Char} (state : LineState) (lexemes : List Lexeme)
    (before : List Char) (whole : text = before ++ lexemes.flatMap Lexeme.text)
    (offset : state.position.offset = before.length)
    (named : ∀ lexeme ∈ lexemes, lexeme.kind = .name -> IsIdentifier lexeme.text)
    (collected : ∀ token ∈ state.tokens, token.Standing text) :
    Row.AllTokens (Token.Standing text) (rowsFrom state lexemes) := by
  induction lexemes generalizing state before with
  | nil => exact LineState.finish_allTokens collected
  | cons lexeme rest ih =>
      rw [List.flatMap_cons] at whole
      have covers := covers_of_append whole offset
      have others := fun other member => named other (List.mem_cons_of_mem _ member)
      have later : text = (before ++ lexeme.text) ++ rest.flatMap Lexeme.text := by
        rw [whole, List.append_assoc]
      have stop : (state.position.advanceAll lexeme.text).offset = (before ++ lexeme.text).length := by
        rw [Text.Position.offset_advanceAll, offset, List.length_append]
      have standing : ∀ extras, Token.Standing text
          ⟨lexeme.kind, String.ofList lexeme.text, ⟨state.position, state.position.advanceAll lexeme.text⟩,
            extras⟩ := by
        intro extras
        refine ⟨by simpa using covers, fun kind => ?_⟩
        simpa using named lexeme List.mem_cons_self kind
      unfold rowsFrom
      dsimp only
      split
      · exact ih _ _ later stop others collected
      · refine .append (LineState.finish_allTokens collected) ?_
        exact ih _ _ later stop others nofun
      · exact ih _ _ later stop others collected
      · exact ih _ _ later stop others collected
      · split
        · refine .append (Row.allTokens_remarks _ _) (ih _ _ later stop others ?_)
          intro token member
          rcases List.mem_singleton.1 member with rfl
          exact standing _
        · refine ih _ _ later stop others ?_
          intro token member
          rcases List.mem_cons.1 member with rfl | early
          · exact standing _
          · exact collected token early

/-- Every token of a text covers its spelling. -/
theorem rows_standing (text : List Char) : Row.AllTokens (Token.Standing text) (rows text) :=
  rowsFrom_standing _ _ [] (scan_flatten _ text).symm rfl (scan_named _ text) nofun

end Source
end ImportCensus

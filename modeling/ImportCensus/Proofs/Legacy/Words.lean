import ImportCensus.Source.Document

namespace ImportCensus
namespace Source

open Text (Position)
open Text.Position (origin)

/-!
# Words of the older dialect

A statement of the older dialect begins with a name of its own.  Among the tokens of a text such
names are told by their spelling, and where they stand follows from the lexemes before them
(`rows_legacyMarks`).  So each of them is spelled out at its place (`spelled_of_mem_rows`), and they come
in the order of the text (`rows_increasing`).
-/

/-- A statement of the older dialect, or a word that may begin one, and its place. -/
abbrev LegacyMark := Legacy × Position

/-- The statement that a word may begin. -/
def Legacy.ofWord? (word : String) : Option Legacy :=
  if word = Legacy.print.word then some .print
  else if word = Legacy.exec.word then some .exec
  else none

theorem Legacy.ofWord?_word (statement : Legacy) : ofWord? statement.word = some statement := by
  cases statement <;> rfl

theorem Legacy.ofWord?_eq_some {word : String} {statement : Legacy} :
    ofWord? word = some statement ↔ word = statement.word := by
  constructor
  · intro found
    unfold ofWord? at found
    split at found
    · next same =>
      cases found
      exact same
    · split at found
      · next same =>
        cases found
        exact same
      · cases found
  · rintro rfl
    exact ofWord?_word statement

/-- The mark of a piece of text, if it is a name that may begin a statement. -/
def legacyMark? (kind : LexemeKind) (word : String) (place : Position) : Option LegacyMark :=
  if kind = .name then (Legacy.ofWord? word).map fun statement => (statement, place) else none

def Token.legacyMark? (token : Token) : Option LegacyMark := Source.legacyMark? token.kind token.text token.span.start

/-- The marks among the tokens of some rows. -/
def Row.legacyMarks (rows : List Row) : List LegacyMark := (tokensOf rows).filterMap Token.legacyMark?

/-- The marks among lexemes that begin at a place. -/
def legacyMarksFrom (place : Position) : List Lexeme -> List LegacyMark
  | [] => []
  | lexeme :: rest => (legacyMark? lexeme.kind (String.ofList lexeme.text) place).toList ++
      legacyMarksFrom (place.advanceAll lexeme.text) rest

variable {kind : LexemeKind} {word : String} {place : Position} {mark : LegacyMark} {text : List Char}

theorem legacyMark?_of_ne (other : kind ≠ .name) : legacyMark? kind word place = none := if_neg other

theorem legacyMark?_eq_some : legacyMark? kind word place = some mark ↔
    kind = .name ∧ word = mark.1.word ∧ place = mark.2 := by
  rcases mark with ⟨statement, start⟩
  unfold legacyMark?
  split
  · next name =>
    simp only [Option.map_eq_some_iff, Legacy.ofWord?_eq_some, Prod.mk.injEq, name, true_and]
    constructor
    · rintro ⟨_, same, rfl, rfl⟩
      exact ⟨same, rfl⟩
    · rintro ⟨same, rfl⟩
      exact ⟨statement, same, rfl, rfl⟩
  · next other => exact iff_of_false nofun fun is => other is.1

/-! ## Rows -/

theorem tokensOf_append (first second : List Row) :
    tokensOf (first ++ second) = tokensOf first ++ tokensOf second := List.flatMap_append

theorem Row.legacyMarks_append (first second : List Row) :
    Row.legacyMarks (first ++ second) = Row.legacyMarks first ++ Row.legacyMarks second := by
  rw [Row.legacyMarks, tokensOf_append, List.filterMap_append]
  rfl

theorem tokensOf_remarks (indent : Nat) (extras : List Extra) :
    tokensOf (extras.map (Row.remark indent)) = [] := by
  rw [tokensOf, List.flatMap_map]
  exact List.flatMap_eq_nil_iff.2 fun _ _ => rfl

theorem Row.legacyMarks_remarks (indent : Nat) (extras : List Extra) :
    Row.legacyMarks (extras.map (Row.remark indent)) = [] := by
  rw [Row.legacyMarks, tokensOf_remarks]
  rfl

/-- A line that ends has the tokens that have been collected. -/
theorem LineState.legacyMarks_finish (state : LineState) :
    Row.legacyMarks state.finish = state.tokens.reverse.filterMap Token.legacyMark? := by
  unfold LineState.finish
  cases tokens : state.tokens.reverse with
  | nil => exact Row.legacyMarks_remarks _ _
  | cons first more =>
      rw [Row.legacyMarks, tokensOf, List.flatMap_singleton]
      rfl

theorem rowsFrom_legacyMarks (state : LineState) (lexemes : List Lexeme) :
    Row.legacyMarks (rowsFrom state lexemes) =
      state.tokens.reverse.filterMap Token.legacyMark? ++ legacyMarksFrom state.position lexemes := by
  induction lexemes generalizing state with
  | nil =>
      rw [rowsFrom, LineState.legacyMarks_finish]
      exact (List.append_nil _).symm
  | cons lexeme rest ih =>
      have unmarked : ∀ kind, lexeme.kind = kind -> kind ≠ .name ->
          legacyMarksFrom state.position (lexeme :: rest) =
            legacyMarksFrom (state.position.advanceAll lexeme.text) rest := by
        rintro _ rfl other
        rw [legacyMarksFrom, legacyMark?_of_ne other]
        rfl
      have single : ∀ token : Token, [token].filterMap Token.legacyMark? = token.legacyMark?.toList := by
        intro token
        rw [List.filterMap_cons]
        cases token.legacyMark? <;> rfl
      unfold rowsFrom
      dsimp only
      split
      · next same => rw [ih, unmarked _ same nofun]
      · next same =>
        rw [Row.legacyMarks_append, LineState.legacyMarks_finish, ih, unmarked _ same nofun]
        rfl
      · next same => rw [ih, unmarked _ same nofun]
      · next same => rw [ih, unmarked _ same nofun]
      · split
        · next none =>
          rw [Row.legacyMarks_append, Row.legacyMarks_remarks, ih, List.isEmpty_iff.1 none,
            List.reverse_singleton, single]
          rfl
        · rw [ih, List.reverse_cons, List.filterMap_append, List.append_assoc, single]
          rfl

/-- The marks among the tokens of a text are those among its lexemes. -/
theorem rows_legacyMarks (text : List Char) : Row.legacyMarks (rows text) = legacyMarksFrom origin (lexemes text) :=
  rowsFrom_legacyMarks _ _

/-! ## Where the words stand -/

/-- The word of a mark is spelled out at its place. -/
def LegacyMark.Spelled (text : List Char) (mark : LegacyMark) : Prop :=
  ∃ before behind, text = before ++ (mark.1.word.toList ++ behind) ∧ mark.2 = origin.advanceAll before

theorem legacyMarksFrom_spelled (before : List Char) (lexemes : List Lexeme)
    (whole : text = before ++ lexemes.flatMap Lexeme.text) :
    ∀ mark ∈ legacyMarksFrom (origin.advanceAll before) lexemes, mark.Spelled text := by
  induction lexemes generalizing before with
  | nil => nofun
  | cons lexeme rest ih =>
      intro mark member
      rw [List.flatMap_cons] at whole
      rw [legacyMarksFrom, ← Position.advanceAll_append] at member
      rcases List.mem_append.1 member with here | later
      · rcases legacyMark?_eq_some.1 (Option.mem_toList.1 here) with ⟨_, spelled, same⟩
        refine ⟨before, rest.flatMap Lexeme.text, ?_, same.symm⟩
        rw [← spelled, String.toList_ofList]
        exact whole
      · refine ih _ ?_ mark later
        rw [whole, List.append_assoc]

theorem offset_le_of_mem_legacyMarksFrom (lexemes : List Lexeme) (place : Position) :
    ∀ mark ∈ legacyMarksFrom place lexemes, place.offset ≤ mark.2.offset := by
  induction lexemes generalizing place with
  | nil => nofun
  | cons lexeme rest ih =>
      intro mark member
      rcases List.mem_append.1 member with here | later
      · rcases legacyMark?_eq_some.1 (Option.mem_toList.1 here) with ⟨_, _, same⟩
        exact Nat.le_of_eq (congrArg Position.offset same)
      · have behind := ih (place.advanceAll lexeme.text) mark later
        rw [Position.offset_advanceAll] at behind
        omega

/-- A word is not empty, so that the next one stands further on. -/
theorem legacyMarksFrom_increasing (lexemes : List Lexeme) (place : Position) :
    (legacyMarksFrom place lexemes).Pairwise fun first second => first.2.offset < second.2.offset := by
  induction lexemes generalizing place with
  | nil => exact .nil
  | cons lexeme rest ih =>
      rw [legacyMarksFrom]
      cases here : legacyMark? lexeme.kind (String.ofList lexeme.text) place with
      | none => exact ih _
      | some mark =>
          refine List.pairwise_cons.2 ⟨fun later member => ?_, ih _⟩
          rcases legacyMark?_eq_some.1 here with ⟨_, spelled, same⟩
          have behind := offset_le_of_mem_legacyMarksFrom rest _ later member
          have filled : 0 < lexeme.text.length := by
            rw [← String.toList_ofList (l := lexeme.text), spelled]
            cases mark.1 <;> decide
          rw [Position.offset_advanceAll] at behind
          rw [← same]
          omega

theorem spelled_of_mem_rows (member : mark ∈ Row.legacyMarks (rows text)) : mark.Spelled text := by
  rw [rows_legacyMarks] at member
  exact legacyMarksFrom_spelled [] _ (scan_flatten _ text).symm mark member

theorem rows_increasing (text : List Char) :
    (Row.legacyMarks (rows text)).Pairwise fun first second => first.2.offset < second.2.offset := by
  rw [rows_legacyMarks]
  exact legacyMarksFrom_increasing _ _

end Source
end ImportCensus

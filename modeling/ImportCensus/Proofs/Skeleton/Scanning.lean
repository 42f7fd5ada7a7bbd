import ImportCensus.Proofs.Skeleton.Printing
import ImportCensus.Proofs.Source.Tokens
import Mathlib

namespace ImportCensus
namespace Skeleton

open Source (Lexeme LexemeKind LineState Quote Row Token rowsFrom scan)

/-!
# Scanning printed words

The scanner takes a printed word as one lexeme wherever something follows that does not
go on with it, and a run of blanks as one lexeme.
-/

/-! ## Characters of names -/

theorem isAscii_of_isAlphanum {c : Char} (letter : c.isAlphanum = true) : c.toNat < 128 := by
  have upper : 'Z'.val.toNat = 90 := rfl
  have lower : 'z'.val.toNat = 122 := rfl
  have digit : '9'.val.toNat = 57 := rfl
  have code : c.toNat = c.val.toNat := rfl
  simp only [Char.isAlphanum, Char.isAlpha, Char.isUpper, Char.isLower, Char.isDigit, Bool.or_eq_true,
    Bool.and_eq_true, decide_eq_true_eq, UInt32.le_iff_toNat_le, ge_iff_le] at letter
  omega

theorem isIdentifierStart_of_isNameStart {c : Char} (start : isNameStart c = true) :
    Text.isIdentifierStart c = true := by
  rw [isNameStart, Bool.or_eq_true] at start
  rw [Text.isIdentifierStart]
  rcases start with letter | underscore
  · have ascii := isAscii_of_isAlphanum (c := c) (by rw [Char.isAlphanum, letter]; rfl)
    rw [if_pos ascii, letter]
    rfl
  · rw [beq_iff_eq.1 underscore]
    decide

theorem isIdentifierContinue_of_isNameRest {c : Char} (rest : isNameRest c = true) :
    Text.isIdentifierContinue c = true := by
  rw [isNameRest, Bool.or_eq_true] at rest
  rcases rest with letter | underscore
  · have ascii := isAscii_of_isAlphanum letter
    rw [Char.isAlphanum, Bool.or_eq_true] at letter
    rw [Text.isIdentifierContinue, Text.isIdentifierStart, if_pos ascii, if_pos ascii]
    rcases letter with alpha | digit
    · rw [alpha]
      rfl
    · rw [digit, Bool.or_true]
  · rw [beq_iff_eq.1 underscore]
    decide

theorem isNameRest_of_isNameStart {c : Char} (start : isNameStart c = true) : isNameRest c = true := by
  rw [isNameStart, Bool.or_eq_true] at start
  rw [isNameRest, Char.isAlphanum]
  rcases start with letter | underscore
  · rw [letter]
    rfl
  · rw [underscore, Bool.or_true]

theorem not_isDigit_of_isNameStart {c : Char} (start : isNameStart c = true) : c.isDigit = false := by
  have upper : 'A'.val.toNat = 65 := rfl
  have lower : 'a'.val.toNat = 97 := rfl
  have last : '9'.val.toNat = 57 := rfl
  rw [isNameStart, Bool.or_eq_true, beq_iff_eq] at start
  rcases start with letter | rfl
  · cases digit : c.isDigit with
    | false => rfl
    | true =>
        simp only [Char.isAlpha, Char.isUpper, Char.isLower, Char.isDigit, Bool.or_eq_true,
          Bool.and_eq_true, decide_eq_true_eq, UInt32.le_iff_toNat_le, ge_iff_le] at letter digit
        omega
  · rfl

/-- Characters that begin a string, with their letters before them. -/
theorem not_isMark_of_isNameRest {c : Char} (rest : isNameRest c = true) : Quote.isMark c = false := by
  cases mark : Quote.isMark c with
  | false => rfl
  | true =>
      simp only [Quote.isMark, Bool.or_eq_true, beq_iff_eq] at mark
      rcases mark with (rfl | rfl) | rfl <;> revert rest <;> decide

theorem isNameRest_of_isFlag {c : Char} (flag : Quote.isFlag c = true) : isNameRest c = true := by
  rw [Quote.isFlag, List.contains_iff_mem] at flag
  simp only [List.mem_cons, List.not_mem_nil, or_false] at flag
  rcases flag with rfl | rfl | rfl | rfl | rfl | rfl | rfl | rfl | rfl | rfl <;> decide

/-- A character of a name is neither a blank nor one that the scanner looks at first. -/
theorem not_special_of_isNameRest {c : Char} (rest : isNameRest c = true) :
    c ≠ '\n' ∧ Source.isBlank c = false ∧ c ≠ '#' ∧ c ≠ '\\' := by
  refine ⟨?_, ?_, ?_, ?_⟩
  · rintro rfl
    revert rest
    decide
  · cases blank : Source.isBlank c with
    | false => rfl
    | true =>
        simp only [Source.isBlank, Bool.or_eq_true, beq_iff_eq] at blank
        rcases blank with ((((((rfl | rfl) | rfl) | rfl) | rfl) | rfl) | rfl) | rfl <;>
          revert rest <;> decide
  · rintro rfl
    revert rest
    decide
  · rintro rfl
    revert rest
    decide

theorem isName_of_reserved : ∀ text ∈ Source.reservedWords, isName text.toList = true := by
  decide +kernel

/-! ## Steps of the scanner -/

/-- Dropping as many characters as were taken. -/
theorem drop_length_takeWhile {α : Type} (property : α -> Bool) (values : List α) :
    values.drop (values.takeWhile property).length = values.dropWhile property := by
  have parted := List.takeWhile_append_dropWhile (p := property) (l := values)
  have dropped := congrArg (List.drop (values.takeWhile property).length) parted
  rw [List.drop_left] at dropped
  exact dropped.symm

/-- No string begins where no quote stands behind the letters that may lead one. -/
theorem open?_eq_none {text : List Char}
    (noMark : ∀ c, (text.dropWhile Quote.isFlag).head? = some c -> Quote.isMark c = false) :
    Quote.open? text = none := by
  unfold Quote.open?
  dsimp only
  rw [drop_length_takeWhile]
  cases behind : text.dropWhile Quote.isFlag with
  | nil => rfl
  | cons c rest =>
      dsimp only
      rw [if_neg]
      simp [noMark c (by rw [behind]; rfl)]

/-- A character that neither goes on with a name nor makes its letters lead a string. -/
def EndsName (c : Char) : Prop := Text.isIdentifierContinue c = false ∧ Quote.isMark c = false

/-- A name leads no string. -/
theorem head?_dropWhile_isFlag {name rest : List Char}
    (named : ∀ c ∈ name, isNameRest c = true) (ends : ∀ c, rest.head? = some c -> EndsName c) :
    ∀ c, ((name ++ rest).dropWhile Quote.isFlag).head? = some c -> Quote.isMark c = false := by
  induction name with
  | nil =>
      cases rest with
      | nil => exact nofun
      | cons d rest =>
          have other : Quote.isFlag d = false := by
            cases flag : Quote.isFlag d with
            | false => rfl
            | true =>
                have goesOn := isIdentifierContinue_of_isNameRest (isNameRest_of_isFlag flag)
                cases (ends d rfl).1.symm.trans goesOn
          intro c first
          rw [List.nil_append, List.dropWhile_cons_of_neg (by simp [other])] at first
          exact (ends c first).2
  | cons d name ih =>
      intro c first
      rw [List.cons_append, List.dropWhile_cons] at first
      split at first
      · exact ih (fun e member => named e (List.mem_cons_of_mem _ member)) c first
      · cases first
        exact not_isMark_of_isNameRest (named _ List.mem_cons_self)

/-- The step at a name or a keyword. -/
theorem step_name {first : Char} {more rest : List Char} (depth : Nat)
    (start : isNameStart first = true) (goesOn : ∀ c ∈ more, isNameRest c = true)
    (ends : ∀ c, rest.head? = some c -> EndsName c) :
    Source.step [.code depth] first (more ++ rest) =
      ⟨if Source.reservedWords.contains (String.ofList (first :: more)) then .keyword else .name,
        more.length, [.code depth]⟩ := by
  have special := not_special_of_isNameRest (isNameRest_of_isNameStart start)
  have named : ∀ c ∈ first :: more, isNameRest c = true :=
    List.forall_mem_cons.2 ⟨isNameRest_of_isNameStart start, goesOn⟩
  have taken : (more ++ rest).takeWhile Text.isIdentifierContinue = more := by
    rw [List.takeWhile_append_of_pos fun c member => isIdentifierContinue_of_isNameRest (goesOn c member)]
    cases rest with
    | nil => simp
    | cons d rest => simp [(ends d rfl).1]
  have noString : Quote.open? ((first :: more) ++ rest) = none :=
    open?_eq_none (head?_dropWhile_isFlag named ends)
  rw [List.cons_append] at noString
  simp [Source.step, Source.Step.ofCode, special, noString, isIdentifierStart_of_isNameStart start,
    taken, Source.Step.modesBehindWord]

/-- The characters that may stand right behind a mark. -/
def Mark.Ends (mark : Mark) (c : Char) : Prop :=
  c.isDigit = false ∧ c ≠ '=' ∧ (mark = .star -> c ≠ '*')

/-- No digits stand where the first character is none. -/
theorem digitRun_eq_zero {text : List Char} (noDigit : ∀ c, text.head? = some c -> c.isDigit = false) :
    Source.Numeral.digitRun false text = 0 := by
  cases text with
  | nil => rfl
  | cons c rest => simp [Source.Numeral.digitRun, noDigit c rfl]

/-- No number begins with a mark. -/
theorem literal_mark {mark : Mark} {rest : List Char}
    (noDigit : ∀ c, rest.head? = some c -> c.isDigit = false) :
    Source.Numeral.literal (mark.character :: rest) = (0, .stray) := by
  have own : ∀ c, (mark.character :: rest).head? = some c -> c.isDigit = false := by
    rintro c ⟨rfl⟩
    cases mark <;> rfl
  have noWhole := digitRun_eq_zero own
  have noFraction := digitRun_eq_zero noDigit
  unfold Source.Numeral.literal Source.Numeral.decimalLiteral
  rw [noWhole]
  cases mark <;> simp [Mark.character, Source.Numeral.radixLiteral?, noFraction]

/-- A mark is an operator of its own. -/
theorem run_mark {mark : Mark} {rest : List Char} (ends : ∀ c, rest.head? = some c -> mark.Ends c) :
    Source.Operator.run mark.character rest = 1 := by
  cases rest with
  | nil => cases mark <;> rfl
  | cons c rest =>
      have other := ends c rfl
      cases mark <;>
        simp [Source.Operator.run, Source.Operator.triples, Source.Operator.pairs,
          Source.Operator.singles, Mark.character, other.2.1, other.2.2]

/-- The step at a mark. -/
theorem step_mark {mark : Mark} {rest : List Char} {depth : Nat}
    (ends : ∀ c, rest.head? = some c -> mark.Ends c) :
    Source.step [.code depth] mark.character rest =
      ⟨.symbol, 0, [.code ((Word.mark mark).depthBehind depth)]⟩ := by
  have noNumber : Source.Numeral.literal (mark.character :: rest) = (0, .stray) :=
    literal_mark fun c first => (ends c first).1
  have operator := run_mark ends
  have noString : Quote.open? (mark.character :: rest) = none := by
    apply open?_eq_none
    rw [List.dropWhile_cons_of_neg (by cases mark <;> decide)]
    rintro c ⟨rfl⟩
    cases mark <;> rfl
  have noName : Text.isIdentifierStart mark.character = false := by cases mark <;> decide
  cases mark <;>
    simp [Source.step, Source.Step.ofCode, Mark.character, Source.isBlank, noNumber, operator,
      noString, noName, Word.depthBehind, Source.Step.modesBehind] at *

/-! ## Words as lexemes -/

namespace Word

/-- A character that does not go on with a word. -/
def Ends : Word -> Char -> Prop
  | .mark symbol, c => symbol.Ends c
  | .keyword _ _, c | .name _ _ _, c => EndsName c

theorem ends_newline (word : Word) : word.Ends '\n' := by
  cases word with
  | mark symbol => exact ⟨rfl, by decide, fun _ => by decide⟩
  | keyword => exact ⟨by decide, rfl⟩
  | name => exact ⟨by decide, rfl⟩

theorem ends_blank (word : Word) {c : Char} (blank : Source.isBlank c = true) : word.Ends c := by
  simp only [Source.isBlank, Bool.or_eq_true, beq_iff_eq] at blank
  have plain : c.isDigit = false ∧ c ≠ '=' ∧ c ≠ '*' ∧ EndsName c := by
    unfold EndsName
    rcases blank with ((((((rfl | rfl) | rfl) | rfl) | rfl) | rfl) | rfl) | rfl <;> decide +kernel
  cases word with
  | mark symbol => exact ⟨plain.1, plain.2.1, fun _ => plain.2.2.1⟩
  | keyword => exact plain.2.2.2
  | name => exact plain.2.2.2

/-- A keyword or name, which is spelled by one letter and more. -/
structure Spelled (word : Word) (first : Char) (more : List Char) : Prop where
  characters : word.characters = first :: more
  start : isNameStart first = true
  goesOn : ∀ c ∈ more, isNameRest c = true
  kind : word.kind =
    if Source.reservedWords.contains (String.ofList (first :: more)) then .keyword else .name
  ends : ∀ c, word.Ends c -> EndsName c
  depthBehind : ∀ depth, word.depthBehind depth = depth

theorem cons_of_isName {characters : List Char} (named : isName characters = true) :
    ∃ first more, characters = first :: more ∧ isNameStart first = true ∧
      ∀ c ∈ more, isNameRest c = true := by
  cases characters with
  | nil => cases named
  | cons first more =>
      rw [isName, Bool.and_eq_true, List.all_eq_true] at named
      exact ⟨first, more, rfl, named⟩

theorem mark_or_spelled (word : Word) :
    (∃ symbol, word = .mark symbol) ∨ ∃ first more, word.Spelled first more := by
  cases word with
  | mark symbol => exact .inl ⟨symbol, rfl⟩
  | keyword text reserved =>
      rcases cons_of_isName (isName_of_reserved text reserved) with ⟨first, more, same, start, goesOn⟩
      refine .inr ⟨first, more, same, start, goesOn, ?_, fun _ ends => ends, fun _ => rfl⟩
      rw [← same, String.ofList_toList, if_pos (List.contains_iff_mem.2 reserved)]
      rfl
  | name text spelled free =>
      rcases cons_of_isName spelled with ⟨first, more, same, start, goesOn⟩
      refine .inr ⟨first, more, same, start, goesOn, ?_, fun _ ends => ends, fun _ => rfl⟩
      rw [← same, String.ofList_toList, if_neg (mt List.contains_iff_mem.1 free)]
      rfl

theorem characters_mark (symbol : Mark) : (mark symbol).characters = [symbol.character] :=
  symbol.toList_text

/-- A word begins with a character that no blank is. -/
theorem exists_head (word : Word) : ∃ first more, word.characters = first :: more ∧
    Source.isBlank first = false := by
  rcases word.mark_or_spelled with ⟨symbol, rfl⟩ | ⟨first, more, spelled⟩
  · exact ⟨_, [], characters_mark symbol, by cases symbol <;> rfl⟩
  · exact ⟨first, more, spelled.characters,
      (not_special_of_isNameRest (isNameRest_of_isNameStart spelled.start)).2.1⟩

/-- A mark is no part of a name, and no letter goes on with a mark. -/
theorem ends_character (symbol : Mark) : EndsName symbol.character := by
  cases symbol <;> exact ⟨by decide, by decide⟩

theorem ends_head (symbol : Mark) {characters : List Char} {c : Char}
    (named : isName characters = true) (begins : characters.head? = some c) : symbol.Ends c := by
  rcases cons_of_isName named with ⟨first, more, rfl, start, _⟩
  cases begins
  refine ⟨not_isDigit_of_isNameStart start, ?_, fun _ => ?_⟩
  · rintro rfl
    revert start
    decide
  · rintro rfl
    revert start
    decide

/-- A word ends where another one begins that it does not join. -/
theorem ends_following {first second : Word} (apart : first.joins second = false) {c : Char}
    (begins : second.characters.head? = some c) : first.Ends c := by
  cases second with
  | mark symbol =>
      rw [characters_mark] at begins
      cases begins
      cases first with
      | mark other =>
          refine ⟨by cases symbol <;> rfl, by cases symbol <;> decide, ?_⟩
          rintro rfl
          cases symbol <;> first | decide | cases apart
      | keyword => exact ends_character symbol
      | name => exact ends_character symbol
  | keyword text reserved =>
      cases first with
      | mark other => exact ends_head other (isName_of_reserved text reserved) begins
      | keyword => cases apart
      | name => cases apart
  | name text spelled free =>
      cases first with
      | mark other => exact ends_head other spelled begins
      | keyword => cases apart
      | name => cases apart

/-- A word is one lexeme wherever it ends. -/
theorem scan_characters (word : Word) {rest : List Char} (depth : Nat)
    (ends : ∀ c, rest.head? = some c -> word.Ends c) :
    scan [.code depth] (word.characters ++ rest) =
      ⟨word.kind, word.characters⟩ :: scan [.code (word.depthBehind depth)] rest := by
  rcases word.mark_or_spelled with ⟨symbol, rfl⟩ | ⟨first, more, spelled⟩
  · rw [characters_mark, List.singleton_append, scan, step_mark ends]
    rfl
  · have step := step_name depth spelled.start spelled.goesOn fun c begins =>
      spelled.ends c (ends c begins)
    rw [spelled.characters, List.cons_append, scan, step, List.take_left, List.drop_left,
      spelled.kind, spelled.depthBehind]

end Word

/-! ## Words as tokens -/

/-- The token of a word that begins at a place. -/
def Word.token (word : Word) (place : Text.Position) : Token :=
  ⟨word.kind, word.text, ⟨place, place.advanceAll word.characters⟩, []⟩

variable {state : LineState} {rest : List Char} {depth : Nat}

/-- A word that has been scanned is one more token of its line. -/
theorem rowsFrom_word (word : Word) (noExtras : state.extras = [])
    (ends : ∀ c, rest.head? = some c -> word.Ends c) :
    rowsFrom state (scan [.code depth] (word.characters ++ rest)) =
      rowsFrom ⟨state.position.advanceAll word.characters, state.indent,
        word.token state.position :: state.tokens, []⟩ (scan [.code (word.depthBehind depth)] rest) := by
  have spelling : String.ofList word.characters = word.text := String.ofList_toList
  rw [word.scan_characters depth ends, rowsFrom]
  rcases state with ⟨position, indent, tokens, extras⟩
  subst noExtras
  cases tokens <;> cases word <;> simp [Word.kind, Word.token, spelling]

/-- A run of blanks is one lexeme. -/
theorem scan_gap {gap : List Char} (blank : ∀ c ∈ gap, Source.isBlank c = true) (filled : gap ≠ [])
    (ends : ∀ c, rest.head? = some c -> Source.isBlank c = false) :
    scan [.code depth] (gap ++ rest) = ⟨.blank, gap⟩ :: scan [.code depth] rest := by
  cases gap with
  | nil => exact absurd rfl filled
  | cons c gap =>
      rw [List.forall_mem_cons] at blank
      have notNewline : c ≠ '\n' := by
        rintro rfl
        cases blank.1
      have taken : (gap ++ rest).takeWhile Source.isBlank = gap := by
        rw [List.takeWhile_append_of_pos blank.2]
        cases rest with
        | nil => simp
        | cons d rest => simp [ends d rfl]
      have step : Source.step [.code depth] c (gap ++ rest) = ⟨.blank, gap.length, [.code depth]⟩ := by
        simp [Source.step, Source.Step.ofCode, notNewline, blank.1, taken]
      rw [List.cons_append, scan, step, List.take_left, List.drop_left]

/-- Blanks only move the place, and in front of the first token the indentation. -/
theorem rowsFrom_gap {gap : List Char} (blank : ∀ c ∈ gap, Source.isBlank c = true)
    (ends : ∀ c, rest.head? = some c -> Source.isBlank c = false) :
    rowsFrom state (scan [.code depth] (gap ++ rest)) =
      rowsFrom { state with
        position := state.position.advanceAll gap
        indent := if state.tokens.isEmpty then Source.indentBehind state.indent gap else state.indent }
        (scan [.code depth] rest) := by
  by_cases filled : gap = []
  · subst filled
    rcases state with ⟨position, indent, tokens, extras⟩
    cases tokens <;> rfl
  · rw [scan_gap blank filled ends, rowsFrom]

/-- A line feed outside of brackets ends a line. -/
theorem rowsFrom_newline :
    rowsFrom state (scan [.code 0] ('\n' :: rest)) =
      state.finish ++ rowsFrom (.start (state.position.advanceAll ['\n'])) (scan [.code 0] rest) := by
  have step : Source.step [.code 0] '\n' rest = ⟨.newline, 0, [.code 0]⟩ := by
    simp [Source.step, Source.Step.ofCode]
  rw [scan, step, rowsFrom]
  rfl

/-! ## Lines -/

/-- What stands in relation to two lists in a row falls into two lists. -/
theorem forall₂_append {α β : Type} {relation : α -> β -> Prop} {first second : List α} {values : List β} :
    List.Forall₂ relation (first ++ second) values ↔
      ∃ front behind, values = front ++ behind ∧ List.Forall₂ relation first front ∧
        List.Forall₂ relation second behind := by
  constructor
  · intro related
    induction first generalizing values with
    | nil => exact ⟨[], values, rfl, .nil, related⟩
    | cons value first ih =>
        cases related with
        | cons here others =>
            rcases ih others with ⟨front, behind, rfl, one, other⟩
            exact ⟨_ :: front, behind, rfl, .cons here one, other⟩
  · rintro ⟨front, behind, rfl, one, other⟩
    exact List.rel_append one other

/-- Tokens that are spelled as words. -/
def Spells (words : List Word) (tokens : List Token) : Prop :=
  List.Forall₂ (fun word token => ∃ place, token = word.token place) words tokens

/-- A token covers its spelling. -/
def Covers (text : List Char) (token : Token) : Prop :=
  token.span.slice text = token.text.toList

/-- Of two tokens the second stands behind the first, with blanks between them. -/
structure Beside (text : List Char) (first second : Token) : Prop where
  ordered : first.span.stop.offset ≤ second.span.start.offset
  blank : ∀ c ∈ (⟨first.span.stop, second.span.start⟩ : Text.Span).slice text,
    Source.isBlank c = true

/-- A line begins with its first word. -/
theorem Spaced.begins {first : Word} {more : List Word} {text : List Char}
    (spaced : Spaced first more text) : ∃ rest, text = first.characters ++ rest := by
  cases spaced with
  | last => exact ⟨[], (List.append_nil _).symm⟩
  | next => exact ⟨_, rfl⟩

theorem Spaced.head? {first : Word} {more : List Word} {text : List Char}
    (spaced : Spaced first more text) (below : List Char) :
    (text ++ below).head? = first.characters.head? := by
  rcases spaced.begins with ⟨rest, rfl⟩
  rcases first.exists_head with ⟨c, others, same, _⟩
  rw [same]
  rfl

/-- No blanks stand in front of the first word of a line. -/
theorem Spaced.not_isBlank {first : Word} {more : List Word} {text : List Char}
    (spaced : Spaced first more text) (below : List Char) :
    ∀ c, (text ++ below).head? = some c -> Source.isBlank c = false := by
  rw [spaced.head?]
  rcases first.exists_head with ⟨c, others, same, notBlank⟩
  rw [same]
  rintro d ⟨rfl⟩
  exact notBlank

/-- A word ends before the gap behind it, or before the word behind the gap. -/
theorem ends_of_gap {word following : Word} {more : List Word} {gap text below : List Char}
    (blank : ∀ c ∈ gap, Source.isBlank c = true) (apart : word.joins following = true -> gap ≠ [])
    (behind : Spaced following more text) :
    ∀ c, (gap ++ (text ++ below)).head? = some c -> word.Ends c := by
  intro c begins
  cases gap with
  | nil =>
      rw [List.nil_append, behind.head?] at begins
      cases joined : word.joins following with
      | true => exact absurd rfl (apart joined)
      | false => exact Word.ends_following joined begins
  | cons d gap =>
      cases begins
      exact word.ends_blank (blank c List.mem_cons_self)

/-- Tokens with a gap between them stand beside each other. -/
theorem beside_of_gap {whole before gap behind : List Char} {word following : Word}
    {place : Text.Position} (blank : ∀ c ∈ gap, Source.isBlank c = true)
    (parted : whole = before ++ (word.characters ++ (gap ++ behind)))
    (offset : place.offset = before.length) :
    Beside whole (word.token place)
      (following.token ((place.advanceAll word.characters).advanceAll gap)) where
  ordered := by
    show (place.advanceAll word.characters).offset ≤ _
    rw [Word.token, Text.Position.offset_advanceAll (place.advanceAll word.characters)]
    exact Nat.le_add_right _ _
  blank := by
    have covered : (⟨place.advanceAll word.characters,
        (place.advanceAll word.characters).advanceAll gap⟩ : Text.Span).slice whole = gap := by
      have parts : whole = (before ++ word.characters) ++ (gap ++ behind) := by
        rw [parted, List.append_assoc]
      apply Source.covers_of_append parts
      rw [Text.Position.offset_advanceAll, offset, List.length_append]
    intro c member
    exact blank c (covered ▸ member)

theorem covers_token {whole before behind : List Char} {word : Word} {place : Text.Position}
    (parted : whole = before ++ (word.characters ++ behind)) (offset : place.offset = before.length) :
    Covers whole (word.token place) :=
  Source.covers_of_append parted offset

/-- Words that have been scanned are tokens of their line, side by side. -/
theorem rowsFrom_spaced (state : LineState) (depth : Nat) {whole before text below : List Char}
    {first : Word} {more : List Word}
    (spaced : Spaced first more text) (noExtras : state.extras = [])
    (parted : whole = before ++ (text ++ '\n' :: below))
    (offset : state.position.offset = before.length) :
    ∃ tokens place, Spells more tokens ∧
      List.IsChain (Beside whole) (first.token state.position :: tokens) ∧
      (∀ token ∈ first.token state.position :: tokens, Covers whole token) ∧
      rowsFrom state (scan [.code depth] (text ++ '\n' :: below)) =
        rowsFrom ⟨place, state.indent, (first.token state.position :: tokens).reverse ++ state.tokens, []⟩
          (scan [.code ((first :: more).foldl Word.depthBehind depth)] ('\n' :: below)) ∧
      place.offset = (before ++ text).length := by
  induction spaced generalizing state before depth with
  | last word =>
      refine ⟨[], state.position.advanceAll word.characters, .nil, .singleton _,
        List.forall_mem_singleton.2 (covers_token parted offset), ?_, ?_⟩
      · refine rowsFrom_word word noExtras ?_
        rintro c ⟨rfl⟩
        exact word.ends_newline
      · rw [Text.Position.offset_advanceAll, offset, List.length_append]
  | @next word following more gap text blank apart behind ih =>
      have joined : word.characters ++ (gap ++ text) ++ '\n' :: below =
          word.characters ++ (gap ++ (text ++ '\n' :: below)) := by simp
      have onward : whole = (before ++ word.characters ++ gap) ++ (text ++ '\n' :: below) := by
        rw [parted, joined]
        simp
      have place : ((state.position.advanceAll word.characters).advanceAll gap).offset =
          (before ++ word.characters ++ gap).length := by
        simp [Text.Position.offset_advanceAll, offset, Nat.add_assoc]
      rcases ih ⟨(state.position.advanceAll word.characters).advanceAll gap, state.indent,
          word.token state.position :: state.tokens, []⟩ (word.depthBehind depth) rfl onward
        place with ⟨tokens, stop, spelled, chain, covers, rows, stopOffset⟩
      rw [joined] at parted
      refine ⟨_ :: tokens, stop, .cons ⟨_, rfl⟩ spelled,
        .cons_cons (beside_of_gap blank parted offset) chain,
        List.forall_mem_cons.2 ⟨covers_token parted offset, covers⟩, ?_, ?_⟩
      · rw [joined, rowsFrom_word word noExtras (ends_of_gap blank apart behind),
          rowsFrom_gap blank (behind.not_isBlank _), List.foldl_cons]
        refine rows.trans ?_
        simp
      · rw [stopOffset]
        simp

/-- A line of tokens that a printed line is scanned as. -/
structure IsLine (whole : List Char) (printed : Line) (line : Source.Line) : Prop where
  indent : line.indent = 4 * printed.level
  spelled : Spells printed.sentence.words line.tokens
  chain : List.IsChain (Beside whole) line.tokens
  covers : ∀ token ∈ line.tokens, Covers whole token
  after : line.after = []

def IsRow (whole : List Char) (printed : Line) (row : Row) : Prop :=
  ∃ line, row = .line line ∧ IsLine whole printed line

/-- Each space indents by one. -/
theorem indentBehind_spaces (indent count : Nat) :
    Source.indentBehind indent (List.replicate count ' ') = indent + count := by
  induction count generalizing indent with
  | zero => rfl
  | succ count ih =>
      have first : Source.indentBehind indent (' ' :: List.replicate count ' ') =
          Source.indentBehind (indent + 1) (List.replicate count ' ') := rfl
      rw [List.replicate_succ, first, ih]
      omega

/-- The spaces at the beginning of a line are its indentation. -/
theorem rowsFrom_indent (place : Text.Position) (count : Nat)
    (ends : ∀ c, rest.head? = some c -> Source.isBlank c = false) :
    rowsFrom (.start place) (scan [.code 0] (List.replicate count ' ' ++ rest)) =
      rowsFrom ⟨place.advanceAll (List.replicate count ' '), count, [], []⟩ (scan [.code 0] rest) := by
  have spaces : ∀ c ∈ List.replicate count ' ', Source.isBlank c = true := by
    intro c member
    rw [List.eq_of_mem_replicate member]
    rfl
  have width : (if (LineState.start place).tokens.isEmpty then
      Source.indentBehind (LineState.start place).indent (List.replicate count ' ')
      else (LineState.start place).indent) = count :=
    (indentBehind_spaces 0 count).trans (Nat.zero_add count)
  rw [rowsFrom_gap spaces ends, width]
  rfl

/-- A printed line is scanned as one row, and the next line begins behind it. -/
theorem rowsFrom_line {whole before text below : List Char} {printed : Line}
    (spaced : Spaced printed.sentence.first printed.sentence.more text) {place : Text.Position}
    (parted : whole =
      before ++ (List.replicate (4 * printed.level) ' ' ++ (text ++ '\n' :: below)))
    (offset : place.offset = before.length) :
    ∃ line next, IsLine whole printed line ∧
      next.offset = (before ++ List.replicate (4 * printed.level) ' ' ++ text ++ ['\n']).length ∧
      rowsFrom (.start place)
          (scan [.code 0] (List.replicate (4 * printed.level) ' ' ++ (text ++ '\n' :: below))) =
        .line line :: rowsFrom (.start next) (scan [.code 0] below) := by
  rw [rowsFrom_indent place _ (spaced.not_isBlank _)]
  have inside : (place.advanceAll (List.replicate (4 * printed.level) ' ')).offset =
      (before ++ List.replicate (4 * printed.level) ' ').length := by
    rw [Text.Position.offset_advanceAll, offset, List.length_append]
  generalize place.advanceAll (List.replicate (4 * printed.level) ' ') = start at inside ⊢
  rw [← List.append_assoc] at parted
  rcases rowsFrom_spaced ⟨start, 4 * printed.level, [], []⟩ 0 spaced rfl parted inside
    with ⟨tokens, stop, spelled, chain, covers, rows, stopOffset⟩
  refine ⟨⟨4 * printed.level, printed.sentence.first.token start, tokens, []⟩, stop.advanceAll ['\n'],
    ⟨rfl, .cons ⟨_, rfl⟩ spelled, chain, covers, rfl⟩, ?_, ?_⟩
  · rw [Text.Position.offset_advanceAll, stopOffset, ← List.length_append]
  · rw [rows, printed.sentence.balanced, rowsFrom_newline, List.append_nil, LineState.finish,
      List.reverse_reverse]
    rfl

/-- Printed lines are scanned as rows, one for each line. -/
theorem rowsFrom_printed {whole before text : List Char} {lines : List Line}
    (printed : Printed lines text) {place : Text.Position} (parted : whole = before ++ text)
    (offset : place.offset = before.length) :
    List.Forall₂ (IsRow whole) lines (rowsFrom (.start place) (scan [.code 0] text)) := by
  induction printed generalizing before place with
  | nil =>
      rw [scan]
      exact .nil
  | cons spaced behind ih =>
      rcases rowsFrom_line spaced parted offset with ⟨line, next, scanned, nextOffset, rows⟩
      rw [rows]
      refine .cons ⟨line, rfl, scanned⟩ (ih ?_ nextOffset)
      rw [parted]
      simp

/-- The rows of a printed text. -/
theorem rows_printed {text : List Char} {lines : List Line} (printed : Printed lines text) :
    List.Forall₂ (IsRow text) lines (Source.rows text) := by
  have parted : text = [] ++ text := rfl
  exact rowsFrom_printed printed parted rfl

end Skeleton
end ImportCensus

import ImportCensus.Source.Statement

namespace ImportCensus
namespace Source

/-!
# What readers take

The counterpart of what readers find: a reader does not fail on given tokens, takes
exactly these from the front of what is ahead, and what it finds is good.  Where a
reader looks further ahead, the tokens that are left decide as well, so that they are
part of the statement.  Such statements, too, follow the shape of the reader.
-/

/-- Whether the next of some tokens is of a kind and spelled in a given way. -/
def Shows (kind : LexemeKind) (text : String) (ahead : List Token) : Bool :=
  ahead.head?.any fun token => token.is kind text

namespace Reader

variable {α β : Type} {reader : Reader α} {next : α -> Reader β} {tokens first second rest : List Token}
  {good : α -> Prop} {fine : β -> Prop} {token : Token} {text : String} {kind : LexemeKind}

/-- A reader takes tokens that others follow, and what it finds is good. -/
def Takes (reader : Reader α) (tokens rest : List Token) (good : α -> Prop) : Prop :=
  ∀ behind, ∃ found place, reader ⟨behind, tokens ++ rest⟩ = .ok (found, ⟨place, rest⟩) ∧ good found

theorem Takes.imp {better : α -> Prop} (takes : Takes reader tokens rest better)
    (implies : ∀ found, better found -> good found) : Takes reader tokens rest good := by
  intro behind
  rcases takes behind with ⟨found, place, reads, holds⟩
  exact ⟨found, place, reads, implies found holds⟩

theorem Takes.pure {value : α} (holds : good value) : Takes (Pure.pure value) [] rest good :=
  fun behind => ⟨value, behind, rfl, holds⟩

theorem Takes.bind (one : Takes reader first (second ++ rest) good)
    (other : ∀ found, good found -> Takes (next found) second rest fine) :
    Takes (reader >>= next) (first ++ second) rest fine := by
  intro behind
  rcases one behind with ⟨found, place, reads, holds⟩
  rcases other found holds place with ⟨result, stop, goesOn, fits⟩
  refine ⟨result, stop, ?_, fits⟩
  rw [List.append_assoc]
  simp only [Bind.bind, StateT.bind, Except.bind, reads]
  exact goesOn

/-- A reader that takes the first token, followed by one that takes the others. -/
theorem Takes.step (one : Takes reader [token] (tokens ++ rest) good)
    (other : ∀ found, good found -> Takes (next found) tokens rest fine) :
    Takes (reader >>= next) (token :: tokens) rest fine :=
  .bind one other

/-- A reader that takes nothing, followed by one that takes all there is. -/
theorem Takes.skip (one : Takes reader [] (tokens ++ rest) good)
    (other : ∀ found, good found -> Takes (next found) tokens rest fine) :
    Takes (reader >>= next) tokens rest fine :=
  .bind one other

/-- A value that is given without any reading. -/
theorem Takes.given {value : α} (onward : Takes (next value) tokens rest fine) :
    Takes (Pure.pure value >>= next) tokens rest fine :=
  onward

/-- A reader that takes all there is, followed by one that takes nothing. -/
theorem Takes.last (one : Takes reader tokens rest good)
    (other : ∀ found, good found -> Takes (next found) [] rest fine) :
    Takes (reader >>= next) tokens rest fine := by
  have both : Takes (reader >>= next) (tokens ++ []) rest fine := .bind one other
  rwa [List.append_nil] at both

/-- A reader that only looks ahead is followed by its answer. -/
theorem Takes.ask (answer : α)
    (answers : ∀ behind, reader ⟨behind, tokens ++ rest⟩ = .ok (answer, ⟨behind, tokens ++ rest⟩))
    (onward : Takes (next answer) tokens rest fine) : Takes (reader >>= next) tokens rest fine := by
  intro behind
  rcases onward behind with ⟨found, place, reads, holds⟩
  refine ⟨found, place, ?_, holds⟩
  simp only [Bind.bind, StateT.bind, Except.bind, answers]
  exact reads

section Choices

variable {yes no : Reader α} {test : Token -> Bool}

/-- A choice by the next token's spelling. -/
theorem Takes.ifShown (shows : Shows kind text (tokens ++ rest) = true) (chosen : Takes yes tokens rest good) :
    Takes (isNext kind text >>= fun answer => if answer then yes else no) tokens rest good :=
  .ask true (fun behind => by rw [← shows]; rfl) chosen

theorem Takes.ifMissing (shows : Shows kind text (tokens ++ rest) = false) (chosen : Takes no tokens rest good) :
    Takes (isNext kind text >>= fun answer => if answer then yes else no) tokens rest good :=
  .ask false (fun behind => by rw [← shows]; rfl) chosen

/-- A choice by a test of the next token. -/
theorem Takes.ifNext (holds : (tokens ++ rest).head?.any test = true) (chosen : Takes yes tokens rest good) :
    Takes (Reader.next test >>= fun answer => if answer then yes else no) tokens rest good :=
  .ask true (fun behind => by rw [← holds]; rfl) chosen

theorem Takes.ifNotNext (fails : (tokens ++ rest).head?.any test = false) (chosen : Takes no tokens rest good) :
    Takes (Reader.next test >>= fun answer => if answer then yes else no) tokens rest good :=
  .ask false (fun behind => by rw [← fails]; rfl) chosen

end Choices

/-- A loop that may run once for each token ahead. -/
theorem Takes.counted {next : Nat -> Reader β} (onward : Takes (next (tokens ++ rest).length) tokens rest fine) :
    Takes (count >>= next) tokens rest fine :=
  .ask (tokens ++ rest).length (fun _ => rfl) onward

/-! ## Single tokens -/

theorem plain_takes : Takes plain [token] rest (· = .leaf none token) :=
  fun _ => ⟨_, _, rfl, rfl⟩

theorem named_takes {kind : Syntax.PhraseKind} : Takes (named kind) [token] rest (· = .leaf (some kind) token) :=
  fun _ => ⟨_, _, rfl, rfl⟩

theorem identifier_takes (isName : token.kind = .name) :
    Takes identifier [token] rest (· = .leaf (some .identifier) token) := by
  refine .ask (some token) (fun _ => rfl) ?_
  dsimp only
  rw [if_pos isName]
  exact named_takes

theorem expect_takes (is : token.is kind text = true) :
    Takes (expect kind text) [token] rest (· = .leaf none token) :=
  .ifShown is plain_takes

theorem symbol?_takes (is : token.is .symbol text = true) :
    Takes (symbol? text) [token] rest (· = some (.leaf none token)) := by
  refine .ifShown is ?_
  refine .last plain_takes ?_
  rintro _ rfl
  exact .pure rfl

theorem symbol?_misses (shows : Shows .symbol text rest = false) :
    Takes (symbol? text) [] rest (· = none) :=
  .ifMissing shows (.pure rfl)

theorem inRole_takes {role : Syntax.Role} {reader : Reader Phrase} {good : Phrase -> Prop}
    (takes : Takes reader tokens rest good) :
    Takes (inRole role reader) tokens rest fun found => ∃ inner, found = .inRole role inner ∧ good inner :=
  .last takes fun inner holds => .pure ⟨inner, rfl, holds⟩

/-! ## Names and dots -/

/-- The phrase of a token: a name is an identifier, other tokens are their spelling. -/
def leafOf (token : Token) : Phrase :=
  .leaf (if token.kind = .name then some .identifier else none) token

theorem leafOf_name (isName : token.kind = .name) : leafOf token = .leaf (some .identifier) token := by
  rw [leafOf, if_pos isName]

theorem leafOf_other (other : token.kind ≠ .name) : leafOf token = .leaf none token := by
  rw [leafOf, if_neg other]

/-- Names behind dots. -/
inductive DottedTokens : List Token -> Prop
  | nil : DottedTokens []
  | cons {dot name : Token} {rest : List Token} (sign : dot.is .symbol "." = true)
      (isName : name.kind = .name) (behind : DottedTokens rest) : DottedTokens (dot :: name :: rest)

theorem kind_of_is (is : token.is kind text = true) : token.kind = kind := by
  unfold Token.is at is
  rw [Bool.and_eq_true, beq_iff_eq] at is
  exact is.1

theorem dottedTail_takes {limit : Nat} (dotted : DottedTokens tokens)
    (ends : Shows .symbol "." rest = false) (enough : tokens.length ≤ limit) :
    Takes (dottedTail limit) tokens rest (· = tokens.map leafOf) := by
  induction dotted generalizing limit with
  | nil =>
      cases limit with
      | zero => exact .pure rfl
      | succ limit =>
          refine .last (symbol?_misses ends) ?_
          rintro _ rfl
          exact .pure rfl
  | @cons dot name others sign isName behind ih =>
      cases limit with
      | zero => cases enough
      | succ limit =>
          refine .step (symbol?_takes sign) ?_
          rintro _ rfl
          refine .step (identifier_takes isName) ?_
          rintro _ rfl
          refine .last (ih (by simp only [List.length_cons] at enough; omega)) ?_
          rintro _ rfl
          refine .pure ?_
          rw [List.map_cons, List.map_cons, leafOf_name isName,
            leafOf_other (by rw [kind_of_is sign]; decide)]

/-- Names between dots make a dotted name. -/
theorem dottedName_takes {head : Token} (isName : head.kind = .name) (dotted : DottedTokens tokens)
    (ends : Shows .symbol "." rest = false) :
    Takes dottedName (head :: tokens) rest (· = .build .dottedName (leafOf head) (tokens.map leafOf)) := by
  refine .step (identifier_takes isName) ?_
  rintro _ rfl
  refine .counted ?_
  refine .last (dottedTail_takes dotted ends (by simp)) ?_
  rintro _ rfl
  exact .pure (by rw [leafOf_name isName])

/-- Dots that lead up. -/
theorem dots_takes {limit : Nat} (dots : ∀ token ∈ tokens, token.is .symbol "." = true)
    (ends : Shows .symbol "." rest = false) (enough : tokens.length ≤ limit) :
    Takes (Reader.dots limit) tokens rest (· = tokens.map (Phrase.leaf none)) := by
  induction tokens generalizing limit with
  | nil =>
      cases limit with
      | zero => exact .pure rfl
      | succ limit =>
          refine .last (symbol?_misses ends) ?_
          rintro _ rfl
          exact .pure rfl
  | cons dot others ih =>
      cases limit with
      | zero => cases enough
      | succ limit =>
          rw [List.forall_mem_cons] at dots
          refine .step (symbol?_takes dots.1) ?_
          rintro _ rfl
          refine .last (ih dots.2 (Nat.le_of_succ_le_succ enough)) ?_
          rintro _ rfl
          exact .pure rfl

/-! ## Elements between commas -/

/-- The parts that are read for values, each behind a comma. -/
inductive Listed {ι : Type} (good : ι -> Phrase -> Prop) : List ι -> List Phrase -> Prop
  | nil : Listed good [] []
  | cons {value : ι} {values : List ι} {comma : Token} {part : Phrase} {parts : List Phrase}
      (holds : good value part) (behind : Listed good values parts) :
      Listed good (value :: values) (.leaf none comma :: part :: parts)

/-- Tokens that hold elements for values, each behind a comma. -/
inductive CommaTokens {ι : Type} (element : ι -> List Token -> Prop) : List ι -> List Token -> Prop
  | nil : CommaTokens element [] []
  | cons {value : ι} {values : List ι} {comma : Token} {here behind : List Token}
      (sign : comma.is .symbol "," = true) (fits : element value here)
      (others : CommaTokens element values behind) :
      CommaTokens element (value :: values) (comma :: (here ++ behind))

variable {ι : Type} {holds : ι -> Phrase -> Prop} {fits : ι -> List Token -> Prop}
  {starts : Token -> Bool} {element : Reader Phrase} {stops : List Token -> Prop}

/-- Elements behind commas are read if each of them is, wherever a comma or the end of the
list follows. -/
theorem commaTail_takes {values : List ι} {limit : Nat}
    (reads : ∀ value here behind, fits value here -> stops behind ->
      Takes element here behind (holds value))
    (begins : ∀ value here behind, fits value here -> (here ++ behind).head?.any starts = true)
    (comma : ∀ sign behind, sign.is .symbol "," = true -> stops (sign :: behind))
    (fitting : CommaTokens fits values tokens) (ends : stops rest)
    (noComma : Shows .symbol "," rest = false) (enough : tokens.length ≤ limit) :
    Takes (commaTail starts element limit) tokens rest (Listed holds values) := by
  induction fitting generalizing limit with
  | nil =>
      cases limit with
      | zero => exact .pure .nil
      | succ limit =>
          refine .last (symbol?_misses noComma) ?_
          rintro _ rfl
          exact .pure .nil
  | @cons value values sign here behind isComma fitsHere others ih =>
      have stopsHere : stops (behind ++ rest) := by
        cases others with
        | nil => exact ends
        | cons isComma' _ _ => exact comma _ _ isComma'
      cases limit with
      | zero => cases enough
      | succ limit =>
          refine .step (symbol?_takes isComma) ?_
          rintro _ rfl
          refine .ifNext ?_ ?_
          · show (here ++ behind ++ rest).head?.any starts = true
            rw [List.append_assoc]
            exact begins value here _ fitsHere
          · refine .bind (reads value here _ fitsHere stopsHere) ?_
            intro part good
            refine .last (ih ?_) ?_
            · simp only [List.length_cons, List.length_append] at enough
              omega
            · intro parts listed
              exact .pure (.cons good listed)

/-- A list of elements is read if each of them is. -/
theorem commaList_takes {value : ι} {values : List ι} {here behind : List Token}
    (reads : ∀ value here behind, fits value here -> stops behind ->
      Takes element here behind (holds value))
    (begins : ∀ value here behind, fits value here -> (here ++ behind).head?.any starts = true)
    (comma : ∀ sign behind, sign.is .symbol "," = true -> stops (sign :: behind))
    (fitsHere : fits value here) (fitting : CommaTokens fits values behind) (ends : stops rest)
    (noComma : Shows .symbol "," rest = false) :
    Takes (commaList starts element) (here ++ behind) rest fun parts =>
      ∃ first more, parts = first :: more ∧ holds value first ∧ Listed holds values more := by
  have stopsHere : stops (behind ++ rest) := by
    cases fitting with
    | nil => exact ends
    | cons isComma _ _ => exact comma _ _ isComma
  refine .bind (reads value here _ fitsHere stopsHere) ?_
  intro first good
  refine .counted ?_
  refine .last (commaTail_takes reads begins comma fitting ends noComma (by simp)) ?_
  intro more listed
  exact .pure ⟨first, more, rfl, good, listed⟩

end Reader

end Source
end ImportCensus

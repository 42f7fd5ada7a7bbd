import ImportCensus.Proofs.Glob.Below

namespace ImportCensus
namespace Glob

/-!
# What a pattern spells

The text of a part of a pattern spells a row of pieces: characters, escaped or plain, wildcards,
and sets in brackets (`Spells`).  Reading a part and spelling it are the same thing
(`pieces_eq_ok`), and a part whose reading ends at a lone backslash spells pieces up to there
(`pieces_eq_loneBackslash`).

The grammar is told text by text, the reader goes from left to right; the two meet in
`Spells.pieces_append`: what is spelled in front of a text is read, and then the text is.
-/

/-! ## Sets -/

/-- The text between the brackets of a set: a mark if the set is negated, and then its
characters, among which a closing bracket stands at the front only. -/
inductive SetInside : Bool -> List Char -> List Char -> Prop
  | plain {inner : List Char} (unmarked : inner.head?.any isNegation = false)
      (inside : ']' ∉ inner.tail) : SetInside false inner inner
  | negated {mark : Char} {inner : List Char} (marked : isNegation mark = true)
      (inside : ']' ∉ inner.tail) : SetInside true inner (mark :: inner)

/-- A closing bracket in front of a set's characters, which stands for itself. -/
def closingInFront (body : List Char) : List Char := if body.head? = some ']' then [']'] else []

/-- The characters of a set, given what stands behind its mark. -/
def setInner (body : List Char) : List Char :=
  closingInFront body ++ (body.drop (closingInFront body).length).takeWhile fun c => c != ']'

/-- What follows the characters of a set. -/
def setRest (body : List Char) : List Char :=
  (body.drop (closingInFront body).length).dropWhile fun c => c != ']'

section

variable {body inner rest : List Char}

theorem setInner_append_setRest (body : List Char) : setInner body ++ setRest body = body := by
  have front : closingInFront body ++ body.drop (closingInFront body).length = body := by
    unfold closingInFront
    cases body with
    | nil => rfl
    | cons c rest =>
        by_cases closing : c = ']'
        · subst closing
          rfl
        · simp [closing]
  rw [setInner, setRest, List.append_assoc, List.takeWhile_append_dropWhile, front]

theorem not_mem_takeWhile (text : List Char) : ']' ∉ text.takeWhile fun c => c != ']' := by
  intro member
  have other := List.all_takeWhile (p := fun c => c != ']') (l := text)
  rw [List.all_eq_true] at other
  exact absurd (other _ member) (by decide)

theorem not_mem_tail_setInner (body : List Char) : ']' ∉ (setInner body).tail := by
  unfold setInner
  intro member
  have closingFirst : closingInFront body = [] ∨ closingInFront body = [']'] := by
    unfold closingInFront
    split
    · exact .inr rfl
    · exact .inl rfl
  rcases closingFirst with none | one
  · rw [none, List.nil_append] at member
    exact not_mem_takeWhile _ (List.mem_of_mem_tail member)
  · rw [one] at member
    exact not_mem_takeWhile _ member

theorem setRest_cases (body : List Char) :
    setRest body = [] ∨ ∃ rest, setRest body = ']' :: rest := by
  unfold setRest
  cases left : (body.drop (closingInFront body).length).dropWhile fun c => c != ']' with
  | nil => exact .inl rfl
  | cons c rest =>
      have closing := List.head?_dropWhile_not (fun c => c != ']')
        (body.drop (closingInFront body).length)
      rw [left] at closing
      exact .inr ⟨rest, by simpa using closing⟩

/-- The characters of a set end at the first closing bracket behind the first of them. -/
theorem setInner_closed (filled : inner ≠ []) (inside : ']' ∉ inner.tail) :
    setInner (inner ++ ']' :: rest) = inner := by
  cases inner with
  | nil => exact absurd rfl filled
  | cons c inner =>
      have run : ∀ d ∈ inner, (d != ']') = true := by
        intro d member
        rw [bne_iff_ne]
        rintro rfl
        exact inside member
      have taken : (inner ++ ']' :: rest).takeWhile (fun c => c != ']') = inner := by
        rw [List.takeWhile_append_of_pos run]
        simp
      unfold setInner closingInFront
      by_cases closing : c = ']'
      · subst closing
        simpa using taken
      · simp [closing, taken]

end

/-- Where the characters of a set are followed by anything, there are some. -/
theorem setInner_ne_nil {body rest : List Char} (left : setRest body = ']' :: rest) :
    setInner body ≠ [] := by
  intro none
  have whole := setInner_append_setRest body
  rw [none, left, List.nil_append] at whole
  rw [← whole] at none
  cases none

/-- The set at the beginning of a text, given whether it is negated. -/
def closedSet? (negated : Bool) (body : List Char) : Option (Bool × List Char × Nat) :=
  if (setInner body).length < body.length then
    some (negated, setInner body, (setInner body).length + 1 + if negated then 1 else 0)
  else none

theorem splitSet?_eq (text : List Char) :
    splitSet? text = if text.head?.any isNegation then closedSet? true (text.drop 1)
      else closedSet? false text := by
  unfold splitSet? closedSet?
  cases text.head?.any isNegation <;> rfl

theorem closedSet?_eq_some {body inner : List Char} {negated mark : Bool} {size : Nat} :
    closedSet? mark body = some (negated, inner, size) ↔
      negated = mark ∧ inner ≠ [] ∧ ']' ∉ inner.tail ∧ (∃ rest, body = inner ++ ']' :: rest) ∧
        size = inner.length + 1 + if mark then 1 else 0 := by
  unfold closedSet?
  have whole := setInner_append_setRest body
  constructor
  · intro found
    split at found
    · rename_i shorter
      cases found
      rcases setRest_cases body with none | ⟨rest, left⟩
      · rw [none, List.append_nil] at whole
        rw [whole] at shorter
        exact absurd shorter (Nat.lt_irrefl _)
      · rw [left] at whole
        exact ⟨rfl, setInner_ne_nil left, not_mem_tail_setInner body, ⟨rest, whole.symm⟩, rfl⟩
    · cases found
  · rintro ⟨rfl, filled, inside, ⟨rest, rfl⟩, rfl⟩
    rw [setInner_closed filled inside, if_pos (by simp)]

theorem head?_closed {inner rest : List Char} (filled : inner ≠ []) :
    (inner ++ ']' :: rest).head? = inner.head? := by
  cases inner with
  | nil => exact absurd rfl filled
  | cons c inner => rfl

/-- A set is split off a text that closes it, and off no other. -/
theorem splitSet?_eq_some {text inner : List Char} {negated : Bool} {size : Nat} :
    splitSet? text = some (negated, inner, size) ↔
      ∃ inside rest, SetInside negated inner inside ∧ inner ≠ [] ∧
        text = inside ++ ']' :: rest ∧ size = inside.length + 1 := by
  rw [splitSet?_eq]
  constructor
  · intro found
    split at found
    · rename_i marked
      rcases closedSet?_eq_some.1 found with ⟨rfl, filled, inside, ⟨rest, body⟩, rfl⟩
      cases text with
      | nil => cases marked
      | cons mark text =>
          exact ⟨mark :: inner, rest, .negated marked inside, filled,
            congrArg (mark :: ·) body, rfl⟩
    · rename_i unmarked
      rcases closedSet?_eq_some.1 found with ⟨rfl, filled, inside, ⟨rest, rfl⟩, rfl⟩
      refine ⟨inner, rest, .plain ?_ inside, filled, rfl, rfl⟩
      rw [head?_closed filled] at unmarked
      simpa using unmarked
  · rintro ⟨inside, rest, set, filled, rfl, rfl⟩
    cases set with
    | plain unmarked inside =>
        rw [head?_closed filled, unmarked, if_neg Bool.false_ne_true]
        exact closedSet?_eq_some.2 ⟨rfl, filled, inside, ⟨rest, rfl⟩, rfl⟩
    | @negated mark inner marked inside =>
        rw [show ((mark :: inner) ++ ']' :: rest).head?.any isNegation = true from marked, if_pos rfl]
        exact closedSet?_eq_some.2 ⟨rfl, filled, inside, ⟨rest, rfl⟩, rfl⟩

/-! ## Pieces -/

/-- The pieces that a text spells. -/
inductive Spells : List Char -> List Piece -> Prop
  | nil : Spells [] []
  | escaped {c : Char} {rest : List Char} {found : List Piece} (behind : Spells rest found) :
      Spells ('\\' :: c :: rest) (.char c :: found)
  | set {negated : Bool} {inner inside rest : List Char} {found : List Piece}
      (set : SetInside negated inner inside) (filled : inner ≠ []) (behind : Spells rest found) :
      Spells ('[' :: (inside ++ ']' :: rest)) (.set negated (setRanges inner) :: found)
  | many {rest : List Char} {found : List Piece} (behind : Spells rest found) :
      Spells ('*' :: rest) (.many :: found)
  | one {rest : List Char} {found : List Piece} (behind : Spells rest found) :
      Spells ('?' :: rest) (.one :: found)
  | char {c : Char} {rest : List Char} {found : List Piece} (plain : c ∉ ['\\', '[', '*', '?'])
      (behind : Spells rest found) : Spells (c :: rest) (.char c :: found)

section

variable {text front rest : List Char} {found : List Piece}

/-- What is left of a text behind a set. -/
theorem drop_set {inside rest : List Char} : (inside ++ ']' :: rest).drop (inside.length + 1) = rest := by
  rw [List.drop_append, List.drop_eq_nil_of_le (Nat.le_succ _)]
  simp

theorem pieces_escaped (c : Char) (rest : List Char) :
    pieces ('\\' :: c :: rest) = (pieces rest).map fun others => .char c :: others := by
  rw [pieces, if_pos rfl]

theorem pieces_set {negated : Bool} {inner inside : List Char} (set : SetInside negated inner inside)
    (filled : inner ≠ []) (rest : List Char) :
    pieces ('[' :: (inside ++ ']' :: rest)) =
      (pieces rest).map fun others => .set negated (setRanges inner) :: others := by
  have split := splitSet?_eq_some.2 ⟨inside, rest, set, filled, rfl, rfl⟩
  rw [pieces.eq_def]
  dsimp only
  rw [if_neg (by decide), if_pos rfl, split]
  dsimp only
  rw [drop_set]

theorem pieces_single {c : Char} (noEscape : c ≠ '\\') (noSet : c ≠ '[') (rest : List Char) :
    pieces (c :: rest) = (pieces rest).map fun others =>
      (if c = '*' then .many else if c = '?' then .one else .char c) :: others := by
  rw [pieces.eq_def]
  dsimp only
  rw [if_neg noEscape, if_neg noSet]

/-- What is spelled in front of a text is read first. -/
theorem Spells.pieces_append (spells : Spells front found) (rest : List Char) :
    pieces (front ++ rest) = (pieces rest).map fun others => found ++ others := by
  have onward {first : Piece} {read : Except PieceFault (List Piece)} {others : List Piece}
      (ih : read = (pieces rest).map fun behind => others ++ behind) :
      (read.map fun behind => first :: behind) =
        (pieces rest).map fun behind => (first :: others) ++ behind := by
    rw [ih]
    cases pieces rest <;> rfl
  induction spells with
  | nil =>
      rw [List.nil_append]
      cases pieces rest <;> rfl
  | escaped behind ih =>
      rw [List.cons_append, List.cons_append, pieces_escaped]
      exact onward ih
  | set inside filled behind ih =>
      rw [List.cons_append, List.append_assoc, List.cons_append, pieces_set inside filled]
      exact onward ih
  | many behind ih =>
      rw [List.cons_append, pieces_single (by decide) (by decide)]
      exact onward ih
  | one behind ih =>
      rw [List.cons_append, pieces_single (by decide) (by decide)]
      exact onward ih
  | char plain behind ih =>
      simp only [List.mem_cons, List.not_mem_nil, or_false, not_or] at plain
      rw [List.cons_append, pieces_single plain.1 plain.2.1, if_neg plain.2.2.1, if_neg plain.2.2.2]
      exact onward ih

/-- A single character is a wildcard or stands for itself. -/
theorem Spells.single {c : Char} (noEscape : c ≠ '\\') (noSet : c ≠ '[')
    (behind : Spells rest found) :
    Spells (c :: rest) ((if c = '*' then .many else if c = '?' then .one else .char c) :: found) := by
  split
  · rename_i star
    subst star
    exact .many behind
  · rename_i noStar
    split
    · rename_i mark
      subst mark
      exact .one behind
    · rename_i noMark
      exact .char (by simp [noEscape, noSet, noStar, noMark]) behind

/-- A text is read as the pieces that it spells. -/
theorem pieces_eq_ok_iff : pieces text = .ok found ↔ Spells text found := by
  constructor
  · intro read
    fun_induction pieces text generalizing found with
    | case1 =>
        cases read
        exact .nil
    | case2 => cases read
    | case3 c rest ih =>
        rcases map_eq_ok.1 read with ⟨others, behind, rfl⟩
        exact .escaped (ih behind)
    | case4 => cases read
    | case5 rest negated inner size split noEscape ih =>
        rcases map_eq_ok.1 read with ⟨others, behind, rfl⟩
        rcases splitSet?_eq_some.1 split with ⟨inside, rest, set, filled, rfl, rfl⟩
        rw [drop_set] at ih behind
        exact .set set filled (ih behind)
    | case6 c rest noEscape noSet =>
        rename_i ih
        rcases map_eq_ok.1 read with ⟨others, behind, rfl⟩
        exact .single noEscape noSet (ih behind)
  · intro spells
    have read := spells.pieces_append []
    rw [List.append_nil, pieces] at read
    rw [read]
    exact congrArg Except.ok (List.append_nil found)

theorem map_eq_error {ε α β : Type} {first : Except ε α} {change : α -> β} {error : ε} :
    first.map change = .error error ↔ first = .error error := by
  cases first <;> simp [Except.map]

/-- Reading ends at a lone backslash if the text spells pieces up to a backslash at its end. -/
theorem pieces_eq_loneBackslash : pieces text = .error .loneBackslash ↔
    ∃ front found, Spells front found ∧ text = front ++ ['\\'] := by
  constructor
  · intro failed
    fun_induction pieces text with
    | case1 => cases failed
    | case2 => exact ⟨[], [], .nil, rfl⟩
    | case3 c rest ih =>
        rcases ih (map_eq_error.1 failed) with ⟨front, found, spells, rfl⟩
        exact ⟨_, _, .escaped spells, rfl⟩
    | case4 => cases failed
    | case5 rest negated inner size split noEscape ih =>
        rcases splitSet?_eq_some.1 split with ⟨inside, rest, set, filled, rfl, rfl⟩
        rw [drop_set] at ih failed
        rcases ih (map_eq_error.1 failed) with ⟨front, found, spells, rfl⟩
        exact ⟨_, _, .set set filled spells, by simp⟩
    | case6 c rest noEscape noSet =>
        rename_i ih
        rcases ih (map_eq_error.1 failed) with ⟨front, found, spells, rfl⟩
        exact ⟨_, _, .single noEscape noSet spells, rfl⟩
  · rintro ⟨front, found, spells, rfl⟩
    rw [spells.pieces_append, map_eq_error, pieces, if_pos rfl]

end

end Glob
end ImportCensus

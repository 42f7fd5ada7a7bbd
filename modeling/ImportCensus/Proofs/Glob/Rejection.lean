import ImportCensus.Proofs.Glob.Appending
import ImportCensus.Proofs.Glob.Grammar
import ImportCensus.Proofs.Sequence

namespace ImportCensus
namespace Glob

/-!
# Lines that are no patterns

There are three ways for a line to be rejected (`Rejects`): nothing stands behind its mark; a
part between its slashes ends with a lone backslash; or all of its parts can be read, and a set
in one of them has a range that runs backwards.  Reading rejects a line for exactly these
reasons (`read_eq_error_iff`), and some lines for the reason of the first that is rejected
(`Spec.ofLines_eq_error`).

Before its parts are read, a pattern is brought into a normal form, which drops and adds parts
that are empty or stand for any number of directories.  Neither can be a reason to reject a
line, so the form has no influence on the verdict.
-/

/-! ## Parts -/

/-- A part that says something: it is not empty and does not stand for directories. -/
def isProper (part : List Char) : Bool := part != [] && part != doubleStar

theorem filter_collapse (parts : List (List Char)) :
    (collapse parts).filter isProper = parts.filter isProper := by
  fun_induction collapse parts with
  | case1 first second rest both ih =>
      rw [Bool.and_eq_true, decide_eq_true_eq, decide_eq_true_eq] at both
      rw [ih, List.filter_cons_of_neg (a := first)]
      rw [both.1]
      decide
  | case2 first second rest other ih => rw [List.filter_cons, List.filter_cons, ih]
  | case3 parts => rfl

/-- The normal form keeps the parts that say something, in their order. -/
theorem filter_normalParts (parts : List (List Char)) :
    (normalParts parts).filter isProper = parts.filter isProper := by
  unfold normalParts
  extract_lets anchored closed
  have kept : anchored.filter isProper = parts.filter isProper := by
    simp only [anchored]
    split
    · rfl
    · split <;> rfl
    · split <;> rfl
    · rfl
  have ended : closed.filter isProper = anchored.filter isProper := by
    simp only [closed]
    split
    · rename_i empty
      rcases List.getLast?_eq_some_iff.1 empty with ⟨front, whole⟩
      rw [whole, List.dropLast_concat, List.filter_append, List.filter_append]
      rfl
    · rfl
  rw [filter_collapse, ended, kept]

/-- A part that can be read. -/
def Readable (part : List Char) : Prop := ∃ found, Spells part found

section

variable {part text : List Char} {parts : List (List Char)} {fault : PieceFault}

theorem pieces_doubleStar : pieces doubleStar = .ok [.many, .many] :=
  pieces_eq_ok_iff.2 (.many (.many .nil))

theorem segment_isOk : (∃ found, segment part = .ok found) ↔ Readable part := by
  unfold segment
  split
  · rename_i double
    subst double
    exact ⟨fun _ => ⟨_, pieces_eq_ok_iff.1 pieces_doubleStar⟩, fun _ => ⟨_, rfl⟩⟩
  · constructor
    · rintro ⟨segment, reads⟩
      rcases map_eq_ok.1 reads with ⟨found, read, _⟩
      exact ⟨found, pieces_eq_ok_iff.1 read⟩
    · rintro ⟨found, spells⟩
      exact ⟨_, map_eq_ok.2 ⟨found, pieces_eq_ok_iff.2 spells, rfl⟩⟩

theorem segment_eq_error : segment part = .error fault ↔ pieces part = .error fault := by
  unfold segment
  split
  · rename_i double
    subst double
    rw [pieces_doubleStar]
    exact ⟨nofun, nofun⟩
  · exact map_eq_error

/-- A part in which a range of a set runs backwards. -/
def RunsBackwards (part : List Char) : Prop :=
  ∃ found, Spells part found ∧ ∃ negated ranges low high,
    .set negated ranges ∈ found ∧ (low, high) ∈ ranges ∧ high < low

theorem pieces_isReversed {found : List Piece} : found.any Piece.isReversed = true ↔
    ∃ negated ranges low high, .set negated ranges ∈ found ∧ (low, high) ∈ ranges ∧ high < low := by
  rw [List.any_eq_true]
  constructor
  · rintro ⟨piece, member, reversed⟩
    cases piece with
    | set negated ranges =>
        rcases List.any_eq_true.1 reversed with ⟨⟨low, high⟩, listed, below⟩
        exact ⟨negated, ranges, low, high, member, listed, of_decide_eq_true below⟩
    | _ => cases reversed
  · rintro ⟨negated, ranges, low, high, member, listed, below⟩
    exact ⟨_, member, List.any_eq_true.2 ⟨_, listed, decide_eq_true below⟩⟩

theorem runsBackwards_iff {found : List Piece} (spells : Spells part found) :
    RunsBackwards part ↔ found.any Piece.isReversed = true := by
  rw [pieces_isReversed]
  constructor
  · rintro ⟨again, same, reversed⟩
    cases (pieces_eq_ok_iff.2 spells).symm.trans (pieces_eq_ok_iff.2 same)
    exact reversed
  · exact fun reversed => ⟨found, spells, reversed⟩

theorem segment_isReversed {found : Segment} (reads : segment part = .ok found) :
    found.isReversed = true ↔ RunsBackwards part := by
  unfold segment at reads
  split at reads
  · rename_i double
    subst double
    cases reads
    rw [runsBackwards_iff (pieces_eq_ok_iff.1 pieces_doubleStar)]
    exact ⟨nofun, nofun⟩
  · rcases map_eq_ok.1 reads with ⟨found, read, rfl⟩
    exact (runsBackwards_iff (pieces_eq_ok_iff.1 read)).symm

/-! ## Shapes -/

theorem splitSlash_ne_nil (text : List Char) : splitSlash text ≠ [] := by
  cases text with
  | nil => exact List.cons_ne_nil _ _
  | cons c rest =>
      rw [splitSlash]
      split
      · exact List.cons_ne_nil _ _
      · split <;> exact List.cons_ne_nil _ _

theorem collapse_eq_nil : collapse parts = [] ↔ parts = [] := by
  fun_induction collapse parts with
  | case1 first second rest both ih =>
      exact iff_of_false (mt ih.1 (List.cons_ne_nil _ _)) (List.cons_ne_nil _ _)
  | case2 => exact iff_of_false (List.cons_ne_nil _ _) (List.cons_ne_nil _ _)
  | case3 => rfl

theorem splitSlash_eq_nil (single : splitSlash text = [[]]) : text = [] := by
  cases text with
  | nil => rfl
  | cons c rest =>
      rw [splitSlash] at single
      split at single
      · exact absurd (List.cons.inj single).2 (splitSlash_ne_nil rest)
      · split at single <;> cases single

/-- Nothing is left of a pattern only if nothing was there. -/
theorem normalParts_eq_nil : normalParts (splitSlash text) = [] ↔ text = [] := by
  constructor
  · intro empty
    unfold normalParts at empty
    extract_lets anchored closed at empty
    have bare : anchored = [] := by
      rw [collapse_eq_nil] at empty
      simp only [closed] at empty
      split at empty
      · cases List.append_ne_nil_of_right_ne_nil _ (List.cons_ne_nil _ _) empty
      · exact empty
    simp only [anchored] at bare
    split at bare
    · rename_i rest parts
      exact splitSlash_eq_nil (parts.trans (congrArg ([] :: ·) bare))
    · split at bare <;> cases bare
    · rename_i only _ parts
      split at bare
      · cases parts.symm.trans bare
      · cases bare
    · exact absurd bare (splitSlash_ne_nil text)
  · rintro rfl
    rfl

theorem segment_star : segment ['*'] = .ok (.glob [.many]) := by
  unfold segment
  rw [if_neg (by decide), pieces_eq_ok_iff.2 (.many .nil)]
  rfl

/-- How the text of a pattern is read: as its parts are, and as nothing if it is empty. -/
theorem shape?_cases (text : List Char) :
    (∃ fault, (normalParts (splitSlash text)).mapM segment = .error fault ∧
        shape? text = .error fault) ∨
      (text = [] ∧ shape? text = .ok none) ∨
      text ≠ [] ∧ ∃ segments shape, (normalParts (splitSlash text)).mapM segment = .ok segments ∧
        shape? text = .ok (some shape) ∧ shape.isReversed = segments.any Segment.isReversed := by
  have filled : text ≠ [] ↔ normalParts (splitSlash text) ≠ [] := not_congr normalParts_eq_nil.symm
  unfold shape?
  dsimp only
  rw [filled]
  generalize ((splitSlash text).getLast? == some []) = inside
  split
  · rename_i empty
    exact .inr (.inl ⟨normalParts_eq_nil.1 empty, rfl⟩)
  · rename_i single normal
    rw [normal, List.mapM_cons]
    split
    · rename_i double
      subst double
      refine .inr (.inr ⟨nofun, [.anyDepth], _, rfl, rfl, ?_⟩)
      split <;> rfl
    · cases segment single with
      | error fault => exact .inl ⟨fault, rfl, rfl⟩
      | ok first =>
          refine .inr (.inr ⟨nofun, [first], _, rfl, rfl, rfl⟩)
  · rename_i some _
    split
    · rename_i all
      rw [all]
      refine .inr (.inr ⟨nofun, [.anyDepth, .glob [.many]], _, ?_, rfl, rfl⟩)
      rw [List.mapM_cons, List.mapM_cons, segment_star]
      rfl
    · split
      · rename_i all
        rw [all]
        refine .inr (.inr ⟨nofun, [.anyDepth, .glob [.many], .anyDepth], _, ?_, rfl, ?_⟩)
        · rw [List.mapM_cons, List.mapM_cons, segment_star]
          rfl
        · split <;> rfl
      · cases (normalParts (splitSlash text)).mapM segment with
        | error fault => exact .inl ⟨fault, rfl, rfl⟩
        | ok segments =>
            exact .inr (.inr ⟨some, segments, _, rfl, rfl, rfl⟩)

/-! ## Lines -/

/-- A line without the mark in front of it. -/
def behindMark (line : List Char) : List Char :=
  if line.head? = some '!' then line.drop 1 else line

/-- Why a line is rejected. -/
inductive Rejects (line : List Char) : PatternError -> Prop
  | empty (nothing : behindMark line = []) : Rejects line (.malformed (String.ofList line))
  | backslash {before after : List (List Char)} {front : List Char}
      (parts : splitSlash (behindMark line) = before ++ (front ++ ['\\']) :: after)
      (readable : ∀ part ∈ before, Readable part) (spelled : Readable front) :
      Rejects line (.malformed (String.ofList line))
  | reversed {part : List Char} (readable : ∀ part ∈ splitSlash (behindMark line), Readable part)
      (member : part ∈ splitSlash (behindMark line)) (reversed : RunsBackwards part) :
      Rejects line .reversedRange

/-- Parts that say nothing can be read, and no range runs backwards in them. -/
theorem spells_of_not_isProper (other : isProper part = false) :
    ∃ found, Spells part found ∧ found.any Piece.isReversed = false := by
  rcases Bool.and_eq_false_iff.1 other with empty | double
  · rw [bne_eq_false_iff_eq.1 empty]
    exact ⟨_, .nil, rfl⟩
  · rw [bne_eq_false_iff_eq.1 double]
    exact ⟨_, pieces_eq_ok_iff.1 pieces_doubleStar, rfl⟩

theorem normalParts_mapM_eq_error :
    (normalParts parts).mapM segment = .error fault ↔ parts.mapM segment = .error fault := by
  have harmless (part : List Char) (other : isProper part = false) :
      ∃ found, segment part = .ok found := by
    rcases spells_of_not_isProper other with ⟨found, spells, _⟩
    exact segment_isOk.2 ⟨found, spells⟩
  rw [← mapM_filter_eq_error isProper fun part _ => harmless part, filter_normalParts,
    mapM_filter_eq_error isProper fun part _ => harmless part]

theorem isProper_of_runsBackwards (reversed : RunsBackwards part) : isProper part = true := by
  rw [← Bool.not_eq_false]
  intro other
  rcases spells_of_not_isProper other with ⟨found, spells, forwards⟩
  cases forwards.symm.trans ((runsBackwards_iff spells).1 reversed)

theorem normalParts_runsBackwards :
    (∃ part ∈ normalParts parts, RunsBackwards part) ↔ ∃ part ∈ parts, RunsBackwards part := by
  have proper (parts : List (List Char)) : (∃ part ∈ parts, RunsBackwards part) ↔
      ∃ part ∈ parts.filter isProper, RunsBackwards part := by
    refine exists_congr fun part => and_congr_left fun reversed => ?_
    rw [List.mem_filter, and_iff_left (isProper_of_runsBackwards reversed)]
  rw [proper, filter_normalParts, ← proper]

theorem shape?_eq_none : shape? text = .ok none ↔ text = [] := by
  rcases shape?_cases text with ⟨fault, _, failed⟩ | ⟨rfl, nothing⟩ | ⟨filled, _, shape, _, found, _⟩
  · rw [failed]
    refine ⟨nofun, ?_⟩
    rintro rfl
    cases failed
  · exact ⟨fun _ => rfl, fun _ => nothing⟩
  · rw [found]
    exact ⟨nofun, fun empty => absurd empty filled⟩

theorem shape?_eq_error :
    shape? text = .error fault ↔ (splitSlash text).mapM segment = .error fault := by
  rw [← normalParts_mapM_eq_error]
  rcases shape?_cases text with ⟨other, failed, same⟩ | ⟨rfl, nothing⟩ | ⟨_, segments, shape, read, found, _⟩
  · rw [failed, same, Except.error.injEq, Except.error.injEq]
  · exact ⟨nofun, nofun⟩
  · rw [read, found]
    exact ⟨nofun, nofun⟩

theorem any_isReversed {segments : List Segment}
    (each : segments.map Except.ok = parts.map segment) :
    segments.any Segment.isReversed = true ↔ ∃ part ∈ parts, RunsBackwards part := by
  induction parts generalizing segments with
  | nil =>
      rw [List.map_nil, List.map_eq_nil_iff] at each
      rw [each]
      exact ⟨nofun, nofun⟩
  | cons part parts ih =>
      cases segments with
      | nil => cases each
      | cons found segments =>
          rw [List.map_cons, List.map_cons, List.cons.injEq] at each
          rw [List.any_cons, Bool.or_eq_true, ih each.2, segment_isReversed each.1.symm]
          simp only [List.mem_cons, exists_eq_or_imp]

/-- A shape is refused if all parts can be read and a range in one of them runs backwards. -/
theorem shape?_isReversed : (∃ shape, shape? text = .ok (some shape) ∧ shape.isReversed = true) ↔
    (∀ part ∈ splitSlash text, Readable part) ∧ ∃ part ∈ splitSlash text, RunsBackwards part := by
  have readable : (∀ part ∈ splitSlash text, Readable part) ↔ ∀ fault, shape? text ≠ .error fault := by
    simp only [Ne, shape?_eq_error, ← segment_isOk, ← mapM_isOk]
    cases (splitSlash text).mapM segment <;> simp
  rw [readable, ← normalParts_runsBackwards]
  rcases shape?_cases text with
    ⟨fault, _, failed⟩ | ⟨empty, nothing⟩ | ⟨_, segments, shape, read, found, reversed⟩
  · rw [failed]
    exact ⟨nofun, fun ⟨never, _⟩ => absurd rfl (never fault)⟩
  · rw [nothing, normalParts_eq_nil.2 empty]
    exact ⟨nofun, nofun⟩
  · rw [found, ← any_isReversed (mapM_eq_ok read), ← reversed]
    constructor
    · rintro ⟨same, again, refused⟩
      cases again
      exact ⟨nofun, refused⟩
    · exact fun ⟨_, refused⟩ => ⟨shape, rfl, refused⟩

/-- Reading ends at a lone backslash if one ends a part and those before it can be read. -/
theorem mapM_segment_eq_loneBackslash : parts.mapM segment = .error .loneBackslash ↔
    ∃ before front after, parts = before ++ (front ++ ['\\']) :: after ∧
      (∀ part ∈ before, Readable part) ∧ Readable front := by
  rw [mapM_eq_error]
  simp only [segment_isOk, segment_eq_error, pieces_eq_loneBackslash]
  constructor
  · rintro ⟨before, _, after, split, readable, front, found, spells, rfl⟩
    exact ⟨before, front, after, split, readable, found, spells⟩
  · rintro ⟨before, front, after, split, readable, found, spells⟩
    exact ⟨before, _, after, split, readable, front, found, spells, rfl⟩

theorem read_of_shape (line : List Char) : Pattern.read line =
    match shape? (behindMark line) with
    | .ok (some shape) =>
      if shape.isReversed then .error .reversedRange
      else if line = ['/'] then .ok ⟨false, .nothing⟩ else .ok ⟨line.head? = some '!', shape⟩
    | .ok none | .error .loneBackslash => .error (.malformed (String.ofList line))
    | .error .unclosed => .ok ⟨line.head? = some '!', .nothing⟩ := by
  unfold Pattern.read behindMark
  by_cases slash : line = ['/']
  · subst slash
    rfl
  · dsimp only
    generalize shape? _ = found
    rcases found with (_ | _) | (_ | shape) <;> simp [slash]

/-- A line is rejected for one of the three reasons, and for no other. -/
theorem read_eq_error_iff {line : List Char} {error : PatternError} :
    Pattern.read line = .error error ↔ Rejects line error := by
  rw [read_of_shape]
  constructor
  · intro failed
    split at failed
    · rename_i shape found
      split at failed
      · rename_i reversed
        cases failed
        rcases shape?_isReversed.1 ⟨shape, found, reversed⟩ with ⟨readable, part, member, runs⟩
        exact .reversed readable member runs
      · split at failed <;> cases failed
    · rename_i nothing
      cases failed
      exact .empty (shape?_eq_none.1 nothing)
    · rename_i lone
      cases failed
      rcases mapM_segment_eq_loneBackslash.1 (shape?_eq_error.1 lone) with
        ⟨before, front, after, parts, readable, spelled⟩
      exact .backslash parts readable spelled
    · cases failed
  · intro rejects
    cases rejects with
    | empty nothing => rw [shape?_eq_none.2 nothing]
    | @backslash before after front parts readable spelled =>
        rw [shape?_eq_error.2 (mapM_segment_eq_loneBackslash.2
          ⟨before, front, after, parts, readable, spelled⟩)]
    | reversed readable member runs =>
        rcases shape?_isReversed.2 ⟨readable, _, member, runs⟩ with ⟨shape, found, reversed⟩
        rw [found]
        exact if_pos reversed

/-- Some lines are rejected as the first of them is that is rejected. -/
theorem Spec.ofLines_eq_error {lines : List (List Char)} {error : PatternError} :
    Spec.ofLines lines = .error error ↔
      ∃ before line after, meaningful lines = before ++ line :: after ∧
        (∀ other ∈ before, ∀ fault, ¬Rejects other fault) ∧ Rejects line error := by
  have accepted (line : List Char) :
      (∃ pattern, Pattern.read line = .ok pattern) ↔ ∀ fault, ¬Rejects line fault := by
    simp only [← read_eq_error_iff]
    cases Pattern.read line <;> simp
  rw [← @map_eq_error _ _ _ _ fun found => found.getD [], map_getD_ofLines, mapM_eq_error]
  simp only [accepted, read_eq_error_iff]

end

end Glob
end ImportCensus

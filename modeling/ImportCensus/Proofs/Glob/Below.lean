import ImportCensus.Glob.Spec

namespace ImportCensus
namespace Glob

/-!
# Directories and what lies below them

A pattern that matches a directory, written with a slash at its end, is meant to match
all that lies below.  It does so unless its last segment ends with a set that admits a
slash: such a set takes the slash behind the name of a directory, and the pattern then
matches nothing that follows it.  The matcher hands on what is left of a path, so that
the argument is about continuations: a test *extends* if it goes on to hold wherever a
path is continued behind a slash, or behind its end (`Extends`), and every way of
matching builds tests that extend from tests that do.
-/

/-- Whether a piece can stand for a slash.  Sets are the only wildcards that do. -/
def Piece.admitsSlash : Piece -> Bool
  | .set negated ranges => inSet ranges '/' != negated
  | _ => false

/-- The piece at the end of a pattern's last segment. -/
def Shape.lastPiece? : Shape -> Option Piece
  | .path segments =>
    match segments.getLast? with
    | some (.glob pieces) => pieces.getLast?
    | _ => none
  | _ => none

/-! ## Tests that extend -/

/-- A path is open where it can be continued: it is empty or ends with a slash. -/
def IsOpen (path : List Char) : Prop := path = [] ∨ path.getLast? = some '/'

/-- A test that holds for an open path goes on to hold if the path is continued. -/
def Extends (test : List Char -> Bool) : Prop :=
  ∀ path below, IsOpen path -> test path = true -> test (path ++ below) = true

variable {behind : List Char -> Bool}

theorem IsOpen.tail {c : Char} {rest : List Char} (opened : IsOpen (c :: rest)) : IsOpen rest := by
  rcases opened with empty | slash
  · cases empty
  · cases rest with
    | nil => exact .inl rfl
    | cons d rest => exact .inr (by simpa using slash)

/-- Behind a character other than a slash an open path does not end, so that a directory
goes on below there. -/
theorem endsOrBelow_append {c : Char} {rest below : List Char} (opened : IsOpen (c :: rest))
    (other : c ≠ '/') (ends : endsOrBelow rest = true) : endsOrBelow (rest ++ below) = true := by
  have last : (c :: rest).getLast? = some '/' := opened.resolve_left nofun
  match rest, last, ends with
  | [], last, _ => exact absurd (by simpa using last) other
  | [d], last, ends =>
      have slash : d = '/' := by simpa using last
      subst slash
      simp [endsOrBelow]
  | d :: e :: rest, _, ends =>
      have slash : d = '/' := by simpa [endsOrBelow] using ends
      subst slash
      simp [endsOrBelow]

theorem extends_below : Extends below := by
  intro path further _ holds
  cases path with
  | nil => cases holds
  | cons c rest => exact holds

/-- A test that asks for one character first. -/
theorem extends_cons {admits : Char -> Bool} {test : List Char -> Bool}
    (empty : test [] = false)
    (step : ∀ c rest, test (c :: rest) = (admits c && behind rest)) (extend : Extends behind) :
    Extends test := by
  intro path further opened holds
  cases path with
  | nil => cases empty.symm.trans holds
  | cons c rest =>
      rw [step, Bool.and_eq_true] at holds
      rw [List.cons_append, step, holds.1, extend rest further opened.tail holds.2]
      rfl

/-- A run of characters can be empty. -/
theorem matchPieces_many {pieces : List Piece} {path : List Char}
    (holds : matchPieces behind pieces path = true) :
    matchPieces behind (.many :: pieces) path = true := by
  cases path <;> simp [matchPieces, holds]

/-- One piece in front of a test that extends. -/
theorem extends_matchPieces_cons {piece : Piece} {pieces : List Piece}
    (extend : Extends (matchPieces behind pieces)) :
    Extends (matchPieces behind (piece :: pieces)) := by
  cases piece with
  | char c =>
      exact extends_cons (by simp [matchPieces]) (fun d rest => by rw [matchPieces]) extend
  | one =>
      exact extends_cons (by simp [matchPieces]) (fun d rest => by rw [matchPieces]) extend
  | set negated ranges =>
      exact extends_cons (by simp [matchPieces]) (fun d rest => by rw [matchPieces]) extend
  | many =>
      intro path further opened holds
      induction path with
      | nil =>
          have here : matchPieces behind pieces [] = true := by simpa [matchPieces] using holds
          exact matchPieces_many (extend [] further opened here)
      | cons c rest ih =>
          rw [matchPieces, Bool.or_eq_true] at holds
          rcases holds with here | later
          · exact matchPieces_many (extend (c :: rest) further opened here)
          · rw [Bool.and_eq_true] at later
            rw [List.cons_append, matchPieces, later.1, ih opened.tail later.2]
            simp

theorem extends_matchPieces (extend : Extends behind) (pieces : List Piece) :
    Extends (matchPieces behind pieces) := by
  induction pieces with
  | nil =>
      intro path further opened holds
      rw [matchPieces] at holds ⊢
      exact extend path further opened holds
  | cons piece pieces ih => exact extends_matchPieces_cons ih

/-- A run without slashes reaches the end of a path, or a slash. -/
theorem matchPieces_many_endsOrBelow (path : List Char) :
    matchPieces endsOrBelow [.many] path = true := by
  induction path with
  | nil => simp [matchPieces, endsOrBelow]
  | cons c rest ih =>
      rw [matchPieces, matchPieces, ih]
      by_cases slash : c = '/' <;> simp [slash, endsOrBelow]

/-- A piece that takes no slash leaves a directory's path to go on below. -/
theorem extends_matchPieces_last {piece : Piece} (noSlash : piece ≠ .char '/')
    (admits : piece.admitsSlash = false) : Extends (matchPieces endsOrBelow [piece]) := by
  intro path further opened holds
  cases path with
  | nil =>
      cases piece with
      | many => exact matchPieces_many_endsOrBelow _
      | char c => simp [matchPieces] at holds
      | one => simp [matchPieces] at holds
      | set negated ranges => simp [matchPieces] at holds
  | cons d rest =>
      cases piece with
      | many => exact matchPieces_many_endsOrBelow _
      | char c =>
          simp only [matchPieces, Bool.and_eq_true, beq_iff_eq, List.cons_append] at holds ⊢
          rcases holds with ⟨rfl, ends⟩
          exact ⟨rfl, endsOrBelow_append opened (fun slash => noSlash (by rw [slash])) ends⟩
      | one =>
          simp only [matchPieces, Bool.and_eq_true, bne_iff_ne, List.cons_append] at holds ⊢
          exact ⟨holds.1, endsOrBelow_append opened holds.1 holds.2⟩
      | set negated ranges =>
          simp only [matchPieces, Bool.and_eq_true, List.cons_append] at holds ⊢
          refine ⟨holds.1, endsOrBelow_append opened ?_ holds.2⟩
          rintro rfl
          cases admits.symm.trans holds.1

/-! ## Closed patterns -/

/-- A segment is closed if what it takes of a path cannot end with a slash. -/
def Segment.Closed : Segment -> Prop
  | .anyDepth => True
  | .glob pieces =>
    ∃ front last, pieces = front ++ [last] ∧ last ≠ .char '/' ∧ last.admitsSlash = false

/-- A pattern is closed if its last segment is. -/
def Shape.Closed : Shape -> Prop
  | .path segments => ∃ front last, segments = front ++ [last] ∧ last.Closed
  | _ => True

theorem extends_matchPieces_closed {pieces : List Piece} (closed : (Segment.glob pieces).Closed) :
    Extends (matchPieces endsOrBelow pieces) := by
  rcases closed with ⟨front, last, rfl, noSlash, admits⟩
  induction front with
  | nil => exact extends_matchPieces_last noSlash admits
  | cons piece front ih => exact extends_matchPieces_cons ih

theorem extends_matchGlob (extend : Extends behind) (pieces : List Piece) :
    Extends (matchGlob behind pieces) := by
  unfold Extends matchGlob
  split
  · exact extends_matchPieces extend _
  · exact extends_matchPieces extend _

theorem extends_matchGlob_closed {pieces : List Piece} (closed : (Segment.glob pieces).Closed) :
    Extends (matchGlob endsOrBelow pieces) := by
  unfold Extends matchGlob
  split
  · exact extends_matchPieces_closed ⟨[.one], .many, rfl, nofun, rfl⟩
  · exact extends_matchPieces_closed closed

theorem extends_behindSome (extend : Extends behind) : Extends (behindSome behind) := by
  intro path further opened holds
  induction path with
  | nil => cases holds
  | cons c rest ih =>
      rw [List.cons_append]
      rw [behindSome, Bool.and_eq_true, Bool.or_eq_true] at holds ⊢
      refine ⟨holds.1, ?_⟩
      rcases holds.2 with here | later
      · exact .inl (extend rest further opened.tail here)
      · exact .inr (ih opened.tail later)

theorem extends_behindSlash (extend : Extends behind) (started : Bool) :
    Extends (behindSlash behind started) := by
  intro path further opened holds
  induction path generalizing started with
  | nil => cases holds
  | cons c rest ih =>
      rw [List.cons_append]
      simp only [behindSlash, Bool.or_eq_true, Bool.and_eq_true] at holds ⊢
      rcases holds with here | later
      · exact .inl ⟨here.1, extend rest further opened.tail here.2⟩
      · exact .inr ⟨later.1, ih true opened.tail later.2⟩

theorem matchRest_glob_cons {pieces : List Piece} {rest : List Segment} (c : Char)
    (path : List Char) :
    matchRest (.glob pieces :: rest) (c :: path) =
      (c == '/' && matchGlob (matchRest rest) pieces path) := by
  by_cases slash : c = '/'
  · subst slash
    rfl
  · simp [matchRest, slash]

/-- Segments behind others need a slash before them. -/
theorem matchRest_nil : {segments : List Segment} -> segments ≠ [] -> matchRest segments [] = false
  | [], empty => absurd rfl empty
  | [.anyDepth], _ => rfl
  | .glob _ :: _, _ => by simp [matchRest]
  | .anyDepth :: second :: rest, _ => by
      have later : matchRest (second :: rest) [] = false := matchRest_nil (by simp)
      simp [matchRest, later]

/-- Any number of directories: none, or some that begin with a slash. -/
theorem matchRest_anyDepth_cons {second : Segment} {rest : List Segment} (c : Char)
    (path : List Char) :
    matchRest (.anyDepth :: second :: rest) (c :: path) =
      (matchRest (second :: rest) (c :: path) ||
        c == '/' && behindSome (matchRest (second :: rest)) path) := by
  by_cases slash : c = '/'
  · subst slash
    rfl
  · simp [matchRest, slash]

/-- The segments behind the first one, the last of which is closed. -/
theorem extends_matchRest : (segments : List Segment) -> {last : Segment} ->
    segments.getLast? = some last -> last.Closed -> Extends (matchRest segments)
  | [.anyDepth], _, _, _ => extends_below
  | [.glob pieces], _, ends, closed => by
      cases ends
      exact extends_cons rfl matchRest_glob_cons (extends_matchGlob_closed closed)
  | .glob pieces :: second :: rest, _, ends, closed => by
      have later := extends_matchRest (second :: rest) (by simpa using ends) closed
      exact extends_cons rfl matchRest_glob_cons (extends_matchGlob later pieces)
  | .anyDepth :: second :: rest, _, ends, closed => by
      have later := extends_matchRest (second :: rest) (by simpa using ends) closed
      have deep := extends_behindSome later
      intro path further opened holds
      cases path with
      | nil =>
          rw [matchRest_nil (by simp)] at holds
          cases holds
      | cons c rest =>
          rw [matchRest_anyDepth_cons, Bool.or_eq_true, Bool.and_eq_true] at holds
          rw [List.cons_append, matchRest_anyDepth_cons, Bool.or_eq_true, Bool.and_eq_true]
          rcases holds with here | deeper
          · exact .inl (later (c :: rest) further opened here)
          · exact .inr ⟨deeper.1, deep rest further opened.tail deeper.2⟩

/-- A first segment that is a glob, with all others behind it. -/
theorem extends_matchGlob_matchRest {pieces : List Piece} {rest : List Segment} {last : Segment}
    (ends : (.glob pieces :: rest).getLast? = some last) (closed : last.Closed) :
    Extends (matchGlob (matchRest rest) pieces) := by
  cases rest with
  | nil =>
      cases ends
      exact extends_matchGlob_closed closed
  | cons second rest =>
      exact extends_matchGlob (extends_matchRest _ (by simpa using ends) closed) pieces

/-- All segments, the last of which is closed, against the path of a directory. -/
theorem matchSegments_append {last : Segment} (closed : last.Closed) {directory : List Char}
    (slash : directory.getLast? = some '/') (further : List Char) : (segments : List Segment) ->
    segments.getLast? = some last -> matchSegments segments directory = true ->
    matchSegments segments (directory ++ further) = true
  | .glob pieces :: rest, ends, holds =>
      extends_matchGlob_matchRest ends closed _ _ (.inr slash) holds
  | .anyDepth :: .glob pieces :: rest, ends, holds => by
      have later : Extends (matchGlob (matchRest rest) pieces) :=
        extends_matchGlob_matchRest (by simpa using ends) closed
      rw [matchSegments, Bool.or_eq_true] at holds ⊢
      rcases holds with here | deeper
      · exact .inl (later _ _ (.inr slash) here)
      · exact .inr (extends_behindSlash later false _ _ (.inr slash) deeper)
  | .anyDepth :: .anyDepth :: rest, ends, holds =>
      extends_matchRest (.anyDepth :: rest) (by simpa using ends) closed _ _ (.inr slash) holds
  | [.anyDepth], _, holds => by
      have last : ('.' :: directory).getLast? = some '/' := by
        rw [List.getLast?_cons, slash]
        rfl
      exact endsOrBelow_append (.inr last) nofun holds

/-- What matches a directory matches all that lies below it. -/
theorem Shape.matches_append {shape : Shape} (closed : shape.Closed) {directory : List Char}
    (slash : directory.getLast? = some '/') (further : List Char)
    (holds : shape.matches directory = true) : shape.matches (directory ++ further) = true := by
  cases shape with
  | nothing => cases holds
  | everything =>
      rw [Shape.matches, List.any_append, Bool.or_eq_true]
      exact .inl holds
  | nested =>
      rw [Shape.matches, List.contains_iff_mem]
      exact List.mem_append_left further (List.mem_of_getLast? slash)
  | path segments =>
      rcases closed with ⟨front, last, rfl, closed⟩
      exact matchSegments_append closed slash further _ (by simp) holds

/-! ## Patterns that are read -/

/-- Parts between slashes hold no slash. -/
theorem not_mem_splitSlash {text part : List Char} (member : part ∈ splitSlash text) :
    '/' ∉ part := by
  induction text generalizing part with
  | nil =>
      cases List.mem_singleton.1 member
      exact nofun
  | cons c rest ih =>
      rw [splitSlash] at member
      split at member
      · rcases List.mem_cons.1 member with rfl | later
        · exact nofun
        · exact ih later
      · rename_i other
        split at member
        · rename_i first others parts
          rw [parts] at ih
          rcases List.mem_cons.1 member with rfl | later
          · rw [List.mem_cons, not_or]
            exact ⟨Ne.symm other, ih List.mem_cons_self⟩
          · exact ih (List.mem_cons_of_mem _ later)
        · cases List.mem_singleton.1 member
          simpa using Ne.symm other

theorem getLast?_collapse (parts : List (List Char)) :
    (collapse parts).getLast? = parts.getLast? := by
  fun_induction collapse parts with
  | case1 first second rest both ih => simpa using ih
  | case2 first second rest other ih =>
      rw [List.getLast?_cons, ih, List.getLast?_cons (a := first)]
  | case3 parts => rfl

/-- The last part of a pattern is not empty, and is one of its parts unless it stands for
all that lies below. -/
theorem getLast?_normalParts {parts : List (List Char)} {last : List Char}
    (ends : (normalParts parts).getLast? = some last) :
    last = doubleStar ∨ last ≠ [] ∧ last ∈ parts := by
  unfold normalParts at ends
  extract_lets anchored closed at ends
  have members : ∀ part ∈ anchored, part = doubleStar ∨ part ∈ parts := by
    intro part member
    simp only [anchored] at member
    split at member
    · exact .inr (List.mem_cons_of_mem _ member)
    · split at member
      · exact .inr member
      · exact List.mem_cons.1 member
    · split at member
      · exact .inr member
      · exact List.mem_cons.1 member
    · exact .inr member
  rw [getLast?_collapse] at ends
  simp only [closed] at ends
  split at ends
  · left
    simpa using ends.symm
  · rename_i filled
    rcases members last (List.mem_of_getLast? ends) with double | part
    · exact .inl double
    · refine .inr ⟨?_, part⟩
      rintro rfl
      exact filled ends

theorem map_eq_ok {ε α β : Type} {first : Except ε α} {change : α -> β} {found : β} :
    first.map change = .ok found ↔ ∃ value, first = .ok value ∧ change value = found := by
  cases first with
  | error fault => exact ⟨nofun, fun ⟨_, failed, _⟩ => nomatch failed⟩
  | ok value =>
      refine ⟨fun same => ⟨value, rfl, Except.ok.inj same⟩, ?_⟩
      rintro ⟨_, same, rfl⟩
      cases same
      rfl

/-- Things that are read one by one succeed one by one. -/
theorem mapM_eq_ok {ε α β : Type} {read : α -> Except ε β} {values : List α} {found : List β}
    (reads : values.mapM read = .ok found) : found.map Except.ok = values.map read := by
  induction values generalizing found with
  | nil =>
      cases reads
      rfl
  | cons value rest ih =>
      rw [List.mapM_cons] at reads
      cases first : read value with
      | error fault =>
          rw [first] at reads
          cases reads
      | ok here =>
          cases others : rest.mapM read with
          | error fault =>
              rw [first, others] at reads
              cases reads
          | ok later =>
              rw [first, others] at reads
              cases reads
              rw [List.map_cons, List.map_cons, ih others, first]

/-- A part without slashes has no piece that is a slash, and has pieces at all if it is
not empty. -/
theorem pieces_eq_ok {part : List Char} {found : List Piece} (single : '/' ∉ part)
    (reads : pieces part = .ok found) : .char '/' ∉ found ∧ (part ≠ [] -> found ≠ []) := by
  fun_induction pieces part generalizing found with
  | case1 =>
      cases reads
      exact ⟨nofun, fun other => absurd rfl other⟩
  | case2 => cases reads
  | case3 d behind ih =>
      rcases map_eq_ok.1 reads with ⟨others, read, rfl⟩
      simp only [List.mem_cons, not_or] at single
      refine ⟨?_, nofun⟩
      rw [List.mem_cons, not_or]
      exact ⟨fun same => single.2.1 (Piece.char.inj same), (ih single.2.2 read).1⟩
  | case4 => cases reads
  | case5 rest negated inner size split other ih =>
      rcases map_eq_ok.1 reads with ⟨others, read, rfl⟩
      have behind : '/' ∉ rest.drop size := fun member =>
        single (List.mem_cons_of_mem _ (List.mem_of_mem_drop member))
      refine ⟨?_, nofun⟩
      rw [List.mem_cons, not_or]
      exact ⟨nofun, (ih behind read).1⟩
  | case6 c rest escape set piece =>
      rename_i ih
      rcases map_eq_ok.1 reads with ⟨others, read, rfl⟩
      rw [List.mem_cons, not_or] at single
      refine ⟨?_, nofun⟩
      rw [List.mem_cons, not_or]
      refine ⟨?_, (ih single.2 read).1⟩
      simp only [piece]
      split
      · exact nofun
      · split
        · exact nofun
        · exact fun same => single.1 (Piece.char.inj same)

/-- What is said of a text as a pattern, apart from the marks around it. -/
theorem segment_closed {part : List Char} {found : Segment}
    (ends : part = doubleStar ∨ part ≠ [] ∧ '/' ∉ part) (reads : segment part = .ok found)
    (noSet : ∀ pieces piece, found = .glob pieces -> pieces.getLast? = some piece ->
      piece.admitsSlash = false) : found.Closed := by
  rw [segment] at reads
  split at reads
  · cases reads
    trivial
  · rename_i other
    rcases ends.resolve_left other with ⟨filled, single⟩
    rcases map_eq_ok.1 reads with ⟨found, read, rfl⟩
    have facts := pieces_eq_ok single read
    have notEmpty := facts.2 filled
    refine ⟨found.dropLast, found.getLast notEmpty, (List.dropLast_concat_getLast notEmpty).symm,
      ?_, noSet _ _ rfl (List.getLast?_eq_some_getLast notEmpty)⟩
    intro slash
    exact facts.1 (slash ▸ List.getLast_mem notEmpty)

/-- A row of parts that are read as segments ends with the segment of the last part. -/
theorem closed_of_mapM {parts : List (List Char)} {segments : List Segment} {last : List Char}
    (ends : parts.getLast? = some last) (single : last = doubleStar ∨ last ≠ [] ∧ '/' ∉ last)
    (reads : parts.mapM segment = .ok segments)
    (noSet : ∀ piece, (Shape.path segments).lastPiece? = some piece -> piece.admitsSlash = false) :
    (Shape.path segments).Closed := by
  have lasts := congrArg List.getLast? (mapM_eq_ok reads)
  rw [List.getLast?_map, List.getLast?_map, ends] at lasts
  rcases Option.map_eq_some_iff.1 lasts with ⟨found, here, read⟩
  rcases List.getLast?_eq_some_iff.1 here with ⟨front, rfl⟩
  refine ⟨front, found, rfl, segment_closed single read.symm ?_⟩
  rintro pieces piece rfl stands
  exact noSet piece (by rw [Shape.lastPiece?, here]; exact stands)

theorem shape?_closed {text : List Char} {shape : Shape} (reads : shape? text = .ok (some shape))
    (noSet : ∀ piece, shape.lastPiece? = some piece -> piece.admitsSlash = false) :
    shape.Closed := by
  have single : ∀ last, (normalParts (splitSlash text)).getLast? = some last ->
      last = doubleStar ∨ last ≠ [] ∧ '/' ∉ last := by
    intro last ends
    rcases getLast?_normalParts ends with double | ⟨filled, part⟩
    · exact .inl double
    · exact .inr ⟨filled, not_mem_splitSlash part⟩
  unfold shape? at reads
  extract_lets parts inside at reads
  split at reads
  · cases reads
  · rename_i only normal
    split at reads
    · cases reads
      split <;> trivial
    · rcases map_eq_ok.1 reads with ⟨first, read, same⟩
      cases same
      have alone : [only].mapM segment = .ok [first] := by
        rw [List.mapM_cons, read]
        rfl
      exact closed_of_mapM rfl (single only (by rw [normal]; rfl)) alone noSet
  · rename_i filled _
    split at reads
    · cases reads
      trivial
    · split at reads
      · cases reads
        split <;> trivial
      · rcases map_eq_ok.1 reads with ⟨segments, read, same⟩
        cases same
        cases ends : (normalParts parts).getLast? with
        | none => cases filled (List.getLast?_eq_none_iff.1 ends)
        | some last => exact closed_of_mapM ends (single last ends) read noSet

/-- A pattern that is read is closed unless its last piece is a set that admits a
slash. -/
theorem Pattern.closed_of_read {line : List Char} {pattern : Pattern}
    (reads : Pattern.read line = .ok pattern)
    (noSet : ∀ piece, pattern.shape.lastPiece? = some piece -> piece.admitsSlash = false) :
    pattern.shape.Closed := by
  unfold Pattern.read at reads
  extract_lets negated text at reads
  split at reads
  · cases reads
    trivial
  · split at reads
    · rename_i shape read
      split at reads
      · cases reads
      · cases reads
        exact shape?_closed read noSet
    · cases reads
    · cases reads
    · cases reads
      trivial

/-- A line without an exclamation mark in front is a pattern that keeps its verdict. -/
theorem Pattern.negated_of_read {line : List Char} {pattern : Pattern}
    (reads : Pattern.read line = .ok pattern) (positive : line.head? ≠ some '!') :
    pattern.negated = false := by
  unfold Pattern.read at reads
  extract_lets negated text at reads
  split at reads
  · cases reads
    rfl
  · split at reads
    · split at reads
      · cases reads
      · cases reads
        exact decide_eq_false positive
    · cases reads
    · cases reads
    · cases reads
      exact decide_eq_false positive

/-! ## Lists of patterns -/

/-- The patterns of a list are read from the lines that are meaningful. -/
theorem Spec.of_mem_ofLines {lines : List (List Char)} {spec : Spec}
    (reads : Spec.ofLines lines = .ok (some spec)) {pattern : Pattern} (member : pattern ∈ spec) :
    ∃ line ∈ meaningful lines, Pattern.read line = .ok pattern := by
  unfold Spec.ofLines at reads
  split at reads
  · cases reads
  · cases read : (meaningful lines).mapM Pattern.read with
    | error error =>
        rw [read] at reads
        cases reads
    | ok found =>
        rw [read] at reads
        cases reads
        have stands : Except.ok pattern ∈ (meaningful lines).map Pattern.read := by
          rw [← mapM_eq_ok read]
          exact List.mem_map_of_mem member
        exact List.mem_map.1 stands

/-- Where no verdict is turned around, a list selects what one of its patterns matches. -/
theorem Spec.selects_positive {spec : Spec} (positive : ∀ pattern ∈ spec, pattern.negated = false)
    (path : List Char) :
    spec.selects path = spec.any fun pattern => pattern.shape.matches (relative path) := by
  rw [selects, verdict?]
  cases found : spec.reverse.find? fun pattern => pattern.shape.matches (relative path) with
  | none =>
      rw [List.find?_eq_none] at found
      symm
      rw [Option.map_none, Option.getD_none, List.any_eq_false]
      intro pattern member
      exact found pattern (List.mem_reverse.2 member)
  | some pattern =>
      have member := List.mem_reverse.1 (List.mem_of_find?_eq_some found)
      rw [Option.map_some, Option.getD_some, positive pattern member]
      symm
      rw [Bool.not_false, List.any_eq_true]
      have matched := List.find?_some (p := fun pattern : Pattern => pattern.shape.matches _) found
      exact ⟨pattern, member, matched⟩

end Glob
end ImportCensus

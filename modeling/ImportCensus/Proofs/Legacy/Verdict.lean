import ImportCensus.Census.Contribution
import ImportCensus.Proofs.Legacy.Blocks
import ImportCensus.Proofs.Text.Places
import Mathlib

namespace ImportCensus
namespace Source

open Syntax (Kind Tree)
open Text (Position byteLines bytesBefore bytesUpTo encode)
open Text.Position (origin)

/-!
# The verdict on statements of the older dialect

A text without a syntax error is refused if its tree holds a statement of the older dialect, at
any depth.  The one that is named is the first in document order, and since such statements come
in the order of their words in the text, it is also the first among the bytes of the text
(`standsFirst_iff`).  The word that it begins with stands at the line and the column of the
message, counted in bytes.
-/

variable {text : List Char} {document : Document} {statement : Legacy} {place : Position}
  {mark : LegacyMark}

theorem name_of_legacy? {kind : Kind} (older : legacy? kind = some statement) :
    kind.name = statement.word ++ "_statement" := by
  unfold legacy? at older
  split at older <;> cases older <;> rfl

theorem treeMark?_eq_some {node : Tree} :
    treeMark? node = some (statement, place) ↔ legacy? node.kind = some statement ∧ node.span.start = place := by
  rw [treeMark?, Option.map_eq_some_iff]
  constructor
  · rintro ⟨_, older, same⟩
    cases same
    exact ⟨older, rfl⟩
  · rintro ⟨older, rfl⟩
    exact ⟨statement, older, rfl⟩

/-! ## Places -/

/-- The bytes of a word stand in a line of the bytes of a text, from a column on.  Lines and
columns count from one. -/
def SpelledAt (text : List Char) (word : String) (line column : Nat) : Prop :=
  ∃ bytes, (byteLines (encode text))[line - 1]? = some bytes ∧ encode word.toList <+: bytes.drop (column - 1)

theorem LegacyMark.Spelled.spelledAt (spelled : mark.Spelled text) :
    SpelledAt text mark.1.word (mark.2.row + 1) (mark.2.column + 1) := by
  rcases mark with ⟨statement, place⟩
  rcases spelled with ⟨before, behind, rfl, rfl⟩
  have inLine : '\n' ∉ statement.word.toList := by cases statement <;> decide
  exact Text.line_at_place inLine before behind

theorem bytesBefore_advanceAll (before behind : List Char) :
    bytesBefore (before ++ behind) (origin.advanceAll before) = (encode before).length := by
  have offset : (origin.advanceAll before).offset = before.length := by
    rw [Position.offset_advanceAll]
    exact Nat.zero_add _
  rw [bytesBefore, offset, List.take_left]

/-- The row and the column of a statement are where the bytes before its place end. -/
theorem LegacyMark.Spelled.bytesUpTo_eq (spelled : mark.Spelled text) :
    bytesUpTo (encode text) mark.2.row mark.2.column = bytesBefore text mark.2 := by
  rcases mark with ⟨statement, place⟩
  rcases spelled with ⟨before, behind, rfl, rfl⟩
  rw [bytesBefore_advanceAll, Text.encode_append]
  exact Text.bytesUpTo_advanceAll before _

/-- The word of a statement stands behind the bytes before its place. -/
theorem LegacyMark.Spelled.prefix_drop (spelled : mark.Spelled text) :
    encode mark.1.word.toList <+: (encode text).drop (bytesBefore text mark.2) := by
  rcases mark with ⟨statement, place⟩
  rcases spelled with ⟨before, behind, rfl, rfl⟩
  rw [bytesBefore_advanceAll, Text.encode_append, List.drop_left, Text.encode_append]
  exact List.prefix_append _ _

theorem LegacyMark.Spelled.offset_lt (spelled : mark.Spelled text) : mark.2.offset < text.length := by
  rcases mark with ⟨statement, place⟩
  rcases spelled with ⟨before, behind, rfl, rfl⟩
  have filled : 0 < statement.word.toList.length := by cases statement <;> decide
  rw [Position.offset_advanceAll, List.length_append, List.length_append]
  dsimp only [origin]
  omega

/-! ## The first statement -/

/-- A statement of the older dialect begins at a place in a tree, and no other node that is
reached before it is such a statement; those that are reached later begin at a later byte. -/
def StandsFirst (text : List Char) (root : Tree) (statement : Legacy) (place : Position) : Prop :=
  ∃ before node behind, root.preorder = before ++ node :: behind ∧
    (∀ earlier ∈ before, legacy? earlier.kind = none) ∧
    legacy? node.kind = some statement ∧ node.kind.name = statement.word ++ "_statement" ∧
    node.span.start = place ∧
    ∀ later ∈ behind, legacy? later.kind ≠ none -> bytesBefore text place < bytesBefore text later.span.start

/-- Every statement of the older dialect begins with its word. -/
theorem node_spelled (reads : Document.ofText text = .ok document) {node : Tree}
    (member : node ∈ document.root.preorder) (older : legacy? node.kind = some statement) :
    LegacyMark.Spelled text (statement, node.span.start) := by
  have marks := document_marks reads
  rw [treeMarks_single] at marks
  exact spelled_of_mem_rows (marks.mem (List.mem_filterMap.2 ⟨node, member, treeMark?_eq_some.2 ⟨older, rfl⟩⟩))

/-- The first mark of a document is that of the statement which stands first among the bytes of
its text. -/
theorem standsFirst_iff (reads : Document.ofText text = .ok document) :
    document.root.preorder.findSome? treeMark? = some (statement, place) ↔
      StandsFirst text document.root statement place := by
  rw [List.findSome?_eq_some_iff]
  constructor
  · rintro ⟨before, node, behind, whole, here, none⟩
    rcases treeMark?_eq_some.1 here with ⟨older, rfl⟩
    refine ⟨before, node, behind, whole, fun earlier member => Option.map_eq_none_iff.1 (none earlier member), older,
      name_of_legacy? older, rfl, ?_⟩
    intro later member olderToo
    rcases Option.ne_none_iff_exists'.1 olderToo with ⟨other, same⟩
    have marks := document_marks reads
    rw [treeMarks_single, whole, List.filterMap_append, List.filterMap_cons_some here] at marks
    have increasing := (rows_increasing text).sublist ((List.sublist_append_right _ _).trans marks)
    have further := (List.pairwise_cons.1 increasing).1 _
      (List.mem_filterMap.2 ⟨later, member, treeMark?_eq_some.2 ⟨same, rfl⟩⟩)
    have within : node ∈ document.root.preorder := by
      rw [whole]
      exact List.mem_append_right _ List.mem_cons_self
    exact Text.bytesBefore_lt (node_spelled reads within older).offset_lt further
  · rintro ⟨before, node, behind, whole, none, older, _, rfl, _⟩
    exact ⟨before, node, behind, whole, treeMark?_eq_some.2 ⟨older, rfl⟩,
      fun earlier member => Option.map_eq_none_iff.2 (none earlier member)⟩

/-! ## The verdict -/

/-- A syntax error comes before everything, and then the first statement of the older dialect. -/
theorem readSource_eq (text : List Char) : readSource text =
    match Document.ofText text with
    | .error fault => .error (.syntaxError (fault.place (rows text)))
    | .ok document =>
      match document.root.preorder.findSome? treeMark? with
      | some (statement, place) => .error (.legacy statement place)
      | none => .ok document := by
  unfold readSource Document.ofText
  dsimp only
  cases Document.ofRows text (rows text) with
  | error fault => rfl
  | ok document =>
      dsimp only
      rw [document.nodes_eq_preorder]
      rfl

theorem hasSyntaxError_iff : hasSyntaxError text = true ↔ ∃ place, readSource text = .error (.syntaxError place) := by
  rw [readSource_eq]
  unfold hasSyntaxError
  cases Document.ofText text with
  | error fault => exact iff_of_true rfl ⟨_, rfl⟩
  | ok document =>
      refine iff_of_false nofun ?_
      rintro ⟨place, refused⟩
      dsimp only at refused
      split at refused <;> cases refused

theorem readSource_eq_legacy : readSource text = .error (.legacy statement place) ↔
    ∃ document, Document.ofText text = .ok document ∧ StandsFirst text document.root statement place := by
  have first : readSource text = .error (.legacy statement place) ↔ ∃ document,
      Document.ofText text = .ok document ∧
        document.root.preorder.findSome? treeMark? = some (statement, place) := by
    rw [readSource_eq]
    cases Document.ofText text with
    | error fault => exact iff_of_false nofun nofun
    | ok document =>
        dsimp only
        constructor
        · intro refused
          split at refused
          · next here =>
            cases refused
            exact ⟨document, rfl, here⟩
          · cases refused
        · rintro ⟨_, same, here⟩
          cases same
          rw [here]
  rw [first]
  exact exists_congr fun document => and_congr_right standsFirst_iff

/-- A document is refused as soon as it holds a statement of the older dialect anywhere. -/
theorem exists_legacy_iff : (∃ statement place, readSource text = .error (.legacy statement place)) ↔
    ∃ document, Document.ofText text = .ok document ∧
      ∃ node ∈ document.root.preorder, legacy? node.kind ≠ none := by
  rw [readSource_eq]
  cases Document.ofText text with
  | error fault => exact iff_of_false nofun nofun
  | ok document =>
      dsimp only
      constructor
      · rintro ⟨statement, place, refused⟩
        split at refused
        · next here =>
          rcases List.exists_of_findSome?_eq_some here with ⟨node, member, marked⟩
          refine ⟨document, rfl, node, member, ?_⟩
          rw [(treeMark?_eq_some.1 marked).1]
          nofun
        · cases refused
      · rintro ⟨_, same, node, member, older⟩
        cases same
        split
        · exact ⟨_, _, rfl⟩
        · next none =>
          exact absurd (Option.map_eq_none_iff.1 (List.findSome?_eq_none_iff.1 none node member)) older

theorem message_legacy (statement : Legacy) (place : Position) :
    (SourceError.legacy statement place).message = "Python 2 " ++ statement.word ++ " statement at line " ++
      toString (place.row + 1) ++ ", column " ++ toString (place.column + 1) := by
  have line : ∀ rest, " statement at line " ++ rest = " statement at " ++ ("line " ++ rest) := by
    intro rest
    rw [← String.append_assoc]
    rfl
  show "Python 2 " ++ statement.word ++ " statement at " ++
    ("line " ++ toString (place.row + 1) ++ ", column " ++ toString (place.column + 1)) = _
  simp only [String.append_assoc, line]

theorem sourceMessage_eq (file : Option Files.Path) (error : SourceError) :
    Census.sourceMessage file error = file.elim "" (fun path => path.text ++ ": ") ++ error.message := by
  cases file with
  | none => exact String.empty_append.symm
  | some path => rfl

/-- The verdict on a text is exact.  It has a syntax error if and only if it is refused for one,
whatever else it holds; it is accepted if and only if it has a tree without a statement of the
older dialect, and then as it is; and it is refused for such a statement if and only if it has a
tree that holds one at some depth.  The statement that is named is the first in document order,
and no other begins at an earlier byte.  The message names its word and the line and the column
at which this word stands among the bytes of the text, right behind the bytes before its place,
and it begins with the path of the file where there is one. -/
theorem verdict_exact (text : List Char) (file : Option Files.Path) :
    (hasSyntaxError text = true ↔ ∃ place, readSource text = .error (.syntaxError place)) ∧
      (∀ document, readSource text = .ok document ↔ Document.ofText text = .ok document ∧
        ∀ node ∈ document.root.preorder, legacy? node.kind = none) ∧
      ((∃ statement place, readSource text = .error (.legacy statement place)) ↔
        ∃ document, Document.ofText text = .ok document ∧
          ∃ node ∈ document.root.preorder, legacy? node.kind ≠ none) ∧
      (∀ statement place, readSource text = .error (.legacy statement place) ↔
        ∃ document, Document.ofText text = .ok document ∧
          StandsFirst text document.root statement place) ∧
      (∀ document, Document.ofText text = .ok document -> ∀ node ∈ document.root.preorder,
        ∀ statement, legacy? node.kind = some statement ->
          encode statement.word.toList <+: (encode text).drop (bytesBefore text node.span.start)) ∧
      ∀ statement place, readSource text = .error (.legacy statement place) ->
        SpelledAt text statement.word (place.row + 1) (place.column + 1) ∧
          bytesUpTo (encode text) place.row place.column = bytesBefore text place ∧
          Census.sourceMessage file (.legacy statement place) =
            file.elim "" (fun path => path.text ++ ": ") ++ ("Python 2 " ++ statement.word ++
              " statement at line " ++ toString (place.row + 1) ++ ", column " ++ toString (place.column + 1)) := by
  refine ⟨hasSyntaxError_iff, fun _ => readSource_eq_ok, exists_legacy_iff, fun _ _ => readSource_eq_legacy,
    fun _ reads _ member _ older => (node_spelled reads member older).prefix_drop, ?_⟩
  intro statement place refused
  rcases readSource_eq_legacy.1 refused with ⟨document, reads, before, node, behind, whole, _, older, _, rfl, _⟩
  have member : node ∈ document.root.preorder := by
    rw [whole]
    exact List.mem_append_right _ List.mem_cons_self
  have spelled := node_spelled reads member older
  refine ⟨spelled.spelledAt, spelled.bytesUpTo_eq, ?_⟩
  rw [sourceMessage_eq, message_legacy]

/-- Of two statements of the older dialect the one that comes first is named, though it stands in
another statement; its column counts both bytes of the letter before it. -/
theorem verdict_exact_behind_letter :
    readSource "if a:'é';print b\nexec c".toList = .error (.legacy .print ⟨9, 0, 10⟩) ∧
      (∃ document, Document.ofText "if a:'é';print b\nexec c".toList = .ok document ∧
        StandsFirst "if a:'é';print b\nexec c".toList document.root .print ⟨9, 0, 10⟩) ∧
      SpelledAt "if a:'é';print b\nexec c".toList "print" 1 11 ∧
      Census.sourceMessage (some ⟨1, ["b.py"]⟩) (.legacy .print ⟨9, 0, 10⟩) =
        "/b.py: Python 2 print statement at line 1, column 11" := by
  have refused : readSource "if a:'é';print b\nexec c".toList = .error (.legacy .print ⟨9, 0, 10⟩) := by cbv
  have verdict := verdict_exact "if a:'é';print b\nexec c".toList (some ⟨1, ["b.py"]⟩)
  rcases verdict.2.2.2.2.2 _ _ refused with ⟨spelled, _, message⟩
  exact ⟨refused, (verdict.2.2.2.1 _ _).1 refused, spelled, message⟩

end Source
end ImportCensus

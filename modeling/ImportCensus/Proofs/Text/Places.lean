import ImportCensus.Proofs.Text.Utf8
import ImportCensus.Text.Position
import Mathlib.Data.List.Induction

namespace ImportCensus
namespace Text

/-!
# Places among the bytes of a text

A row is a line of the bytes of a text, and a column is a number of bytes in this line.  What
stands at a place in the text stands there among its bytes (`line_at_place`), and a place
further on has more bytes before it (`bytesBefore_lt`).
-/

open Position (origin)

/-- The lines of a byte string: what stands between its line feeds. -/
def byteLines (bytes : List Nat) : List (List Nat) := bytes.splitOn 10

/-- The number of bytes before a column of a row, where rows and columns count from zero: those of
the rows above with a line feed behind each of them, and those of the row itself. -/
def bytesUpTo (bytes : List Nat) (row column : Nat) : Nat :=
  ((byteLines bytes).take row).flatten.length + row + column

/-- The number of bytes of a text before a place. -/
def bytesBefore (text : List Char) (place : Position) : Nat :=
  (encode (text.take place.offset)).length

variable {text before behind spelling : List Char} {place later : Position} {c : Char}

/-! ## Bytes of characters -/

theorem encode_append (first second : List Char) :
    encode (first ++ second) = encode first ++ encode second :=
  List.flatMap_append

theorem length_encode_singleton (c : Char) : (encode [c]).length = c.utf8Size := by
  rw [encode, List.flatMap_singleton, List.length_map, String.length_utf8EncodeChar]

/-- A line feed is a byte of its own, and no byte of another character. -/
theorem not_mem_encode_singleton (inLine : c ≠ '\n') : 10 ∉ encode [c] := by
  have stands := isSequence_utf8EncodeChar c
  have other : c.toNat ≠ 10 := fun same => inLine (Char.toNat_inj.1 same)
  rw [encode, List.flatMap_singleton]
  generalize (String.utf8EncodeChar c).map UInt8.toNat = sequence at stands
  generalize c.toNat = code at stands other
  intro member
  cases stands <;> simp only [List.mem_cons, List.not_mem_nil, or_false] at member <;> omega

theorem not_mem_encode (inLine : '\n' ∉ text) : 10 ∉ encode text := by
  intro member
  rcases List.mem_flatMap.1 member with ⟨c, within, byte⟩
  refine not_mem_encode_singleton (fun same => inLine (same ▸ within)) (c := c) ?_
  rwa [encode, List.flatMap_singleton]

/-! ## Lines -/

theorem byteLines_feed (bytes : List Nat) : byteLines (10 :: bytes) = [] :: byteLines bytes := by
  rw [byteLines, List.splitOn, List.splitOnP_cons_eq_if_modifyHead, if_pos (beq_self_eq_true 10)]
  rfl

/-- Bytes without a line feed go on the first line of what is behind them. -/
theorem byteLines_append {front : List Nat} (inLine : 10 ∉ front) (bytes : List Nat) :
    byteLines (front ++ bytes) = (byteLines bytes).modifyHead (front ++ ·) := by
  induction front with
  | nil => exact (congrFun List.modifyHead_id (byteLines bytes)).symm
  | cons byte front ih =>
      have other : ¬(byte == 10) = true := by
        intro same
        exact inLine (beq_iff_eq.1 same ▸ List.mem_cons_self)
      have rest := ih fun member => inLine (List.mem_cons_of_mem _ member)
      rw [List.cons_append, byteLines, List.splitOn, List.splitOnP_cons_eq_if_modifyHead, if_neg other]
      show (byteLines (front ++ bytes)).modifyHead (List.cons byte) = _
      rw [rest, List.modifyHead_modifyHead]
      rfl

/-- Behind the rows of what is before a place, its line begins with as many bytes as its column
counts. -/
theorem byteLines_drop_row (before : List Char) (bytes : List Nat) :
    ∃ front, front.length = (origin.advanceAll before).column ∧
      (byteLines (encode before ++ bytes)).drop (origin.advanceAll before).row =
        (byteLines bytes).modifyHead (front ++ ·) := by
  induction before using List.reverseRecOn generalizing bytes with
  | nil => exact ⟨[], rfl, (congrFun List.modifyHead_id (byteLines bytes)).symm⟩
  | append_singleton before c ih =>
      rcases ih (encode [c] ++ bytes) with ⟨front, length, lines⟩
      rw [← List.append_assoc, ← encode_append] at lines
      rw [Position.advanceAll_append]
      show ∃ front : List Nat, front.length = ((origin.advanceAll before).advance c).column ∧ _
      by_cases feed : c = '\n'
      · subst feed
        refine ⟨[], rfl, ?_⟩
        have here : byteLines (encode ['\n'] ++ bytes) = [] :: byteLines bytes := byteLines_feed bytes
        rw [here] at lines
        show (byteLines _).drop ((origin.advanceAll before).row + 1) = _
        rw [← List.drop_drop, lines]
        exact (congrFun List.modifyHead_id (byteLines bytes)).symm
      · refine ⟨front ++ encode [c], ?_, ?_⟩
        · rw [List.length_append, length, length_encode_singleton, Position.advance, if_neg feed]
        · rw [byteLines_append (not_mem_encode_singleton feed), List.modifyHead_modifyHead] at lines
          rw [Position.advanceAll]
          show (byteLines _).drop ((origin.advanceAll before).advance c).row = _
          rw [Position.advance, if_neg feed, lines]
          congr 1
          funext line
          exact (List.append_assoc _ _ _).symm

/-- The rows before a place and its column make up the bytes before it. -/
theorem bytesUpTo_advanceAll (before : List Char) (bytes : List Nat) :
    bytesUpTo (encode before ++ bytes) (origin.advanceAll before).row (origin.advanceAll before).column =
      (encode before).length := by
  induction before using List.reverseRecOn generalizing bytes with
  | nil => rfl
  | append_singleton before c ih =>
      have total := ih (encode [c] ++ bytes)
      have size : (encode (before ++ [c])).length = (encode before).length + c.utf8Size := by
        rw [encode_append, List.length_append, length_encode_singleton]
      rw [← List.append_assoc, ← encode_append] at total
      rw [Position.advanceAll_append, size]
      show bytesUpTo _ ((origin.advanceAll before).advance c).row ((origin.advanceAll before).advance c).column = _
      by_cases feed : c = '\n'
      · subst feed
        rcases byteLines_drop_row before (encode ['\n'] ++ bytes) with ⟨front, length, lines⟩
        have here : byteLines (encode ['\n'] ++ bytes) = [] :: byteLines bytes := byteLines_feed bytes
        rw [here, ← List.append_assoc, ← encode_append, List.modifyHead_cons, List.append_nil] at lines
        have row : (byteLines (encode (before ++ ['\n']) ++ bytes))[(origin.advanceAll before).row]? = some front := by
          rw [← List.head?_drop, lines]
          rfl
        show bytesUpTo _ ((origin.advanceAll before).row + 1) 0 = (encode before).length + 1
        rw [bytesUpTo] at total ⊢
        rw [List.take_add_one, row, List.flatten_append, List.length_append]
        show _ + (front ++ []).length + _ + 0 = _
        rw [List.append_nil]
        omega
      · rw [Position.advance, if_neg feed]
        rw [bytesUpTo] at total ⊢
        dsimp only
        omega

/-- What is spelled at a place without a line feed stands in the line of its row, behind as many
bytes as its column counts. -/
theorem line_at_place (inLine : '\n' ∉ spelling) (before behind : List Char) :
    ∃ line, (byteLines (encode (before ++ (spelling ++ behind))))[(origin.advanceAll before).row]? = some line ∧
      encode spelling <+: line.drop (origin.advanceAll before).column := by
  rcases byteLines_drop_row before (encode (spelling ++ behind)) with ⟨front, length, lines⟩
  rw [encode_append spelling, byteLines_append (not_mem_encode inLine), List.modifyHead_modifyHead] at lines
  rcases List.exists_cons_of_ne_nil (List.splitOn_ne_nil 10 (encode behind)) with ⟨line, others, split⟩
  rw [show byteLines (encode behind) = line :: others from split, List.modifyHead_cons] at lines
  refine ⟨front ++ (encode spelling ++ line), ?_, ?_⟩
  · rw [encode_append, encode_append, ← List.head?_drop, lines]
    rfl
  · rw [← length, List.drop_left]
    exact List.prefix_append _ _

/-! ## Order -/

/-- A character takes at least one byte, so that a place further on has more bytes before it. -/
theorem bytesBefore_lt (within : place.offset < text.length) (further : place.offset < later.offset) :
    bytesBefore text place < bytesBefore text later := by
  have between : text.take later.offset = text.take place.offset ++
      (text.drop place.offset).take (later.offset - place.offset) := by
    rw [← List.take_add, Nat.add_sub_cancel' (Nat.le_of_lt further)]
  have filled : (text.drop place.offset).take (later.offset - place.offset) ≠ [] := by
    rw [← List.length_pos_iff, List.length_take, List.length_drop]
    omega
  rcases List.exists_cons_of_ne_nil filled with ⟨c, rest, same⟩
  have some : 0 < (encode (c :: rest)).length := by
    have size := Char.utf8Size_pos c
    rw [← List.singleton_append, encode_append, List.length_append, length_encode_singleton]
    omega
  rw [bytesBefore, bytesBefore, between, same, encode_append, List.length_append]
  omega

end Text
end ImportCensus

import ImportCensus.Proofs.Text.Utf8

namespace ImportCensus
namespace Text

/-!
# Spellings of a text

The same text may be written down with a byte order mark or without one, and with any of three
line ends.  To read it drops one mark (`decodeMarked_eq_ok_iff`) and turns all line ends into
line feeds (`folds_iff`), and so finds the same text in all of them.
-/

/-! ## Byte order marks -/

/-- Bytes without the mark in front of them, if there is one.  A second mark stays. -/
def withoutMark (bytes : List Nat) : List Nat :=
  if byteOrderMark.isPrefixOf bytes then bytes.drop 3 else bytes

/-- A mark that ends before it is complete. -/
def IsCutMark (bytes : List Nat) : Prop := bytes = [0xef] ∨ bytes = [0xef, 0xbb]

variable {bytes : List Nat} {text folded : List Char} {c : Char}

theorem withoutMark_append (bytes : List Nat) : withoutMark (byteOrderMark ++ bytes) = bytes := rfl

/-- Nothing is decoded from a mark that is cut short. -/
theorem not_encodes_of_isCutMark (cut : IsCutMark bytes) : ¬Encodes text (withoutMark bytes) := by
  rw [← decode_eq_ok_iff]
  rcases cut with rfl | rfl <;> exact nofun

/-- Where bytes end within a mark, or before it, they are taken for an empty text. -/
theorem isPrefixOf_byteOrderMark_iff :
    (bytes.length < 3 && bytes.isPrefixOf byteOrderMark) = true ↔ bytes = [] ∨ IsCutMark bytes := by
  unfold IsCutMark byteOrderMark
  match bytes with
  | [] => simp
  | [first] => simp
  | [first, second] => simp
  | first :: second :: third :: rest =>
      refine iff_of_false ?_ (by simp)
      intro short
      have few := of_decide_eq_true (Bool.and_eq_true_iff.1 short).1
      rw [List.length_cons, List.length_cons, List.length_cons] at few
      omega

/-- What bytes with or without a mark are decoded to. -/
theorem decodeMarked_eq_ok_iff : decodeMarked bytes = .ok text ↔
    IsCutMark bytes ∧ text = [] ∨ Encodes text (withoutMark bytes) := by
  unfold decodeMarked
  by_cases short : (bytes.length < 3 && bytes.isPrefixOf byteOrderMark) = true
  · rw [if_pos short, Except.ok.injEq]
    constructor
    · rintro rfl
      rcases isPrefixOf_byteOrderMark_iff.1 short with rfl | cut
      · exact .inr .nil
      · exact .inl ⟨cut, rfl⟩
    · rintro (⟨_, rfl⟩ | encodes)
      · rfl
      · rcases isPrefixOf_byteOrderMark_iff.1 short with rfl | cut
        · exact (encodes_nil_iff.1 encodes).symm
        · exact absurd encodes (not_encodes_of_isCutMark cut)
  · have notCut : ¬IsCutMark bytes := fun cut =>
      short (isPrefixOf_byteOrderMark_iff.2 (.inr cut))
    rw [if_neg short]
    simp only [notCut, false_and, false_or, withoutMark]
    split <;> exact decode_eq_ok_iff

/-- The bytes of a text begin with the mark only if the text begins with its character. -/
theorem withoutMark_encode (unmarked : text.head? ≠ some '\ufeff') :
    withoutMark (encode text) = encode text := by
  refine if_neg fun marked => unmarked ?_
  rcases List.isPrefixOf_iff_prefix.1 marked with ⟨rest, parted⟩
  have encodes := encodes_encode text
  rw [← parted] at encodes
  rcases encodes_cons_iff.1 encodes with ⟨c, size, more, decoded, rfl, _⟩
  cases decoded
  rfl

/-! ## Line ends -/

/-- A text with its line ends turned into line feeds: a carriage return makes one line end
together with a line feed right behind it, and otherwise is one itself. -/
inductive Folds : List Char -> List Char -> Prop
  | nil : Folds [] []
  | pair {text folded : List Char} (rest : Folds text folded) :
      Folds ('\r' :: '\n' :: text) ('\n' :: folded)
  | alone {text folded : List Char} (apart : ∀ behind, text ≠ '\n' :: behind) (rest : Folds text folded) :
      Folds ('\r' :: text) ('\n' :: folded)
  | other {c : Char} {text folded : List Char} (kept : c ≠ '\r') (rest : Folds text folded) :
      Folds (c :: text) (c :: folded)

theorem folds_foldNewlines (text : List Char) : Folds text (foldNewlines text) := by
  induction text using foldNewlines.induct with
  | case1 => exact .nil
  | case2 rest ih => exact .pair ih
  | case3 rest apart ih =>
      rw [foldNewlines.eq_3 _ apart]
      exact .alone apart ih
  | case4 c rest notPair notReturn ih =>
      have kept : c ≠ '\r' := notReturn
      rw [foldNewlines.eq_4 _ _ notPair notReturn]
      exact .other kept ih

theorem folds_iff : Folds text folded ↔ foldNewlines text = folded := by
  constructor
  · intro folds
    induction folds with
    | nil => rfl
    | pair _ ih => rw [foldNewlines, ih]
    | alone apart _ ih => rw [foldNewlines.eq_3 _ apart, ih]
    | @other c text folded kept _ ih =>
        have notPair : ∀ rest, c = '\r' -> text ≠ '\n' :: rest := fun _ same => absurd same kept
        rw [foldNewlines.eq_4 _ _ notPair kept, ih]
  · rintro rfl
    exact folds_foldNewlines text

/-- No carriage return is left. -/
theorem Folds.not_mem (folds : Folds text folded) : '\r' ∉ folded := by
  induction folds with
  | nil => exact List.not_mem_nil
  | pair _ ih | alone _ _ ih =>
      rw [List.mem_cons, not_or]
      exact ⟨by decide, ih⟩
  | other kept _ ih =>
      rw [List.mem_cons, not_or]
      exact ⟨kept.symm, ih⟩

/-! ## Texts as they are written down -/

/-- The ways to end a line. -/
def lineEnds : List (List Char) := [['\n'], ['\r', '\n'], ['\r']]

/-- A text with another end for its lines. -/
def withLineEnd (lineEnd text : List Char) : List Char :=
  text.flatMap fun c => if c = '\n' then lineEnd else [c]

/-- The bytes of a text behind a mark, if there is one, with an end for its lines. -/
def spelled (mark : List Nat) (lineEnd text : List Char) : List Nat :=
  mark ++ encode (withLineEnd lineEnd text)

variable {mark : List Nat} {lineEnd : List Char}

theorem withLineEnd_cons_of_ne (inLine : c ≠ '\n') :
    withLineEnd lineEnd (c :: text) = c :: withLineEnd lineEnd text := by
  rw [withLineEnd, List.flatMap_cons, if_neg inLine]
  rfl

theorem withLineEnd_feed :
    withLineEnd lineEnd ('\n' :: text) = lineEnd ++ withLineEnd lineEnd text := rfl

/-- No line feed is left among lone carriage returns. -/
theorem not_mem_withLineEnd_return (text : List Char) : '\n' ∉ withLineEnd ['\r'] text := by
  intro member
  rcases List.mem_flatMap.1 member with ⟨c, _, within⟩
  split at within
  · exact absurd (List.mem_singleton.1 within) (by decide)
  · rename_i inLine
    exact inLine (List.mem_singleton.1 within).symm

/-- Whatever the line ends are, they are turned back into line feeds. -/
theorem folds_withLineEnd (chosen : lineEnd ∈ lineEnds) (noReturn : '\r' ∉ text) :
    Folds (withLineEnd lineEnd text) text := by
  induction text with
  | nil => exact .nil
  | cons c text ih =>
      rw [List.mem_cons, not_or] at noReturn
      have rest := ih noReturn.2
      by_cases ends : c = '\n'
      · subst ends
        rw [withLineEnd_feed]
        simp only [lineEnds, List.mem_cons, List.not_mem_nil, or_false] at chosen
        rcases chosen with rfl | rfl | rfl
        · exact .other (by decide) rest
        · exact .pair rest
        · refine .alone ?_ rest
          intro behind (same : withLineEnd ['\r'] text = '\n' :: behind)
          apply not_mem_withLineEnd_return text
          rw [same]
          exact List.mem_cons_self
      · rw [withLineEnd_cons_of_ne ends]
        exact .other (Ne.symm noReturn.1) rest

/-- Another line end does not make a text begin with the character of the mark. -/
theorem unmarked_withLineEnd (chosen : lineEnd ∈ lineEnds) (unmarked : text.head? ≠ some '\ufeff') :
    (withLineEnd lineEnd text).head? ≠ some '\ufeff' := by
  cases text with
  | nil => exact unmarked
  | cons c text =>
      by_cases ends : c = '\n'
      · subst ends
        rw [withLineEnd_feed]
        simp only [lineEnds, List.mem_cons, List.not_mem_nil, or_false] at chosen
        rcases chosen with rfl | rfl | rfl <;> exact nofun
      · rw [withLineEnd_cons_of_ne ends]
        exact unmarked

/-- The bytes of a text are decoded to it, with the line ends that it is written down with. -/
theorem decodeMarked_spelled (marked : mark = [] ∨ mark = byteOrderMark) (chosen : lineEnd ∈ lineEnds)
    (unmarked : text.head? ≠ some '\ufeff') :
    decodeMarked (spelled mark lineEnd text) = .ok (withLineEnd lineEnd text) := by
  refine decodeMarked_eq_ok_iff.2 (.inr ?_)
  have whole : withoutMark (spelled mark lineEnd text) = encode (withLineEnd lineEnd text) := by
    rcases marked with rfl | rfl
    · exact withoutMark_encode (unmarked_withLineEnd chosen unmarked)
    · exact withoutMark_append _
  rw [whole]
  exact encodes_encode _

end Text
end ImportCensus

import ImportCensus.Proofs.Number.Numerals
import ImportCensus.Report.Text

namespace ImportCensus
namespace Report

open Census (PackageSet Result)

/-!
# Listings read back

A listing can be taken apart again: it consists of lines, and what its headline says of
packages and files stands in quotes.  Neither an elapsed time nor a name of a package can
get in the way, since they hold no line ends, and the time holds no quotes.
-/

/-! ## Lines -/

/-- A text in which no line ends. -/
def IsLine (line : String) : Prop := ∀ c ∈ line.toList, Text.isLineEnd c = false

theorem linesFrom_line {line : List Char} (single : ∀ c ∈ line, Text.isLineEnd c = false)
    (done rest : List Char) :
    Text.linesFrom done (line ++ '\n' :: rest) = (done.reverse ++ line) :: Text.linesFrom [] rest := by
  induction line generalizing done with
  | nil =>
      rw [List.append_nil, List.nil_append, Text.linesFrom]
      · rfl
      · nofun
  | cons c line ih =>
      have own := single c List.mem_cons_self
      have others := ih (fun d member => single d (List.mem_cons_of_mem _ member)) (c :: done)
      have notReturn : c ≠ '\r' := by
        rintro rfl
        cases own
      rw [List.cons_append, Text.linesFrom]
      · rw [own, if_neg Bool.false_ne_true, others, List.reverse_cons, List.append_assoc]
        rfl
      · intro behind same
        exact absurd same notReturn

/-- The lines of a text. -/
def linesOf (text : String) : List String := (Text.lines text.toList).map String.ofList

/-- What was ended line by line is taken apart into these lines. -/
theorem linesOf_ended {lines : List String} (single : ∀ line ∈ lines, IsLine line) :
    linesOf (ended lines) = lines := by
  unfold linesOf Text.lines
  induction lines with
  | nil => rfl
  | cons line lines ih =>
      have rest := ih fun other member => single other (List.mem_cons_of_mem _ member)
      have text : (ended (line :: lines)).toList = line.toList ++ '\n' :: (ended lines).toList := by
        unfold ended
        rw [List.map_cons, String.join_cons]
        simp
      rw [text, linesFrom_line (single line List.mem_cons_self), List.map_cons, rest,
        List.reverse_nil, List.nil_append, String.ofList_toList]

/-! ## Quotes -/

/-- Every second one of a list. -/
def everySecond {α : Type} : List α -> List α
  | _ :: second :: rest => second :: everySecond rest
  | _ => []

/-- The texts that stand between quotes in a line. -/
def quotedIn (line : String) : List String :=
  (everySecond (line.toList.splitOn '\'')).map String.ofList

/-- A character that neither ends a line nor quotes anything. -/
def IsPlain (c : Char) : Prop := Text.isLineEnd c = false ∧ c ≠ '\''

/-- Texts without such characters can be told by evaluation. -/
theorem isPlain_of_all {text : List Char}
    (all : (text.all fun c => !Text.isLineEnd c && c != '\'') = true) : ∀ c ∈ text, IsPlain c := by
  intro c member
  simpa [IsPlain] using List.all_eq_true.1 all c member

theorem isPlain_digit {c : Char} (digit : c.isDigit = true) : IsPlain c := by
  have range : 48 ≤ c.toNat ∧ c.toNat ≤ 57 := by
    simpa [Char.isDigit, UInt32.le_iff_toNat_le] using digit
  constructor
  · simp only [Text.isLineEnd, Bool.or_eq_false_iff, Bool.and_eq_false_iff, decide_eq_false_iff_not,
      beq_eq_false_iff_ne]
    omega
  · rintro rfl
    exact absurd range.1 (by decide)

theorem isPlain_toString (n : Nat) : ∀ c ∈ (toString n).toList, IsPlain c := by
  intro c member
  rw [Nat.toString_eq_ofList_toDigits, String.toList_ofList] at member
  exact isPlain_digit (Number.all_isDigit_toDigits n c member)

theorem mem_fixedChars {places scaled : Nat} {c : Char} (member : c ∈ Number.fixedChars places scaled) :
    c = '.' ∨ c.isDigit = true := by
  rcases Number.exists_digits_fixedChars places scaled with ⟨whole, fraction, same, digits, -, -⟩
  rw [same] at member
  rcases List.mem_append.1 member with before | behind
  · exact .inr (digits c (List.mem_append_left _ before))
  · rcases List.mem_cons.1 behind with point | after
    · exact .inl point
    · exact .inr (digits c (List.mem_append_right _ after))

/-- What a number is written with, be it finite or not. -/
theorem mem_fixedText {places : Nat} {x : Number.Binary64} {c : Char}
    (member : c ∈ (Number.fixedText places x).toList) :
    c ∈ ['-', '.', 'i', 'n', 'f', 'a'] ∨ c.isDigit = true := by
  cases x with
  | nan =>
      have letters : c ∈ ['n', 'a', 'n'] := by
        rwa [show Number.fixedText places .nan = String.ofList ['n', 'a', 'n'] from rfl,
          String.toList_ofList] at member
      have among : ['n', 'a', 'n'] ⊆ ['-', '.', 'i', 'n', 'f', 'a'] := by simp
      exact .inl (among letters)
  | infinite negative =>
      have letters : c ∈ (if negative then ['-'] else []) ++ ['i', 'n', 'f'] := by
        rwa [show Number.fixedText places (.infinite negative) =
            String.ofList ((if negative then ['-'] else []) ++ ['i', 'n', 'f']) from rfl,
          String.toList_ofList] at member
      have among : (if negative then ['-'] else []) ++ ['i', 'n', 'f'] ⊆
          ['-', '.', 'i', 'n', 'f', 'a'] := by
        cases negative <;> simp
      exact .inl (among letters)
  | finite negative significand exponent =>
      rw [Number.fixedText, String.toList_ofList, List.mem_append] at member
      rcases member with sign | digits
      · cases negative with
        | true => exact .inl (List.mem_cons.2 (.inl (List.mem_singleton.1 sign)))
        | false => exact absurd sign List.not_mem_nil
      · rcases mem_fixedChars digits with rfl | digit
        · exact .inl (by decide)
        · exact .inr digit

theorem isPlain_elapsedText (seconds : Number.Binary64) :
    ∀ c ∈ (elapsedText seconds).toList, IsPlain c := by
  have symbols : ∀ unit : TimeUnit, ∀ c ∈ unit.symbol.toList, IsPlain c := by
    intro unit
    apply isPlain_of_all
    cases unit <;> decide
  have letters : ∀ c ∈ ['-', '.', 'i', 'n', 'f', 'a'], IsPlain c := isPlain_of_all (by decide)
  intro c member
  rw [elapsedText, String.toList_append, List.mem_append] at member
  rcases member with number | symbol
  · rcases mem_fixedText number with letter | digit
    · exact letters c letter
    · exact isPlain_digit digit
  · exact symbols _ c symbol

/-! ## The headline -/

variable {result : Result} {elapsed : String}

/-- What a headline holds between its quotes and around them. -/
def headlineParts (result : Result) (elapsed : String) : List String :=
  ["Found ", toString result.packages.size, " third-party package imports in ",
    toString result.fileCount, " files. (Took " ++ elapsed ++ ")"]

theorem headline_eq (result : Result) (elapsed : String) :
    (headline result elapsed).toList =
      ['\''].intercalate ((headlineParts result elapsed).map String.toList) := by
  simp [headline, headlineParts, List.intercalate, List.intersperse]

theorem isPlain_headlineParts (plain : ∀ c ∈ elapsed.toList, IsPlain c) :
    ∀ part ∈ headlineParts result elapsed, ∀ c ∈ part.toList, IsPlain c := by
  have words : ∀ word ∈ ["Found ", " third-party package imports in ", " files. (Took ", ")"],
      ∀ c ∈ word.toList, IsPlain c := by
    have plain : ∀ word ∈ ["Found ", " third-party package imports in ", " files. (Took ", ")"],
        (word.toList.all fun c => !Text.isLineEnd c && c != '\'') = true := by decide +kernel
    exact fun word listed => isPlain_of_all (plain word listed)
  intro part member c within
  simp only [headlineParts, List.mem_cons, List.not_mem_nil, or_false] at member
  rcases member with rfl | rfl | rfl | rfl | rfl
  · exact words _ (by simp) c within
  · exact isPlain_toString _ c within
  · exact words _ (by simp) c within
  · exact isPlain_toString _ c within
  · rw [String.toList_append, String.toList_append, List.mem_append, List.mem_append] at within
    rcases within with (took | time) | closed
    · exact words _ (by simp) c took
    · exact plain c time
    · exact words _ (by simp) c closed

/-- The headline quotes the number of packages and the number of files. -/
theorem quotedIn_headline (plain : ∀ c ∈ elapsed.toList, IsPlain c) :
    quotedIn (headline result elapsed) =
      [toString result.packages.size, toString result.fileCount] := by
  have unquoted : ∀ part ∈ (headlineParts result elapsed).map String.toList, '\'' ∉ part := by
    intro part member quote
    rcases List.mem_map.1 member with ⟨text, listed, rfl⟩
    exact (isPlain_headlineParts plain text listed _ quote).2 rfl
  rw [quotedIn, headline_eq, List.splitOn_intercalate '\'' unquoted (by simp [headlineParts])]
  simp only [headlineParts, List.map_cons, everySecond, String.ofList_toList, List.map_nil]

theorem mem_intercalate {mark c : Char} {texts : List (List Char)}
    (member : c ∈ [mark].intercalate texts) : c = mark ∨ ∃ text ∈ texts, c ∈ text := by
  induction texts with
  | nil => exact absurd member List.not_mem_nil
  | cons first rest ih =>
      cases rest with
      | nil =>
          rw [List.intercalate_singleton] at member
          exact .inr ⟨first, List.mem_cons_self, member⟩
      | cons second rest =>
          rw [List.intercalate_cons_cons, List.mem_append, List.mem_append] at member
          rcases member with (within | mark) | others
          · exact .inr ⟨first, List.mem_cons_self, within⟩
          · exact .inl (List.mem_singleton.1 mark)
          · rcases ih others with same | ⟨text, listed, within⟩
            · exact .inl same
            · exact .inr ⟨text, List.mem_cons_of_mem _ listed, within⟩

theorem isLine_headline (plain : ∀ c ∈ elapsed.toList, IsPlain c) :
    IsLine (headline result elapsed) := by
  intro c member
  rw [headline_eq] at member
  rcases mem_intercalate member with rfl | ⟨text, listed, within⟩
  · decide
  · rcases List.mem_map.1 listed with ⟨part, standing, rfl⟩
    exact (isPlain_headlineParts plain part standing c within).1

/-! ## Listings -/

/-- The number of files and the packages that a listing tells. -/
def readListing? (text : String) : Option (Nat × PackageSet) :=
  match linesOf text with
  | headline :: empty :: packages =>
    match empty, quotedIn headline with
    | "", [_, count] => (Number.natural? 10 count.toList).map fun count => (count, .ofList packages)
    | _, _ => none
  | _ => none

/-- A listing consists of the headline, an empty line, and a line for each package. -/
theorem linesOf_listing {packages : List String} (plain : ∀ c ∈ elapsed.toList, IsPlain c)
    (lines : ∀ name ∈ packages, IsLine name) :
    linesOf (listing result packages elapsed) = headline result elapsed :: "" :: packages := by
  apply linesOf_ended
  intro line member
  rcases List.mem_cons.1 member with rfl | member
  · exact isLine_headline plain
  · rcases List.mem_cons.1 member with rfl | listed
    · exact nofun
    · exact lines line listed

/-- The packages in whatever order, and the number of files, are told by a listing. -/
theorem readListing?_listing {packages : List String} (plain : ∀ c ∈ elapsed.toList, IsPlain c)
    (lines : ∀ name ∈ packages, IsLine name) (same : packages.Perm result.packages.members) :
    readListing? (listing result packages elapsed) = some (result.fileCount, result.packages) := by
  have members : PackageSet.ofList packages = result.packages := by
    apply PackageSet.ext
    intro name
    rw [PackageSet.mem_ofList]
    exact same.mem_iff
  have count : (toString result.fileCount).toList = Nat.toDigits 10 result.fileCount := by
    rw [Nat.toString_eq_ofList_toDigits, String.toList_ofList]
  rw [readListing?, linesOf_listing plain lines]
  dsimp only
  rw [quotedIn_headline plain]
  show (Number.natural? 10 (toString result.fileCount).toList).map _ = _
  rw [count, Number.natural?_toDigits, members]
  rfl

end Report
end ImportCensus

import ImportCensus.Proofs.Imports.Names
import ImportCensus.Text.Blank

namespace ImportCensus
namespace Imports

open Source (Document IsIdentifier readSource)

/-!
# Segments of modules

No identifier has a dot, a slash, a null character or white space in it, whatever script it is
written in.  So modules fall apart at their dots into the identifiers that they are made of,
and each of these can stand as a single name in a path.
-/

/-- A name that is one part of a module and can be one part of a path. -/
structure IsSegment (name : String) : Prop where
  notEmpty : name ≠ ""
  noDot : '.' ∉ name.toList
  noSlash : '/' ∉ name.toList
  noNull : '\x00' ∉ name.toList
  noWhite : ∀ c ∈ name.toList, Text.isWhite c = false
  noLineEnd : ∀ c ∈ name.toList, Text.isLineEnd c = false

/-! ## Characters -/

/-- No identifier goes on with white space. -/
theorem not_isIdentifierContinue_of_isWhite {c : Char} (white : Text.isWhite c = true) :
    Text.isIdentifierContinue c = false := by
  have code : c.toNat ∈ List.range' 9 5 ++ List.range' 28 5 ++ List.range' 0x2000 11 ++
      [0x85, 0xa0, 0x1680, 0x2028, 0x2029, 0x202f, 0x205f, 0x3000] := by
    simp only [Text.isWhite, Bool.or_eq_true, Bool.and_eq_true, decide_eq_true_eq, beq_iff_eq] at white
    simp only [List.mem_append, List.mem_range'_1, List.mem_cons, List.not_mem_nil, or_false]
    omega
  rw [← Char.ofNat_toNat c]
  exact (by decide +kernel : ∀ n ∈ List.range' 9 5 ++ List.range' 28 5 ++ List.range' 0x2000 11 ++
    [0x85, 0xa0, 0x1680, 0x2028, 0x2029, 0x202f, 0x205f, 0x3000],
    Text.isIdentifierContinue (Char.ofNat n) = false) _ code

/-- What ends a line is white space. -/
theorem isWhite_of_isLineEnd {c : Char} (ends : Text.isLineEnd c = true) : Text.isWhite c = true := by
  simp only [Text.isLineEnd, Text.isWhite, Bool.or_eq_true, Bool.and_eq_true, decide_eq_true_eq,
    beq_iff_eq] at ends ⊢
  omega

/-- A text that is an identifier is a segment. -/
theorem isSegment_of_isIdentifier {name : String} (identifier : IsIdentifier name.toList) :
    IsSegment name where
  notEmpty := by
    rintro rfl
    rcases identifier with ⟨_, _, spelled, _⟩
    cases spelled
  noDot := identifier.not_mem (by decide)
  noSlash := identifier.not_mem (by decide)
  noNull := identifier.not_mem (by decide)
  noWhite := by
    intro c member
    by_contra white
    rw [Bool.not_eq_false] at white
    exact identifier.not_mem (not_isIdentifierContinue_of_isWhite white) member
  noLineEnd := by
    intro c member
    by_contra ends
    rw [Bool.not_eq_false] at ends
    exact identifier.not_mem (not_isIdentifierContinue_of_isWhite (isWhite_of_isLineEnd ends)) member

/-! ## Modules -/

variable {text : List Char} {document : Document}

/-- The modules that a program names are rows of identifiers. -/
theorem isModule_of_mem_collect (accepted : readSource text = .ok document) {reference : Reference}
    (listed : reference ∈ collect document) : ∀ module ∈ reference.module?, IsModule module := by
  rw [collect_eq_flatMap] at listed
  rcases List.mem_flatMap.1 listed with ⟨⟨place, tree⟩, entry, listed⟩
  exact module_isModule accepted (mem_visibleImports.1 entry).1 listed

/-- The candidates among references are modules that they name. -/
theorem IsCandidate.named {references : List Reference} {module : String}
    (candidate : IsCandidate references module) :
    ∃ reference ∈ references, module ∈ reference.module? := by
  cases candidate with
  | direct listed => exact ⟨_, listed, rfl⟩
  | absolute listed => exact ⟨_, listed, rfl⟩

/-- The bases of what a program imports are identifiers. -/
theorem isIdentifier_of_mem_absoluteBases (accepted : readSource text = .ok document) {base : String}
    (member : base ∈ absoluteBases (collect document)) : IsIdentifier base.toList := by
  rcases mem_absoluteBases_iff.1 member with ⟨module, candidate, first⟩
  rcases candidate.named with ⟨reference, listed, named⟩
  rw [← isFirstSegment_iff.1 first]
  exact (isModule_of_mem_collect accepted listed module named).base

end Imports
end ImportCensus

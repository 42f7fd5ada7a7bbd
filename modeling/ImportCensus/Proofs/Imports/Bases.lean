import ImportCensus.Imports.Reference
import Mathlib.Data.List.TakeWhile

namespace ImportCensus
namespace Imports

/-!
# Candidates and their first segments

Which modules of some references are candidates, and what the base of a module is, said
without the functions that compute it.  A base is the first segment of exactly those modules
that it is the base of (`isFirstSegment_iff`), and the bases of some references are the first
segments of their candidates (`mem_absoluteBases_iff`).
-/

/-- What stands in front of the first dot of a module, or all of it if there is none. -/
structure IsFirstSegment (module segment : String) : Prop where
  noDot : '.' ∉ segment.toList
  begins : module = segment ∨ ∃ rest, module = segment ++ "." ++ rest

/-- The modules that are asked about: those that are imported themselves, and those that a
from-import without leading dots takes names out of. -/
inductive IsCandidate (references : List Reference) : String -> Prop
  | direct {module : String} {rename : Option String}
      (listed : .direct module rename ∈ references) (named : module ≠ "") :
      IsCandidate references module
  | absolute {module : String} {names : List String}
      (listed : .names (some module) 0 names ∈ references) (named : module ≠ "") :
      IsCandidate references module

variable {module segment : String} {references : List Reference}

theorem isFirstSegment_iff : IsFirstSegment module segment ↔ moduleBase module = segment := by
  have passes : ∀ c, (c != '.') = true ↔ c ≠ '.' := fun c => bne_iff_ne
  constructor
  · rintro ⟨noDot, begins⟩
    have whole : ∀ c ∈ segment.toList, (c != '.') = true := by
      rintro c member
      rw [passes]
      rintro rfl
      exact noDot member
    rw [moduleBase, baseChars]
    rcases begins with rfl | ⟨rest, rfl⟩
    · rw [List.takeWhile_eq_self_iff.2 whole, String.ofList_toList]
    · have stops : (".".toList ++ rest.toList).takeWhile (fun c => c != '.') = [] := rfl
      rw [String.toList_append, String.toList_append, List.append_assoc,
        List.takeWhile_append_of_pos whole, stops, List.append_nil, String.ofList_toList]
  · rintro rfl
    have parted : baseChars module.toList ++ module.toList.dropWhile (fun c => c != '.') =
        module.toList := List.takeWhile_append_dropWhile
    refine ⟨?_, ?_⟩
    · intro dot
      rw [moduleBase, String.toList_ofList] at dot
      exact absurd (List.all_eq_true.1 List.all_takeWhile '.' dot) (by simp)
    · cases behind : module.toList.dropWhile (fun c => c != '.') with
      | nil =>
          rw [behind, List.append_nil] at parted
          left
          rw [moduleBase, parted, String.ofList_toList]
      | cons c rest =>
          have dot : c = '.' := by
            have stops := List.head?_dropWhile_not (fun c => c != '.') module.toList
            rw [behind] at stops
            simpa using stops
          rw [behind, dot] at parted
          refine .inr ⟨String.ofList rest, String.toList_inj.1 ?_⟩
          rw [← parted]
          simp [moduleBase]

theorem isCandidate_iff :
    IsCandidate references module ↔ ∃ reference ∈ references, reference.candidate? = some module := by
  constructor
  · rintro (⟨listed, named⟩ | ⟨listed, named⟩)
    · exact ⟨_, listed, if_neg named⟩
    · exact ⟨_, listed, if_neg named⟩
  · rintro ⟨reference, listed, candidate⟩
    unfold Reference.candidate? at candidate
    split at candidate
    · split at candidate
      · cases candidate
      · rename_i named
        cases candidate
        exact .direct listed named
    · split at candidate
      · cases candidate
      · rename_i named
        cases candidate
        exact .absolute listed named
    · cases candidate

theorem mem_absoluteBases_iff {base : String} : base ∈ absoluteBases references ↔
    ∃ module, IsCandidate references module ∧ IsFirstSegment module base := by
  rw [absoluteBases, List.mem_filterMap]
  constructor
  · rintro ⟨reference, listed, based⟩
    rcases Option.map_eq_some_iff.1 based with ⟨module, candidate, same⟩
    exact ⟨module, isCandidate_iff.2 ⟨reference, listed, candidate⟩, isFirstSegment_iff.2 same⟩
  · rintro ⟨module, isCandidate, first⟩
    rcases isCandidate_iff.1 isCandidate with ⟨reference, listed, candidate⟩
    rw [isFirstSegment_iff] at first
    exact ⟨reference, listed, Option.map_eq_some_iff.2 ⟨module, candidate, first⟩⟩

/-- What is a base already has itself as its first segment. -/
theorem isFirstSegment_of_mem_absoluteBases {base : String}
    (member : base ∈ absoluteBases references) : IsFirstSegment base base := by
  rcases mem_absoluteBases_iff.1 member with ⟨module, _, first⟩
  exact ⟨first.noDot, .inl rfl⟩

theorem moduleBase_of_mem_absoluteBases {base : String} (member : base ∈ absoluteBases references) :
    moduleBase base = base :=
  isFirstSegment_iff.1 (isFirstSegment_of_mem_absoluteBases member)

end Imports
end ImportCensus

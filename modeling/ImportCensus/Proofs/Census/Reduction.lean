import ImportCensus.Proofs.Census.Asking
import ImportCensus.Proofs.Census.Folding
import ImportCensus.Proofs.Imports.Bases

namespace ImportCensus
namespace Census

open Files
open Imports (IsCandidate IsFirstSegment Reference absoluteBases isCandidate_iff isFirstSegment_iff
  mem_absoluteBases_iff moduleBase moduleBase_of_mem_absoluteBases)

/-!
# Bases instead of modules

The class of a module is that of its base (`ClassOf` says which one that is), so that it makes
no difference whether modules are reduced to bases before they are asked about.  Nothing but
which bases there are has a say in the answer (`Scope.askThirdParty_congr`); from this
follows what becomes of references that are repeated, rearranged, joined or relative.

All of this is said of the questions as they are asked from outside, where one root is out of
order: if its path holds a null character, a base that is not registered has no class at all.
-/

/-- The classes of bases: the registry goes before the project. -/
inductive ClassOf (scope : Scope) (file : Path) (base : String) : ModuleClass -> Prop
  | standard (registered : base ∈ scope.registry.names) : ClassOf scope file base .standard
  | local (unregistered : base ∉ scope.registry.names)
      (isLocal : Project.IsLocal scope.store scope.root file base) : ClassOf scope file base .local
  | thirdParty (unregistered : base ∉ scope.registry.names)
      (foreign : ¬Project.IsLocal scope.store scope.root file base) :
      ClassOf scope file base .thirdParty

/-- Whether it can be told of which class a base is. -/
def Answerable (scope : Scope) (base : String) : Prop :=
  base ∈ scope.registry.names ∨ '\x00' ∉ scope.root.text.toList

variable {scope : Scope} {file : Path} {module base : String} {modules others : List String}

/-- A base is of the class that a scan goes by, and of no other one. -/
theorem classOf_iff {found : ModuleClass} :
    ClassOf scope file base found ↔ scope.classOfBase file base = found := by
  unfold Scope.classOfBase
  constructor
  · intro isClass
    cases isClass with
    | standard registered => rw [if_pos (Registry.knows_iff.2 registered)]
    | «local» unregistered isLocal =>
        rw [if_neg (mt Registry.knows_iff.1 unregistered), if_pos (Project.isLocal_iff.2 isLocal)]
    | thirdParty unregistered foreign =>
        rw [if_neg (mt Registry.knows_iff.1 unregistered),
          if_neg (mt Project.isLocal_iff.1 foreign)]
  · rintro rfl
    split
    · rename_i known
      exact .standard (Registry.knows_iff.1 known)
    · rename_i unknown
      have unregistered := mt Registry.knows_iff.2 unknown
      split
      · rename_i isLocal
        exact .local unregistered (Project.isLocal_iff.1 isLocal)
      · rename_i notLocal
        exact .thirdParty unregistered (mt Project.isLocal_iff.2 notLocal)

namespace Scope

/-! ## Single modules -/

theorem askClass_of_answerable (answerable : Answerable scope (moduleBase module)) :
    scope.askClass file module = .ok (scope.classify file module) := by
  rcases answerable with registered | noNull
  · unfold askClass classify classOfBase
    dsimp only
    rw [if_pos (Registry.knows_iff.2 registered), if_pos (Registry.knows_iff.2 registered)]
    rfl
  · rw [askClass_of_noNull noNull]

theorem askClass_of_not_answerable (unanswerable : ¬Answerable scope (moduleBase module)) :
    scope.askClass file module = .error ⟨.nullCharacter, scope.root⟩ := by
  rw [Answerable, not_or, not_not] at unanswerable
  unfold askClass
  dsimp only
  rw [if_neg (mt Registry.knows_iff.1 unanswerable.1), Project.askLocal_of_null unanswerable.2]
  rfl

theorem askClass_eq_ok {found : ModuleClass} : scope.askClass file module = .ok found ↔
    Answerable scope (moduleBase module) ∧ ClassOf scope file (moduleBase module) found := by
  by_cases answerable : Answerable scope (moduleBase module)
  · rw [askClass_of_answerable answerable, Except.ok.injEq, classify, classOf_iff]
    exact (and_iff_right answerable).symm
  · rw [askClass_of_not_answerable answerable]
    constructor
    · intro told
      cases told
    · intro told
      exact absurd told.1 answerable

theorem askClass_eq_error {error : FileError} : scope.askClass file module = .error error ↔
    ¬Answerable scope (moduleBase module) ∧ error = ⟨.nullCharacter, scope.root⟩ := by
  by_cases answerable : Answerable scope (moduleBase module)
  · rw [askClass_of_answerable answerable]
    constructor
    · intro refused
      cases refused
    · intro refused
      exact absurd answerable refused.1
  · rw [askClass_of_not_answerable answerable, Except.error.injEq]
    exact ⟨fun same => ⟨answerable, same.symm⟩, fun same => same.2.symm⟩

/-- Only the base of a module is asked about. -/
theorem askClass_congr {other : String} (same : moduleBase module = moduleBase other) :
    scope.askClass file module = scope.askClass file other := by
  unfold askClass
  rw [same]

/-! ## Many modules -/

theorem askThirdParty_of_answerable
    (answerable : ∀ module ∈ modules, Answerable scope (moduleBase module)) :
    scope.askThirdParty file modules = .ok (scope.thirdParty file modules) :=
  askThirdParty_of_classes fun module member => askClass_of_answerable (answerable module member)

theorem askThirdParty_of_not_answerable (member : module ∈ modules)
    (unanswerable : ¬Answerable scope (moduleBase module)) :
    scope.askThirdParty file modules = .error ⟨.nullCharacter, scope.root⟩ := by
  unfold askThirdParty
  cases asked : modules.mapM (scope.askClass file) with
  | ok classes =>
      rcases mapM_isOk.1 ⟨classes, asked⟩ module member with ⟨found, told⟩
      exact absurd (askClass_eq_ok.1 told).1 unanswerable
  | error error =>
      rcases mapM_eq_error.1 asked with ⟨_, _, _, _, _, refused⟩
      rw [(askClass_eq_error.1 refused).2]
      rfl

/-- Nothing but the bases of the modules has a say in which of them are third-party. -/
theorem askThirdParty_congr
    (same : ∀ base, (∃ module ∈ modules, moduleBase module = base) ↔
      ∃ module ∈ others, moduleBase module = base) :
    scope.askThirdParty file modules = scope.askThirdParty file others := by
  have answerable : ∀ {first second : List String},
      (∀ base, (∃ module ∈ first, moduleBase module = base) ->
        ∃ module ∈ second, moduleBase module = base) ->
      (∀ module ∈ second, Answerable scope (moduleBase module)) ->
      ∀ module ∈ first, Answerable scope (moduleBase module) := by
    intro first second within all module member
    rcases within _ ⟨module, member, rfl⟩ with ⟨other, listed, based⟩
    exact based ▸ all other listed
  by_cases all : ∀ module ∈ modules, Answerable scope (moduleBase module)
  · have allOthers := answerable (fun base => (same base).2) all
    rw [askThirdParty_of_answerable all, askThirdParty_of_answerable allOthers]
    apply congrArg Except.ok
    apply PackageSet.ext
    intro name
    rw [mem_thirdParty_iff, mem_thirdParty_iff, same]
  · have notOthers := mt (answerable fun base => (same base).1) all
    simp only [not_forall] at all notOthers
    rcases all with ⟨module, member, unanswerable⟩
    rcases notOthers with ⟨other, listed, otherUnanswerable⟩
    rw [askThirdParty_of_not_answerable member unanswerable,
      askThirdParty_of_not_answerable listed otherUnanswerable]

theorem askThirdParty_eq_ok {packages : PackageSet} :
    scope.askThirdParty file modules = .ok packages ↔
      (∀ module ∈ modules, ∃ found, scope.askClass file module = .ok found) ∧
        ∀ name, name ∈ packages ↔ ∃ module ∈ modules,
          scope.askClass file module = .ok .thirdParty ∧ moduleBase module = name := by
  have told : (∀ module ∈ modules, ∃ found, scope.askClass file module = .ok found) ↔
      ∀ module ∈ modules, Answerable scope (moduleBase module) := by
    refine forall₂_congr fun module _ => ?_
    simp only [askClass_eq_ok, exists_and_left]
    exact and_iff_left ⟨_, classOf_iff.2 rfl⟩
  rw [told]
  by_cases all : ∀ module ∈ modules, Answerable scope (moduleBase module)
  · have members : ∀ name, name ∈ scope.thirdParty file modules ↔ ∃ module ∈ modules,
        scope.askClass file module = .ok .thirdParty ∧ moduleBase module = name := by
      intro name
      rw [mem_thirdParty_iff]
      constructor
      · rintro ⟨⟨module, member, rfl⟩, thirdParty⟩
        exact ⟨module, member, askClass_eq_ok.2 ⟨all module member, classOf_iff.2 thirdParty⟩, rfl⟩
      · rintro ⟨module, member, asked, rfl⟩
        exact ⟨⟨module, member, rfl⟩, classOf_iff.1 (askClass_eq_ok.1 asked).2⟩
    rw [askThirdParty_of_answerable all, Except.ok.injEq]
    constructor
    · rintro rfl
      exact ⟨all, members⟩
    · rintro ⟨_, same⟩
      exact PackageSet.ext fun name => (members name).trans (same name).symm
  · refine iff_of_false ?_ fun answered => all answered.1
    simp only [not_forall] at all
    rcases all with ⟨module, member, unanswerable⟩
    rw [askThirdParty_of_not_answerable member unanswerable]
    exact nofun

theorem askThirdParty_eq_error {error : FileError} :
    scope.askThirdParty file modules = .error error ↔
      ∃ module ∈ modules, scope.askClass file module = .error error := by
  simp only [askClass_eq_error]
  by_cases all : ∀ module ∈ modules, Answerable scope (moduleBase module)
  · rw [askThirdParty_of_answerable all]
    refine iff_of_false nofun ?_
    rintro ⟨module, member, unanswerable, _⟩
    exact unanswerable (all module member)
  · simp only [not_forall] at all
    rcases all with ⟨module, member, unanswerable⟩
    rw [askThirdParty_of_not_answerable member unanswerable, Except.error.injEq]
    constructor
    · rintro rfl
      exact ⟨module, member, unanswerable, rfl⟩
    · rintro ⟨_, _, _, same⟩
      exact same.symm

/-- What is third-party among two lists of modules is so among one of them. -/
theorem askThirdParty_append : scope.askThirdParty file (modules ++ others) = (do
    let first ← scope.askThirdParty file modules
    let second ← scope.askThirdParty file others
    return first.union second) := by
  cases asked : scope.askThirdParty file modules with
  | error error =>
      rcases askThirdParty_eq_error.1 asked with ⟨module, member, refused⟩
      exact askThirdParty_eq_error.2 ⟨module, List.mem_append_left _ member, refused⟩
  | ok first =>
      cases askedOthers : scope.askThirdParty file others with
      | error error =>
          rcases askThirdParty_eq_error.1 askedOthers with ⟨module, member, refused⟩
          exact askThirdParty_eq_error.2 ⟨module, List.mem_append_right _ member, refused⟩
      | ok second =>
          rw [askThirdParty_eq_ok] at asked askedOthers
          refine askThirdParty_eq_ok.2 ⟨?_, ?_⟩
          · intro module member
            rcases List.mem_append.1 member with early | late
            · exact asked.1 module early
            · exact askedOthers.1 module late
          · intro name
            rw [PackageSet.mem_union, asked.2, askedOthers.2]
            simp only [List.mem_append, or_and_right, exists_or]

end Scope

/-! ## Bases of references -/

variable {references : List Reference}

/-- The bases of references are those of their candidates. -/
theorem bases_of_mem_iff {bases : List String}
    (same : ∀ base, base ∈ bases ↔ base ∈ absoluteBases references) (base : String) :
    (∃ module ∈ bases, moduleBase module = base) ↔
      ∃ module, IsCandidate references module ∧ IsFirstSegment module base := by
  rw [← mem_absoluteBases_iff]
  constructor
  · rintro ⟨module, member, rfl⟩
    rw [same] at member
    rwa [moduleBase_of_mem_absoluteBases member]
  · intro member
    exact ⟨base, (same base).2 member, moduleBase_of_mem_absoluteBases member⟩

/-- To reduce references to bases makes no difference to their classes.  Whatever order the bases
of some references are asked about in, the third-party ones are the first segments of the
candidates that are third-party, and the question fails as it does for a candidate.  The
answer depends neither on the order of references nor on how often they are there, it is
made up of the answers for parts of them, and relative from-imports have no say in it.
Modules with the same first segment are of the same class.  Every base has exactly one
class, which is told unless the base is not registered and the path of the root holds a null
character. -/
theorem thirdParty_commutes_with_bases (scope : Scope) (file : Path) (references : List Reference) :
    (∀ bases : List String, (∀ base, base ∈ bases ↔ base ∈ absoluteBases references) ->
        (∀ packages, scope.askThirdParty file bases = .ok packages ↔
          (∀ module, IsCandidate references module ->
            ∃ found, scope.askClass file module = .ok found) ∧
          ∀ name, name ∈ packages ↔ ∃ module, IsCandidate references module ∧
            scope.askClass file module = .ok .thirdParty ∧ IsFirstSegment module name) ∧
        ∀ error, scope.askThirdParty file bases = .error error ↔
          ∃ module, IsCandidate references module ∧ scope.askClass file module = .error error) ∧
      (∀ others : List Reference, (∀ reference, reference ∈ others ↔ reference ∈ references) ->
        scope.askThirdParty file (absoluteBases others) =
          scope.askThirdParty file (absoluteBases references)) ∧
      (∀ more, scope.askThirdParty file (absoluteBases (references ++ more)) = (do
        let first ← scope.askThirdParty file (absoluteBases references)
        let second ← scope.askThirdParty file (absoluteBases more)
        return first.union second)) ∧
      (∀ front behind module level names, references = front ++ behind ->
        scope.askThirdParty file
            (absoluteBases (front ++ .names module (level + 1) names :: behind)) =
          scope.askThirdParty file (absoluteBases references)) ∧
      (∀ first second segment, IsFirstSegment first segment -> IsFirstSegment second segment ->
        scope.askClass file first = scope.askClass file second) ∧
      ∀ base ∈ absoluteBases references, (∃! found, ClassOf scope file base found) ∧
        ∀ found, scope.askClass file base = .ok found ↔
          Answerable scope base ∧ ClassOf scope file base found := by
  refine ⟨?_, ?_, ?_, ?_, ?_, ?_⟩
  · intro bases same
    -- The candidates as a list, so that they can be asked about like the bases.
    have candidates : ∀ module, module ∈ references.filterMap Reference.candidate? ↔
        IsCandidate references module := by
      intro module
      rw [List.mem_filterMap, isCandidate_iff]
    have reduced : scope.askThirdParty file bases =
        scope.askThirdParty file (references.filterMap Reference.candidate?) := by
      apply Scope.askThirdParty_congr
      intro base
      rw [bases_of_mem_iff same]
      simp only [candidates, isFirstSegment_iff]
    constructor
    · intro packages
      rw [reduced, Scope.askThirdParty_eq_ok]
      simp only [candidates, isFirstSegment_iff]
    · intro error
      rw [reduced, Scope.askThirdParty_eq_error]
      simp only [candidates]
  · intro others same
    apply Scope.askThirdParty_congr
    intro base
    rw [absoluteBases, absoluteBases]
    simp only [List.mem_filterMap, same]
  · intro more
    rw [Imports.absoluteBases_append, Scope.askThirdParty_append]
  · rintro front behind module level names rfl
    have passed : absoluteBases (.names module (level + 1) names :: behind) =
        absoluteBases behind := by
      cases module <;> rfl
    rw [Imports.absoluteBases_append, Imports.absoluteBases_append, passed]
  · intro first second segment isFirst isSecond
    rw [isFirstSegment_iff] at isFirst isSecond
    exact Scope.askClass_congr (isFirst.trans isSecond.symm)
  · intro base member
    have based := moduleBase_of_mem_absoluteBases member
    refine ⟨⟨scope.classOfBase file base, classOf_iff.2 rfl, ?_⟩, ?_⟩
    · intro found isClass
      exact (classOf_iff.1 isClass).symm
    · intro found
      rw [Scope.askClass_eq_ok, based]

/-- Not every base has a class that can be told: none that is not registered has one for a root
with a null character in its path. -/
theorem classes_refuse_null_character : ¬∀ scope file references,
    ∀ base ∈ absoluteBases references, ∃ found, Scope.askClass scope file base = .ok found := by
  intro told
  have member : "requests" ∈ absoluteBases [.direct "requests" none] := by decide
  rcases told ⟨.empty, .ofText "a\x00b", ⟨"3.12", []⟩⟩ (.ofText "x.py") _ "requests" member with
    ⟨found, same⟩
  have refused := (Scope.askClass_eq_ok.1 same).1
  revert refused
  unfold Answerable
  decide

end Census
end ImportCensus

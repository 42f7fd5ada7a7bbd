import ImportCensus.Proofs.Census.Outcome
import ImportCensus.Proofs.Project.Coverage
import ImportCensus.Proofs.Project.Locality
import ImportCensus.Proofs.Sequence

namespace ImportCensus
namespace Census

/-!
# Questions within a scan

Asked from outside, about any root, the class of a module may not be told: the path of the root
may hold a null character.  The root of a scan is checked first, and then every question has
the answer that the scan goes by.  So it is for what a file contributes: a survey keeps of
each file that it finds what would be answered about it (`askContribution_of_survey`).
-/

open Files

namespace Scope

variable {scope : Scope} {file : Path}

theorem askClass_of_noNull (noNull : '\x00' ∉ scope.root.text.toList) :
    scope.askClass file = fun module => .ok (scope.classify file module) := by
  funext module
  simp only [askClass, classify, classOfBase, Project.askLocal_of_noNull noNull]
  split
  · rfl
  · dsimp only [bind, Except.bind]
    split <;> rfl

/-- Where it is told of which class every module is, the third-party ones are those that a scan
goes by. -/
theorem askThirdParty_of_classes {modules : List String}
    (told : ∀ module ∈ modules, scope.askClass file module = .ok (scope.classify file module)) :
    scope.askThirdParty file modules = .ok (scope.thirdParty file modules) := by
  unfold askThirdParty thirdParty
  rw [mapM_eq_map told]
  dsimp only [bind, Except.bind]
  rw [← List.map_prod_left_eq_zip, List.filter_map, List.map_map]
  rfl

theorem askThirdParty_of_noNull (noNull : '\x00' ∉ scope.root.text.toList) (modules : List String) :
    scope.askThirdParty file modules = .ok (scope.thirdParty file modules) := by
  apply askThirdParty_of_classes
  intro module _
  rw [askClass_of_noNull noNull]

/-- A file is refused for a null character only if its path holds one. -/
theorem null_of_refused {path : Path}
    (refused : readReferences scope.store file = .error (.unopened ⟨.nullCharacter, path⟩)) :
    '\x00' ∈ file.text.toList := by
  cases opened : scope.store.content file with
  | error fault =>
      have failed : readReferences scope.store file = .error (.unopened ⟨fault, file⟩) := by
        unfold readReferences readText
        rw [opened]
        rfl
      rw [failed] at refused
      cases refused
      exact Store.null_of_content opened
  | ok content =>
      unfold readReferences readText at refused
      rw [opened] at refused
      dsimp only at refused
      cases decoded : Text.decodeMarked content with
      | error fault =>
          rw [decoded] at refused
          cases refused
      | ok text =>
          rw [decoded] at refused
          dsimp only [bind, Except.bind] at refused
          split at refused <;> cases refused

/-- Only a null character in the path of the root or of the file keeps it from being told what
a file contributes. -/
theorem askContribution_of_noNull (noNull : '\x00' ∉ scope.root.text.toList)
    (noNullFile : '\x00' ∉ file.text.toList) :
    scope.askContribution file = .ok (scope.contribution file) := by
  unfold askContribution contribution
  cases found : readReferences scope.store file with
  | ok references =>
      dsimp only
      rw [askThirdParty_of_noNull noNull]
      rfl
  | error fault =>
      split
      · rename_i path refused
        rw [refused] at found
        exact absurd (null_of_refused found) noNullFile
      · rename_i other same
        cases same
        rfl
      · rename_i references same
        cases same

end Scope

/-! ## The files of a survey -/

variable {scope : Scope} {options : Config.Options} {processors : Option Nat} {opened : Survey}

/-- A survey has a directory for its root, and holds the contributions of the files that are
walked there. -/
theorem of_survey_eq_ok (surveyed : survey scope options processors = .ok opened) :
    scope.store.Reaches scope.root .directory ∧
      ∃ files, Project.walk scope.store scope.root options.exclude options.gitignore = .ok files ∧
        opened.contributions = files.map fun file => (file, scope.contribution file) := by
  unfold survey at surveyed
  rcases bind_eq_ok.1 surveyed with ⟨root, checked, surveyed⟩
  rcases bind_eq_ok.1 surveyed with ⟨files, walked, surveyed⟩
  refine ⟨(Project.of_checkRoot_eq_ok checked).2, files, walked, ?_⟩
  split at surveyed
  · rename_i empty
    cases surveyed
    rw [List.isEmpty_iff.1 empty, List.map_nil]
  · dsimp only at surveyed
    split at surveyed
    · cases surveyed
    · cases surveyed
      rfl

/-- Directories that are listed have no null character in their paths, so that a file which a
walk finds can have one in its own name only. -/
theorem noNull_of_mem_walk {store : Store} {root file : Path} {exclude : List String}
    {gitignore : Bool} {files : List Path} (formed : store.root.WellFormed)
    (walked : Project.walk store root exclude gitignore = .ok files) (member : file ∈ files)
    (named : '\x00' ∉ file.name.toList) : '\x00' ∉ file.text.toList := by
  rcases Project.of_walk_eq_ok walked with ⟨real, ignore, resolved, rfl⟩
  rcases (Project.mem_sourceFiles formed (Project.anchor_realRoot resolved)).1 member with
    ⟨above, name, rfl, source⟩
  have own : Path.name ⟨1, real.names ++ above ++ [name]⟩ = name := by
    simp [Path.name]
  rw [own] at named
  rw [Path.null_mem_text]
  rintro ⟨other, within, null⟩
  rcases List.mem_append.1 within with inside | last
  · exact source.fits.noNull ((Path.null_mem_text _).2 ⟨other, inside, null⟩)
  · rw [List.mem_singleton.1 last] at null
    exact named null

/-- What a survey keeps of a file is what is answered to the question for its contribution.  That
there is an answer takes no more than a name without a null character, which no file has. -/
theorem askContribution_of_survey (formed : scope.store.root.WellFormed)
    (surveyed : survey scope options processors = .ok opened)
    (named : ∀ found ∈ opened.contributions, '\x00' ∉ found.1.name.toList) :
    ∀ found ∈ opened.contributions, scope.askContribution found.1 = .ok found.2 := by
  rcases of_survey_eq_ok surveyed with ⟨root, files, walked, contributions⟩
  intro found member
  have own := named found member
  rw [contributions, List.mem_map] at member
  rcases member with ⟨file, listed, rfl⟩
  exact Scope.askContribution_of_noNull root.noNull (noNull_of_mem_walk formed walked listed own)

end Census
end ImportCensus

import ImportCensus.Proofs.Files.Entries
import ImportCensus.Proofs.Imports.Segments
import ImportCensus.Proofs.Project.Locality

namespace ImportCensus
namespace Project

open Files
open Imports (IsSegment absoluteBases collect isIdentifier_of_mem_absoluteBases
  isModule_of_mem_collect isSegment_of_isIdentifier)
open Source (Document readSource)

/-!
# Look-ups for imported names

To be told whether a module is local, paths are made out of its name.  An arbitrary name could
turn such a path into one that begins elsewhere, leads back or says nothing.  What a program
imports cannot: its bases are single names, so that all look-ups are made right in the root
and right beside the program.
-/

/-- The names that a module can have in a directory: those of a package, a source and a stub. -/
def entryNames (module : String) : List String := [module, module ++ ".py", module ++ ".pyi"]

/-- The path of an entry of a directory: one more name behind the path of the directory. -/
def entryPath (directory : Path) (name : String) : Path :=
  ⟨directory.anchor, directory.names ++ [name]⟩

theorem parent_entryPath (directory : Path) (name : String) :
    (entryPath directory name).parent = directory :=
  Path.parent_snoc _ _ _

theorem entryPath_ne (directory : Path) (name : String) : entryPath directory name ≠ directory := by
  intro same
  have longer := congrArg (fun path => path.names.length) same
  dsimp only [entryPath] at longer
  rw [List.length_append] at longer
  exact absurd longer (by simp)

section

variable {module : String}

/-- A segment can be the name of an entry, with or without a suffix of sources. -/
theorem isEntryName_of_isSegment (segment : IsSegment module) :
    ∀ name ∈ entryNames module, IsEntryName name := by
  intro name member
  rcases List.mem_cons.1 member with rfl | suffixed
  · refine ⟨segment.notEmpty, ?_, ?_, segment.noSlash⟩
    · rintro rfl
      exact segment.noDot (by decide)
    · rintro rfl
      exact segment.noDot (by decide)
  · rcases List.mem_cons.1 suffixed with rfl | stub
    · exact isEntryName_source segment.noSlash (by decide)
    · rw [List.mem_singleton.1 stub]
      exact isEntryName_source segment.noSlash (by decide)

/-- The paths that are looked up for a segment are those of entries. -/
theorem consulted_of_isSegment (segment : IsSegment module) (root file : Path) :
    consulted root file module =
      [root, file.parent].flatMap fun directory => (entryNames module).map (entryPath directory) := by
  refine List.flatMap_congr fun directory _ => ?_
  have looked : directory.child module :: sourceSuffixes.map (fun suffix =>
      directory.child (module ++ suffix)) = (entryNames module).map directory.child := rfl
  rw [looked]
  exact List.map_congr_left fun name member =>
    Path.child_eq (isEntryName_of_isSegment segment name member) directory

end

/-- The names that a program imports are single names of entries.  Its bases are segments, and
the modules that its references name are segments with dots between them.  For a base, the
paths that are looked up are those of three entries of the root and of three entries of the
directory that the program is in; they lie right in these directories and are none of them.
Stores that agree on what is there, and on how the root is resolved, give the same answer for
the base. -/
theorem lookups_of_imported_names (text : List Char) (document : Document)
    (accepted : readSource text = .ok document) :
    (∀ base ∈ absoluteBases (collect document), IsSegment base) ∧
      (∀ reference ∈ collect document, ∀ module ∈ reference.module?,
        ∃ first rest, (∀ segment ∈ first :: rest, IsSegment segment) ∧
          module = ".".intercalate (first :: rest)) ∧
      ∀ base ∈ absoluteBases (collect document), ∀ root file : Path,
        (∀ name ∈ entryNames base, IsEntryName name) ∧
          consulted root file base = ([root, file.parent].flatMap fun directory =>
            (entryNames base).map (entryPath directory)) ∧
          (∀ path ∈ consulted root file base, ∃ directory ∈ [root, file.parent],
            path.parent = directory ∧ path ≠ directory ∧ path.anchor = directory.anchor) ∧
          ∀ store other : Store, other.resolve root = store.resolve root ->
            (∀ directory ∈ [root, file.parent], ∀ name ∈ entryNames base, ∀ kind,
              other.Reaches (entryPath directory name) kind ↔
                store.Reaches (entryPath directory name) kind) ->
            askLocal other root file base = askLocal store root file base := by
  have segments : ∀ base ∈ absoluteBases (collect document), IsSegment base := fun base member =>
    isSegment_of_isIdentifier (isIdentifier_of_mem_absoluteBases accepted member)
  refine ⟨segments, ?_, ?_⟩
  · intro reference listed module named
    rcases isModule_of_mem_collect accepted listed module named with ⟨first, rest, identifiers, joined⟩
    exact ⟨first, rest, fun segment member => isSegment_of_isIdentifier (identifiers segment member),
      joined⟩
  · intro base member root file
    have entries := consulted_of_isSegment (segments base member) root file
    refine ⟨isEntryName_of_isSegment (segments base member), entries, ?_, ?_⟩
    · intro path looked
      rw [entries] at looked
      rcases List.mem_flatMap.1 looked with ⟨directory, searched, within⟩
      rcases List.mem_map.1 within with ⟨name, _, rfl⟩
      exact ⟨directory, searched, parent_entryPath _ _, entryPath_ne _ _, rfl⟩
    · intro store other resolved agree
      refine askLocal_congr resolved ?_
      rw [entries]
      intro path looked
      rcases List.mem_flatMap.1 looked with ⟨directory, searched, within⟩
      rcases List.mem_map.1 within with ⟨name, listed, rfl⟩
      exact agree directory searched name listed

/-- For a module within a package, the package is looked up in the root and beside the
program. -/
theorem lookups_of_imported_package :
    ∃ document, readSource "from a.b import *".toList = .ok document ∧
      absoluteBases (collect document) = ["a"] ∧ IsSegment "a" ∧
      consulted ⟨1, ["p"]⟩ ⟨1, ["p", "q", "m.py"]⟩ "a" =
        [⟨1, ["p", "a"]⟩, ⟨1, ["p", "a.py"]⟩, ⟨1, ["p", "a.pyi"]⟩,
          ⟨1, ["p", "q", "a"]⟩, ⟨1, ["p", "q", "a.py"]⟩, ⟨1, ["p", "q", "a.pyi"]⟩] := by
  have found : (readSource "from a.b import *".toList).toOption.map (fun document =>
      absoluteBases (collect document)) = some ["a"] := by cbv
  cases accepted : readSource "from a.b import *".toList with
  | error fault =>
      rw [accepted] at found
      cases found
  | ok document =>
      rw [accepted] at found
      have bases : absoluteBases (collect document) = ["a"] := Option.some.inj found
      have member : "a" ∈ absoluteBases (collect document) := by
        rw [bases]
        exact List.mem_cons_self
      rcases lookups_of_imported_names _ document accepted with ⟨segments, _, looked⟩
      exact ⟨document, rfl, bases, segments _ member,
        (looked _ member ⟨1, ["p"]⟩ ⟨1, ["p", "q", "m.py"]⟩).2.1⟩

end Project
end ImportCensus

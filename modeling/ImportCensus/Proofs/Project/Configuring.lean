import ImportCensus.Files.Edit
import ImportCensus.Proofs.Config.Loading
import ImportCensus.Proofs.Project.Written

namespace ImportCensus
namespace Project

open Config (LoadFault configFile loadFile ofContent)
open Files (IsEntryName Node Path Store isEntryName_source sourceSuffixes)

/-!
# Adding a configuration file

A configuration file is put into the root of a project that has none.  It is no source, no
module and no ignore file, so that the project has the answers that it had, unless it asks
for the new file under another name.  That takes a link to it: where no link of the project
leads to the new file, its own name is the only one that it is found by, and only the
configuration is looked up under this name.
-/

variable {store : Store} {root : Path} {row above : List String} {content : List Nat}
  {name : String}

/-- A project whose root has no configuration file. -/
structure Unconfigured (store : Store) (root : Path) (row : List String) : Prop where
  formed : store.root.WellFormed
  finds : store.Finds root row
  vacant : store.root.kindAt (row ++ [configFile]) = none

/-- The store with a configuration file in a root. -/
def configure (store : Store) (root : Path) (content : List Nat) : Store :=
  store.put (root.child configFile) (.file content)

/-- A project whose root has none, and none of whose links leads to the one that is added. -/
structure Configures (store : Store) (root : Path) (row : List String) (content : List Nat) : Prop
    extends Unconfigured store root row where
  unlinked : (configure store root content).UnlinkedBelow row (row ++ [configFile])

theorem isEntryName_configFile : IsEntryName configFile := by decide

namespace Unconfigured

variable (unconfigured : Unconfigured store root row)

include unconfigured

theorem entryPlace : store.entryPlace (root.child configFile) = row ++ [configFile] := by
  rw [Path.child_eq isEntryName_configFile, Store.entryPlace, Path.parent_snoc,
    unconfigured.finds.placed]
  simp [Path.name]

/-- Putting the file into the root writes a new file. -/
theorem writes (content : List Nat) :
    store.Writes (row ++ [configFile]) content (configure store root content) :=
  Store.writes_put content unconfigured.entryPlace unconfigured.finds.within
    (.inl unconfigured.vacant)

theorem formed_after (content : List Nat) : (configure store root content).root.WellFormed :=
  Store.wellFormed_put unconfigured.formed unconfigured.entryPlace unconfigured.finds.within
    isEntryName_configFile rfl

theorem isDirectory : store.holds Node.isDirectory root = true :=
  Store.holds_isDirectory.2 ⟨row, unconfigured.finds.placed, unconfigured.finds.within⟩

theorem finds_after (content : List Nat) : (configure store root content).Finds root row :=
  (unconfigured.writes content).finds unconfigured.finds

theorem spells : store.Spells (root.child configFile) (row ++ [configFile]) := by
  rw [Path.child_eq isEntryName_configFile]
  apply Store.spells_child unconfigured.finds isEntryName_configFile.notAbove
  intro target stands
  cases unconfigured.vacant.symm.trans stands

theorem spells_after (content : List Nat) :
    (configure store root content).Spells (root.child configFile) (row ++ [configFile]) := by
  rw [Path.child_eq isEntryName_configFile]
  apply Store.spells_child (unconfigured.finds_after content) isEntryName_configFile.notAbove
  intro target stands
  cases (unconfigured.writes content).kindAt_after.symm.trans stands

/-- No null character is in the way of the file: the root has been found. -/
theorem place_ne_nullCharacter : store.place (root.child configFile) ≠ .error .nullCharacter := by
  intro refused
  have free : ¬store.Limited (root.child configFile) := by
    rintro (failed | ⟨failed, _⟩)
    · cases refused.symm.trans failed
    · cases refused.symm.trans failed
  have names : (Path.ofText configFile).names = [configFile] := by decide
  rcases unconfigured.finds.place_child (by decide) free with ⟨left, placed⟩
  rw [names, if_neg (by decide), Files.follow_cons unconfigured.finds.within,
    if_neg isEntryName_configFile.notAbove, if_neg (by decide), unconfigured.vacant] at placed
  cases refused.symm.trans placed

/-- The new file is no source: with the same patterns, the same files are walked. -/
theorem walk_after {exclude : List String} {gitignore : Bool}
    (ignores : Ignore.ofOptions (configure store root content) ⟨1, row⟩ exclude gitignore =
      Ignore.ofOptions store ⟨1, row⟩ exclude gitignore) :
    walk (configure store root content) root exclude gitignore =
      walk store root exclude gitignore := by
  have formedAfter := unconfigured.formed_after content
  have resolved := realRoot_of_finds unconfigured.formed unconfigured.finds
  have again := realRoot_of_finds formedAfter (unconfigured.finds_after content)
  have unsuffixed : Files.isSourceName configFile = false := by decide
  have sources : ∀ ignore, sourceFiles (configure store root content) ⟨1, row⟩ ignore =
      sourceFiles store ⟨1, row⟩ ignore :=
    fun _ => sourceFiles_written_other unconfigured.formed formedAfter rfl
      (unconfigured.writes content) unsuffixed
  rw [walk_of_realRoot resolved, walk_of_realRoot again, ignores]
  cases Ignore.ofOptions store ⟨1, row⟩ exclude gitignore with
  | error error => rfl
  | ok ignore => exact congrArg Except.ok (sources ignore)

end Unconfigured

/-- No source has the name of the file. -/
theorem source_ne {module suffix : String} (source : suffix ∈ sourceSuffixes) :
    module ++ suffix ≠ configFile := by
  intro same
  have last := congrArg (fun text : String => text.toList.getLast?) same
  have suffixes : suffix = ".py" ∨ suffix = ".pyi" := by simpa [sourceSuffixes] using source
  rcases suffixes with rfl | rfl <;> simp [configFile] at last

namespace Configures

variable (configures : Configures store root row content)

include configures

theorem isDirectory_after : (configure store root content).holds Node.isDirectory root = true :=
  ((configures.writes content).holds_isDirectory root).trans configures.isDirectory

/-- Another entry of the root is not the new file, behind any path of the root, -/
theorem child_ne (entry : IsEntryName name) (other : name ≠ configFile) :
    (configure store root content).place (root.child name) ≠ .ok (row ++ [configFile]) := by
  have finds := configures.finds_after content
  rw [← List.append_nil row] at finds
  rw [Path.child_eq entry]
  apply configures.unlinked.place_child_ne entry.notAbove finds
  rw [List.append_nil]
  exact fun same => other (List.cons.inj (List.append_inj' same rfl).2).1

/-- and neither is another entry at any depth. -/
theorem entry_ne (within : store.root.kindAt (row ++ above) = some .directory)
    (entry : IsEntryName name) (other : name ≠ configFile) :
    (configure store root content).place ⟨1, row ++ above ++ [name]⟩ ≠
      .ok (row ++ [configFile]) := by
  have directory : (configure store root content).root.kindAt (row ++ above) = some .directory ↔
      store.root.kindAt (row ++ above) = some .directory :=
    (configures.writes content).kindAt_iff nofun
  have after := directory.2 within
  have proper := (configures.formed_after content).proper after entry
  apply configures.unlinked.place_entry_ne proper after
  exact fun same => other (List.cons.inj (List.append_inj' same rfl).2).1

/-- So the ignore file has the patterns that it had, and the same files are walked, or the
walk stops for the same reason. -/
theorem walk_eq (exclude : List String) (gitignore : Bool) :
    walk (configure store root content) root exclude gitignore =
      walk store root exclude gitignore := by
  have entry : IsEntryName ignoreFile := by decide
  have within := configures.finds.within
  rw [← List.append_nil row] at within
  have elsewhere := configures.entry_ne within entry (by decide)
  rw [List.append_nil] at elsewhere
  apply configures.walk_after
  apply ofOptions_written
  apply ignoreFileSpec_written (configures.writes content)
  rw [Path.child_eq entry]
  exact elsewhere

/-! ## Modules -/

/-- The same modules are local to the files below the root. -/
theorem isLocal_after {module : String} (single : '/' ∉ module.toList)
    (within : store.root.kindAt (row ++ above) = some .directory) (file : String) :
    isLocal (configure store root content) root ⟨1, row ++ above ++ [file]⟩ module =
      isLocal store root ⟨1, row ++ above ++ [file]⟩ module := by
  have inRoot : hasModule (configure store root content) root module =
      hasModule store root module := by
    apply hasModule_written (configures.writes content)
    intro suffix source
    exact .inl (configures.child_ne (isEntryName_source single source) (source_ne source))
  have beside : hasModule (configure store root content) ⟨1, row ++ above⟩ module =
      hasModule store ⟨1, row ++ above⟩ module := by
    apply hasModule_written (configures.writes content)
    intro suffix source
    have entry := isEntryName_source single source
    rw [Path.child_eq entry]
    exact .inl (configures.entry_ne within entry (source_ne source))
  rw [isLocal, isLocal, Path.parent_snoc, inRoot, beside,
    isNamed_written configures.formed (configures.formed_after content) (configures.writes content)
      configures.finds]

/-! ## Contents -/

/-- A source is read as before, or both times it is not. -/
theorem content_after (within : store.root.kindAt (row ++ above) = some .directory)
    (entry : IsEntryName name) (suffixed : Files.isSourceName name = true) :
    ((configure store root content).content ⟨1, row ++ above ++ [name]⟩).toOption =
      (store.content ⟨1, row ++ above ++ [name]⟩).toOption := by
  apply (configures.writes content).content_toOption
  apply configures.entry_ne within entry
  rintro rfl
  exact absurd suffixed (by decide)

/-- The configuration file is looked up: there was none and the new one is found, or it
cannot be told both times whether there is one. -/
theorem loadFile_after (limits : Limits) :
    loadFile limits store root = .ok none ∧
        loadFile limits (configure store root content) root =
          (ofContent limits (root.child configFile).text content).map some ∨
      ∃ error, loadFile limits store root = .error (.file error) ∧
        loadFile limits (configure store root content) root = .error (.file error) := by
  have writes := configures.writes content
  have after := configures.spells_after content
  rcases writes.place_eq_or (root.child configFile) with same | ⟨_, missing, placed | failed⟩
  · have long : store.place (root.child configFile) = .error .nameTooLong := by
      rcases configures.spells with refused | long | found
      · exact absurd refused configures.place_ne_nullCharacter
      · exact long
      · rw [if_pos configures.vacant] at found
        have placed := writes.place_new found after
        cases (same.trans found).symm.trans placed
    exact .inr ⟨_, Config.loadFile_of_nameTooLong long,
      Config.loadFile_of_nameTooLong (same.trans long)⟩
  · refine .inl ⟨Config.loadFile_of_missing missing, ?_⟩
    apply Config.loadFile_of_content
    · rw [Store.test_isFile placed, writes.kindAt_after]
      rfl
    · exact writes.content_here placed
  · exact absurd failed after.ne_notDirectory

end Configures

end Project
end ImportCensus

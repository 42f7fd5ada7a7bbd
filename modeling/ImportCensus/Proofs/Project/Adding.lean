import ImportCensus.Files.Edit
import ImportCensus.Proofs.Project.Written
import ImportCensus.Proofs.Source.Tokens

namespace ImportCensus
namespace Project

open Files (IsEntryName Node Path Store isEntryName_source sourceSuffixes)
open Source (IsIdentifier)

/-!
# Adding a module

An empty source is put into the root of a project.  Where there are no links below the
root, every path that a project asks about spells one entry, so that the paths which lead
to the new source are those of its own name in its own directory.  Nothing else that the
project asks about has another answer.
-/

variable {store written : Store} {root real : Path} {names above row : List String} {name other : String}

/-! ## Names of sources -/

theorem eq_of_sourceName {suffix : String} (source : suffix ∈ sourceSuffixes)
    (same : other ++ suffix = name ++ ".py") : other = name := by
  have suffixes : suffix = ".py" ∨ suffix = ".pyi" := by
    simpa [Files.sourceSuffixes] using source
  rcases suffixes with rfl | rfl
  · exact (String.append_left_inj ".py").1 same
  · have last := congrArg (fun text : String => text.toList.getLast?) same
    simp at last

theorem isSourceName_py (named : name ≠ "") : Files.isSourceName (name ++ ".py") = true := by
  have filled : 0 < name.toList.length := by
    rw [List.length_pos_iff]
    exact fun none => named (String.toList_eq_nil_iff.1 none)
  have suffix : Files.suffix (name ++ ".py") = ['.', 'p', 'y'] := by
    simp [Files.suffix]
    omega
  rw [Files.isSourceName, suffix]
  decide

/-! ## Projects without links -/

/-- Nothing below a place is a link. -/
def LinkFree (store : Store) (names : List String) : Prop :=
  ∀ below target, store.root.kindAt (names ++ below) ≠ some (.link target)

namespace LinkFree

theorem of_writes {place : List String} {content : List Nat} (linkFree : LinkFree store names)
    (writes : store.Writes place content written) : LinkFree written names := by
  intro below target stands
  have link : written.root.kindAt (names ++ below) = some (.link target) ↔
      store.root.kindAt (names ++ below) = some (.link target) := writes.kindAt_iff nofun
  exact linkFree below target (link.1 stands)

/-- Below the root, every path of an entry spells it. -/
theorem spells_below (linkFree : LinkFree store names) (formed : store.root.WellFormed)
    (below : names <+: row) (within : store.root.kindAt row = some .directory)
    (entry : IsEntryName other) : store.Spells ⟨1, row ++ [other]⟩ (row ++ [other]) := by
  apply Store.spells_entry (formed.proper within entry) within
  rcases below with ⟨above, rfl⟩
  intro target
  rw [List.append_assoc]
  exact linkFree _ target

/-- So does the path behind a path of the root. -/
theorem spells_child (linkFree : LinkFree store names) (finds : store.Finds root names)
    (entry : IsEntryName other) : store.Spells (root.child other) (names ++ [other]) := by
  rw [Path.child_eq entry]
  exact Store.spells_child finds entry.notAbove (linkFree [other])

end LinkFree

/-! ## The new source -/

/-- A project without links in whose root look-ups find no source of a name, neither behind
the path of the root nor behind its real path. -/
structure Lacks (store : Store) (root real : Path) (name : String) : Prop where
  formed : store.root.WellFormed
  isDirectory : store.holds Node.isDirectory root = true
  resolved : realRoot store root = .ok real
  linkFree : LinkFree store real.names
  identifier : IsIdentifier name.toList
  missing : ∀ base ∈ [root, real], store.node (base.child (name ++ ".py")) = .error .missing

/-- The store with an empty source of a name in a root. -/
def addModule (store : Store) (root : Path) (name : String) : Store :=
  store.put (root.child (name ++ ".py")) (.file [])

namespace Lacks

variable (lacks : Lacks store root real name)

include lacks

theorem finds : store.Finds root real.names :=
  (finds_of_realRoot lacks.formed lacks.isDirectory lacks.resolved).2

theorem real_eq : real = ⟨1, real.names⟩ :=
  (finds_of_realRoot lacks.formed lacks.isDirectory lacks.resolved).1

theorem named : name ≠ "" := by
  rcases lacks.identifier with ⟨first, rest, spelled, _⟩
  rintro rfl
  cases spelled

theorem isEntryName : IsEntryName (name ++ ".py") :=
  isEntryName_source (lacks.identifier.not_mem (by decide)) List.mem_cons_self

theorem child_real (entry : IsEntryName other) :
    real.child other = ⟨1, real.names ++ [other]⟩ := by
  rw [Path.child_eq entry, anchor_realRoot lacks.resolved]

/-- Behind both paths of the root a look-up says that nothing is there, and nothing is. -/
theorem vacant :
    (∀ base ∈ [root, real], store.place (base.child (name ++ ".py")) = .error .missing) ∧
      store.root.kindAt (real.names ++ [name ++ ".py"]) = none := by
  have behindRoot := lacks.linkFree.spells_child lacks.finds lacks.isEntryName
  have behindReal : store.Spells (real.child (name ++ ".py")) (real.names ++ [name ++ ".py"]) := by
    rw [lacks.child_real lacks.isEntryName]
    exact lacks.linkFree.spells_below lacks.formed List.prefix_rfl lacks.finds.within
      lacks.isEntryName
  have missingRoot := behindRoot.place_of_node (lacks.missing root List.mem_cons_self)
  have missingReal := behindReal.place_of_node
    (lacks.missing real (List.mem_cons_of_mem _ List.mem_cons_self))
  refine ⟨?_, behindRoot.vacant missingRoot⟩
  intro base member
  rcases List.mem_cons.1 member with rfl | last
  · exact missingRoot
  · rw [List.mem_singleton.1 last]
    exact missingReal

/-- The new source is an entry of the root. -/
theorem entryPlace :
    store.entryPlace (root.child (name ++ ".py")) = real.names ++ [name ++ ".py"] := by
  rw [Path.child_eq lacks.isEntryName, Store.entryPlace, Path.parent_snoc, lacks.finds.placed]
  simp [Path.name]

end Lacks

/-- A store that comes of adding an empty source to such a project. -/
structure Adds (store : Store) (root real : Path) (name : String) (grown : Store) : Prop
    extends Lacks store root real name where
  writes : store.Writes (real.names ++ [name ++ ".py"]) [] grown
  formedAfter : grown.root.WellFormed

/-- Putting an empty source into the root adds it. -/
theorem Lacks.adds {grown : Store} (lacks : Lacks store root real name)
    (added : grown = addModule store root name) : Adds store root real name grown := by
  have entry := lacks.entryPlace
  have within := lacks.finds.within
  have writes := Store.writes_put [] entry within (.inl lacks.vacant.2)
  refine { lacks with writes := ?_, formedAfter := ?_ }
  · rw [added]
    exact writes
  · exact Store.wellFormed_put lacks.formed entry within lacks.isEntryName added

/-! ## What the project asks afterwards -/

namespace Adds

variable {grown : Store} (adds : Adds store root real name grown)

include adds

/-- Both before and after, every path of an entry below the root spells it. -/
theorem spells_below (below : real.names <+: row)
    (within : store.root.kindAt row = some .directory) (entry : IsEntryName other) :
    store.Spells ⟨1, row ++ [other]⟩ (row ++ [other]) ∧
      grown.Spells ⟨1, row ++ [other]⟩ (row ++ [other]) := by
  have after := adds.linkFree.of_writes adds.writes
  have directory : grown.root.kindAt row = some .directory ↔
      store.root.kindAt row = some .directory := adds.writes.kindAt_iff nofun
  exact ⟨adds.linkFree.spells_below adds.formed below within entry,
    after.spells_below adds.formedAfter below (directory.2 within) entry⟩

/-- Paths of the new source lead to it. -/
theorem place_new : ∀ base ∈ [root, real],
    grown.place (base.child (name ++ ".py")) = .ok (real.names ++ [name ++ ".py"]) := by
  have after := adds.linkFree.of_writes adds.writes
  intro base member
  apply adds.writes.place_new (adds.toLacks.vacant.1 base member)
  rcases List.mem_cons.1 member with rfl | last
  · exact after.spells_child (adds.writes.finds adds.toLacks.finds) adds.toLacks.isEntryName
  · have entry := adds.toLacks.isEntryName
    rw [List.mem_singleton.1 last, adds.toLacks.child_real entry]
    exact (adds.spells_below List.prefix_rfl adds.toLacks.finds.within entry).2

/-- An entry below the root is looked up as before, and is not the new source. -/
theorem place_eq (below : real.names <+: row)
    (within : store.root.kindAt row = some .directory) (entry : IsEntryName other)
    (elsewhere : row ++ [other] ≠ real.names ++ [name ++ ".py"]) :
    grown.place ⟨1, row ++ [other]⟩ = store.place ⟨1, row ++ [other]⟩ ∧
      store.place ⟨1, row ++ [other]⟩ ≠ .ok (real.names ++ [name ++ ".py"]) := by
  have spells := adds.spells_below below within entry
  exact adds.writes.place_eq_of_spells spells.1 spells.2 elsewhere

theorem realRoot_after : realRoot grown root = .ok real := by
  rw [adds.toLacks.real_eq]
  exact realRoot_of_finds adds.formedAfter (adds.writes.finds adds.toLacks.finds)

/-- The ignore file has the patterns that it had. -/
theorem activeIgnoreSpec_after (gitignore : Bool) :
    activeIgnoreSpec grown real gitignore = activeIgnoreSpec store real gitignore := by
  have entry : IsEntryName ignoreFile := by decide
  have elsewhere : real.names ++ [ignoreFile] ≠ real.names ++ [name ++ ".py"] := by
    intro same
    have last := congrArg (fun text : String => text.toList.getLast?)
      (List.cons.inj (List.append_inj' same rfl).2).1
    simp [ignoreFile] at last
  have looked := adds.place_eq List.prefix_rfl adds.toLacks.finds.within entry elsewhere
  rw [← adds.toLacks.child_real entry] at looked
  unfold activeIgnoreSpec
  rw [ignoreFileSpec_written adds.writes (looked.1.trans_ne looked.2)]

/-- The sources are those that there were, and the new one unless it is left out. -/
theorem sourceFiles_after (ignore : Ignore) :
    (sourceFiles grown real ignore).Perm
      (if ignore.file [name ++ ".py"] then sourceFiles store real ignore
        else ⟨1, real.names ++ [name ++ ".py"]⟩ :: sourceFiles store real ignore) := by
  have anchored : real.anchor = 1 := anchor_realRoot adds.resolved
  have plain : grown.holds Node.isDirectory ⟨1, real.names ++ [name ++ ".py"]⟩ = false := by
    have nothing := adds.missing real (List.mem_cons_of_mem _ List.mem_cons_self)
    rw [adds.toLacks.child_real adds.toLacks.isEntryName] at nothing
    rw [adds.writes.holds_isDirectory, Store.holds, nothing]
  have fits : (⟨1, real.names⟩ : Path).Fits := by
    have placed := adds.place_new real (List.mem_cons_of_mem _ List.mem_cons_self)
    have after := adds.writes.finds adds.toLacks.finds
    rw [adds.toLacks.child_real adds.toLacks.isEntryName] at placed
    exact Store.fits_of_place (fun part member => adds.formedAfter.proper after.within
      adds.toLacks.isEntryName part (List.mem_append_left _ member)) after.within placed
  exact sourceFiles_written_new adds.formed adds.formedAfter anchored adds.writes
    adds.toLacks.finds.within adds.toLacks.vacant.2 fits plain (isSourceName_py adds.toLacks.named)

/-- The sources that there were are read as before. -/
theorem content_after {ignore : Ignore} {file : Path} (source : file ∈ sourceFiles store real ignore) :
    grown.content file = store.content file := by
  have anchored : real.anchor = 1 := anchor_realRoot adds.resolved
  rcases (mem_sourceFiles adds.formed anchored).1 source with ⟨above, other, rfl, isSource⟩
  have listed := (Node.listed_iff adds.formed).1 isSource.listed
  have entry : IsEntryName other :=
    isSource.entryNames adds.formed other (List.mem_append_right _ List.mem_cons_self)
  have elsewhere : real.names ++ above ++ [other] ≠ real.names ++ [name ++ ".py"] := by
    intro same
    rw [same] at listed
    exact listed.2 adds.toLacks.vacant.2
  have looked := adds.place_eq (List.prefix_append _ _) listed.1 entry elsewhere
  exact adds.writes.content_eq looked.1 looked.2

/-- The new source is read as an empty file. -/
theorem content_new : grown.content ⟨1, real.names ++ [name ++ ".py"]⟩ = .ok [] := by
  have placed := adds.place_new real (List.mem_cons_of_mem _ List.mem_cons_self)
  rw [adds.toLacks.child_real adds.toLacks.isEntryName] at placed
  exact adds.writes.content_here placed

/-! ## Which modules are local afterwards -/

/-- A module of another name is in no directory of the project that it was not in. -/
theorem hasModule_after {directory : Path} {row : List String} (otherName : other ≠ name)
    (spells : ∀ suffix ∈ sourceSuffixes, grown.Spells
      (directory.child (other ++ suffix)) (row ++ [other ++ suffix])) :
    hasModule grown directory other = hasModule store directory other := by
  apply hasModule_written adds.writes
  intro suffix source
  apply Or.inl
  intro placed
  have same := (spells suffix source).eq_entry placed
  have last := (List.cons.inj (List.append_inj' same rfl).2).1
  exact otherName (eq_of_sourceName source last.symm)

/-- Modules of other names are local to the files below the root that they were local to. -/
theorem isLocal_after (otherName : other ≠ name) (single : '/' ∉ other.toList)
    (within : store.root.kindAt (real.names ++ above) = some .directory) (file : String) :
    isLocal grown root ⟨1, real.names ++ above ++ [file]⟩ other =
      isLocal store root ⟨1, real.names ++ above ++ [file]⟩ other := by
  have after := adds.linkFree.of_writes adds.writes
  have found := adds.writes.finds adds.toLacks.finds
  have inRoot : hasModule grown root other = hasModule store root other := by
    apply adds.hasModule_after otherName
    intro suffix source
    exact after.spells_child found (isEntryName_source single source)
  have beside : hasModule grown ⟨1, real.names ++ above⟩ other =
      hasModule store ⟨1, real.names ++ above⟩ other := by
    apply adds.hasModule_after otherName
    intro suffix source
    have entry := isEntryName_source single source
    rw [Path.child_eq entry]
    exact (adds.spells_below (List.prefix_append _ _) within entry).2
  rw [isLocal, isLocal, Path.parent_snoc, inRoot, beside,
    isNamed_written adds.formed adds.formedAfter adds.writes adds.toLacks.finds]

/-- The new module is local to every file. -/
theorem isLocal_new (file : Path) : isLocal grown root file name = true := by
  have isFile : grown.holds Node.isFile (root.child (name ++ ".py")) = true :=
    Store.holds_isFile.2 ⟨_, adds.place_new root List.mem_cons_self, adds.writes.kindAt_after⟩
  have inRoot : hasModule grown root name = true := by
    rw [hasModule, Bool.or_eq_true]
    exact .inr (List.any_eq_true.2 ⟨".py", List.mem_cons_self, isFile⟩)
  rw [isLocal, inRoot, Bool.or_true, Bool.true_or]

end Adds

end Project
end ImportCensus

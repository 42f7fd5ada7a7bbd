import ImportCensus.Proofs.Census.Pool
import ImportCensus.Proofs.Imports.Names
import ImportCensus.Proofs.Sequence

namespace ImportCensus
namespace Census

open Files (Node Path Store)
open Imports (Place Reference Visible absoluteBases collect dottedText importedModule moduleBase
  referencesOf)
open Source (Document)
open Syntax (Tree)

/-!
# What a run says about a project

The result of a run is described here by the files, their bytes and their syntax
trees, without the functions that compute it.  `Reads` says when a file is usable,
`NamesModule` what an import statement asks for, and `Foreign` which names are
neither registered nor provided by the project.  A package is reported if it is a
foreign base that a visible import statement of a usable file names, and no file
can keep a run from reporting.
-/

/-! ## Usable files -/

/-- A file can be opened, is a text, and is a program that holds no statement of the
older dialect anywhere. -/
def Reads (store : Store) (file : Path) (document : Document) : Prop :=
  ∃ content text, store.content file = .ok content ∧ Text.decodeMarked content = .ok text ∧
    Document.ofText (Text.foldNewlines text) = .ok document ∧
    ∀ node ∈ document.root.preorder, Source.legacy? node.kind = none

def Usable (store : Store) (file : Path) : Prop := ∃ document, Reads store file document

variable {store : Store} {scope : Scope} {file : Path}

theorem readText_eq_ok {text : List Char} :
    readText store file = .ok text ↔ ∃ content decoded, store.content file = .ok content ∧
      Text.decodeMarked content = .ok decoded ∧ Text.foldNewlines decoded = text := by
  unfold readText
  cases store.content file with
  | error fault => simp
  | ok content =>
      cases decodes : Text.decodeMarked content with
      | error fault => simp [decodes]
      | ok decoded => simp [decodes]

theorem readReferences_eq_ok {references : List Reference} :
    readReferences store file = .ok references ↔
      ∃ document, Reads store file document ∧ collect document = references := by
  unfold readReferences
  rw [bind_eq_ok]
  constructor
  · rintro ⟨text, read, found⟩
    rcases readText_eq_ok.1 read with ⟨content, decoded, opened, decodes, rfl⟩
    split at found
    · cases found
    · rename_i document accepted
      cases found
      exact ⟨document, ⟨content, decoded, opened, decodes, Source.readSource_eq_ok.1 accepted⟩, rfl⟩
  · rintro ⟨document, ⟨content, decoded, opened, decodes, parsed⟩, rfl⟩
    refine ⟨_, readText_eq_ok.2 ⟨content, decoded, opened, decodes, rfl⟩, ?_⟩
    rw [Source.readSource_eq_ok.2 parsed]

theorem Reads.accepted {document : Document} (reads : Reads store file document) :
    ∃ text, Source.readSource text = .ok document := by
  rcases reads with ⟨content, decoded, _, _, parsed⟩
  exact ⟨_, Source.readSource_eq_ok.2 parsed⟩

theorem readReferences_isOk : (readReferences store file).isOk = true ↔ Usable store file := by
  constructor
  · intro isOk
    cases found : readReferences store file with
    | error fault =>
        rw [found] at isOk
        cases isOk
    | ok references =>
        rcases readReferences_eq_ok.1 found with ⟨document, reads, _⟩
        exact ⟨document, reads⟩
  · rintro ⟨document, reads⟩
    rw [readReferences_eq_ok.2 ⟨document, reads, rfl⟩]
    rfl

instance : Decidable (Usable store file) := decidable_of_iff _ readReferences_isOk

/-- A file contributes if it is usable, whatever it imports. -/
theorem contribution_isOk : (scope.contribution file).isOk = true ↔ Usable scope.store file := by
  rw [← readReferences_isOk, Scope.contribution]
  cases readReferences scope.store file with
  | error fault => rfl
  | ok references => rfl

theorem contribution_eq_ok {packages : PackageSet} :
    scope.contribution file = .ok packages ↔
      ∃ document, Reads scope.store file document ∧
        scope.thirdParty file (absoluteBases (collect document)) = packages := by
  unfold Scope.contribution
  rw [bind_eq_ok]
  constructor
  · rintro ⟨references, found, same⟩
    rcases readReferences_eq_ok.1 found with ⟨document, reads, rfl⟩
    cases same
    exact ⟨document, reads, rfl⟩
  · rintro ⟨document, reads, rfl⟩
    exact ⟨_, readReferences_eq_ok.2 ⟨document, reads, rfl⟩, rfl⟩

/-! ## Imported modules -/

/-- An import statement names a module in full: a plain one lists it, perhaps under
another name, and a from-import without leading dots takes names out of it. -/
inductive NamesModule (document : Document) (tree : Tree) : String -> Prop
  | listed {part : Tree} (kind : tree.kind = .simple .importModules)
      (listed : part ∈ tree.childrenIn .name) (bare : part.kind = .phrase .dottedName) :
      NamesModule document tree (dottedText document part)
  | renamed {part target : Tree} (kind : tree.kind = .simple .importModules)
      (listed : part ∈ tree.childrenIn .name) (aliased : part.kind = .phrase .aliasedImport)
      (name : (part.childrenIn .name).head? = some target) :
      NamesModule document tree (dottedText document target)
  | absolute {module : String} (kind : tree.kind = .simple .importFrom)
      (source : importedModule document tree = (some module, 0)) : NamesModule document tree module
  | future (kind : tree.kind = .simple .futureImport) : NamesModule document tree "__future__"

variable {document : Document} {tree : Tree}

theorem mem_directReferences {reference : Reference} :
    reference ∈ Imports.directReferences document tree ↔ ∃ part ∈ tree.childrenIn .name,
      (part.kind = .phrase .dottedName ∧ reference = .direct (dottedText document part) none) ∨
        part.kind = .phrase .aliasedImport ∧ ∃ target,
          (part.childrenIn .name).head? = some target ∧
            reference = .direct (dottedText document target)
              ((part.childrenIn .alias).head?.map fun name => String.ofList (document.textOf name)) := by
  unfold Imports.directReferences
  rw [List.mem_filterMap]
  apply exists_congr
  intro part
  apply and_congr_right
  intro _
  by_cases aliased : part.kind = .phrase .aliasedImport
  · rw [if_pos aliased, aliased]
    simp [eq_comm]
  · rw [if_neg aliased]
    by_cases bare : part.kind = .phrase .dottedName
    · rw [if_pos bare]
      simp [bare, eq_comm]
    · rw [if_neg bare]
      simp [aliased, bare]

/-- The modules that a statement names in full are those that its references name in full. -/
theorem namesModule_iff {module : String} : NamesModule document tree module ↔
    ∃ reference ∈ referencesOf document tree, reference.full? = some module := by
  constructor
  · intro named
    unfold referencesOf
    cases named with
    | listed kind listed bare =>
        rw [kind]
        exact ⟨_, mem_directReferences.2 ⟨_, listed, .inl ⟨bare, rfl⟩⟩, rfl⟩
    | renamed kind listed aliased name =>
        rw [kind]
        exact ⟨_, mem_directReferences.2 ⟨_, listed, .inr ⟨aliased, _, name, rfl⟩⟩, rfl⟩
    | absolute kind source =>
        rw [kind]
        exact ⟨_, List.mem_singleton.2 rfl, Reference.full?_names.2 source⟩
    | future kind =>
        rw [kind]
        exact ⟨_, List.mem_singleton.2 rfl, rfl⟩
  · rintro ⟨reference, member, full⟩
    unfold referencesOf at member
    split at member
    · rename_i kind
      rcases mem_directReferences.1 member with ⟨part, listed, ⟨bare, rfl⟩ | ⟨aliased, target, name, rfl⟩⟩
      · cases full
        exact .listed kind listed bare
      · cases full
        exact .renamed kind listed aliased name
    · rename_i kind
      rcases List.mem_singleton.1 member with rfl
      exact .absolute kind (Reference.full?_names.1 full)
    · rename_i kind
      rcases List.mem_singleton.1 member with rfl
      cases full
      exact .future kind
    · cases member

/-- A document imports from a base if one of its visible statements names a module
whose first segment it is. -/
def ImportsBase (document : Document) (base : String) : Prop :=
  ∃ place tree module, Visible document.root place tree ∧ NamesModule document tree module ∧
    moduleBase module = base

theorem mem_absoluteBases {text : List Char} (accepted : Source.readSource text = .ok document)
    {base : String} : base ∈ absoluteBases (collect document) ↔ ImportsBase document base := by
  rw [absoluteBases, List.mem_filterMap, Imports.collect_eq_flatMap]
  constructor
  · rintro ⟨reference, member, based⟩
    rcases List.mem_flatMap.1 member with ⟨⟨place, tree⟩, entry, listed⟩
    rcases Option.map_eq_some_iff.1 based with ⟨module, candidate, same⟩
    have visible := (Imports.mem_visibleImports.1 entry).1
    have full := (Reference.candidate?_eq_some.1 candidate).1
    exact ⟨place, tree, module, visible, namesModule_iff.2 ⟨reference, listed, full⟩, same⟩
  · rintro ⟨place, tree, module, visible, named, rfl⟩
    rcases namesModule_iff.1 named with ⟨reference, listed, full⟩
    have proper : module ≠ "" :=
      (Imports.module_isModule accepted visible listed module (Reference.module?_of_full? full)).ne_empty
    have statement : Imports.isImport tree.kind = true := by
      cases named <;> simp [*, Imports.isImport]
    refine ⟨reference, List.mem_flatMap.2 ⟨(place, tree), ?_, listed⟩, ?_⟩
    · exact Imports.mem_visibleImports.2 ⟨visible, statement⟩
    · rw [Reference.candidate?_eq_some.2 ⟨full, proper⟩]
      rfl

/-! ## Foreign names -/

/-- A name is neither registered nor provided by the project: the root does not have
it, and no directory, source or stub of that name lies in the root or beside the file. -/
structure Foreign (scope : Scope) (file : Path) (name : String) : Prop where
  unregistered : name ∉ scope.registry.names
  notRoot : ∀ root, scope.store.resolve scope.root = .ok root -> root.name ≠ name
  absent : ∀ directory ∈ [scope.root, file.parent],
    scope.store.holds Node.isDirectory (directory.child name) = false ∧
      scope.store.holds Node.isFile (directory.child (name ++ ".py")) = false ∧
      scope.store.holds Node.isFile (directory.child (name ++ ".pyi")) = false

theorem isNamed_eq_false {name : String} : Project.isNamed store file name = false ↔
    ∀ path, store.resolve file = .ok path -> path.name ≠ name := by
  unfold Project.isNamed
  cases store.resolve file with
  | error fault => simp
  | ok path => simp

theorem hasModule_eq_false {directory : Path} {name : String} :
    Project.hasModule store directory name = false ↔
      store.holds Node.isDirectory (directory.child name) = false ∧
        store.holds Node.isFile (directory.child (name ++ ".py")) = false ∧
        store.holds Node.isFile (directory.child (name ++ ".pyi")) = false := by
  simp [Project.hasModule, Files.sourceSuffixes]

theorem classOfBase_eq_thirdParty {name : String} :
    scope.classOfBase file name = .thirdParty ↔ Foreign scope file name := by
  have isLocal : Project.isLocal scope.store scope.root file name = false ↔
      (∀ root, scope.store.resolve scope.root = .ok root -> root.name ≠ name) ∧
        ∀ directory ∈ [scope.root, file.parent],
          Project.hasModule scope.store directory name = false := by
    rw [← isNamed_eq_false]
    simp [Project.isLocal, and_assoc]
  simp only [hasModule_eq_false] at isLocal
  unfold Scope.classOfBase
  constructor
  · intro thirdParty
    split at thirdParty
    · cases thirdParty
    · rename_i unknown
      split at thirdParty
      · cases thirdParty
      · rename_i notLocal
        have apart := isLocal.1 (Bool.eq_false_iff.2 notLocal)
        exact ⟨fun registered => unknown (Registry.knows_iff.2 registered), apart.1, apart.2⟩
  · intro foreign
    have notLocal := isLocal.2 ⟨foreign.notRoot, foreign.absent⟩
    rw [if_neg fun registered => foreign.unregistered (Registry.knows_iff.1 registered), notLocal]
    rfl

/-- Of the bases that a file imports, the foreign ones are packages. -/
theorem mem_thirdParty {references : List Reference} {name : String} :
    name ∈ scope.thirdParty file (absoluteBases references) ↔
      name ∈ absoluteBases references ∧ Foreign scope file name := by
  have based : ∀ module ∈ absoluteBases references, moduleBase module = module :=
    fun _ => Imports.moduleBase_of_mem_absoluteBases
  rw [Scope.thirdParty, PackageSet.mem_ofList, List.mem_map]
  constructor
  · rintro ⟨module, member, same⟩
    rcases List.mem_filter.1 member with ⟨within, thirdParty⟩
    rw [based module within] at same
    subst same
    rw [beq_iff_eq, Scope.classify, based module within] at thirdParty
    exact ⟨within, classOfBase_eq_thirdParty.1 thirdParty⟩
  · rintro ⟨within, foreign⟩
    refine ⟨name, List.mem_filter.2 ⟨within, ?_⟩, based name within⟩
    rw [beq_iff_eq, Scope.classify, based name within]
    exact classOfBase_eq_thirdParty.2 foreign

/-! ## Results -/

/-- A directory passes the check of the root. -/
theorem checkRoot_of_holds {root : Path} (directory : store.holds Node.isDirectory root = true) :
    Project.checkRoot store root = .ok root := by
  unfold Store.holds at directory
  unfold Project.checkRoot Store.test
  cases found : store.node root with
  | error fault =>
      rw [found] at directory
      cases directory
  | ok node =>
      rw [found] at directory
      simp only [show node.isDirectory = true from directory]

/-- End to end: wherever the files of a project can be listed, a run has a result.  It
counts the files, and among them those that are not usable, and it reports a name if
and only if a usable file imports from it and it is foreign there. -/
theorem run_reports_foreign_imports (scope : Scope) (options : Config.Options)
    (processors : Option Nat) (valid : options.Valid)
    (directory : scope.store.holds Node.isDirectory scope.root = true) (files : List Path)
    (listed : Project.walk scope.store scope.root options.exclude options.gitignore = .ok files) :
    ∃ result, run scope options processors = .ok result ∧
      result.fileCount = files.length ∧
      result.failedFiles = files.countP (fun file => ¬Usable scope.store file) ∧
      (∀ name, name ∈ result.packages ↔ ∃ file ∈ files, ∃ document,
        Reads scope.store file document ∧ ImportsBase document name ∧ Foreign scope file name) ∧
      (files = [] -> result = .none) := by
  have enumerated : scope.files options = .ok files := by
    rw [Scope.files, checkRoot_of_holds directory]
    exact listed
  refine ⟨scope.folded files, ?_, rfl, ?_, ?_, ?_⟩
  · rw [run_eq_folded scope options processors valid, enumerated]
    rfl
  · rw [scope.failedFiles_folded]
    apply List.countP_congr
    intro file _
    have usable : (scope.contribution file).isOk = true ↔ Usable scope.store file := contribution_isOk
    simp [← usable]
  · intro name
    rw [scope.mem_packages_folded]
    constructor
    · rintro ⟨file, member, packages, contributes, within⟩
      rcases contribution_eq_ok.1 contributes with ⟨document, reads, rfl⟩
      rcases reads.accepted with ⟨text, accepted⟩
      rw [mem_thirdParty, mem_absoluteBases accepted] at within
      exact ⟨file, member, document, reads, within⟩
    · rintro ⟨file, member, document, reads, within⟩
      rcases reads.accepted with ⟨text, accepted⟩
      refine ⟨file, member, _, contribution_eq_ok.2 ⟨document, reads, rfl⟩, ?_⟩
      rw [mem_thirdParty, mem_absoluteBases accepted]
      exact within
  · rintro rfl
    rfl

/-- A project of one source, which imports one module. -/
def importingOne : Scope where
  store := ⟨.directory [("b.py", .file [105, 109, 112, 111, 114, 116, 32, 99])], []⟩
  root := ⟨1, []⟩
  registry := ⟨"3.12", []⟩

theorem root_importingOne :
    importingOne.store.holds Node.isDirectory importingOne.root = true := by cbv

theorem walk_importingOne :
    Project.walk importingOne.store importingOne.root [] false = .ok [⟨1, ["b.py"]⟩] := by
  simp only [Project.walk, Project.sourceFiles, Store.holds, Store.node, Store.place_eq_cond]
  cbv

theorem contribution_importingOne :
    (importingOne.contribution ⟨1, ["b.py"]⟩).toOption.map PackageSet.members = some ["c"] := by
  simp only [Scope.contribution, Scope.thirdParty, Scope.classify, Scope.classOfBase, readReferences,
    readText, Project.isLocal, Project.hasModule, Store.content, Store.holds, Store.node,
    Store.place_eq_cond]
  cbv

/-- The one module is reported, and the file is usable. -/
theorem importingOne_reports_foreign_imports :
    ∃ result, run importingOne .default none = .ok result ∧ result.fileCount = 1 ∧
      result.failedFiles = 0 ∧ "c" ∈ result.packages := by
  have claim := run_reports_foreign_imports importingOne .default none nofun root_importingOne _
    walk_importingOne
  rcases claim with ⟨result, runs, count, failed, packages, _⟩
  cases contributes : importingOne.contribution ⟨1, ["b.py"]⟩ with
  | error fault =>
      have contribution := contribution_importingOne
      rw [contributes] at contribution
      cases contribution
  | ok found =>
      have contribution := contribution_importingOne
      rw [contributes] at contribution
      have member : "c" ∈ found := by
        rw [PackageSet.mem_def, Option.some.inj contribution]
        exact List.mem_singleton.2 rfl
      have usable : Usable importingOne.store ⟨1, ["b.py"]⟩ :=
        contribution_isOk.1 (by rw [contributes]; rfl)
      rcases contribution_eq_ok.1 contributes with ⟨document, reads, rfl⟩
      rcases reads.accepted with ⟨text, accepted⟩
      rw [mem_thirdParty, mem_absoluteBases accepted] at member
      refine ⟨result, runs, count, ?_, ?_⟩
      · rw [failed]
        simp [usable]
      · exact (packages "c").2 ⟨_, List.mem_singleton.2 rfl, document, reads, member⟩

end Census
end ImportCensus

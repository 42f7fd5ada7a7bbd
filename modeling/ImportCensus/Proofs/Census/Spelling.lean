import ImportCensus.Proofs.Census.Interference
import ImportCensus.Proofs.Config.Loading

namespace ImportCensus
namespace Census

open Files (Node Path Store)
open Imports (absoluteBases moduleBase)

/-!
# The spelling of the root

A root may be spelled with links and with names that lead back.  Sources are listed by their
real paths, and so are modules beside them; but modules in the root, and its configuration
file, are looked up behind the root as it is spelled.  Such look-ups find the same behind
every spelling, as long as they stay within the limits of the system.
-/

namespace Scope

/-- The same files and the same registry, with another root. -/
def inRoot (scope : Scope) (root : Path) : Scope := { scope with root := root }

end Scope

/-- The look-ups behind a directory when a module is searched for in it: for a directory of
its name, where there is none for a source, and where there is none either for a stub. -/
inductive Probes (store : Store) (directory : Path) (module : String) : Path -> Prop
  | package : Probes store directory module (directory.child module)
  | source (noPackage : store.holds Node.isDirectory (directory.child module) = false) :
      Probes store directory module (directory.child (module ++ ".py"))
  | stub (noPackage : store.holds Node.isDirectory (directory.child module) = false)
      (noSource : store.holds Node.isFile (directory.child (module ++ ".py")) = false) :
      Probes store directory module (directory.child (module ++ ".pyi"))

/-- The look-ups of a run behind its root as it is spelled: for the modules that its sources
import, apart from those that are registered and those that have the name of the root. -/
inductive LooksUp (scope : Scope) (options : Config.Options) : Path -> Prop
  | module {files : List Path} {file path : Path} {references : List Imports.Reference}
      {module : String}
      (listed : Project.walk scope.store scope.root options.exclude options.gitignore = .ok files)
      (member : file ∈ files) (read : readReferences scope.store file = .ok references)
      (imported : module ∈ absoluteBases references)
      (unknown : scope.registry.knows (moduleBase module) = false)
      (unnamed : Project.isNamed scope.store scope.root (moduleBase module) = false)
      (probes : Probes scope.store scope.root (moduleBase module) path) : LooksUp scope options path

variable {store : Store} {scope : Scope} {first second other real : Path} {row : List String}
  {module : String}

theorem holds_eq_of_place (property : Node -> Bool) (same : store.place first = store.place second) :
    store.holds property first = store.holds property second := by
  unfold Store.holds
  rw [Store.node_eq_of_place same]

/-- A module is in a directory under both of two paths, or under none, where the search for
it does not come upon a limit. -/
theorem hasModule_eq_of_finds (one : store.Finds first row) (two : store.Finds second row)
    (freeOne : ∀ path, Probes store first module path -> ¬store.Limited path)
    (freeTwo : ∀ path, Probes store second module path -> ¬store.Limited path) :
    Project.hasModule store first module = Project.hasModule store second module := by
  have packages : store.holds Node.isDirectory (first.child module) =
      store.holds Node.isDirectory (second.child module) :=
    holds_eq_of_place _ (Store.place_child_eq one two (freeOne _ .package) (freeTwo _ .package))
  unfold Project.hasModule
  cases package : store.holds Node.isDirectory (second.child module) with
  | true => rw [packages, package, Bool.true_or, Bool.true_or]
  | false =>
      rw [package] at packages
      have sources : store.holds Node.isFile (first.child (module ++ ".py")) =
          store.holds Node.isFile (second.child (module ++ ".py")) :=
        holds_eq_of_place _ (Store.place_child_eq one two (freeOne _ (.source packages))
          (freeTwo _ (.source package)))
      rw [packages, Files.sourceSuffixes, List.any_cons, List.any_cons, List.any_cons, List.any_cons]
      cases source : store.holds Node.isFile (second.child (module ++ ".py")) with
      | true => rw [sources, source, Bool.true_or, Bool.true_or]
      | false =>
          rw [source] at sources
          have stubs : store.holds Node.isFile (first.child (module ++ ".pyi")) =
              store.holds Node.isFile (second.child (module ++ ".pyi")) :=
            holds_eq_of_place _ (Store.place_child_eq one two (freeOne _ (.stub packages sources))
              (freeTwo _ (.stub package source)))
          rw [sources, stubs, List.any_nil, List.any_nil]

/-- Paths that are resolved in the same way give the same name. -/
theorem isNamed_eq_of_resolve (resolved : store.resolve first = .ok real)
    (again : store.resolve second = .ok real) (name : String) :
    Project.isNamed store first name = Project.isNamed store second name := by
  rw [Project.isNamed, Project.isNamed, resolved, again]

theorem walk_eq_of_resolve (resolved : store.resolve first = .ok real)
    (again : store.resolve second = .ok real) (exclude : List String) (gitignore : Bool) :
    Project.walk store first exclude gitignore = Project.walk store second exclude gitignore := by
  have one : Project.realRoot store first = .ok real := by
    rw [Project.realRoot, resolved]
  have two : Project.realRoot store second = .ok real := by
    rw [Project.realRoot, again]
  rw [Project.walk_of_realRoot one, Project.walk_of_realRoot two]

/-- A name that is not registered has the class that it has by being local. -/
theorem classOfBase_inRoot {file : Path} {name : String}
    (same : scope.registry.knows name = false ->
      Project.isLocal scope.store other file name = Project.isLocal scope.store scope.root file name) :
    (scope.inRoot other).classOfBase file name = scope.classOfBase file name := by
  have registry : (scope.inRoot other).registry = scope.registry := rfl
  unfold Scope.classOfBase
  rw [registry]
  cases known : scope.registry.knows name with
  | true => rfl
  | false =>
      rw [← same known]
      rfl

/-- The spelling of the root has no influence.  Let two paths lead to a directory and be
resolved to the same path.  Then a walk lists the same sources behind both, or stops for the
same reason; the configuration file gives the same options or fails in the same way, and a
run has the same result or stops for the same reason, if their look-ups behind the two paths
stay within the limits of the system; and the name of the project is the last one of the
resolved path. -/
theorem run_independent_of_spelling (scope : Scope) (other real : Path) (options : Config.Options)
    (processors : Option Nat) (formed : scope.store.root.WellFormed)
    (directory : scope.store.holds Node.isDirectory scope.root = true)
    (otherDirectory : scope.store.holds Node.isDirectory other = true)
    (resolved : scope.store.resolve scope.root = .ok real)
    (otherResolved : scope.store.resolve other = .ok real) :
    (∀ exclude gitignore, Project.walk scope.store other exclude gitignore =
        Project.walk scope.store scope.root exclude gitignore) ∧
      ((∀ base ∈ [scope.root, other], ¬scope.store.Limited (base.child Config.configFile)) ->
        ∀ limits, (Config.load limits scope.store other).mapError Config.LoadFault.kind =
          (Config.load limits scope.store scope.root).mapError Config.LoadFault.kind) ∧
      ((∀ base ∈ [scope.root, other], ∀ path, LooksUp (scope.inRoot base) options path ->
          ¬scope.store.Limited path) ->
        run (scope.inRoot other) options processors = run scope options processors) ∧
      ∀ base ∈ [scope.root, other], ∀ name,
        Project.isNamed scope.store base name = true ↔ real.name = name := by
  have realRoots : Project.realRoot scope.store scope.root = .ok real ∧
      Project.realRoot scope.store other = .ok real := by
    rw [Project.realRoot, Project.realRoot, resolved, otherResolved]
    exact ⟨rfl, rfl⟩
  have finds := (Project.finds_of_realRoot formed directory realRoots.1).2
  have otherFinds := (Project.finds_of_realRoot formed otherDirectory realRoots.2).2
  have inRoot : scope.root ∈ [scope.root, other] := List.mem_cons_self
  have inOther : other ∈ [scope.root, other] := List.mem_cons_of_mem _ List.mem_cons_self
  have walks := walk_eq_of_resolve otherResolved resolved
  refine ⟨walks, ?_, ?_, ?_⟩
  · intro free limits
    apply Config.load_kind
    exact Store.place_child_eq otherFinds finds (free other inOther) (free scope.root inRoot)
  · intro free
    have laterDirectory : (scope.inRoot other).store.holds Node.isDirectory
        (scope.inRoot other).root = true := otherDirectory
    have laterWalks : Project.walk (scope.inRoot other).store (scope.inRoot other).root
        options.exclude options.gitignore =
          Project.walk scope.store scope.root options.exclude options.gitignore := walks _ _
    apply run_congr directory laterDirectory laterWalks
    intro files listed
    apply folded_congr
    intro file member
    have alike : readReferences (scope.inRoot other).store file = readReferences scope.store file := rfl
    apply contribution_congr alike
    intro references read module imported
    have named := isNamed_eq_of_resolve otherResolved resolved (moduleBase module)
    apply classOfBase_inRoot
    intro unknown
    unfold Project.isLocal
    rw [named]
    cases unnamed : Project.isNamed scope.store scope.root (moduleBase module) with
    | true => rw [Bool.true_or, Bool.true_or, Bool.true_or, Bool.true_or]
    | false =>
        rw [unnamed] at named
        have freeOther : ∀ path, Probes scope.store other (moduleBase module) path ->
            ¬scope.store.Limited path := by
          intro path probes
          have alike := (walks options.exclude options.gitignore).trans listed
          exact free other inOther path
            (LooksUp.module alike member read imported unknown named probes)
        have freeRoot : ∀ path, Probes scope.store scope.root (moduleBase module) path ->
            ¬scope.store.Limited path := by
          intro path probes
          exact free scope.root inRoot path
            (LooksUp.module listed member read imported unknown unnamed probes)
        rw [hasModule_eq_of_finds otherFinds finds freeOther freeRoot]
  · intro base member name
    have path : scope.store.resolve base = .ok real := by
      rcases List.mem_cons.1 member with rfl | last
      · exact resolved
      · rw [List.mem_singleton.1 last]
        exact otherResolved
    rw [Project.isNamed, path]
    exact beq_iff_eq

/-- A project of one source, which imports one module, and of a link that leads back to the
root. -/
def linkedOne : Scope where
  store := ⟨.directory [("b.py", .file [105, 109, 112, 111, 114, 116, 32, 99]), ("l", .link ".")], []⟩
  root := ⟨1, []⟩
  registry := ⟨"3.12", []⟩

/-- The root spelled with the link. -/
def linkedRoot : Path := ⟨1, ["l", "..", "l"]⟩

theorem linkedOne_wellFormed : linkedOne.store.root.WellFormed := by
  simp only [linkedOne, Node.WellFormed, Node.AllWellFormed, List.map]
  decide

theorem finds_linkedOne : ∀ base ∈ [linkedOne.root, linkedRoot], linkedOne.store.Finds base [] := by
  intro base member
  refine ⟨?_, rfl⟩
  simp only [List.mem_cons, List.not_mem_nil, or_false] at member
  rcases member with rfl | rfl
  · rw [Store.place_eq_follow (by cbv) (by cbv)]
    cbv
  · rw [Store.place_eq_follow (by cbv) (by cbv)]
    cbv

theorem walk_linkedOne : Project.walk linkedOne.store linkedOne.root [] false = .ok [⟨1, ["b.py"]⟩] := by
  simp only [Project.walk, Project.sourceFiles, Store.holds, Store.node, Store.place_eq_cond]
  cbv

theorem readReferences_linkedOne :
    (readReferences linkedOne.store ⟨1, ["b.py"]⟩).toOption = some [.direct "c" none] := by
  simp only [readReferences, readText, Store.content, Store.node, Store.place_eq_cond]
  cbv

/-- Nothing that is looked up behind the root is there. -/
theorem place_linkedOne : ∀ base ∈ [linkedOne.root, linkedRoot],
    ∀ name ∈ [Config.configFile, "c", "c.py", "c.pyi"],
      linkedOne.store.place (base.child name) = .error .missing := by
  intro base member name looked
  simp only [List.mem_cons, List.not_mem_nil, or_false] at member looked
  rcases member with rfl | rfl <;> rcases looked with rfl | rfl | rfl | rfl <;>
    (rw [Store.place_eq_follow (by cbv) (by cbv)]; cbv)

theorem unlimited_linkedOne {base : Path} (member : base ∈ [linkedOne.root, linkedRoot])
    {name : String} (looked : name ∈ [Config.configFile, "c", "c.py", "c.pyi"]) :
    ¬linkedOne.store.Limited (base.child name) := by
  have missing := place_linkedOne base member name looked
  rintro (failed | ⟨failed, _⟩)
  · cases missing.symm.trans failed
  · cases missing.symm.trans failed

/-- The one source imports one module, so that there are three look-ups behind each of the
two roots. -/
theorem looksUp_linkedOne {base path : Path} (member : base ∈ [linkedOne.root, linkedRoot])
    (looked : LooksUp (linkedOne.inRoot base) .default path) : ¬linkedOne.store.Limited path := by
  have real : Project.realRoot linkedOne.store base = .ok ⟨1, []⟩ :=
    Project.realRoot_of_finds linkedOne_wellFormed (finds_linkedOne base member)
  have rootReal : Project.realRoot linkedOne.store linkedOne.root = .ok ⟨1, []⟩ :=
    Project.realRoot_of_finds linkedOne_wellFormed (finds_linkedOne _ List.mem_cons_self)
  have walks : Project.walk linkedOne.store base [] false = .ok [⟨1, ["b.py"]⟩] := by
    rw [Project.walk_of_realRoot real, ← Project.walk_of_realRoot rootReal, walk_linkedOne]
  rcases looked with @⟨files, file, _, references, module, listed, source, read, imported, _, _, probes⟩
  cases walks.symm.trans listed
  cases List.mem_singleton.1 source
  have references : [.direct "c" none] = references := by
    have known := readReferences_linkedOne
    rw [show readReferences linkedOne.store ⟨1, ["b.py"]⟩ = .ok references from read] at known
    exact (Option.some.inj known).symm
  subst references
  have base : moduleBase module = "c" := by
    have modules : absoluteBases [.direct "c" none] = ["c"] := by cbv
    rw [modules, List.mem_singleton] at imported
    rw [imported]
    cbv
  rw [base] at probes
  cases probes with
  | package => exact unlimited_linkedOne member (by decide)
  | source => exact unlimited_linkedOne member (by decide)
  | stub => exact unlimited_linkedOne member (by decide)

/-- Through the link, the project has the same source, the same options and the same
result. -/
theorem linkedOne_independent_of_spelling :
    Project.walk linkedOne.store linkedRoot [] false = .ok [⟨1, ["b.py"]⟩] ∧
      (Config.load (.usual .unbounded) linkedOne.store linkedRoot).mapError Config.LoadFault.kind =
        (Config.load (.usual .unbounded) linkedOne.store linkedOne.root).mapError Config.LoadFault.kind ∧
      run (linkedOne.inRoot linkedRoot) .default none = run linkedOne .default none ∧
      ∀ name, Project.isNamed linkedOne.store linkedRoot name = true ↔ "" = name := by
  have inRoot : linkedOne.root ∈ [linkedOne.root, linkedRoot] := List.mem_cons_self
  have inOther : linkedRoot ∈ [linkedOne.root, linkedRoot] :=
    List.mem_cons_of_mem _ List.mem_cons_self
  have directory : ∀ base ∈ [linkedOne.root, linkedRoot],
      linkedOne.store.holds Node.isDirectory base = true := by
    intro base member
    exact Store.holds_isDirectory.2 ⟨[], (finds_linkedOne base member).placed, rfl⟩
  have resolved : ∀ base ∈ [linkedOne.root, linkedRoot],
      linkedOne.store.resolve base = .ok ⟨1, []⟩ := by
    intro base member
    exact Store.resolve_eq_ok linkedOne_wellFormed (finds_linkedOne base member).placed rfl
  have claim := run_independent_of_spelling linkedOne linkedRoot ⟨1, []⟩ .default none
    linkedOne_wellFormed (directory _ inRoot) (directory _ inOther) (resolved _ inRoot)
    (resolved _ inOther)
  rcases claim with ⟨walks, loads, runs, named⟩
  refine ⟨(walks _ _).trans walk_linkedOne, loads ?_ _, runs ?_, named _ inOther⟩
  · intro base member
    exact unlimited_linkedOne member (by decide)
  · intro base member path looked
    exact looksUp_linkedOne member looked

end Census
end ImportCensus

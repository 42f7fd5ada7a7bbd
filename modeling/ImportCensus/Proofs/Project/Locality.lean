import ImportCensus.Files.Edit
import ImportCensus.Project.Locality
import ImportCensus.Proofs.Files.Likeness
import ImportCensus.Proofs.Project.Root

namespace ImportCensus
namespace Project

/-!
# Which modules are local

A module is local if the resolved root has its name, or if one of six paths leads to what a
module may be: two directories are searched, and in each of them three paths are looked up
(`IsLocal`).  A look-up that fails finds nothing and does not keep the others from being made,
and nothing else in the store plays a part.

One thing stops the question itself: a root whose path holds a null character cannot be
resolved, and the refusal is handed on.  No such root passes the check of a scan, so within a
scan all questions are answered.
-/

open Files

/-- A directory holds a package, a source or a stub of a module's name, links followed. -/
def Provides (store : Store) (directory : Path) (module : String) : Prop :=
  store.Reaches (directory.child module) .directory ∨
    ∃ suffix ∈ sourceSuffixes, store.Reaches (directory.child (module ++ suffix)) .file

/-- The rule for local modules: the name of the root, or a look-up in the root or beside the
file that imports. -/
def IsLocal (store : Store) (root file : Path) (module : String) : Prop :=
  (∃ real, store.resolve root = .ok real ∧ real.name = module) ∨
    Provides store root module ∨ Provides store file.parent module

/-- The paths that are looked up for a module. -/
def consulted (root file : Path) (module : String) : List Path :=
  [root, file.parent].flatMap fun directory =>
    directory.child module :: sourceSuffixes.map fun suffix => directory.child (module ++ suffix)

section

variable {store other : Store} {root file directory : Path} {module : String}

theorem holds_iff_reaches {property : Node -> Bool} {kind : Kind} {path : Path}
    (isKind : ∀ node, property node = true ↔ node.kind = kind) :
    store.holds property path = true ↔ store.Reaches path kind := by
  rw [Store.holds_iff isKind, Store.reaches_iff_place]

theorem hasModule_iff : hasModule store directory module = true ↔ Provides store directory module := by
  unfold hasModule Provides
  rw [Bool.or_eq_true, List.any_eq_true, holds_iff_reaches fun _ => Node.isDirectory_iff]
  simp only [holds_iff_reaches fun _ => Node.isFile_iff]

theorem isNamed_iff : isNamed store root module = true ↔
    ∃ real, store.resolve root = .ok real ∧ real.name = module := by
  unfold isNamed
  cases store.resolve root with
  | error fault => simp
  | ok real => simp

theorem isLocal_iff : isLocal store root file module = true ↔ IsLocal store root file module := by
  unfold isLocal IsLocal
  rw [Bool.or_eq_true, Bool.or_eq_true, isNamed_iff, hasModule_iff, hasModule_iff, or_assoc]

/-- To resolve a path is refused for a null character, and only for one. -/
theorem resolve_eq_nullCharacter :
    store.resolve root = .error .nullCharacter ↔ '\x00' ∈ root.text.toList := by
  unfold Store.resolve
  rw [List.contains_eq_mem]
  by_cases null : '\x00' ∈ root.text.toList
  · rw [decide_eq_true null, if_pos rfl]
    exact ⟨fun _ => null, fun _ => rfl⟩
  · rw [decide_eq_false null, if_neg Bool.false_ne_true]
    dsimp only
    split <;> simp [null]

theorem askLocal_of_null (null : '\x00' ∈ root.text.toList) :
    askLocal store root file module = .error ⟨.nullCharacter, root⟩ := by
  unfold askLocal
  rw [resolve_eq_nullCharacter.2 null]

theorem askLocal_of_noNull (noNull : '\x00' ∉ root.text.toList) :
    askLocal store root file module = .ok (isLocal store root file module) := by
  unfold askLocal
  split
  · rename_i refused
    exact absurd (resolve_eq_nullCharacter.1 refused) noNull
  · rfl
  · rfl

/-- Stores in which the root is resolved alike, and in which the paths that are looked up lead
to the same kinds of things, agree on what is local. -/
theorem isLocal_congr (resolved : other.resolve root = store.resolve root)
    (looked : ∀ path ∈ consulted root file module, ∀ kind,
      other.Reaches path kind ↔ store.Reaches path kind) :
    isLocal other root file module = isLocal store root file module := by
  have provided : ∀ directory ∈ [root, file.parent],
      (Provides other directory module ↔ Provides store directory module) := by
    intro directory member
    have package : directory.child module ∈ consulted root file module :=
      List.mem_flatMap.2 ⟨directory, member, List.mem_cons_self⟩
    have source : ∀ suffix ∈ sourceSuffixes,
        directory.child (module ++ suffix) ∈ consulted root file module := fun suffix listed =>
      List.mem_flatMap.2
        ⟨directory, member, List.mem_cons_of_mem _ (List.mem_map_of_mem listed)⟩
    refine or_congr (looked _ package _) (exists_congr fun suffix => ?_)
    exact and_congr_right fun listed => looked _ (source suffix listed) _
  rw [Bool.eq_iff_iff, isLocal_iff, isLocal_iff]
  unfold IsLocal
  rw [resolved, provided root (by simp), provided file.parent (by simp)]

/-- They agree on the answer as well, if there is one. -/
theorem askLocal_congr (resolved : other.resolve root = store.resolve root)
    (looked : ∀ path ∈ consulted root file module, ∀ kind,
      other.Reaches path kind ↔ store.Reaches path kind) :
    askLocal other root file module = askLocal store root file module := by
  by_cases null : '\x00' ∈ root.text.toList
  · rw [askLocal_of_null null, askLocal_of_null null]
  · rw [askLocal_of_noNull null, askLocal_of_noNull null, isLocal_congr resolved looked]

/-- What is local does not depend on contents, nor on the name of the file that imports. -/
theorem askLocal_alike {twin : Path} (alike : store.Alike other) (formed : store.root.WellFormed)
    (formedOther : other.root.WellFormed) (beside : twin.parent = file.parent) :
    askLocal other root twin module = askLocal store root file module := by
  have sameFile : askLocal other root twin module = askLocal other root file module := by
    unfold askLocal isLocal
    rw [beside]
  rw [sameFile]
  exact askLocal_congr (alike.resolve_eq formed formedOther root) fun path _ => alike.reaches_iff path

end

/-- Local resolution is exact for every root without a null character in its path, whatever
the store, the file and the module: the answer is that of the rule, and it stays the same as
long as the root is resolved alike and the six look-ups lead to the same kinds of things.  For
all other roots, and for these only, there is no answer. -/
theorem askLocal_exact (store : Store) (root file : Path) (module : String) :
    (askLocal store root file module = .ok true ↔
        '\x00' ∉ root.text.toList ∧ IsLocal store root file module) ∧
      (askLocal store root file module = .ok false ↔
        '\x00' ∉ root.text.toList ∧ ¬IsLocal store root file module) ∧
      (∀ error, askLocal store root file module = .error error ↔
        '\x00' ∈ root.text.toList ∧ error = ⟨.nullCharacter, root⟩) ∧
      ∀ other : Store, other.resolve root = store.resolve root ->
        (∀ path ∈ consulted root file module, ∀ kind,
          other.Reaches path kind ↔ store.Reaches path kind) ->
        askLocal other root file module = askLocal store root file module := by
  by_cases null : '\x00' ∈ root.text.toList
  · simp [askLocal_of_null null, null, eq_comm]
  · rw [askLocal_of_noNull null]
    refine ⟨?_, ?_, ?_, ?_⟩
    · simp [null, isLocal_iff]
    · simp [null, ← isLocal_iff]
    · simp [null]
    · intro other resolved looked
      rw [askLocal_of_noNull null, isLocal_congr resolved looked]

/-- Whether a module is local cannot be told of every root: not of one with a null character in
its path, which a scan would turn down as missing. -/
theorem askLocal_refuses_null_character :
    ¬∀ store root file module, ∃ answer, askLocal store root file module = .ok answer := by
  intro answered
  rcases answered .empty (.ofText "a\x00b") (.ofText "x.py") "requests" with ⟨answer, same⟩
  rw [askLocal_of_null (by decide)] at same
  cases same

end Project
end ImportCensus

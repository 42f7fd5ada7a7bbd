import ImportCensus.Project.Locality
import ImportCensus.Proofs.Files.Entries
import ImportCensus.Proofs.Project.Order

namespace ImportCensus
namespace Project

open Files (IsEntryName Node Path Store sourceSuffixes)

/-!
# Projects in which a file is written

What a project asks of its files besides their text is asked here again after a file has
been written: where the root is, which sources there are, which patterns are in force, and
which modules are local.  The answers depend on what kinds of nodes there are, apart from
the text of the ignore file.  A file that is written over another changes none of them; a
new one can only add itself.
-/

variable {store written : Store} {place names : List String} {content : List Nat}
  {root real directory : Path} {ignore : Ignore}

/-! ## The root -/

/-- Contents have no say in the check of a root. -/
theorem checkRoot_alike {other : Store} (alike : store.Alike other) (root : Path) :
    checkRoot other root = checkRoot store root := by
  have directory : ∀ first second : Node, first.kind = second.kind ->
      first.isDirectory = second.isDirectory := by
    intro first second same
    rw [Bool.eq_iff_iff, Node.isDirectory_iff, Node.isDirectory_iff, same]
  unfold checkRoot
  rw [alike.test_eq fun _ _ _ => rfl, alike.test_eq directory]

theorem realRoot_of_finds (formed : store.root.WellFormed) (finds : store.Finds root names) :
    realRoot store root = .ok ⟨1, names⟩ := by
  rw [realRoot, Store.resolve_eq_ok formed finds.placed finds.within]

/-- The real path of a root that is a directory is the place of this directory. -/
theorem finds_of_realRoot (formed : store.root.WellFormed)
    (isDirectory : store.holds Node.isDirectory root = true)
    (resolved : realRoot store root = .ok real) :
    real = ⟨1, real.names⟩ ∧ store.Finds root real.names := by
  rcases Store.holds_isDirectory.1 isDirectory with ⟨names, placed, within⟩
  have again := realRoot_of_finds formed ⟨placed, within⟩
  rw [resolved] at again
  cases again
  exact ⟨rfl, placed, within⟩

/-- A walk lists the sources below the real root, if the patterns can be read. -/
theorem walk_of_realRoot (resolved : realRoot store root = .ok real) (exclude : List String)
    (gitignore : Bool) :
    walk store root exclude gitignore =
      (Ignore.ofOptions store real exclude gitignore).map (sourceFiles store real) := by
  unfold walk
  rw [resolved]
  rfl

theorem isNamed_written (formed : store.root.WellFormed) (alike : written.root.WellFormed)
    (writes : store.Writes place content written) (finds : store.Finds root names)
    (name : String) : isNamed written root name = isNamed store root name := by
  have after := writes.finds finds
  rw [isNamed, isNamed, Store.resolve_eq_ok formed finds.placed finds.within,
    Store.resolve_eq_ok alike after.placed after.within]

/-! ## Sources -/

/-- All names on the way to a source are names of entries. -/
theorem IsSource.entryNames (formed : store.root.WellFormed) {above : List String} {name : String}
    (source : IsSource store real ignore above name) :
    ∀ part ∈ real.names ++ above ++ [name], IsEntryName part := by
  have listed := (Node.listed_iff formed).1 source.listed
  rcases Option.ne_none_iff_exists'.1 (mt Node.kindAt_eq_none.2 listed.2) with ⟨node, stands⟩
  exact formed.isEntryName stands

/-- An entry is a source before and after, if something stands there both times or never. -/
theorem isSource_written (formed : store.root.WellFormed) (alike : written.root.WellFormed)
    (writes : store.Writes place content written) {above : List String} {name : String}
    (same : written.root.kindAt (real.names ++ above ++ [name]) = none ↔
      store.root.kindAt (real.names ++ above ++ [name]) = none) :
    IsSource written real ignore above name ↔ IsSource store real ignore above name := by
  have directory : written.root.kindAt (real.names ++ above) = some .directory ↔
      store.root.kindAt (real.names ++ above) = some .directory := writes.kindAt_iff nofun
  have itself : written.root.kindAt (real.names ++ above ++ [name]) = some .directory ↔
      store.root.kindAt (real.names ++ above ++ [name]) = some .directory := writes.kindAt_iff nofun
  have plain := writes.holds_isDirectory ⟨1, real.names ++ above ++ [name]⟩
  constructor
  · intro source
    have listed := (Node.listed_iff alike).1 source.listed
    exact ⟨⟨(Node.listed_iff formed).2 ⟨directory.1 listed.1, mt same.2 listed.2⟩, source.entered,
      mt itself.2 source.real, plain.symm.trans source.plain, source.suffixed, source.kept⟩, source.fits⟩
  · intro source
    have listed := (Node.listed_iff formed).1 source.listed
    exact ⟨⟨(Node.listed_iff alike).2 ⟨directory.2 listed.1, mt same.1 listed.2⟩, source.entered,
      mt itself.1 source.real, plain.trans source.plain, source.suffixed, source.kept⟩, source.fits⟩

/-- Another path than that of what is written is listed before and after. -/
theorem mem_sourceFiles_written (formed : store.root.WellFormed) (alike : written.root.WellFormed)
    (anchored : real.anchor = 1) (writes : store.Writes place content written) {path : Path}
    (elsewhere : path ≠ ⟨1, place⟩) :
    path ∈ sourceFiles written real ignore ↔ path ∈ sourceFiles store real ignore := by
  rw [mem_sourceFiles formed anchored, mem_sourceFiles alike anchored]
  apply exists_congr
  intro above
  apply exists_congr
  intro name
  apply and_congr_right
  rintro rfl
  apply isSource_written formed alike writes
  rw [writes.kinds _ fun same => elsewhere (by rw [same])]

/-- What is written over a file changes neither the sources nor their order. -/
theorem sourceFiles_written_over (overwrites : store.Overwrites place content written)
    (anchored : real.anchor = 1) :
    sourceFiles written real ignore = sourceFiles store real ignore := by
  have formed := overwrites.formed
  have alike := overwrites.formedAfter
  have same : ∀ names, written.root.kindAt names = none ↔ store.root.kindAt names = none := by
    intro names
    by_cases here : names = place
    · rw [here, overwrites.kindAt_after, overwrites.replaces]
    · rw [overwrites.kinds names here]
  apply sourceFiles_ext formed alike
  intro path
  rw [mem_sourceFiles formed anchored, mem_sourceFiles alike anchored]
  simp only [isSource_written formed alike overwrites.toWrites (same _)]

/-- An entry is listed if it has the suffix of a source. -/
theorem isSourceName_of_mem_sourceFiles {directory : List String} {name : String}
    (formed : store.root.WellFormed) (anchored : real.anchor = 1)
    (listed : ⟨1, directory ++ [name]⟩ ∈ sourceFiles store real ignore) :
    Files.isSourceName name = true := by
  rcases (mem_sourceFiles formed anchored).1 listed with ⟨above, other, same, source⟩
  cases (List.append_inj' (Files.Path.mk.inj same).2 rfl).2
  exact source.suffixed

/-- A new file that has not the suffix of a source is no source. -/
theorem sourceFiles_written_other {directory : List String} {name : String}
    (formed : store.root.WellFormed) (alike : written.root.WellFormed) (anchored : real.anchor = 1)
    (writes : store.Writes (directory ++ [name]) content written)
    (unsuffixed : Files.isSourceName name = false) :
    sourceFiles written real ignore = sourceFiles store real ignore := by
  have never : ∀ {store : Store}, store.root.WellFormed ->
      (⟨1, directory ++ [name]⟩ : Path) ∉ sourceFiles store real ignore := by
    intro store formed listed
    cases unsuffixed.symm.trans (isSourceName_of_mem_sourceFiles formed anchored listed)
  apply sourceFiles_ext formed alike
  intro path
  by_cases here : path = ⟨1, directory ++ [name]⟩
  · rw [here]
    exact iff_of_false (never alike) (never formed)
  · exact mem_sourceFiles_written formed alike anchored writes here

/-- Entries of the root itself are listed if they are sources. -/
theorem mem_sourceFiles_root {name : String} (formed : store.root.WellFormed)
    (anchored : real.anchor = 1) :
    ⟨1, real.names ++ [name]⟩ ∈ sourceFiles store real ignore ↔ IsSource store real ignore [] name := by
  rw [mem_sourceFiles formed anchored]
  constructor
  · rintro ⟨above, other, same, source⟩
    have names := List.append_inj' (Files.Path.mk.inj same).2 rfl
    have root : above = [] := by simpa using names.1
    cases names.2
    exact root ▸ source
  · intro source
    exact ⟨[], name, by rw [List.append_nil], source⟩

/-- A new source in the root is listed unless it is left out, together with all sources
that were listed before. -/
theorem sourceFiles_written_new {name : String} (formed : store.root.WellFormed)
    (alike : written.root.WellFormed) (anchored : real.anchor = 1)
    (writes : store.Writes (real.names ++ [name]) content written)
    (within : store.root.kindAt real.names = some .directory)
    (vacant : store.root.kindAt (real.names ++ [name]) = none)
    (fits : (⟨1, real.names⟩ : Path).Fits)
    (plain : written.holds Node.isDirectory ⟨1, real.names ++ [name]⟩ = false)
    (suffixed : Files.isSourceName name = true) :
    (sourceFiles written real ignore).Perm
      (if ignore.file [name] then sourceFiles store real ignore
        else ⟨1, real.names ++ [name]⟩ :: sourceFiles store real ignore) := by
  have directory : written.root.kindAt real.names = some .directory ↔
      store.root.kindAt real.names = some .directory := writes.kindAt_iff nofun
  have new : IsSource written real ignore [] name ↔ ignore.file [name] = false := by
    constructor
    · intro source
      exact source.kept
    · intro kept
      refine ⟨⟨(Node.listed_iff alike).2 ?_, ?_, ?_, ?_, suffixed, kept⟩, ?_⟩
      · rw [List.append_nil, writes.kindAt_after]
        exact ⟨directory.2 within, nofun⟩
      · intro front notEmpty leads
        exact absurd (List.prefix_nil.1 leads) notEmpty
      · rw [List.append_nil, writes.kindAt_after]
        exact nofun
      · rw [List.append_nil]
        exact plain
      · rw [List.append_nil]
        exact fits
  have unlisted : (⟨1, real.names ++ [name]⟩ : Path) ∉ sourceFiles store real ignore := by
    intro member
    have listed := (Node.listed_iff formed).1 ((mem_sourceFiles_root formed anchored).1 member).listed
    rw [List.append_nil] at listed
    exact listed.2 vacant
  have distinct : (if ignore.file [name] then sourceFiles store real ignore
      else ⟨1, real.names ++ [name]⟩ :: sourceFiles store real ignore).Nodup := by
    split
    · exact nodup_sourceFiles formed real ignore
    · exact List.nodup_cons.2 ⟨unlisted, nodup_sourceFiles formed real ignore⟩
  refine (List.perm_ext_iff_of_nodup (nodup_sourceFiles alike real ignore) distinct).2 ?_
  intro path
  by_cases here : path = ⟨1, real.names ++ [name]⟩
  · rw [here, mem_sourceFiles_root alike anchored, new]
    cases ignore.file [name] <;> simp [unlisted]
  · rw [mem_sourceFiles_written formed alike anchored writes here]
    split <;> simp [here]

/-! ## Patterns and modules -/

/-- The ignore file has the patterns that it had, if it is not what is written. -/
theorem ignoreFileSpec_written (writes : store.Writes place content written)
    (elsewhere : written.place (real.child ignoreFile) ≠ .ok place) :
    ignoreFileSpec written real = ignoreFileSpec store real := by
  unfold ignoreFileSpec
  dsimp only
  rcases writes.place_eq_or (real.child ignoreFile) with same | ⟨_, missing, placed | failed⟩
  · have before : store.place (real.child ignoreFile) ≠ .ok place := same ▸ elsewhere
    rw [writes.test_isFile same before, writes.content_eq same before]
  · exact absurd placed elsewhere
  · unfold Store.test
    rw [Store.node_of_error missing, Store.node_of_error failed]
    rfl

/-- With the same patterns in the ignore file, the same patterns are in force. -/
theorem ofOptions_written {exclude : List String} {gitignore : Bool}
    (same : ignoreFileSpec written real = ignoreFileSpec store real) :
    Ignore.ofOptions written real exclude gitignore = Ignore.ofOptions store real exclude gitignore := by
  unfold Ignore.ofOptions
  rw [same]

/-- A directory has a module before and after, unless what is written is new and is this
module. -/
theorem hasModule_written (writes : store.Writes place content written) {module : String}
    (elsewhere : ∀ suffix ∈ sourceSuffixes,
      written.place (directory.child (module ++ suffix)) ≠ .ok place ∨
        store.root.kindAt place = some .file) :
    hasModule written directory module = hasModule store directory module := by
  have files : (sourceSuffixes.any fun suffix =>
        written.holds Node.isFile (directory.child (module ++ suffix))) =
      sourceSuffixes.any fun suffix =>
        store.holds Node.isFile (directory.child (module ++ suffix)) := by
    rw [Bool.eq_iff_iff, List.any_eq_true, List.any_eq_true]
    apply exists_congr
    intro suffix
    apply and_congr_right
    intro member
    rw [writes.holds_isFile (elsewhere suffix member)]
  rw [hasModule, hasModule, writes.holds_isDirectory, files]

end Project
end ImportCensus

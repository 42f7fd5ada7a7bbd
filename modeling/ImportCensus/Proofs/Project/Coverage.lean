import ImportCensus.Proofs.Files.Fitting
import ImportCensus.Proofs.Project.Walk
import ImportCensus.Proofs.Sequence
import Mathlib

namespace ImportCensus
namespace Project

open Files (Node Path Store)

/-!
# What a walk covers

The files that a walk lists are described here by the store alone: an entry of a
directory that is reached from the root through real directories, none of which is
left out, which is no directory itself and has the suffix of a source.  `Eligible`
says so with one field for each of these conditions.  Links enter into it in two
places: no directory is reached through a link, since a row of names leads through
directories only, but whether an entry is a directory is asked with links followed.

An eligible file is listed if the path of its directory is not too long to be looked
up (`IsSource`).  Where it is too long, nothing below the directory is found.
-/

variable {store : Store} {root real : Path} {ignore : Ignore}

/-! ## Source files below a real root -/

/-- A real root is given by its names from the root directory on. -/
theorem anchor_realRoot (resolved : realRoot store root = .ok real) : real.anchor = 1 := by
  unfold realRoot at resolved
  split at resolved
  · rename_i path found
    cases resolved
    unfold Store.resolve at found
    split at found
    · cases found
    · dsimp only at found
      split at found
      · cases found
      · cases found
        rfl
  · cases resolved
  · cases resolved

/-- Which of its files a walk leaves out can be told from their places. -/
theorem sourceFiles_eq_filter (store : Store) (root : Path) (ignore : Ignore) :
    sourceFiles store root ignore =
      (sourceFiles store root .nothing).filter fun path =>
        ignore.admits [] (path.names.drop root.names.length) := by
  unfold sourceFiles
  cases store.root.at? root.names with
  | none => rfl
  | some node =>
      dsimp only
      rw [walkNode_eq_filter, List.filter_map]
      apply congrArg
      apply List.filter_congr
      intro place _
      simp

theorem nodup_sourceFiles (formed : store.root.WellFormed) (root : Path) (ignore : Ignore) :
    (sourceFiles store root ignore).Nodup := by
  unfold sourceFiles
  cases found : store.root.at? root.names with
  | none => exact List.nodup_nil
  | some node =>
      rw [List.Nodup, List.pairwise_map]
      refine (nodup_walkNode node [] (formed.at? found)).imp ?_
      intro first second other same
      exact other (List.append_cancel_left (Files.Path.mk.inj same).2)

/-- A file that a scan should look at, by its place below a root: the names of the
directories above it, and its own name. -/
structure Eligible (store : Store) (root : Path) (ignore : Ignore) (above : List String)
    (name : String) : Prop where
  /-- It is an entry of a directory that is reached through directories alone. -/
  listed : ∃ entries child, store.root.at? (root.names ++ above) = some (.directory entries) ∧
    (name, child) ∈ entries
  /-- No directory on the way is that of the version control, and none is left out. -/
  entered : ∀ front, front ≠ [] -> front <+: above ->
    front.getLast? ≠ some controlDirectory ∧ ignore.directory front = false
  /-- It is no directory, -/
  real : store.root.kindAt (root.names ++ above ++ [name]) ≠ some .directory
  /-- and no link that leads to one. -/
  plain : store.holds Node.isDirectory ⟨1, root.names ++ above ++ [name]⟩ = false
  suffixed : Files.isSourceName name = true
  kept : ignore.file (above ++ [name]) = false

/-- A file that a walk lists. -/
structure IsSource (store : Store) (root : Path) (ignore : Ignore) (above : List String)
    (name : String) : Prop extends Eligible store root ignore above name where
  /-- The directory that holds the file can be looked up. -/
  fits : (⟨1, root.names ++ above⟩ : Path).Fits

/-- No name of a row ends any of its beginnings. -/
theorem forall_prefix_getLast?_ne {α : Type} {value : α} {values : List α} :
    (∀ front, front ≠ [] -> front <+: values -> front.getLast? ≠ some value) ↔ value ∉ values := by
  constructor
  · intro none member
    rcases List.append_of_mem member with ⟨front, behind, rfl⟩
    refine none (front ++ [value]) (by simp) ⟨behind, by simp⟩ (by simp)
  · intro absent front _ leads last
    exact absent (leads.mem (List.mem_of_getLast? last))

/-- What a walk finds below a root: entries that are reached, are sources, and are kept
together with all directories above them. -/
theorem mem_walkNode_root {isDirectory : List String -> Bool} {node : Node}
    (formed : node.WellFormed) {place : List String} :
    place ∈ walkNode isDirectory ignore [] node ↔
      ∃ above name child, place = above ++ [name] ∧ Reaches isDirectory [] node above name child ∧
        countsAsDirectory isDirectory (above ++ [name]) child = false ∧
        Files.isSourceName name = true ∧ ignore.file (above ++ [name]) = false ∧
        ∀ front, front ≠ [] -> front <+: above -> ignore.directory front = false := by
  rw [walkNode_eq_filter, List.mem_filter]
  have found : place ∈ walkNode isDirectory .nothing [] node ↔
      ∃ above name child, place = above ++ [name] ∧ Reaches isDirectory [] node above name child ∧
        countsAsDirectory isDirectory place child = false ∧ Files.isSourceName name = true :=
    mem_walkNode_nothing formed
  rw [found]
  constructor
  · rintro ⟨⟨above, name, child, rfl, reached, plain, suffixed⟩, admitted⟩
    exact ⟨above, name, child, rfl, reached, plain, suffixed,
      by simpa using Ignore.admits_iff.1 admitted⟩
  · rintro ⟨above, name, child, rfl, reached, plain, suffixed, kept⟩
    exact ⟨⟨above, name, child, rfl, reached, plain, suffixed⟩,
      Ignore.admits_iff.2 (by simpa using kept)⟩

/-- An entry does not count as a directory if it is none, and no link to one. -/
theorem countsAsDirectory_eq_false {isDirectory : List String -> Bool} {place row : List String}
    {name : String} {child : Node} (formed : store.root.WellFormed)
    (asked : isDirectory place = store.holds Node.isDirectory ⟨1, row ++ [name]⟩)
    (within : store.root.kindAt row = some .directory)
    (stands : store.root.at? (row ++ [name]) = some child) :
    countsAsDirectory isDirectory place child = false ↔
      store.root.kindAt (row ++ [name]) ≠ some .directory ∧
        store.holds Node.isDirectory ⟨1, row ++ [name]⟩ = false := by
  have proper : ∀ other ∈ row ++ [name], other ≠ ".." :=
    fun other member => (formed.isEntryName stands other member).notAbove
  have kind : store.root.kindAt (row ++ [name]) = some child.kind := congrArg (Option.map _) stands
  rw [kind]
  cases child with
  | directory entries => exact iff_of_false nofun fun both => both.1 rfl
  | link target => exact ⟨fun none => ⟨nofun, asked ▸ none⟩, fun both => asked.trans both.2⟩
  | file content =>
      exact iff_of_true rfl ⟨nofun, Store.holds_isDirectory_of_file proper within kind⟩

/-- A source is an entry that is reached below the root in the way a walk goes. -/
theorem isSource_iff {node : Node} {above : List String} {name : String}
    (formed : store.root.WellFormed) (found : store.root.at? real.names = some node) :
    let isDirectory (place : List String) : Bool :=
      store.holds Node.isDirectory ⟨1, real.names ++ place⟩
    IsSource store real ignore above name ↔
      ∃ child, Reaches isDirectory [] node above name child ∧
        countsAsDirectory isDirectory (above ++ [name]) child = false ∧
        Files.isSourceName name = true ∧ ignore.file (above ++ [name]) = false ∧
        ∀ front, front ≠ [] -> front <+: above -> ignore.directory front = false := by
  intro isDirectory
  have below : store.root.at? (real.names ++ above) = node.at? above := by
    rw [Node.at?_append, found]
    rfl
  have asked : isDirectory (above ++ [name]) =
      store.holds Node.isDirectory ⟨1, real.names ++ above ++ [name]⟩ :=
    congrArg (fun names => store.holds Node.isDirectory ⟨1, names⟩) (List.append_assoc ..).symm
  have stands : ∀ {entries child}, store.root.at? (real.names ++ above) = some (.directory entries) ->
      (name, child) ∈ entries -> store.root.at? (real.names ++ above ++ [name]) = some child := by
    intro entries child listed member
    rw [Node.at?_snoc listed]
    exact (Node.named?_eq_some (formed.at? listed).1).2 member
  constructor
  · intro source
    rcases source.listed with ⟨entries, child, listed, member⟩
    have directory := Node.kindAt_eq_directory.2 ⟨entries, listed⟩
    refine ⟨child, ⟨?_, ?_, entries, below.symm.trans listed, member⟩, ?_, source.suffixed,
      source.kept, fun front notEmpty leads => (source.entered front notEmpty leads).2⟩
    · exact forall_prefix_getLast?_ne.1 fun front notEmpty leads =>
        (source.entered front notEmpty leads).1
    · exact (Store.holds_isDirectory_on_way formed directory).2 source.fits
    · exact (countsAsDirectory_eq_false formed asked directory (stands listed member)).2
        ⟨source.real, source.plain⟩
  · rintro ⟨child, ⟨control, onWay, entries, within, member⟩, plain, suffixed, kept, entered⟩
    have listed := below.trans within
    have directory := Node.kindAt_eq_directory.2 ⟨entries, listed⟩
    have none := (countsAsDirectory_eq_false formed asked directory (stands listed member)).1 plain
    refine ⟨⟨⟨entries, child, listed, member⟩, ?_, none.1, none.2, suffixed, kept⟩, ?_⟩
    · intro front notEmpty leads
      exact ⟨forall_prefix_getLast?_ne.2 control front notEmpty leads, entered front notEmpty leads⟩
    · exact (Store.holds_isDirectory_on_way formed directory).1 onWay

theorem mem_sourceFiles (formed : store.root.WellFormed) (anchored : real.anchor = 1)
    {path : Path} :
    path ∈ sourceFiles store real ignore ↔
      ∃ above name, path = ⟨1, real.names ++ above ++ [name]⟩ ∧
        IsSource store real ignore above name := by
  unfold sourceFiles
  cases found : store.root.at? real.names with
  | none =>
      refine ⟨nofun, ?_⟩
      rintro ⟨above, name, _, source⟩
      rcases source.listed with ⟨entries, child, listed, _⟩
      rw [Node.at?_append, found] at listed
      cases listed
  | some node =>
      rw [List.mem_map]
      constructor
      · rintro ⟨place, member, rfl⟩
        rcases (mem_walkNode_root (formed.at? found)).1 member with ⟨above, name, child, rfl, facts⟩
        exact ⟨above, name, by rw [anchored, List.append_assoc],
          (isSource_iff formed found).2 ⟨child, facts⟩⟩
      · rintro ⟨above, name, rfl, source⟩
        rcases (isSource_iff formed found).1 source with ⟨child, facts⟩
        exact ⟨above ++ [name],
          (mem_walkNode_root (formed.at? found)).2 ⟨above, name, child, rfl, facts⟩,
          by rw [anchored, List.append_assoc]⟩

/-! ## The walk of a project -/

/-- What a walk lists is found below the real root. -/
theorem of_walk_eq_ok {exclude : List String} {gitignore : Bool} {files : List Path}
    (walked : walk store root exclude gitignore = .ok files) :
    ∃ real ignore, realRoot store root = .ok real ∧ sourceFiles store real ignore = files := by
  unfold walk at walked
  rcases bind_eq_ok.1 walked with ⟨real, resolved, walked⟩
  rcases bind_eq_ok.1 walked with ⟨ignore, _, same⟩
  cases same
  exact ⟨real, ignore, resolved, rfl⟩

/-- The patterns of the ignore file, where they are asked for. -/
def activeIgnoreSpec (store : Store) (real : Path) (gitignore : Bool) :
    Except ProjectError (Option Glob.Spec) :=
  if gitignore then ignoreFileSpec store real else .ok none

/-- An ignore file that can be opened is read line by line. -/
theorem ignoreFileSpec_eq {content : List Nat}
    (opened : store.content (real.child ignoreFile) = .ok content) :
    ignoreFileSpec store real = readPatterns (ignoreLines content) := by
  unfold ignoreFileSpec
  dsimp only
  rw [Store.isFile_of_content opened, opened]

/-- A walk fails where the patterns of an active ignore file cannot be read, and lists the
source files below the real root otherwise. -/
theorem walk_eq {exclude : List String} {gitignore : Bool} {excluded : Option Glob.Spec}
    (resolved : realRoot store root = .ok real)
    (compiles : readPatterns (exclude.map String.toList) = .ok excluded) :
    walk store root exclude gitignore =
      (activeIgnoreSpec store real gitignore).map fun ignored =>
        sourceFiles store real ⟨excluded.toList ++ ignored.toList⟩ := by
  unfold walk Ignore.ofOptions activeIgnoreSpec
  rw [resolved, compiles]
  cases gitignore with
  | false => rfl
  | true =>
      cases ignored : ignoreFileSpec store real with
      | error error => simp [bind, Except.bind, Except.map, ignored]
      | ok spec => simp [bind, Except.bind, Except.map, pure, Except.pure, ignored]

/-- A walk lists every source file of a project once and nothing else, whatever links the
project holds: it lists the entries of directories which are reached from the real root
through directories alone, are no directories with links followed, have the suffix of a
source, and are left out by neither list of patterns, nor are the directories above
them; and the path of the directory that holds them can be looked up.  All of them lie
below the real root. -/
theorem walk_lists_exactly_sources (store : Store) (root real : Path) (exclude : List String)
    (gitignore : Bool) (excluded : Option Glob.Spec) (formed : store.root.WellFormed)
    (resolved : realRoot store root = .ok real)
    (compiles : readPatterns (exclude.map String.toList) = .ok excluded) :
    (∀ error, activeIgnoreSpec store real gitignore = .error error ->
        walk store root exclude gitignore = .error error) ∧
      ∀ ignored, activeIgnoreSpec store real gitignore = .ok ignored ->
        ∃ files, walk store root exclude gitignore = .ok files ∧ files.Nodup ∧
          (∀ path, path ∈ files ↔ ∃ above name, path = ⟨1, real.names ++ above ++ [name]⟩ ∧
            IsSource store real ⟨excluded.toList ++ ignored.toList⟩ above name) ∧
          ∀ path ∈ files, path.anchor = real.anchor ∧ real.names <+: path.names ∧ path ≠ real := by
  rw [walk_eq resolved compiles]
  have anchored := anchor_realRoot resolved
  refine ⟨fun error failed => by rw [failed]; rfl, ?_⟩
  intro ignored active
  rw [active]
  refine ⟨_, rfl, nodup_sourceFiles formed _ _, fun path => mem_sourceFiles formed anchored, ?_⟩
  intro path member
  rcases (mem_sourceFiles formed anchored).1 member with ⟨above, name, rfl, _⟩
  refine ⟨anchored.symm, ⟨above ++ [name], (List.append_assoc _ _ _).symm⟩, ?_⟩
  intro same
  have length := congrArg (fun path : Path => path.names.length) same
  simp at length

/-- A project with a directory that is ignored, a directory of the version control, a link
to a directory under the name of a source, a link that leads nowhere, and one that leads
to itself. -/
def tangled : Store where
  root := .directory [("p", .directory
    [(".gitignore", .file [115, 107, 105, 112, 47]),
      (".git", .directory [("a.py", .file [])]),
      ("skip", .directory [("b.py", .file [])]),
      ("sub", .directory [("c.PYI", .file []), ("loop.py", .link "loop.py")]),
      ("sub.py", .link "sub"),
      ("gone.py", .link "nowhere")])]
  working := []

theorem tangled_wellFormed : tangled.root.WellFormed := by
  simp only [tangled, Node.WellFormed, Node.AllWellFormed, List.map]
  decide

theorem realRoot_tangled : realRoot tangled ⟨1, ["p"]⟩ = .ok ⟨1, ["p"]⟩ := by cbv

/-- The pattern for what lies in a directory called `skip`. -/
def belowSkip : Glob.Pattern :=
  ⟨false, .path [.anyDepth, .glob [.char 's', .char 'k', .char 'i', .char 'p'], .anyDepth]⟩

theorem content_tangled :
    tangled.content ((⟨1, ["p"]⟩ : Path).child ignoreFile) = .ok [115, 107, 105, 112, 47] := by
  have path : (⟨1, ["p"]⟩ : Path).child ignoreFile = ⟨1, ["p", ".gitignore"]⟩ := by cbv
  have place : tangled.place ⟨1, ["p", ".gitignore"]⟩ = .ok ["p", ".gitignore"] := by
    rw [Store.place_eq_follow (by cbv) (by cbv)]
    cbv
  rw [path, Store.content, Store.node, place]
  cbv

theorem ignoreLines_tangled : ignoreLines [115, 107, 105, 112, 47] = ["skip/".toList] := by cbv

theorem activeIgnoreSpec_tangled :
    activeIgnoreSpec tangled ⟨1, ["p"]⟩ true = .ok (some [belowSkip]) := by
  rw [activeIgnoreSpec, if_pos rfl, ignoreFileSpec_eq content_tangled, ignoreLines_tangled]
  cbv

/-- The link that leads nowhere is listed, and nothing in the ignored directory is. -/
theorem tangled_lists_exactly_sources :
    ∃ files, walk tangled ⟨1, ["p"]⟩ [] true = .ok files ∧ files.Nodup ∧
      ⟨1, ["p", "gone.py"]⟩ ∈ files ∧ ⟨1, ["p", "skip", "b.py"]⟩ ∉ files := by
  have claim := walk_lists_exactly_sources tangled ⟨1, ["p"]⟩ ⟨1, ["p"]⟩ [] true none
    tangled_wellFormed realRoot_tangled rfl
  rcases claim.2 _ activeIgnoreSpec_tangled with ⟨files, walks, distinct, lists, _⟩
  refine ⟨files, walks, distinct, (lists _).2 ⟨[], "gone.py", rfl, ?_⟩, ?_⟩
  · have place : tangled.place ⟨1, ["p", "gone.py"]⟩ = .error .missing := by
      rw [Store.place_eq_follow (by cbv) (by cbv)]
      cbv
    refine ⟨⟨⟨_, _, rfl, List.mem_of_getElem? (i := 5) rfl⟩, ?_, by decide, ?_, by cbv, by cbv⟩,
      by decide +kernel⟩
    · intro front notEmpty leads
      exact absurd (List.prefix_nil.1 leads) notEmpty
    · show tangled.holds Node.isDirectory ⟨1, ["p", "gone.py"]⟩ = false
      rw [Store.holds, Store.node, place]
      rfl
  · intro member
    rcases (lists _).1 member with ⟨above, name, same, source⟩
    have places : ["p", "skip"] ++ ["b.py"] = (["p"] ++ above) ++ [name] := (Files.Path.mk.inj same).2
    have within : ["p"] ++ ["skip"] = ["p"] ++ above := (List.append_inj' places rfl).1
    have above_eq : ["skip"] = above := List.append_cancel_left within
    subst above_eq
    have entered := (source.entered ["skip"] (List.cons_ne_nil _ _) List.prefix_rfl).2
    have left : Ignore.directory ⟨[[belowSkip]]⟩ ["skip"] = true := by cbv
    cases left.symm.trans entered

/-! ## Directories whose paths are too long -/

/-- A node within directories that all have one name. -/
def nested (name : String) : Nat -> Node -> Node
  | 0, node => node
  | count + 1, node => .directory [(name, nested name count node)]

theorem at?_nested (name : String) (count : Nat) (node : Node) :
    (nested name count node).at? (List.replicate count name) = some node := by
  induction count with
  | zero => rfl
  | succ count ih =>
      rw [List.replicate_succ, nested, Node.at?, Node.named?, if_pos rfl]
      exact ih

theorem nested_wellFormed {name : String} (entry : Files.IsEntryName name) {node : Node}
    (formed : node.WellFormed) (count : Nat) : (nested name count node).WellFormed := by
  induction count with
  | zero => exact formed
  | succ count ih => exact ⟨List.nodup_singleton _, entry, ih, trivial⟩

/-- A name that may stand in a directory, but not seventeen times in one path. -/
def longName : String := String.ofList (List.replicate 250 'd')

theorem utf8ByteSize_longName : longName.utf8ByteSize = 250 := Files.utf8ByteSize_replicate rfl 250

theorem longName_ne {name : String} (other : name.utf8ByteSize ≠ 250) : longName ≠ name := by
  rintro rfl
  exact other utf8ByteSize_longName

theorem isEntryName_longName : Files.IsEntryName longName where
  notEmpty := longName_ne (by decide)
  notHere := longName_ne (by decide)
  notAbove := longName_ne (by decide)
  single := fun slash => absurd (Files.eq_of_mem_replicate slash) (by decide)

/-- A project with one source, so deep that the path of its directory is too long. -/
def deepest : Store where
  root := nested longName 17 (.directory [("x.py", .file [])])
  working := []

theorem deepest_wellFormed : deepest.root.WellFormed := by
  have source : Files.IsEntryName "x.py" := by decide
  have inner : (Node.directory [("x.py", .file [])]).WellFormed :=
    ⟨List.nodup_singleton _, source, trivial, trivial⟩
  exact nested_wellFormed isEntryName_longName inner 17

theorem realRoot_deepest : realRoot deepest ⟨1, []⟩ = .ok ⟨1, []⟩ := by
  have place : deepest.place ⟨1, []⟩ = .ok [] := by
    rw [Store.place_eq_follow (by cbv) (by cbv)]
    exact Files.follow_nil
  have within : deepest.root.kindAt [] = some .directory := by
    rw [Node.kindAt_eq_directory, deepest, nested]
    exact ⟨_, rfl⟩
  unfold realRoot
  rw [Store.resolve_eq_ok deepest_wellFormed place within]

theorem deepest_too_long : ¬(⟨1, List.replicate 17 longName⟩ : Path).Fits := by
  intro fits
  have short := fits.short
  have whole := Files.sum_utf8ByteSize_le (List.replicate 17 longName)
  have limit : Files.longestPath = 4095 := rfl
  rw [List.map_replicate, utf8ByteSize_longName, List.sum_replicate_nat] at whole
  rw [Files.Path.text_anchored, String.utf8ByteSize_append, limit] at short
  generalize ("/".intercalate (List.replicate 17 longName)).utf8ByteSize = total at short whole
  omega

/-- The source is one as far as the tree tells. -/
theorem eligible_deepest :
    Eligible deepest ⟨1, []⟩ ⟨[]⟩ (List.replicate 17 longName) "x.py" := by
  have found : deepest.root.at? (List.replicate 17 longName) =
      some (.directory [("x.py", .file [])]) := at?_nested longName 17 _
  have stands : deepest.root.at? (List.replicate 17 longName ++ ["x.py"]) = some (.file []) := by
    rw [Node.at?_snoc found]
    rfl
  have proper : ∀ name ∈ List.replicate 17 longName ++ ["x.py"], name ≠ ".." :=
    fun name member => (deepest_wellFormed.isEntryName stands name member).notAbove
  have within : deepest.root.kindAt (List.replicate 17 longName) = some .directory :=
    Node.kindAt_eq_directory.2 ⟨_, found⟩
  have kind : deepest.root.kindAt (List.replicate 17 longName ++ ["x.py"]) = some .file :=
    congrArg (Option.map _) stands
  refine ⟨⟨_, _, found, List.mem_cons_self⟩, ?_, ?_, ?_, by cbv, rfl⟩
  · intro front notEmpty leads
    refine ⟨?_, rfl⟩
    intro last
    have member := leads.mem (List.mem_of_getLast? last)
    have other : longName ≠ controlDirectory := longName_ne (by decide)
    exact other (List.eq_of_mem_replicate member).symm
  · show deepest.root.kindAt (List.replicate 17 longName ++ ["x.py"]) ≠ some .directory
    rw [kind]
    nofun
  · exact Store.holds_isDirectory_of_file proper within kind

/-- Not every file that is one as far as the tree tells is listed: nothing is found in a
directory whose path is too long. -/
theorem deepest_not_listed :
    ¬∀ (store : Store) (root real : Path) (exclude : List String) (gitignore : Bool)
      (excluded ignored : Option Glob.Spec), store.root.WellFormed ->
      realRoot store root = .ok real -> readPatterns (exclude.map String.toList) = .ok excluded ->
      activeIgnoreSpec store real gitignore = .ok ignored ->
      ∃ files, walk store root exclude gitignore = .ok files ∧
        ∀ path, path ∈ files ↔ ∃ above name, path = ⟨1, real.names ++ above ++ [name]⟩ ∧
          Eligible store real ⟨excluded.toList ++ ignored.toList⟩ above name := by
  intro claim
  have compiles : readPatterns ([].map String.toList) = .ok none := rfl
  rcases claim deepest ⟨1, []⟩ ⟨1, []⟩ [] false none none deepest_wellFormed realRoot_deepest
    compiles rfl with ⟨files, walks, lists⟩
  have listed := (lists _).2 ⟨_, _, rfl, eligible_deepest⟩
  have anchored : (⟨1, []⟩ : Path).anchor = 1 := rfl
  rw [walk_eq realRoot_deepest compiles] at walks
  cases walks
  rcases (mem_sourceFiles deepest_wellFormed anchored).1 listed with ⟨above, name, same, source⟩
  have places : List.replicate 17 longName ++ ["x.py"] = above ++ [name] :=
    (Files.Path.mk.inj same).2
  rw [← (List.append_inj' places rfl).1] at source
  exact deepest_too_long source.fits

end Project
end ImportCensus

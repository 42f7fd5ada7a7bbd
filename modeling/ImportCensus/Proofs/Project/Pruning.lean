import ImportCensus.Proofs.Glob.Below
import ImportCensus.Proofs.Project.Coverage

namespace ImportCensus
namespace Project

open Files (IsEntryName Node Path Store)

/-!
# Pruning

A walk leaves out a file if its own path is selected, or the path of a directory above
it.  For patterns that keep their verdict and are closed the second adds nothing: what
matches a directory matches all below it (`Glob.Shape.matches_append`), so that pruning
only saves work.  It does more for a pattern that ends with a set which takes the slash
behind the name of a directory.
-/

variable {store : Store} {root real : Path}

/-! ## Paths with slashes -/

/-- The path of a file goes on behind the slash of each directory above it. -/
theorem slashed_append {front : List String} (filled : front ≠ []) (name : String)
    (rest : List String) :
    Ignore.slashed (front ++ name :: rest) =
      (Ignore.slashed front ++ ['/']) ++ Ignore.slashed (name :: rest) := by
  unfold Ignore.slashed
  induction front with
  | nil => exact absurd rfl filled
  | cons first front ih =>
      cases front with
      | nil => simp
      | cons second front =>
          have later := ih nofun
          rw [List.cons_append] at later
          rw [List.cons_append, List.cons_append, String.intercalate_cons_cons,
            String.intercalate_cons_cons, String.toList_append, String.toList_append, later]
          simp

/-- The name of an entry does not look like a path that begins at the root. -/
theorem relative_entry {name : String} (entry : IsEntryName name) (behind : List Char) :
    Glob.relative (name.toList ++ behind) = name.toList ++ behind := by
  have single := entry.single
  have notEmpty : name.toList ≠ [] := fun none => entry.notEmpty (String.toList_inj.1 none)
  have notHere : name.toList ≠ ['.'] := fun dot => entry.notHere (String.toList_inj.1 dot)
  unfold Glob.relative
  cases characters : name.toList with
  | nil => exact absurd characters notEmpty
  | cons c rest =>
      rw [characters] at single notHere
      split
      · rename_i same
        cases same
        exact absurd List.mem_cons_self single
      · rename_i same
        cases rest with
        | nil =>
            cases same
            exact absurd rfl notHere
        | cons d rest =>
            cases same
            exact absurd (List.mem_cons_of_mem _ List.mem_cons_self) single
      · rfl

/-- The paths that a walk asks about are relative. -/
theorem relative_slashed {names : List String} (entries : ∀ name ∈ names, IsEntryName name)
    (filled : names ≠ []) (behind : List Char) :
    Glob.relative (Ignore.slashed names ++ behind) = Ignore.slashed names ++ behind := by
  cases names with
  | nil => exact absurd rfl filled
  | cons first rest =>
      have front : ∃ more, Ignore.slashed (first :: rest) = first.toList ++ more := by
        cases rest with
        | nil => exact ⟨[], by simp [Ignore.slashed]⟩
        | cons second rest => exact ⟨_, by simp [Ignore.slashed]; rfl⟩
      rcases front with ⟨more, parted⟩
      rw [parted, List.append_assoc, relative_entry (entries first List.mem_cons_self)]

/-! ## Closed patterns that keep their verdict -/

/-- A directory is selected only if all files below it are. -/
theorem selects_below {spec : Glob.Spec} (positive : ∀ pattern ∈ spec, pattern.negated = false)
    (closed : ∀ pattern ∈ spec, pattern.shape.Closed) {front : List String} {name : String}
    {rest : List String} (filled : front ≠ [])
    (entries : ∀ entry ∈ front ++ name :: rest, IsEntryName entry)
    (selected : spec.selects (Ignore.slashed front ++ ['/']) = true) :
    spec.selects (Ignore.slashed (front ++ name :: rest)) = true := by
  have whole := relative_slashed entries (by simp) []
  have directory := relative_slashed
    (fun entry member => entries entry (List.mem_append_left _ member)) filled ['/']
  rw [List.append_nil] at whole
  rw [Glob.Spec.selects_positive positive, directory, List.any_eq_true] at selected
  rw [Glob.Spec.selects_positive positive, whole, List.any_eq_true]
  rcases selected with ⟨pattern, member, holds⟩
  refine ⟨pattern, member, ?_⟩
  rw [slashed_append filled]
  exact Glob.Shape.matches_append (closed pattern member) (by simp) _ holds

/-- A file is admitted if it is not selected itself. -/
theorem admits_eq_not_selects {spec : Glob.Spec}
    (positive : ∀ pattern ∈ spec, pattern.negated = false)
    (closed : ∀ pattern ∈ spec, pattern.shape.Closed) {above : List String} {name : String}
    (entries : ∀ entry ∈ above ++ [name], IsEntryName entry) :
    Ignore.admits ⟨[spec]⟩ [] (above ++ [name]) =
      !spec.selects (Ignore.slashed (above ++ [name])) := by
  have alone : ∀ path, Ignore.selects ⟨[spec]⟩ path = spec.selects path := by
    intro path
    simp [Ignore.selects]
  rw [Bool.eq_iff_iff, Ignore.admits_iff, Ignore.file, alone, List.nil_append, Bool.not_eq_true']
  constructor
  · exact fun admitted => admitted.1
  · intro kept
    refine ⟨kept, ?_⟩
    rintro front filled ⟨behind, rfl⟩
    rw [List.nil_append, Ignore.directory, alone, Bool.eq_false_iff]
    intro selected
    have more : ∃ next rest, behind ++ [name] = next :: rest := by cases behind <;> simp
    rcases more with ⟨next, rest, parted⟩
    rw [List.append_assoc, parted] at kept entries
    cases kept.symm.trans (selects_below positive closed filled entries selected)

/-- The patterns of a project are read from its lines. -/
theorem of_mem_readPatterns {lines : List (List Char)} {spec : Glob.Spec}
    (compiles : readPatterns lines = .ok (some spec)) {pattern : Glob.Pattern}
    (member : pattern ∈ spec) :
    ∃ line ∈ lines, Glob.Pattern.read (Text.trim line) = .ok pattern := by
  have reads : Glob.Spec.ofLines lines = .ok (some spec) := by
    unfold readPatterns at compiles
    split at compiles
    · rename_i found
      cases compiles
      exact found
    · cases compiles
  rcases Glob.Spec.of_mem_ofLines reads member with ⟨line, meant, read⟩
  rcases List.mem_map.1 (List.mem_filter.1 meant).1 with ⟨raw, stands, rfl⟩
  exact ⟨raw, stands, read⟩

/-- Where a source stands, all names below the root are names of entries. -/
theorem IsSource.isEntryName {ignore : Ignore} {above : List String} {name : String}
    (source : IsSource store real ignore above name) (formed : store.root.WellFormed) :
    ∀ entry ∈ above ++ [name], IsEntryName entry := by
  rcases source.listed with ⟨entries, child, found, member⟩
  have inside := formed.at? found
  rw [Node.WellFormed, Node.allWellFormed_iff] at inside
  intro entry stands
  rcases List.mem_append.1 stands with higher | last
  · exact formed.isEntryName found entry (List.mem_append_right _ higher)
  · cases List.mem_singleton.1 last
    exact (inside.2 _ member).1

/-- Pruning is an optimisation.  For exclude patterns none of which turns its verdict
around, and none of which ends with a set that admits a slash, a walk lists what the walk
without patterns lists, less the paths that are selected themselves. -/
theorem walk_drops_only_selected (store : Store) (root real : Path) (exclude : List String)
    (excluded : Option Glob.Spec) (formed : store.root.WellFormed)
    (resolved : realRoot store root = .ok real)
    (compiles : readPatterns (exclude.map String.toList) = .ok excluded)
    (positive : ∀ pattern ∈ exclude, (Text.trim pattern.toList).head? ≠ some '!')
    (noSet : ∀ pattern ∈ excluded.getD [], ∀ piece, pattern.shape.lastPiece? = some piece ->
      piece.admitsSlash = false) :
    ∃ all, walk store root [] false = .ok all ∧
      walk store root exclude false = .ok (all.filter fun path =>
        !(excluded.getD []).selects (Ignore.slashed (path.names.drop real.names.length))) := by
  have plain : readPatterns (([] : List String).map String.toList) = .ok none := rfl
  have passive : activeIgnoreSpec store real false = .ok none := rfl
  rw [walk_eq resolved plain, walk_eq resolved compiles, passive]
  refine ⟨sourceFiles store real .nothing, rfl, congrArg Except.ok ?_⟩
  cases excluded with
  | none =>
      symm
      apply List.filter_eq_self.2
      intro path _
      rfl
  | some spec =>
      have marks : ∀ pattern ∈ spec, pattern.negated = false := by
        intro pattern member
        rcases of_mem_readPatterns compiles member with ⟨line, stands, read⟩
        rcases List.mem_map.1 stands with ⟨text, given, rfl⟩
        exact Glob.Pattern.negated_of_read read (positive text given)
      have closed : ∀ pattern ∈ spec, pattern.shape.Closed := by
        intro pattern member
        rcases of_mem_readPatterns compiles member with ⟨line, _, read⟩
        exact Glob.Pattern.closed_of_read read (noSet pattern member)
      show sourceFiles store real ⟨[spec]⟩ = _
      rw [sourceFiles_eq_filter]
      apply List.filter_congr
      intro path member
      rcases (mem_sourceFiles formed (anchor_realRoot resolved)).1 member with
        ⟨above, name, rfl, source⟩
      rw [List.append_assoc, List.drop_left]
      exact admits_eq_not_selects marks closed (source.isEntryName formed)

/-- A project with one source in one directory. -/
def sheltered : Store where
  root := .directory [("p", .directory [("dir", .directory [("x.py", .file [])])])]
  working := []

theorem sheltered_wellFormed : sheltered.root.WellFormed := by
  simp only [sheltered, Node.WellFormed, Node.AllWellFormed, List.map]
  decide

theorem realRoot_sheltered : realRoot sheltered ⟨1, ["p"]⟩ = .ok ⟨1, ["p"]⟩ := by cbv

/-- The source is found where no pattern leaves out its directory or itself. -/
theorem isSource_sheltered {ignore : Ignore} (kept : ignore.file ["dir", "x.py"] = false)
    (entered : ignore.directory ["dir"] = false) :
    IsSource sheltered ⟨1, ["p"]⟩ ignore ["dir"] "x.py" := by
  refine ⟨⟨⟨_, _, rfl, List.mem_cons_self⟩, ?_, by decide, ?_, by cbv, kept⟩, by decide +kernel⟩
  · intro front filled leads
    have whole : front = ["dir"] := by
      rcases List.prefix_cons_iff.1 leads with rfl | ⟨rest, rfl, none⟩
      · exact absurd rfl filled
      · rw [List.prefix_nil.1 none]
    subst whole
    exact ⟨by simp [controlDirectory], entered⟩
  · have place : sheltered.place ⟨1, ["p", "dir", "x.py"]⟩ = .ok ["p", "dir", "x.py"] := by
      rw [Store.place_eq_follow (by cbv) (by cbv)]
      cbv
    show sheltered.holds Node.isDirectory ⟨1, ["p", "dir", "x.py"]⟩ = false
    rw [Store.holds, Store.node, place]
    cbv

/-- The pattern for the name of the directory with one more character behind it. -/
def oneMore : Glob.Pattern :=
  ⟨false, .path [.anyDepth, .glob [.char 'd', .char 'i', .char 'r', .set true [('a', 'a')]]]⟩

/-- A set at the end of a pattern that admits a slash matches the path of a directory,
and nothing below it: the walk loses a file that is not selected. -/
theorem pruning_loses_unselected_file :
    ¬∀ (store : Store) (root real : Path) (exclude : List String) (excluded : Option Glob.Spec),
      store.root.WellFormed -> realRoot store root = .ok real ->
      readPatterns (exclude.map String.toList) = .ok excluded ->
      (∀ pattern ∈ exclude, (Text.trim pattern.toList).head? ≠ some '!') ->
      ∃ all, walk store root [] false = .ok all ∧
        walk store root exclude false = .ok (all.filter fun path =>
          !(excluded.getD []).selects (Ignore.slashed (path.names.drop real.names.length))) := by
  intro claim
  have compiles : readPatterns (["dir[!a]"].map String.toList) = .ok (some [oneMore]) := by cbv
  rcases claim sheltered ⟨1, ["p"]⟩ ⟨1, ["p"]⟩ ["dir[!a]"] _ sheltered_wellFormed realRoot_sheltered
    compiles (by decide) with ⟨all, walksAll, walks⟩
  have passive : activeIgnoreSpec sheltered ⟨1, ["p"]⟩ false = .ok none := rfl
  have anchored : (⟨1, ["p"]⟩ : Path).anchor = 1 := rfl
  have listed : ⟨1, ["p", "dir", "x.py"]⟩ ∈ all := by
    have compilesNone : readPatterns ([].map String.toList) = .ok none := rfl
    rw [walk_eq realRoot_sheltered compilesNone, passive] at walksAll
    cases walksAll
    exact (mem_sourceFiles sheltered_wellFormed anchored).2
      ⟨["dir"], "x.py", rfl, isSource_sheltered rfl rfl⟩
  have unselected : Glob.Spec.selects [oneMore] (Ignore.slashed ["dir", "x.py"]) = false := by cbv
  rw [walk_eq realRoot_sheltered compiles, passive] at walks
  have kept : ⟨1, ["p", "dir", "x.py"]⟩ ∈ sourceFiles sheltered ⟨1, ["p"]⟩ ⟨[[oneMore]]⟩ := by
    rw [show sourceFiles sheltered ⟨1, ["p"]⟩ ⟨[[oneMore]]⟩ = _ from Except.ok.inj walks]
    exact List.mem_filter.2 ⟨listed, congrArg not unselected⟩
  rcases (mem_sourceFiles sheltered_wellFormed anchored).1 kept with ⟨above, name, same, source⟩
  have places : ["p", "dir"] ++ ["x.py"] = (["p"] ++ above) ++ [name] := (Files.Path.mk.inj same).2
  have within : ["p"] ++ ["dir"] = ["p"] ++ above := (List.append_inj' places rfl).1
  have above_eq : ["dir"] = above := List.append_cancel_left within
  subst above_eq
  have selected : Ignore.directory ⟨[[oneMore]]⟩ ["dir"] = true := by cbv
  cases selected.symm.trans (source.entered ["dir"] (List.cons_ne_nil _ _) List.prefix_rfl).2

/-- The pattern for a directory's name leaves out what lies in the directory. -/
theorem sheltered_drops_only_selected :
    ∃ all, walk sheltered ⟨1, ["p"]⟩ [] false = .ok all ∧
      walk sheltered ⟨1, ["p"]⟩ ["dir"] false = .ok (all.filter fun path =>
        !Glob.Spec.selects [⟨false, .path [.anyDepth, .glob [.char 'd', .char 'i', .char 'r']]⟩]
          (Ignore.slashed (path.names.drop 1))) := by
  refine walk_drops_only_selected sheltered ⟨1, ["p"]⟩ ⟨1, ["p"]⟩ ["dir"] (some _)
    sheltered_wellFormed realRoot_sheltered (by cbv) (by decide) ?_
  intro pattern member piece last
  cases List.mem_singleton.1 member
  cases last
  rfl

end Project
end ImportCensus

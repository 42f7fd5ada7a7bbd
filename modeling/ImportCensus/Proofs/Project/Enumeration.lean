import ImportCensus.Census.PackageSet
import ImportCensus.Proofs.Files.Likeness
import ImportCensus.Proofs.Project.Written

namespace ImportCensus
namespace Project

open Files (Node Path Store)

/-!
# The sequence of a walk

The sequence in which a walk lists files is described here directory by directory, without the
functions that sort: first the files of a directory that are accepted, then the sequences of
those of its subdirectories that are entered, both in increasing order of names
(`Enumerates`).  A directory whose path is too long to be looked up has no sequence.  The description leaves no choice (`Enumerates.unique`), and it asks a store
for kinds at places only.  So the order in which a system lists the entries of a directory,
which is nothing but the order of the entries in a tree, has no influence on a walk.
-/

/-! ## The sequence of a directory -/

/-- A file of a directory that is listed. -/
structure Accepts (store : Store) (real : Path) (ignore : Ignore) (place : List String)
    (name : String) : Prop where
  stands : store.root.kindAt (real.names ++ place ++ [name]) ≠ none
  /-- It is no directory, -/
  other : store.root.kindAt (real.names ++ place ++ [name]) ≠ some .directory
  /-- and no link that leads to one. -/
  plain : store.holds Node.isDirectory ⟨1, real.names ++ place ++ [name]⟩ = false
  suffixed : Files.isSourceName name = true
  kept : ignore.file (place ++ [name]) = false

/-- A subdirectory that is entered: it is no link to a directory. -/
structure Enters (store : Store) (real : Path) (ignore : Ignore) (place : List String)
    (name : String) : Prop where
  stands : store.root.kindAt (real.names ++ place ++ [name]) = some .directory
  notControl : name ≠ controlDirectory
  kept : ignore.directory (place ++ [name]) = false

/-- A directory below a real root whose path can be looked up, so that it can be listed. -/
structure Lists (store : Store) (real : Path) (place : List String) : Prop where
  stands : store.root.kindAt (real.names ++ place) = some .directory
  fits : (⟨1, real.names ++ place⟩ : Path).Fits

/-- The sequence of the sources below a place of a project: what cannot be listed has none, and
a directory has its files in front of what lies in its subdirectories. -/
inductive Enumerates (store : Store) (real : Path) (ignore : Ignore) :
    List String -> List Path -> Prop
  | nothing {place : List String} (unlisted : ¬Lists store real place) :
      Enumerates store real ignore place []
  | directory {place : List String} (lists : Lists store real place)
      (files subdirectories : List String) (sequence : String -> List Path)
      (filesIncrease : files.Pairwise fun first second => first < second)
      (accepted : ∀ name, name ∈ files ↔ Accepts store real ignore place name)
      (subdirectoriesIncrease : subdirectories.Pairwise fun first second => first < second)
      (entered : ∀ name, name ∈ subdirectories ↔ Enters store real ignore place name)
      (sequences : ∀ name ∈ subdirectories,
        Enumerates store real ignore (place ++ [name]) (sequence name)) :
      Enumerates store real ignore place
        ((files.map fun name => ⟨1, real.names ++ place ++ [name]⟩) ++
          subdirectories.flatMap sequence)

variable {store other : Store} {real : Path} {ignore : Ignore} {place : List String}
  {name : String} {paths again : List Path}

/-- A place has one sequence. -/
theorem Enumerates.unique (enumerates : Enumerates store real ignore place paths)
    (enumeratesAgain : Enumerates store real ignore place again) : paths = again := by
  induction enumerates generalizing again with
  | nothing unlisted =>
      cases enumeratesAgain with
      | nothing => rfl
      | directory lists => exact absurd lists unlisted
  | directory lists files subdirectories sequence filesIncrease accepted subdirectoriesIncrease
      entered sequences ih =>
      cases enumeratesAgain with
      | nothing unlisted => exact absurd lists unlisted
      | directory _ others further sequenceAgain othersIncrease acceptedAgain furtherIncrease
          enteredAgain sequencesAgain =>
          have sameFiles : files = others := Census.PackageSet.members_ext filesIncrease othersIncrease
            fun name => (accepted name).trans (acceptedAgain name).symm
          have sameSubdirectories : subdirectories = further :=
            Census.PackageSet.members_ext subdirectoriesIncrease furtherIncrease
              fun name => (entered name).trans (enteredAgain name).symm
          subst sameFiles sameSubdirectories
          have inside : ∀ name ∈ subdirectories, sequence name = sequenceAgain name :=
            fun name member => ih name member (sequencesAgain name member)
          rw [List.flatMap_congr inside]

/-! ## Only kinds are asked for -/

theorem holds_isDirectory_alike (alike : store.Alike other) (path : Path) :
    other.holds Node.isDirectory path = store.holds Node.isDirectory path := by
  rw [Bool.eq_iff_iff, Store.holds_isDirectory, Store.holds_isDirectory, alike.place_eq]
  simp only [alike.kinds]

theorem Accepts.alike (alike : store.Alike other) (accepts : Accepts other real ignore place name) :
    Accepts store real ignore place name where
  stands := alike.kinds _ ▸ accepts.stands
  other := alike.kinds _ ▸ accepts.other
  plain := (holds_isDirectory_alike alike _).symm.trans accepts.plain
  suffixed := accepts.suffixed
  kept := accepts.kept

theorem Enters.alike (alike : store.Alike other) (enters : Enters other real ignore place name) :
    Enters store real ignore place name where
  stands := (alike.kinds _).symm.trans enters.stands
  notControl := enters.notControl
  kept := enters.kept

theorem Lists.alike (alike : store.Alike other) (lists : Lists other real place) :
    Lists store real place where
  stands := (alike.kinds _).symm.trans lists.stands
  fits := lists.fits

/-- Alike stores have the same sequences. -/
theorem Enumerates.alike (alike : store.Alike other)
    (enumerates : Enumerates other real ignore place paths) :
    Enumerates store real ignore place paths := by
  induction enumerates with
  | nothing unlisted => exact .nothing fun lists => unlisted (lists.alike alike.symm)
  | directory lists files subdirectories sequence filesIncrease accepted subdirectoriesIncrease
      entered _ ih =>
      exact .directory (lists.alike alike) files subdirectories sequence filesIncrease
        (fun name => (accepted name).trans ⟨.alike alike, .alike alike.symm⟩) subdirectoriesIncrease
        (fun name => (entered name).trans ⟨.alike alike, .alike alike.symm⟩) ih

/-! ## What a walk lists -/

/-- Whether the path of a place below a real root leads to a directory. -/
def isDirectoryBelow (store : Store) (real : Path) (place : List String) : Bool :=
  store.holds Node.isDirectory ⟨1, real.names ++ place⟩

/-- What a walk lists below a place of a project. -/
def sourcesBelow (store : Store) (real : Path) (ignore : Ignore) (place : List String) : List Path :=
  match store.root.at? (real.names ++ place) with
  | some node =>
    (walkNode (isDirectoryBelow store real) ignore place node).map fun found =>
      ⟨1, real.names ++ found⟩
  | none => []

theorem sourceFiles_eq_sourcesBelow (anchored : real.anchor = 1) :
    sourceFiles store real ignore = sourcesBelow store real ignore [] := by
  unfold sourceFiles sourcesBelow
  rw [List.append_nil, anchored]
  rfl

/-- A directory can be listed if its path leads to it. -/
theorem isDirectoryBelow_iff (formed : store.root.WellFormed)
    (stands : store.root.kindAt (real.names ++ place) = some .directory) :
    isDirectoryBelow store real place = true ↔ Lists store real place := by
  rcases Node.kindAt_eq_directory.1 stands with ⟨entries, found⟩
  have proper : ∀ name ∈ real.names ++ place, name ≠ ".." :=
    fun name member => (formed.isEntryName found name member).notAbove
  exact (Store.holds_isDirectory_row proper stands).trans
    ⟨fun fits => ⟨stands, fits⟩, fun lists => lists.fits⟩

theorem sourcesBelow_of_unlisted (formed : store.root.WellFormed)
    (unlisted : ¬Lists store real place) : sourcesBelow store real ignore place = [] := by
  unfold sourcesBelow
  cases found : store.root.at? (real.names ++ place) with
  | none => rfl
  | some node =>
      cases node with
      | directory entries =>
          have stands := Node.kindAt_eq_directory.2 ⟨entries, found⟩
          have closed := Bool.eq_false_iff.2 (mt (isDirectoryBelow_iff formed stands).1 unlisted)
          dsimp only
          rw [walkNode_unlisted entries closed]
          rfl
      | file content => simp
      | link target => simp

/-- Values that give nothing need not be gone over. -/
theorem flatMap_filter_eq {α β : Type} {give : α -> List β} {keep : α -> Bool} {values : List α}
    (none : ∀ value ∈ values, keep value = false -> give value = []) :
    (values.filter keep).flatMap give = values.flatMap give := by
  induction values with
  | nil => rfl
  | cons value rest ih =>
      have later := ih fun other member => none other (List.mem_cons_of_mem _ member)
      cases kept : keep value with
      | true => rw [List.filter_cons_of_pos kept, List.flatMap_cons, List.flatMap_cons, later]
      | false =>
          have gives := none value List.mem_cons_self kept
          rw [List.filter_cons_of_neg (by simp [kept]), List.flatMap_cons, gives, later,
            List.nil_append]

/-- The subdirectories of a directory that are entered, in order. -/
def enteredNames (store : Store) (real : Path) (ignore : Ignore) (place : List String)
    (entries : List (String × Node)) : List String :=
  ((sortNamed (walkEntries (isDirectoryBelow store real) ignore place entries)).map
    Prod.fst).filter fun name =>
      decide (store.root.kindAt (real.names ++ place ++ [name]) = some .directory)

/-- The files of a directory that are accepted, in order. -/
def acceptedNames (store : Store) (real : Path) (ignore : Ignore) (place : List String)
    (entries : List (String × Node)) : List String :=
  (sortNamed (entries.filter (isYielded (isDirectoryBelow store real) ignore place))).map Prod.fst

section

variable {entries : List (String × Node)} (formed : store.root.WellFormed)
  (found : store.root.at? (real.names ++ place) = some (.directory entries))

include formed found

theorem distinct_entries : (entries.map Prod.fst).Nodup := (formed.at? found).1

theorem at?_entry {child : Node} : store.root.at? (real.names ++ place ++ [name]) = some child ↔
    (name, child) ∈ entries := by
  rw [Node.at?_snoc found, Node.named?_eq_some (distinct_entries formed found)]

theorem isYielded_iff_accepts {child : Node} (member : (name, child) ∈ entries) :
    isYielded (isDirectoryBelow store real) ignore place (name, child) = true ↔
      Accepts store real ignore place name := by
  have stands := (at?_entry formed found).2 member
  have within := Node.kindAt_eq_directory.2 ⟨entries, found⟩
  have asked : isDirectoryBelow store real (place ++ [name]) =
      store.holds Node.isDirectory ⟨1, real.names ++ place ++ [name]⟩ := by
    rw [isDirectoryBelow, List.append_assoc]
  rw [isYielded_eq_true, countsAsDirectory_eq_false formed asked within stands]
  constructor
  · rintro ⟨⟨other, plain⟩, suffixed, kept⟩
    refine ⟨?_, other, plain, suffixed, kept⟩
    rw [Ne, Node.kindAt_eq_none, stands]
    exact nofun
  · exact fun accepts => ⟨⟨accepts.other, accepts.plain⟩, accepts.suffixed, accepts.kept⟩

theorem mem_acceptedNames :
    name ∈ acceptedNames store real ignore place entries ↔ Accepts store real ignore place name := by
  have listed : name ∈ acceptedNames store real ignore place entries ↔
      ∃ child, (name, child) ∈ entries ∧
        isYielded (isDirectoryBelow store real) ignore place (name, child) = true := by
    simp [acceptedNames]
  rw [listed]
  constructor
  · rintro ⟨child, member, yielded⟩
    exact (isYielded_iff_accepts formed found member).1 yielded
  · intro accepts
    rcases Option.ne_none_iff_exists'.1 (mt Node.kindAt_eq_none.2 accepts.stands) with ⟨child, stands⟩
    have member := (at?_entry formed found).1 stands
    exact ⟨child, member, (isYielded_iff_accepts formed found member).2 accepts⟩

theorem mem_enteredNames :
    name ∈ enteredNames store real ignore place entries ↔ Enters store real ignore place name := by
  have listed : name ∈ enteredNames store real ignore place entries ↔
      (∃ child, (name, child) ∈ entries) ∧ isEntered ignore place name = true ∧
        store.root.kindAt (real.names ++ place ++ [name]) = some .directory := by
    simp [enteredNames, mem_walkEntries, and_assoc]
  rw [listed, isEntered, Bool.and_eq_true, bne_iff_ne, Bool.not_eq_true']
  constructor
  · rintro ⟨_, ⟨notControl, kept⟩, stands⟩
    exact ⟨stands, notControl, kept⟩
  · rintro ⟨stands, notControl, kept⟩
    rcases Node.kindAt_eq_directory.1 stands with ⟨inner, directory⟩
    exact ⟨⟨_, (at?_entry formed found).1 directory⟩, ⟨notControl, kept⟩, stands⟩

/-- What a walk lists below a directory, by its files and its subdirectories. -/
theorem sourcesBelow_directory (lists : Lists store real place) :
    sourcesBelow store real ignore place =
      ((acceptedNames store real ignore place entries).map fun name =>
          ⟨1, real.names ++ place ++ [name]⟩) ++
        (enteredNames store real ignore place entries).flatMap fun name =>
          sourcesBelow store real ignore (place ++ [name]) := by
  have inside : ∀ entry ∈ sortNamed (walkEntries (isDirectoryBelow store real) ignore place entries),
      (entry.2.map fun found => (⟨1, real.names ++ found⟩ : Path)) =
        sourcesBelow store real ignore (place ++ [entry.1]) := by
    intro entry member
    rcases mem_walkEntries.1 (mem_sortNamed.1 member) with ⟨child, listed, _, walked⟩
    have stands := (at?_entry formed found).2 listed
    rw [List.append_assoc] at stands
    unfold sourcesBelow
    rw [stands, walked]
  have files : ((filesOf (isDirectoryBelow store real) ignore place entries).map fun found =>
        (⟨1, real.names ++ found⟩ : Path)) =
      (acceptedNames store real ignore place entries).map fun name =>
        ⟨1, real.names ++ place ++ [name]⟩ := by
    rw [filesOf, acceptedNames, List.map_map, List.map_map]
    simp only [Function.comp_def, List.append_assoc]
  have deeper : (enteredNames store real ignore place entries).flatMap (fun name =>
        sourcesBelow store real ignore (place ++ [name])) =
      (sortNamed (walkEntries (isDirectoryBelow store real) ignore place entries)).flatMap
        fun entry => sourcesBelow store real ignore (place ++ [entry.1]) := by
    rw [enteredNames, flatMap_filter_eq, List.flatMap_map]
    intro name _ absent
    apply sourcesBelow_of_unlisted formed
    intro further
    have stands := further.stands
    rw [← List.append_assoc] at stands
    exact absurd stands (of_decide_eq_false absent)
  have listed := (isDirectoryBelow_iff formed lists.stands).2 lists
  rw [deeper, ← List.flatMap_congr inside, ← files, sourcesBelow, found]
  dsimp only
  rw [walkNode_listed entries listed, List.map_append, List.map_flatMap]

end

mutual

/-- Below every place, a walk lists the sequence of the place. -/
theorem enumerates_sourcesBelow (formed : store.root.WellFormed) : (node : Node) -> (place : List String) ->
    store.root.at? (real.names ++ place) = some node ->
    Enumerates store real ignore place (sourcesBelow store real ignore place)
  | .directory entries, place, found => by
      by_cases lists : Lists store real place
      · have distinct := distinct_entries formed found
        have subdirectories := enumerates_entries formed entries place fun entry member =>
          (at?_entry formed found).2 member
        have searched : ((walkEntries (isDirectoryBelow store real) ignore place entries).map
            Prod.fst).Nodup := distinct.sublist (map_fst_walkEntries entries)
        have kept : ((entries.filter
            (isYielded (isDirectoryBelow store real) ignore place)).map Prod.fst).Nodup :=
          distinct.sublist (List.filter_sublist.map _)
        rw [sourcesBelow_directory formed found lists]
        refine .directory lists _ _ _ ?_ (fun name => mem_acceptedNames formed found) ?_
          (fun name => mem_enteredNames formed found) ?_
        · exact List.pairwise_map.2 (pairwise_sortNamed kept)
        · exact (List.pairwise_map.2 (pairwise_sortNamed searched)).filter _
        · intro name member
          have enters := (mem_enteredNames formed found).1 member
          rcases Node.kindAt_eq_directory.1 enters.stands with ⟨inner, stands⟩
          exact subdirectories _ ((at?_entry formed found).1 stands)
      · rw [sourcesBelow_of_unlisted formed lists]
        exact .nothing lists
  | .file content, place, found => by
      have unlisted : ¬Lists store real place := by
        rintro ⟨stands, -⟩
        simp [Node.kindAt, found, Node.kind] at stands
      rw [sourcesBelow_of_unlisted formed unlisted]
      exact .nothing unlisted
  | .link target, place, found => by
      have unlisted : ¬Lists store real place := by
        rintro ⟨stands, -⟩
        simp [Node.kindAt, found, Node.kind] at stands
      rw [sourcesBelow_of_unlisted formed unlisted]
      exact .nothing unlisted

theorem enumerates_entries (formed : store.root.WellFormed) : (entries : List (String × Node)) -> (place : List String) ->
    (∀ entry ∈ entries, store.root.at? (real.names ++ place ++ [entry.1]) = some entry.2) ->
    ∀ entry ∈ entries, Enumerates store real ignore (place ++ [entry.1])
      (sourcesBelow store real ignore (place ++ [entry.1]))
  | [], _, _ => nofun
  | (name, node) :: rest, place, found => by
      rw [List.forall_mem_cons] at found ⊢
      have here := found.1
      rw [List.append_assoc] at here
      exact ⟨enumerates_sourcesBelow formed node _ here,
        enumerates_entries formed rest place found.2⟩

end

/-- A walk lists the sequence of the root. -/
theorem enumerates_sourceFiles (formed : store.root.WellFormed) (anchored : real.anchor = 1) :
    Enumerates store real ignore [] (sourceFiles store real ignore) := by
  rw [sourceFiles_eq_sourcesBelow anchored]
  cases found : store.root.at? (real.names ++ []) with
  | some node => exact enumerates_sourcesBelow formed node [] found
  | none =>
      have unlisted : ¬Lists store real [] := by
        rintro ⟨stands, -⟩
        rw [Node.kindAt_eq_none.2 found] at stands
        cases stands
      rw [sourcesBelow_of_unlisted formed unlisted]
      exact .nothing unlisted

end Project
end ImportCensus

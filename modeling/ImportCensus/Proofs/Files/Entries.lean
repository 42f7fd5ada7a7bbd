import ImportCensus.Proofs.Files.Resolving
import ImportCensus.Proofs.Files.Writing

namespace ImportCensus
namespace Files

/-!
# Paths of entries

An entry of a directory has two kinds of paths: one that ends with its name behind a path
of the directory, and one that spells its place out.  Where the entry is no link, both
lead to it and to nothing else (`Store.Spells`).  Where it is one, what they lead to is a
target of a link (`Store.Unlinked`).  A file that is written elsewhere makes no difference
in either case.
-/

/-! ## Names behind a path -/

/-- A text without a slash is a single part. -/
theorem splitSlash_go_eq {characters : List Char} (single : '/' ∉ characters) :
    Path.splitSlash.go characters = [characters] := by
  induction characters with
  | nil => rfl
  | cons c rest ih =>
      rw [List.mem_cons, not_or] at single
      rw [Path.splitSlash.go, if_neg (Ne.symm single.1), ih single.2]

/-- The path of an entry ends with the name of the entry. -/
theorem Path.child_eq {name : String} (entry : IsEntryName name) (base : Path) :
    base.child name = ⟨base.anchor, base.names ++ [name]⟩ := by
  have named : isName name = true := by
    simp [isName, entry.notEmpty, entry.notHere]
  have parts : (splitSlash name).filter isName = [name] := by
    rw [splitSlash, splitSlash_go_eq entry.single]
    simp [named]
  have slashes : (name.toList.takeWhile fun c => c == '/') = [] := by
    have single := entry.single
    cases characters : name.toList with
    | nil => rfl
    | cons c rest =>
        rw [characters, List.mem_cons, not_or] at single
        exact List.takeWhile_cons_of_neg (by simpa using Ne.symm single.1)
  have path : ofText name = ⟨0, [name]⟩ := by
    rw [ofText, parts, slashes]
    rfl
  rw [child, path]
  rfl

theorem Path.parent_snoc (anchor : Nat) (row : List String) (name : String) :
    (⟨anchor, row ++ [name]⟩ : Path).parent = ⟨anchor, row⟩ := by
  rw [parent, List.dropLast_concat]

/-- A name without a slash is a name of an entry once it has the suffix of a source. -/
theorem isEntryName_source {module suffix : String} (single : '/' ∉ module.toList)
    (source : suffix ∈ sourceSuffixes) : IsEntryName (module ++ suffix) := by
  have suffixes : suffix = ".py" ∨ suffix = ".pyi" := by simpa [sourceSuffixes] using source
  have long : 3 ≤ (module ++ suffix).toList.length := by
    rw [String.toList_append, List.length_append]
    rcases suffixes with rfl | rfl <;> exact Nat.le_add_left_of_le (by decide)
  refine ⟨?_, ?_, ?_, ?_⟩
  · intro same
    rw [same] at long
    exact absurd long (by decide)
  · intro same
    rw [same] at long
    exact absurd long (by decide)
  · intro same
    rw [same] at long
    exact absurd long (by decide)
  · rw [String.toList_append, List.mem_append, not_or]
    refine ⟨single, ?_⟩
    rcases suffixes with rfl | rfl <;> decide

/-! ## Entries of a directory -/

/-- A directory lists what stands in it. -/
theorem Node.listed_iff {root : Node} (formed : root.WellFormed) {row : List String}
    {name : String} :
    (∃ entries child, root.at? row = some (.directory entries) ∧ (name, child) ∈ entries) ↔
      root.kindAt row = some .directory ∧ root.kindAt (row ++ [name]) ≠ none := by
  rw [kindAt_eq_directory, Ne, kindAt_eq_none]
  constructor
  · rintro ⟨entries, child, found, member⟩
    have distinct : (entries.map Prod.fst).Nodup := (formed.at? found).1
    refine ⟨⟨entries, found⟩, ?_⟩
    rw [at?_snoc found, (named?_eq_some distinct).2 member]
    exact nofun
  · rintro ⟨⟨entries, found⟩, stands⟩
    rw [at?_snoc found] at stands
    rcases Option.ne_none_iff_exists'.1 stands with ⟨child, named⟩
    exact ⟨entries, child, found, mem_of_named? named⟩

/-- The names of an entry and of the directories above it do not lead back. -/
theorem Node.WellFormed.proper {root : Node} (formed : root.WellFormed) {row : List String}
    {name : String} (within : root.kindAt row = some .directory) (entry : IsEntryName name) :
    ∀ part ∈ row ++ [name], part ≠ ".." := by
  intro part member
  rcases List.mem_append.1 member with above | last
  · rcases kindAt_eq_directory.1 within with ⟨entries, found⟩
    exact (formed.isEntryName found part above).notAbove
  · rw [List.mem_singleton.1 last]
    exact entry.notAbove

namespace Store

/-- A path leads to the directory at a row of names. -/
structure Finds (store : Store) (path : Path) (row : List String) : Prop where
  placed : store.place path = .ok row
  within : store.root.kindAt row = some .directory

/-- A path that leads to an entry if the entry is there, unless the system refuses it for
its text or for the length of a name. -/
def Spells (store : Store) (path : Path) (entry : List String) : Prop :=
  store.place path = .error .nullCharacter ∨ store.place path = .error .nameTooLong ∨
    store.place path = if store.root.kindAt entry = none then .error .missing else .ok entry

namespace Spells

variable {store : Store} {path : Path} {entry last : List String}

theorem eq_entry (spells : store.Spells path entry) (placed : store.place path = .ok last) :
    last = entry := by
  rcases spells with refused | refused | found
  · rw [refused] at placed
    cases placed
  · rw [refused] at placed
    cases placed
  · rw [found] at placed
    split at placed
    · cases placed
    · cases placed
      rfl

theorem ne_notDirectory (spells : store.Spells path entry) :
    store.place path ≠ .error .notDirectory := by
  intro failed
  rcases spells with refused | refused | found
  · rw [refused] at failed
    cases failed
  · rw [refused] at failed
    cases failed
  · rw [found] at failed
    split at failed <;> cases failed

/-- A look-up that finds nothing finds no place. -/
theorem place_of_node (spells : store.Spells path entry)
    (missing : store.node path = .error .missing) : store.place path = .error .missing := by
  rcases spells with refused | refused | found
  · rw [node_of_error refused] at missing
    cases missing
  · rw [node_of_error refused] at missing
    cases missing
  · split at found
    · exact found
    · rename_i stands
      rcases Option.ne_none_iff_exists'.1 (mt Node.kindAt_eq_none.2 stands) with ⟨node, there⟩
      rw [node_of_place found, there] at missing
      cases missing

/-- It finds no place because nothing is there. -/
theorem vacant (spells : store.Spells path entry) (missing : store.place path = .error .missing) :
    store.root.kindAt entry = none := by
  rcases spells with refused | refused | found
  · rw [refused] at missing
    cases missing
  · rw [refused] at missing
    cases missing
  · rw [found] at missing
    split at missing
    · assumption
    · cases missing

end Spells

variable {store : Store} {row : List String} {name : String}

/-- An entry that is no link is spelled by its name behind a path of its directory. -/
theorem spells_child {base : Path} (finds : store.Finds base row) (proper : name ≠ "..")
    (plain : ∀ target, store.root.kindAt (row ++ [name]) ≠ some (.link target)) :
    store.Spells ⟨base.anchor, base.names ++ [name]⟩ (row ++ [name]) := by
  rcases place_eq_ok.1 finds.placed with ⟨_, _, count, enough, leads⟩
  have followed : follow store.root mostLinks (store.origin base) (base.names ++ [name]) =
      follow store.root (mostLinks - count) row [name] := by
    have onward := leads.follow (mostLinks - count) [name]
    rwa [Nat.add_sub_cancel' enough] at onward
  have origin : store.origin ⟨base.anchor, base.names ++ [name]⟩ = store.origin base := rfl
  unfold Spells place
  split
  · exact .inl rfl
  · split
    · exact .inr (.inl rfl)
    · rw [origin, followed, follow_cons finds.within, if_neg proper]
      split
      · exact .inr (.inl rfl)
      · refine .inr (.inr ?_)
        cases stands : store.root.kindAt (row ++ [name]) with
        | none => rfl
        | some kind =>
            cases kind with
            | link target => exact absurd stands (plain target)
            | file => exact follow_nil
            | directory => exact follow_nil

/-- An entry that is no link is spelled by its place. -/
theorem spells_entry (proper : ∀ other ∈ row ++ [name], other ≠ "..")
    (within : store.root.kindAt row = some .directory)
    (plain : ∀ target, store.root.kindAt (row ++ [name]) ≠ some (.link target)) :
    store.Spells ⟨1, row ++ [name]⟩ (row ++ [name]) := by
  have origin : store.origin ⟨1, row ++ [name]⟩ = [] := rfl
  unfold Spells place
  split
  · exact .inl rfl
  · split
    · exact .inr (.inl rfl)
    · rw [origin, follow_entry proper within plain]
      split
      · exact .inr (.inr rfl)
      · exact .inr (.inl rfl)

/-! ## Targets of links -/

/-- No link leads to a place, whatever the number of further links on the way. -/
def Unlinked (store : Store) (place : List String) : Prop :=
  ∀ link target, store.root.kindAt link = some (.link target) -> ∀ links,
    follow store.root links ((Path.ofText target).start link.dropLast) (Path.ofText target).names ≠
      .ok place

/-- No link below a row of names leads to a place, as far as a look-up follows it. -/
def UnlinkedBelow (store : Store) (row place : List String) : Prop :=
  ∀ below target, store.root.kindAt (row ++ below) = some (.link target) -> ∀ links < mostLinks,
    follow store.root links ((Path.ofText target).start (row ++ below).dropLast)
      (Path.ofText target).names ≠ .ok place

theorem Unlinked.unlinkedBelow {place : List String} (unlinked : store.Unlinked place)
    (row : List String) : store.UnlinkedBelow row place :=
  fun _ target stands links _ => unlinked _ target stands links

namespace UnlinkedBelow

variable {base : Path} {above place : List String}

/-- Where no link leads to a place, a name behind a directory does so only if its own entry
is at this place. -/
theorem place_ne (unlinked : store.UnlinkedBelow row place) (base : Path) (proper : name ≠ "..")
    (only : ∀ count last, Leads store.root count (store.origin base) base.names last ->
      last = row ++ above)
    (elsewhere : row ++ above ++ [name] ≠ place) :
    store.place ⟨base.anchor, base.names ++ [name]⟩ ≠ .ok place := by
  intro placed
  rcases place_eq_ok.1 placed with ⟨_, _, count, enough, leads⟩
  rcases leads.split with ⟨first, second, middle, front, last, sum⟩
  cases only first middle front
  rcases last.single proper with here | ⟨target, inner, fewer, stands, onward⟩
  · exact elsewhere here.symm
  · rw [List.append_assoc] at stands
    apply unlinked (above ++ [name]) target stands inner (by omega)
    rw [← List.append_assoc, List.dropLast_concat]
    exact follow_eq_ok.2 ⟨inner, Nat.le_refl inner, onward⟩

/-- This goes for the path of an entry behind any path of its directory, -/
theorem place_child_ne (unlinked : store.UnlinkedBelow row place) (proper : name ≠ "..")
    (finds : store.Finds base (row ++ above)) (elsewhere : row ++ above ++ [name] ≠ place) :
    store.place ⟨base.anchor, base.names ++ [name]⟩ ≠ .ok place := by
  apply unlinked.place_ne base proper _ elsewhere
  intro count last leads
  rcases place_eq_ok.1 finds.placed with ⟨_, _, _, _, found⟩
  exact (leads.unique found).2

/-- and for the path that spells out where the entry is. -/
theorem place_entry_ne (unlinked : store.UnlinkedBelow row place)
    (proper : ∀ other ∈ row ++ above ++ [name], other ≠ "..")
    (within : store.root.kindAt (row ++ above) = some .directory)
    (elsewhere : row ++ above ++ [name] ≠ place) :
    store.place ⟨1, row ++ above ++ [name]⟩ ≠ .ok place := by
  have last : name ≠ ".." := proper name (List.mem_append_right _ List.mem_cons_self)
  apply unlinked.place_ne ⟨1, row ++ above⟩ last _ elsewhere
  intro count last leads
  exact leads.eq_row (fun other member => proper other (List.mem_append_left _ member)) within

end UnlinkedBelow

/-- Where no link leads to a place, only the entry at this place is spelled by it. -/
theorem Unlinked.place_ne {place : List String} (unlinked : store.Unlinked place)
    (proper : ∀ other ∈ row ++ [name], other ≠ "..")
    (within : store.root.kindAt row = some .directory) (elsewhere : row ++ [name] ≠ place) :
    store.place ⟨1, row ++ [name]⟩ ≠ .ok place := by
  rw [← List.append_nil row] at proper within elsewhere ⊢
  exact (unlinked.unlinkedBelow row).place_entry_ne proper within elsewhere

theorem unlinked_of_linkPlaces (none : store.root.linkPlaces = []) (place : List String) :
    store.Unlinked place := by
  intro link target stands
  exact absurd stands (Node.kindAt_ne_link none link target)

end Store

/-! ## Entries where a file is written -/

namespace Store.Writes

variable {store written : Store} {place entry row : List String} {content : List Nat} {path : Path}

theorem finds (writes : store.Writes place content written) (finds : store.Finds path row) :
    written.Finds path row := by
  have directory : written.root.kindAt row = some .directory ↔
      store.root.kindAt row = some .directory := writes.kindAt_iff nofun
  refine ⟨?_, directory.2 finds.within⟩
  rcases writes.place_eq_or path with same | ⟨_, missing, _⟩
  · exact same.trans finds.placed
  · rw [finds.placed] at missing
    cases missing

/-- What a path says of another entry is the same, and is nothing about what is written. -/
theorem place_eq_of_spells (writes : store.Writes place content written)
    (before : store.Spells path entry) (after : written.Spells path entry)
    (elsewhere : entry ≠ place) :
    written.place path = store.place path ∧ store.place path ≠ .ok place := by
  have notBefore : store.place path ≠ .ok place := by
    intro placed
    exact elsewhere (before.eq_entry placed).symm
  rcases writes.place_eq_or path with same | ⟨_, _, placed | failed⟩
  · exact ⟨same, notBefore⟩
  · exact absurd (after.eq_entry placed).symm elsewhere
  · exact absurd failed after.ne_notDirectory

/-- A path leads to a new file if it would have led to it before. -/
theorem place_new (writes : store.Writes place content written)
    (missing : store.place path = .error .missing) (after : written.Spells path place) :
    written.place path = .ok place := by
  rcases writes.place_eq_or path with same | ⟨_, _, placed | failed⟩
  · have vacant := after.vacant (same.trans missing)
    rw [writes.kindAt_after] at vacant
    cases vacant
  · exact placed
  · exact absurd failed after.ne_notDirectory

end Store.Writes

/-- In a file system, a file to which no link leads is written over. -/
structure Store.Overwrites (store : Store) (place : List String) (content : List Nat)
    (written : Store) : Prop extends Store.Writes store place content written where
  formed : store.root.WellFormed
  formedAfter : written.root.WellFormed
  replaces : store.root.kindAt place = some .file
  unlinked : store.Unlinked place

theorem Store.Overwrites.alike {store written : Store} {place : List String} {content : List Nat}
    (overwrites : store.Overwrites place content written) : store.Alike written :=
  overwrites.alike_of_replaces overwrites.replaces

end Files
end ImportCensus

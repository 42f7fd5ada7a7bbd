import ImportCensus.Files.Resolve
import ImportCensus.Proofs.Files.Following
import Mathlib

namespace ImportCensus
namespace Files

/-!
# Resolving agrees with looking up

A path is resolved without asking whether anything is there, and looked up with a limited
number of links.  Where the look-up finds a directory, both come to the same row of names
(`Store.resolve_eq_ok`).

Resolving keeps the links that are open and gives up when it meets one of them again.  On
a way that leads somewhere that cannot happen: as many links lie behind an open link as
cost to open it, so that the link would have to cost less than itself.  For the same
reason all open links are distinct, and resolving never runs out of its limit, which is
the number of links that there are.
-/

/-! ## Links of a node -/

mutual

/-- The places of all links in a node. -/
def Node.linkPlaces : Node -> List (List String)
  | .link _ => [[]]
  | .file _ => []
  | .directory entries => linkPlacesAll entries

def Node.linkPlacesAll : List (String × Node) -> List (List String)
  | [] => []
  | (name, node) :: rest => node.linkPlaces.map (fun place => name :: place) ++ linkPlacesAll rest

end

namespace Node

variable {node root : Node} {entries : List (String × Node)} {names : List String}

mutual

theorem length_linkPlaces : (node : Node) -> node.linkPlaces.length = node.linkCount
  | .link _ => rfl
  | .file _ => rfl
  | .directory entries => length_linkPlacesAll entries

theorem length_linkPlacesAll : (entries : List (String × Node)) ->
    (linkPlacesAll entries).length = linkCountAll entries
  | [] => rfl
  | (name, node) :: rest => by
      rw [linkPlacesAll, linkCountAll, List.length_append, List.length_map, length_linkPlaces node,
        length_linkPlacesAll rest]

end

theorem mem_linkPlacesAll {name : String} {place : List String}
    (listed : (name, node) ∈ entries) (member : place ∈ node.linkPlaces) :
    name :: place ∈ linkPlacesAll entries := by
  induction entries with
  | nil => cases listed
  | cons entry rest ih =>
      rcases entry with ⟨other, inner⟩
      rw [linkPlacesAll, List.mem_append]
      rcases List.mem_cons.1 listed with same | later
      · cases same
        exact .inl (List.mem_map_of_mem member)
      · exact .inr (ih later)

theorem mem_linkPlaces {target : String} (stands : node.kindAt names = some (.link target)) :
    names ∈ node.linkPlaces := by
  rw [kindAt_eq_link] at stands
  induction names generalizing node with
  | nil =>
      cases stands
      exact List.mem_singleton.2 rfl
  | cons name rest ih =>
      cases node with
      | directory entries =>
          rcases Option.bind_eq_some_iff.1 stands with ⟨child, named, below⟩
          exact mem_linkPlacesAll (mem_of_named? named) (ih below)
      | file content => cases stands
      | link other => cases stands

theorem kindAt_ne_link (none : node.linkPlaces = []) (names : List String) (target : String) :
    node.kindAt names ≠ some (.link target) := by
  intro stands
  have member := mem_linkPlaces stands
  rw [none] at member
  cases member

/-- There are no more distinct links at places than there are links. -/
theorem length_le_linkCount {places : List (List String)} (distinct : places.Nodup)
    (links : ∀ place ∈ places, ∃ target, node.kindAt place = some (.link target)) :
    places.length ≤ node.linkCount := by
  have within : places ⊆ node.linkPlaces := by
    intro place member
    rcases links place member with ⟨target, stands⟩
    exact mem_linkPlaces stands
  rw [← length_linkPlaces]
  exact (distinct.subperm within).length_le

end Node

/-! ## Open links -/

/-- Opening a link leads somewhere, through so many further links. -/
structure Opens (root : Node) (link : List String) (cost : Nat) : Prop where
  somewhere : ∃ target next, root.kindAt link = some (.link target) ∧
    Leads root cost ((Path.ofText target).start link.dropLast) (Path.ofText target).names next

theorem Opens.unique {root : Node} {link : List String} {cost other : Nat}
    (opens : Opens root link cost) (again : Opens root link other) : cost = other := by
  rcases opens.somewhere with ⟨target, next, stands, leads⟩
  rcases again.somewhere with ⟨target', next', stands', leads'⟩
  rw [stands] at stands'
  cases stands'
  exact (leads.unique leads').1

/-- The links that are open while a way with so many links is resolved. -/
structure Opened (root : Node) (opened : List (List String)) (limit count : Nat) : Prop where
  distinct : opened.Nodup
  /-- The way lies behind each of the open links. -/
  behind : ∀ link ∈ opened, ∃ cost, Opens root link cost ∧ count ≤ cost
  /-- There are not more links than those that are open and those that may yet be. -/
  enough : root.linkCount ≤ opened.length + limit

namespace Opened

variable {root : Node} {opened : List (List String)} {limit count fewer : Nat} {link : List String}

theorem mono (ongoing : Opened root opened limit count) (less : fewer ≤ count) :
    Opened root opened limit fewer where
  distinct := ongoing.distinct
  behind := fun link member => by
    rcases ongoing.behind link member with ⟨cost, opens, most⟩
    exact ⟨cost, opens, less.trans most⟩
  enough := ongoing.enough

/-- A link that costs less than the way it stands on is not open. -/
theorem not_mem (ongoing : Opened root opened limit count) (opens : Opens root link fewer)
    (less : fewer < count) : link ∉ opened := by
  intro member
  rcases ongoing.behind link member with ⟨cost, again, most⟩
  have same := opens.unique again
  omega

/-- It can be opened as well, since the limit is not used up. -/
theorem cons (ongoing : Opened root opened limit count) (opens : Opens root link fewer)
    (less : fewer < count) :
    ∃ left, limit = left + 1 ∧ Opened root (link :: opened) left fewer := by
  have distinct : (link :: opened).Nodup :=
    List.nodup_cons.2 ⟨ongoing.not_mem opens less, ongoing.distinct⟩
  have behind : ∀ other ∈ link :: opened, ∃ cost, Opens root other cost ∧ fewer ≤ cost := by
    intro other member
    rcases List.mem_cons.1 member with rfl | member
    · exact ⟨fewer, opens, Nat.le_refl fewer⟩
    · exact (ongoing.mono less.le).behind other member
  have links : ∀ other ∈ link :: opened, ∃ target, root.kindAt other = some (.link target) := by
    intro other member
    rcases behind other member with ⟨cost, opens, _⟩
    rcases opens.somewhere with ⟨target, _, stands, _⟩
    exact ⟨target, stands⟩
  have most := Node.length_le_linkCount distinct links
  have enough := ongoing.enough
  rw [List.length_cons] at most
  refine ⟨limit - 1, by omega, distinct, behind, ?_⟩
  rw [List.length_cons]
  omega

end Opened

/-! ## Resolving -/

theorem linkTarget?_eq {root : Node} {names : List String} {kind : Kind}
    (stands : root.kindAt names = some kind) (plain : ∀ target, kind ≠ .link target) :
    linkTarget? root names = none := by
  unfold linkTarget?
  split
  · rename_i target found
    rw [Node.kindAt, found] at stands
    cases stands
    exact absurd rfl (plain target)
  · rfl

/-- Names that lead somewhere are resolved to where they lead. -/
theorem resolveFrom_eq {root : Node} {count limit : Nat} {place pending last : List String}
    {opened : List (List String)} (leads : Leads root count place pending last)
    (ongoing : Opened root opened limit count) :
    resolveFrom root opened limit place pending = ⟨last, true⟩ := by
  induction leads generalizing opened limit with
  | here place => rw [resolveFrom]
  | up within onward ih =>
      rw [resolveFrom, if_pos rfl]
      exact ih ongoing
  | enter within proper short stands plain onward ih =>
      rw [resolveFrom, if_neg proper]
      dsimp only
      rw [linkTarget?_eq stands plain]
      exact ih ongoing
  | @through inner outer place rest next last name target within proper short stands inward onward
      ihInward ihOnward =>
      have opens : Opens root (place ++ [name]) inner := by
        refine ⟨target, next, stands, ?_⟩
        rw [List.dropLast_concat]
        exact inward
      have less : inner < inner + outer + 1 := by omega
      rcases ongoing.cons opens less with ⟨left, rfl, further⟩
      have fresh : opened.contains (place ++ [name]) = false := by
        rw [Bool.eq_false_iff, Ne, List.contains_iff_mem]
        exact ongoing.not_mem opens less
      have found : linkTarget? root (place ++ [name]) = some (Path.ofText target) := by
        unfold linkTarget?
        rw [Node.kindAt_eq_link.1 stands]
      have inside := ihInward further
      unfold Path.start at inside
      rw [resolveFrom, if_neg proper]
      dsimp only
      rw [found, fresh]
      dsimp only
      rw [if_neg Bool.false_ne_true, inside]
      exact ihOnward (ongoing.mono (by omega))

/-- Names among which none leads back stay as they are. -/
theorem collapseDots_eq_self {names : List String} (proper : ∀ name ∈ names, name ≠ "..") :
    collapseDots names = names := by
  have folded : ∀ done : List String, (∀ name ∈ names, name ≠ "..") ->
      names.foldl (fun done name => if name = ".." then done.dropLast else done ++ [name]) done =
        done ++ names := by
    induction names with
    | nil => exact fun done _ => (List.append_nil done).symm
    | cons name rest ih =>
        intro done proper
        have later := fun other member => proper other (List.mem_cons_of_mem name member)
        rw [List.foldl_cons, if_neg (proper name List.mem_cons_self), ih later _ later]
        simp
  exact folded [] proper

namespace Store

variable {store : Store} {path : Path} {names : List String}

/-- What a place is comes from the names of a path, if the system accepts the path. -/
theorem place_eq_ok : store.place path = .ok names ↔
    '\x00' ∉ path.text.toList ∧ path.text.utf8ByteSize ≤ longestPath ∧
      ∃ count ≤ mostLinks, Leads store.root count (store.origin path) path.names names := by
  unfold place
  by_cases null : '\x00' ∈ path.text.toList
  · simp [null]
  · by_cases short : path.text.utf8ByteSize ≤ longestPath
    · simp [null, short, Nat.not_lt.2 short, follow_eq_ok]
    · simp [null, short, Nat.lt_of_not_le short]

/-- A path that leads to a directory is resolved to the place of that directory. -/
theorem resolve_eq_ok (formed : store.root.WellFormed) (placed : store.place path = .ok names)
    (directory : store.root.kindAt names = some .directory) :
    store.resolve path = .ok ⟨1, names⟩ := by
  rcases place_eq_ok.1 placed with ⟨noNull, _, count, _, leads⟩
  have proper : ∀ name ∈ names, name ≠ ".." := by
    rcases Node.kindAt_eq_directory.1 directory with ⟨entries, found⟩
    exact fun name member => (formed.isEntryName found name member).notAbove
  have started : Opened store.root [] store.root.linkCount count :=
    ⟨List.nodup_nil, nofun, by simp⟩
  have again : store.node ⟨1, names⟩ ≠ .error .tooManyLinks := by
    have followed := follow_directory mostLinks proper directory
    have origin : store.origin ⟨1, names⟩ = [] := rfl
    have looked : store.place ⟨1, names⟩ = .error .nullCharacter ∨
        store.place ⟨1, names⟩ = .error .nameTooLong ∨ store.place ⟨1, names⟩ = .ok names := by
      unfold place
      rw [origin, followed]
      split_ifs <;> simp
    rcases looked with refused | refused | again
    · rw [node_of_error refused]
      exact nofun
    · rw [node_of_error refused]
      exact nofun
    · rcases Node.kindAt_eq_directory.1 directory with ⟨entries, found⟩
      rw [node_of_place again, found]
      exact nofun
  unfold resolve
  rw [List.contains_eq_mem, decide_eq_false noNull, if_neg Bool.false_ne_true,
    resolveFrom_eq leads started]
  dsimp only
  rw [collapseDots_eq_self proper]
  split
  · rename_i circle
    exact absurd circle again
  · rfl

end Store

end Files
end ImportCensus

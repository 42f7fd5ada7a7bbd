import ImportCensus.Proofs.Files.Alike
import ImportCensus.Proofs.Files.Resolving
import ImportCensus.Proofs.Files.Stepping

namespace ImportCensus
namespace Files

/-!
# Alike stores resolve alike

To resolve a path, a store is asked for the targets of links and for the number of its links.
Both are told by the kinds of what stands at its places: in a well-formed node every link
stands at a place of its own.  Stores that are alike therefore resolve every path to the same
one, whatever their files hold (`Store.Alike.resolve_eq`).
-/

namespace Node

variable {node other : Node} {entries : List (String × Node)} {names : List String}

/-- The places of links below a directory begin with the name of an entry. -/
theorem of_mem_linkPlacesAll (member : names ∈ linkPlacesAll entries) :
    ∃ entry ∈ entries, ∃ place ∈ entry.2.linkPlaces, names = entry.1 :: place := by
  induction entries with
  | nil => cases member
  | cons entry rest ih =>
      rw [linkPlacesAll, List.mem_append] at member
      rcases member with here | later
      · rcases List.mem_map.1 here with ⟨place, within, same⟩
        exact ⟨entry, List.mem_cons_self, place, within, same.symm⟩
      · rcases ih later with ⟨found, listed, below⟩
        exact ⟨found, List.mem_cons_of_mem _ listed, below⟩

mutual

/-- In a well-formed node every link stands at a place of its own. -/
theorem nodup_linkPlaces : (node : Node) -> node.WellFormed -> node.linkPlaces.Nodup
  | .link _, _ => List.nodup_singleton _
  | .file _, _ => List.nodup_nil
  | .directory entries, formed => by
      rw [WellFormed] at formed
      exact nodup_linkPlacesAll entries formed.1 formed.2

theorem nodup_linkPlacesAll : (entries : List (String × Node)) ->
    (entries.map Prod.fst).Nodup -> AllWellFormed entries -> (linkPlacesAll entries).Nodup
  | [], _, _ => List.nodup_nil
  | (name, node) :: rest, distinct, formed => by
      rw [AllWellFormed] at formed
      rw [List.map_cons, List.nodup_cons] at distinct
      rw [linkPlacesAll, List.nodup_append]
      refine ⟨(nodup_linkPlaces node formed.2.1).map fun _ _ => List.tail_eq_of_cons_eq,
        nodup_linkPlacesAll rest distinct.2 formed.2.2, ?_⟩
      intro first here second later same
      rcases List.mem_map.1 here with ⟨place, _, rfl⟩
      rcases of_mem_linkPlacesAll later with ⟨entry, listed, below, _, rfl⟩
      cases same
      exact distinct.1 (List.mem_map.2 ⟨entry, listed, rfl⟩)

end

/-- At the places of links there are links. -/
theorem kindAt_of_mem_linkPlaces (formed : node.WellFormed) (member : names ∈ node.linkPlaces) :
    ∃ target, node.kindAt names = some (.link target) := by
  induction names generalizing node with
  | nil =>
      cases node with
      | link target => exact ⟨target, rfl⟩
      | file content => cases member
      | directory entries =>
          rcases of_mem_linkPlacesAll member with ⟨_, _, _, _, same⟩
          cases same
  | cons name rest ih =>
      cases node with
      | link target => cases List.mem_singleton.1 member
      | file content => cases member
      | directory entries =>
          rw [WellFormed, allWellFormed_iff] at formed
          rcases of_mem_linkPlacesAll member with ⟨entry, listed, place, within, same⟩
          cases same
          rcases ih (formed.2 entry listed).2 within with ⟨target, stands⟩
          have named : named? entry.1 entries = some entry.2 :=
            (named?_eq_some formed.1).2 listed
          refine ⟨target, ?_⟩
          rw [kindAt_eq_link, at?, named]
          exact kindAt_eq_link.1 stands

/-- Nodes with the same kinds at their places have as many links. -/
theorem linkCount_congr (formed : node.WellFormed) (alike : other.WellFormed)
    (kinds : ∀ names, other.kindAt names = node.kindAt names) :
    other.linkCount = node.linkCount := by
  -- The places of the links of either node are places of links in the other one.
  apply Nat.le_antisymm
  · rw [← length_linkPlaces other]
    apply length_le_linkCount (nodup_linkPlaces other alike)
    intro place member
    rw [← kinds]
    exact kindAt_of_mem_linkPlaces alike member
  · rw [← length_linkPlaces node]
    apply length_le_linkCount (nodup_linkPlaces node formed)
    intro place member
    rw [kinds]
    exact kindAt_of_mem_linkPlaces formed member

end Node

theorem linkTarget?_eq_kindAt (root : Node) (names : List String) :
    linkTarget? root names = match root.kindAt names with
      | some (.link target) => some (.ofText target)
      | _ => none := by
  unfold linkTarget? Node.kindAt
  cases root.at? names with
  | none => rfl
  | some node => cases node <;> rfl

/-- To resolve names, only links are asked for. -/
theorem resolveFrom_congr {root other : Node}
    (kinds : ∀ names, other.kindAt names = root.kindAt names) (opened : List (List String))
    (limit : Nat) (place pending : List String) :
    resolveFrom other opened limit place pending = resolveFrom root opened limit place pending := by
  have targets : ∀ names, linkTarget? other names = linkTarget? root names := by
    intro names
    rw [linkTarget?_eq_kindAt, linkTarget?_eq_kindAt, kinds]
  fun_induction resolveFrom root opened limit place pending <;> grind [resolveFrom]

namespace Store.Alike

variable {store other : Store}

theorem symm (alike : store.Alike other) : other.Alike store :=
  ⟨alike.working.symm, fun names => (alike.kinds names).symm⟩

/-- What a path leads to is of the same kind in both stores. -/
theorem reaches_iff (alike : store.Alike other) (path : Path) (kind : Kind) :
    other.Reaches path kind ↔ store.Reaches path kind := by
  rw [reaches_iff_place, reaches_iff_place, alike.place_eq]
  simp only [alike.kinds]

/-- A look-up that fails in one of the stores fails in the other one for the same reason. -/
theorem node_eq_error (alike : store.Alike other) (path : Path) (fault : LookupFault) :
    other.node path = .error fault ↔ store.node path = .error fault := by
  have same := alike.place_eq path
  cases placed : store.place path with
  | error reason => rw [node_of_error placed, node_of_error (same.trans placed)]
  | ok names =>
      have vacant : other.root.at? names = none ↔ store.root.at? names = none := by
        rw [← Node.kindAt_eq_none, ← Node.kindAt_eq_none, alike.kinds]
      rw [node_of_place placed, node_of_place (same.trans placed)]
      cases before : store.root.at? names with
      | none => rw [vacant.2 before]
      | some node =>
          cases after : other.root.at? names with
          | none => exact absurd (vacant.1 after) (before ▸ nofun)
          | some later => simp

/-- Every path is resolved to the same one in both stores. -/
theorem resolve_eq (alike : store.Alike other) (formed : store.root.WellFormed)
    (formedOther : other.root.WellFormed) (path : Path) :
    other.resolve path = store.resolve path := by
  have links := Node.linkCount_congr formed formedOther alike.kinds
  have origin : other.origin path = store.origin path := by
    unfold origin
    rw [alike.working]
  have circle := fun resolved : Path => alike.node_eq_error resolved .tooManyLinks
  unfold resolve
  rw [links, origin, resolveFrom_congr alike.kinds]
  dsimp only
  split
  · rfl
  · split
    · rename_i failed
      rw [(circle _).1 failed]
    · rename_i resolves
      split
      · rename_i failed
        exact absurd ((circle _).2 failed) resolves
      · rfl

end Store.Alike

end Files
end ImportCensus

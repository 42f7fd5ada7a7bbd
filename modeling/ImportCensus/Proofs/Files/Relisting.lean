import ImportCensus.Proofs.Files.Likeness

namespace ImportCensus
namespace Files

/-!
# Directories listed in another order

The order in which a system lists the entries of a directory is its own affair.  A `Listing`
is a choice of such an order for every directory, made at each place by itself and for
whatever stands there.  A tree that is listed anew is the same tree to every look-up: the
same kinds of things stand at the same places, and the same is read of every file.
-/

/-- The orders in which the entries of directories are listed. -/
structure Listing where
  list : List String -> List (String × Node) -> List (String × Node)
  /-- Every entry is listed, as often as it is there. -/
  perm : ∀ place entries, (list place entries).Perm entries

namespace Node

mutual

/-- The same tree with the entries of its directories in another order, given the place of
the tree. -/
def relist (listing : Listing) (place : List String) : Node -> Node
  | .directory entries => .directory (listing.list place (relistAll listing place entries))
  | .file content => .file content
  | .link target => .link target

def relistAll (listing : Listing) (place : List String) :
    List (String × Node) -> List (String × Node)
  | [] => []
  | (name, node) :: rest =>
    (name, node.relist listing (place ++ [name])) :: relistAll listing place rest

end

variable {listing : Listing} {place names : List String} {name : String} {node child : Node}
  {entries : List (String × Node)}

theorem relistAll_eq_map : relistAll listing place entries =
    entries.map fun entry => (entry.1, entry.2.relist listing (place ++ [entry.1])) := by
  induction entries with
  | nil => rfl
  | cons entry rest ih => rw [relistAll, ih, List.map_cons]

@[simp] theorem kind_relist : (node.relist listing place).kind = node.kind := by
  cases node <;> simp [relist, kind]

theorem map_fst_relist :
    ((listing.list place (relistAll listing place entries)).map Prod.fst).Perm
      (entries.map Prod.fst) := by
  refine ((listing.perm place _).map Prod.fst).trans (List.Perm.of_eq ?_)
  rw [relistAll_eq_map, List.map_map]
  rfl

mutual

theorem wellFormed_relist : (node : Node) -> (place : List String) -> node.WellFormed ->
    (node.relist listing place).WellFormed
  | .directory entries, place, formed => by
      rw [WellFormed, allWellFormed_iff] at formed
      rw [relist, WellFormed, allWellFormed_iff]
      refine ⟨map_fst_relist.nodup_iff.2 formed.1, ?_⟩
      intro entry member
      exact wellFormed_relistAll entries place (allWellFormed_iff.2 formed.2) entry
        ((listing.perm place _).mem_iff.1 member)
  | .file _, _, _ => by simp [relist, WellFormed]
  | .link _, _, _ => by simp [relist, WellFormed]

theorem wellFormed_relistAll : (entries : List (String × Node)) -> (place : List String) ->
    AllWellFormed entries -> ∀ entry ∈ relistAll listing place entries,
      IsEntryName entry.1 ∧ entry.2.WellFormed
  | [], _, _ => nofun
  | (name, node) :: rest, place, formed => by
      rw [AllWellFormed] at formed
      exact List.forall_mem_cons.2 ⟨⟨formed.1, wellFormed_relist node _ formed.2.1⟩,
        wellFormed_relistAll rest place formed.2.2⟩

end

/-- Under every name stands what stood there before, listed anew. -/
theorem named?_relist (distinct : (entries.map Prod.fst).Nodup) :
    named? name (listing.list place (relistAll listing place entries)) =
      (named? name entries).map fun child => child.relist listing (place ++ [name]) := by
  have distinctAfter : ((listing.list place (relistAll listing place entries)).map Prod.fst).Nodup :=
    map_fst_relist.nodup_iff.2 distinct
  apply Option.ext
  intro later
  rw [named?_eq_some distinctAfter, (listing.perm place _).mem_iff, relistAll_eq_map,
    List.mem_map, Option.map_eq_some_iff]
  constructor
  · rintro ⟨⟨name, child⟩, member, same⟩
    cases same
    exact ⟨child, (named?_eq_some distinct).2 member, rfl⟩
  · rintro ⟨child, found, rfl⟩
    exact ⟨(name, child), mem_of_named? found, rfl⟩

/-- At every place stands what stood there before, listed anew. -/
theorem at?_relist (formed : node.WellFormed) :
    (node.relist listing place).at? names =
      (node.at? names).map fun child => child.relist listing (place ++ names) := by
  induction names generalizing node place with
  | nil =>
      rw [at?, at?, Option.map_some, List.append_nil]
  | cons name rest ih =>
      cases node with
      | file content => rfl
      | link target => rfl
      | directory entries =>
          rw [WellFormed, allWellFormed_iff] at formed
          rw [relist, at?, at?, named?_relist formed.1, Option.bind_map, Option.map_bind]
          cases found : named? name entries with
          | none => rfl
          | some child =>
              have below : (child.relist listing (place ++ [name])).at? rest =
                  (child.at? rest).map fun other => other.relist listing (place ++ [name] ++ rest) :=
                ih (formed.2 _ (mem_of_named? found)).2
              rwa [List.append_assoc] at below

theorem kindAt_relist (formed : node.WellFormed) :
    (node.relist listing place).kindAt names = node.kindAt names := by
  rw [kindAt, kindAt, at?_relist formed, Option.map_map]
  apply congrFun (congrArg Option.map ?_)
  funext child
  exact kind_relist

theorem contentAt_relist (formed : node.WellFormed) :
    (node.relist listing place).contentAt names = node.contentAt names := by
  rw [contentAt, contentAt, at?_relist formed]
  cases node.at? names with
  | none => rfl
  | some child => cases child <;> simp [relist]

end Node

namespace Store

/-- The same store with its directories listed in another order. -/
def relist (store : Store) (listing : Listing) : Store :=
  { store with root := store.root.relist listing [] }

variable {store : Store}

theorem alike_relist (formed : store.root.WellFormed) (listing : Listing) :
    store.Alike (store.relist listing) :=
  ⟨rfl, fun _ => Node.kindAt_relist formed⟩

theorem wellFormed_relist (formed : store.root.WellFormed) (listing : Listing) :
    (store.relist listing).root.WellFormed :=
  Node.wellFormed_relist store.root [] formed

/-- The same is read of every path. -/
theorem content_relist (formed : store.root.WellFormed) (listing : Listing) (path : Path) :
    (store.relist listing).content path = store.content path := by
  have same := (alike_relist formed listing).place_eq path
  cases placed : store.place path with
  | error fault => rw [content_of_error placed, content_of_error (same.trans placed)]
  | ok names =>
      have kinds : (store.relist listing).root.kindAt names = store.root.kindAt names :=
        Node.kindAt_relist formed
      have contents : (store.relist listing).root.contentAt names = store.root.contentAt names :=
        Node.contentAt_relist formed
      rw [content_of_place placed, content_of_place (same.trans placed), kinds, contents]

end Store

end Files
end ImportCensus

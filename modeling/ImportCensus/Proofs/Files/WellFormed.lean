import ImportCensus.Files.Store

namespace ImportCensus
namespace Files

/-!
# Nodes as file systems have them

The entries of a directory have distinct names, and each of these is a single name:
it is not empty, it holds no slash, and it is not one of the dots that lead back.
Nodes in general are trees without such restrictions, which are therefore stated here
once for a whole tree (`Node.WellFormed`).
-/

/-- A name that an entry of a directory can have. -/
structure IsEntryName (name : String) : Prop where
  notEmpty : name ≠ ""
  notHere : name ≠ "."
  notAbove : name ≠ ".."
  single : '/' ∉ name.toList

instance (name : String) : Decidable (IsEntryName name) :=
  decidable_of_iff (name ≠ "" ∧ name ≠ "." ∧ name ≠ ".." ∧ '/' ∉ name.toList)
    ⟨fun ⟨notEmpty, notHere, notAbove, single⟩ => ⟨notEmpty, notHere, notAbove, single⟩,
      fun ⟨notEmpty, notHere, notAbove, single⟩ => ⟨notEmpty, notHere, notAbove, single⟩⟩

namespace Node

mutual

/-- In every directory of a node the names are distinct and can be names of entries. -/
def WellFormed : Node -> Prop
  | .directory entries => (entries.map Prod.fst).Nodup ∧ AllWellFormed entries
  | .file _ => True
  | .link _ => True

def AllWellFormed : List (String × Node) -> Prop
  | [] => True
  | (name, node) :: rest => IsEntryName name ∧ node.WellFormed ∧ AllWellFormed rest

end

variable {name : String} {node child : Node} {entries : List (String × Node)}

theorem allWellFormed_iff :
    AllWellFormed entries ↔ ∀ entry ∈ entries, IsEntryName entry.1 ∧ entry.2.WellFormed := by
  induction entries with
  | nil => simp [AllWellFormed]
  | cons entry rest ih =>
      rw [AllWellFormed, ih, List.forall_mem_cons, and_assoc]

/-! ## Looking up -/

theorem mem_of_named? (found : named? name entries = some child) : (name, child) ∈ entries := by
  induction entries with
  | nil => cases found
  | cons entry rest ih =>
      rw [named?] at found
      split at found
      · rename_i same
        cases found
        rw [← same]
        exact List.mem_cons_self
      · exact List.mem_cons_of_mem _ (ih found)

/-- Where names are distinct, every entry is found under its name. -/
theorem named?_eq_some (distinct : (entries.map Prod.fst).Nodup) :
    named? name entries = some child ↔ (name, child) ∈ entries := by
  refine ⟨mem_of_named?, ?_⟩
  induction entries with
  | nil => exact nofun
  | cons entry rest ih =>
      intro member
      rw [List.map_cons, List.nodup_cons] at distinct
      rw [named?]
      rcases List.mem_cons.1 member with rfl | later
      · exact if_pos rfl
      · have other : entry.1 ≠ name := by
          rintro rfl
          exact distinct.1 (List.mem_map.2 ⟨_, later, rfl⟩)
        rw [if_neg other]
        exact ih distinct.2 later

theorem at?_append (front behind : List String) :
    node.at? (front ++ behind) = (node.at? front).bind fun below => below.at? behind := by
  induction front generalizing node with
  | nil => rfl
  | cons name rest ih =>
      cases node with
      | directory entries =>
          rw [List.cons_append, at?, at?]
          cases named? name entries with
          | none => rfl
          | some child => exact ih
      | file content => rfl
      | link target => rfl

/-- What stands in a well-formed node is well-formed. -/
theorem WellFormed.at? {names : List String} (formed : node.WellFormed)
    (found : node.at? names = some child) : child.WellFormed := by
  induction names generalizing node with
  | nil =>
      cases found
      exact formed
  | cons name rest ih =>
      cases node with
      | directory entries =>
          rcases Option.bind_eq_some_iff.1 found with ⟨next, first, later⟩
          rw [WellFormed, allWellFormed_iff] at formed
          exact ih (formed.2 _ (mem_of_named? first)).2 later
      | file content => cases found
      | link target => cases found

/-- The names that lead to what stands in a well-formed node are names of entries. -/
theorem WellFormed.isEntryName {names : List String} (formed : node.WellFormed)
    (found : node.at? names = some child) : ∀ name ∈ names, IsEntryName name := by
  induction names generalizing node with
  | nil => exact nofun
  | cons name rest ih =>
      cases node with
      | directory entries =>
          rcases Option.bind_eq_some_iff.1 found with ⟨next, first, later⟩
          rw [WellFormed, allWellFormed_iff] at formed
          have entry := formed.2 _ (mem_of_named? first)
          exact List.forall_mem_cons.2 ⟨entry.1, ih entry.2 later⟩
      | file content => cases found
      | link target => cases found

end Node

/-- A path that holds no null character and is not too long is followed name by name. -/
theorem Store.place_eq_follow {store : Store} {path : Path}
    (noNull : path.text.toList.contains '\x00' = false)
    (short : decide (longestPath < path.text.utf8ByteSize) = false) :
    store.place path = follow store.root mostLinks (store.origin path) path.names := by
  unfold Store.place
  rw [noNull, if_neg Bool.false_ne_true, if_neg (of_decide_eq_false short)]

/-- The real place with its two checks as truth values, which are evaluated as they stand: the
proposition that the path is too long would be decided by counting to the limit. -/
theorem Store.place_eq_cond (store : Store) (path : Path) : store.place path =
    bif path.text.toList.contains '\x00' then .error .nullCharacter
    else bif decide (longestPath < path.text.utf8ByteSize) then .error .nameTooLong
    else follow store.root mostLinks (store.origin path) path.names := by
  simp only [Store.place, cond_eq_ite, decide_eq_true_eq]

end Files
end ImportCensus

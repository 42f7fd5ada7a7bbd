import ImportCensus.Proofs.Files.Following

namespace ImportCensus
namespace Files

/-!
# Stores that differ in contents only

Two stores are alike if the same kinds of things stand at the same places of both.  Every
path then has the same place in both, and no question that is answered by a kind can tell
them apart; only what is read of a file can.
-/

/-- Stores that differ in the contents of their files, and in nothing else. -/
structure Store.Alike (store other : Store) : Prop where
  working : other.working = store.working
  kinds : ∀ names, other.root.kindAt names = store.root.kindAt names

/-- To follow names, only kinds are asked for. -/
theorem follow_congr {root other : Node}
    (kinds : ∀ names, other.kindAt names = root.kindAt names) (links : Nat)
    (place pending : List String) : follow other links place pending = follow root links place pending := by
  induction links, place, pending using follow_induction with
  | nil links place => rw [follow_nil, follow_nil]
  | cons links place name rest shorter fewer =>
      by_cases within : root.kindAt place = some .directory
      · rw [follow_cons within, follow_cons ((kinds place).trans within), kinds]
        split
        · exact shorter _
        · split
          · rfl
          · split
            · rfl
            · cases links with
              | zero => rfl
              | succ links => exact fewer links (Nat.lt_succ_self links) _ _
            · exact shorter _
      · have without : other.kindAt place ≠ some .directory := by
          rw [kinds]
          exact within
        rw [follow_cons_of_ne within, follow_cons_of_ne without]

namespace Store.Alike

variable {store other : Store}

theorem place_eq (alike : store.Alike other) (path : Path) : other.place path = store.place path := by
  unfold place origin
  rw [alike.working, follow_congr alike.kinds]

/-- A question that is answered by the kind of a node has the same answer in both stores. -/
theorem test_eq (alike : store.Alike other) {property : Node -> Bool}
    (kindly : ∀ first second : Node, first.kind = second.kind -> property first = property second)
    (path : Path) : other.test property path = store.test property path := by
  have same := alike.place_eq path
  unfold test
  cases placed : store.place path with
  | error fault =>
      rw [placed] at same
      rw [node_of_error placed, node_of_error same]
  | ok names =>
      rw [placed] at same
      rw [node_of_place placed, node_of_place same]
      have kinds := alike.kinds names
      unfold Node.kindAt at kinds
      cases found : store.root.at? names with
      | none =>
          rw [found, Option.map_none, Option.map_eq_none_iff] at kinds
          rw [kinds]
      | some node =>
          rw [found] at kinds
          rcases Option.map_eq_some_iff.1 kinds with ⟨later, foundLater, kind⟩
          rw [foundLater]
          exact congrArg Except.ok (kindly later node kind)

theorem test_isFile (alike : store.Alike other) (path : Path) :
    other.test Node.isFile path = store.test Node.isFile path := by
  apply alike.test_eq
  intro first second same
  rw [Bool.eq_iff_iff, Node.isFile_iff, Node.isFile_iff, same]

end Store.Alike

end Files
end ImportCensus

import ImportCensus.Proofs.Files.Following

namespace ImportCensus
namespace Files

/-!
# Look-ups step by step

A look-up stands at a place and has names before it (`Trail`).  It takes one name at a
time: it goes up, enters what is named, or, at a link, puts the names of the target before
those that are left (`Step`).  It is done when no names are left, and stuck where the next
one cannot be taken (`Stuck`); there are four reasons for that.

A step changes nothing about where the names lead in the end (`Step.follow`), so a row of
steps does not either (`Steps.follow`), and there is always a step until the look-up is
done or stuck (`Trail.progress`).  So the outcome of a look-up is told by the trail on
which its steps end, and every failure by the reason for which they end there.
-/

/-- Where a look-up stands, and the names before it. -/
structure Trail where
  place : List String
  pending : List String

/-- One step of a look-up, and the number of links that it follows. -/
inductive Step (root : Node) : Nat -> Trail -> Trail -> Prop
  | up {place rest : List String} (within : root.kindAt place = some .directory) :
      Step root 0 ⟨place, ".." :: rest⟩ ⟨place.dropLast, rest⟩
  | enter {place rest : List String} {name : String} {kind : Kind}
      (within : root.kindAt place = some .directory) (proper : name ≠ "..")
      (short : name.utf8ByteSize ≤ longestName)
      (stands : root.kindAt (place ++ [name]) = some kind)
      (plain : ∀ target, kind ≠ .link target) :
      Step root 0 ⟨place, name :: rest⟩ ⟨place ++ [name], rest⟩
  | jump {place rest : List String} {name target : String}
      (within : root.kindAt place = some .directory) (proper : name ≠ "..")
      (short : name.utf8ByteSize ≤ longestName)
      (stands : root.kindAt (place ++ [name]) = some (.link target)) :
      Step root 1 ⟨place, name :: rest⟩
        ⟨(Path.ofText target).start place, (Path.ofText target).names ++ rest⟩

/-- Some steps in a row, and the number of links that they follow. -/
inductive Steps (root : Node) : Nat -> Trail -> Trail -> Prop
  | none (trail : Trail) : Steps root 0 trail trail
  | more {first others : Nat} {trail next last : Trail} (step : Step root first trail next)
      (steps : Steps root others next last) : Steps root (first + others) trail last

/-- Why a look-up cannot take its next name, with so many links left to follow. -/
inductive Stuck (root : Node) (left : Nat) : Trail -> LookupFault -> Prop
  | outside {place rest : List String} {name : String}
      (without : root.kindAt place ≠ some .directory) :
      Stuck root left ⟨place, name :: rest⟩ .notDirectory
  | long {place rest : List String} {name : String}
      (within : root.kindAt place = some .directory) (proper : name ≠ "..")
      (long : longestName < name.utf8ByteSize) :
      Stuck root left ⟨place, name :: rest⟩ .nameTooLong
  | vacant {place rest : List String} {name : String}
      (within : root.kindAt place = some .directory) (proper : name ≠ "..")
      (short : name.utf8ByteSize ≤ longestName) (vacant : root.kindAt (place ++ [name]) = none) :
      Stuck root left ⟨place, name :: rest⟩ .missing
  | spent {place rest : List String} {name target : String}
      (within : root.kindAt place = some .directory) (proper : name ≠ "..")
      (short : name.utf8ByteSize ≤ longestName)
      (stands : root.kindAt (place ++ [name]) = some (.link target)) (spent : left = 0) :
      Stuck root left ⟨place, name :: rest⟩ .tooManyLinks

section

variable {root : Node} {count left links : Nat} {trail next last : Trail}
  {place pending names : List String} {fault : LookupFault}

/-- A step leaves it as it is where the names lead. -/
theorem Step.follow (step : Step root count trail next) (left : Nat) :
    Files.follow root (count + left) trail.place trail.pending =
      Files.follow root left next.place next.pending := by
  cases step with
  | up within => rw [Nat.zero_add, follow_cons within, if_pos rfl]
  | enter within proper short stands plain =>
      rw [Nat.zero_add, follow_cons within, if_neg proper, if_neg (Nat.not_lt.2 short), stands]
      split
      · rename_i absent
        cases absent
      · rename_i target same
        exact absurd (Option.some.inj same) (plain target)
      · rfl
  | jump within proper short stands =>
      rw [Nat.add_comm, follow_cons within, if_neg proper, if_neg (Nat.not_lt.2 short), stands]

theorem Steps.follow (steps : Steps root count trail last) (left : Nat) :
    Files.follow root (count + left) trail.place trail.pending =
      Files.follow root left last.place last.pending := by
  induction steps with
  | none trail => rw [Nat.zero_add]
  | more step steps ih => rw [Nat.add_assoc, step.follow, ih]

/-- A look-up that is stuck fails for the reason that it is stuck for. -/
theorem Stuck.follow (stuck : Stuck root left trail fault) :
    Files.follow root left trail.place trail.pending = .error fault := by
  cases stuck with
  | outside without => exact follow_cons_of_ne without
  | long within proper long => rw [follow_cons within, if_neg proper, if_pos long]
  | vacant within proper short vacant =>
      rw [follow_cons within, if_neg proper, if_neg (Nat.not_lt.2 short), vacant]
  | spent within proper short stands spent =>
      rw [follow_cons within, if_neg proper, if_neg (Nat.not_lt.2 short), stands, spent]

/-- With a name before it a look-up is stuck, or it can take a step. -/
theorem Trail.progress (root : Node) (left : Nat) (place rest : List String) (name : String) :
    (∃ fault, Stuck root left ⟨place, name :: rest⟩ fault) ∨
      ∃ count ≤ left, ∃ next, Step root count ⟨place, name :: rest⟩ next ∧
        (count = 0 → next.pending = rest) := by
  by_cases within : root.kindAt place = some .directory
  · by_cases above : name = ".."
    · subst above
      exact .inr ⟨0, Nat.zero_le _, _, .up within, fun _ => rfl⟩
    · by_cases short : name.utf8ByteSize ≤ longestName
      · cases stands : root.kindAt (place ++ [name]) with
        | none => exact .inl ⟨_, .vacant within above short stands⟩
        | some kind =>
            cases kind with
            | file => exact .inr ⟨0, Nat.zero_le _, _, .enter within above short stands nofun, fun _ => rfl⟩
            | directory =>
                exact .inr ⟨0, Nat.zero_le _, _, .enter within above short stands nofun, fun _ => rfl⟩
            | link target =>
                by_cases spent : left = 0
                · exact .inl ⟨_, .spent within above short stands spent⟩
                · exact .inr ⟨1, Nat.pos_of_ne_zero spent, _, .jump within above short stands, nofun⟩
      · exact .inl ⟨_, .long within above (Nat.lt_of_not_le short)⟩
  · exact .inl ⟨_, .outside within⟩

/-- The steps of a look-up end: it is done, or it is stuck. -/
theorem Trail.ends (root : Node) (links : Nat) (place pending : List String) :
    ∃ count ≤ links, ∃ last, Steps root count ⟨place, pending⟩ last ∧
      (last.pending = [] ∨ ∃ fault, Stuck root (links - count) last fault) := by
  induction links, place, pending using follow_induction with
  | nil links place => exact ⟨0, Nat.zero_le _, _, .none _, .inl rfl⟩
  | cons links place name rest shorter fewer =>
      rcases Trail.progress root links place rest name with stuck | ⟨first, most, next, step, taken⟩
      · exact ⟨0, Nat.zero_le _, _, .none _, .inr stuck⟩
      · -- A step takes a name or a link away from what is left.
        have onward : ∃ count ≤ links - first, ∃ last, Steps root count next last ∧
            (last.pending = [] ∨ ∃ fault, Stuck root (links - first - count) last fault) := by
          rcases Nat.eq_zero_or_pos first with none | some
          · have behind := shorter next.place
            rwa [← taken none, ← Nat.sub_zero links, ← none] at behind
          · exact fewer (links - first) (by omega) next.place next.pending
        rcases onward with ⟨others, enough, last, steps, ended⟩
        refine ⟨first + others, by omega, last, .more step steps, ?_⟩
        rwa [Nat.sub_sub] at ended

/-- Names are followed to where the steps of the look-up are done. -/
theorem follow_eq_ok_iff_steps : follow root links place pending = .ok names ↔
    ∃ count ≤ links, Steps root count ⟨place, pending⟩ ⟨names, []⟩ := by
  constructor
  · intro found
    rcases Trail.ends root links place pending with ⟨count, enough, last, steps, ended⟩
    have followed := steps.follow (links - count)
    rw [Nat.add_sub_cancel' enough, found] at followed
    rcases ended with done | ⟨fault, stuck⟩
    · rcases last with ⟨place, left⟩
      subst done
      rw [follow_nil] at followed
      cases followed
      exact ⟨count, enough, steps⟩
    · rw [stuck.follow] at followed
      cases followed
  · rintro ⟨count, enough, steps⟩
    have followed := steps.follow (links - count)
    rwa [Nat.add_sub_cancel' enough, follow_nil] at followed

/-- Names cannot be followed if and only if the steps of the look-up come to where it is
stuck, and the fault tells the reason. -/
theorem follow_eq_error_iff_stuck : follow root links place pending = .error fault ↔
    ∃ count ≤ links, ∃ last, Steps root count ⟨place, pending⟩ last ∧
      Stuck root (links - count) last fault := by
  constructor
  · intro failed
    rcases Trail.ends root links place pending with ⟨count, enough, last, steps, ended⟩
    have followed := steps.follow (links - count)
    rw [Nat.add_sub_cancel' enough, failed] at followed
    refine ⟨count, enough, last, steps, ?_⟩
    rcases ended with done | ⟨other, stuck⟩
    · rw [done, follow_nil] at followed
      cases followed
    · rw [stuck.follow] at followed
      cases followed
      exact stuck
  · rintro ⟨count, enough, last, steps, stuck⟩
    have followed := steps.follow (links - count)
    rwa [Nat.add_sub_cancel' enough, stuck.follow] at followed

end

/-! ## Paths -/

namespace Store

/-- Links followed, a path leads to something of a kind. -/
structure Reaches (store : Store) (path : Path) (kind : Kind) : Prop where
  noNull : '\x00' ∉ path.text.toList
  short : path.text.utf8ByteSize ≤ longestPath
  found : ∃ count ≤ mostLinks, ∃ names,
    Steps store.root count ⟨store.origin path, path.names⟩ ⟨names, []⟩ ∧
      store.root.kindAt names = some kind

/-- A path is too long to be looked up, or its look-up comes to a name that is. -/
structure Overlong (store : Store) (path : Path) : Prop where
  noNull : '\x00' ∉ path.text.toList
  long : longestPath < path.text.utf8ByteSize ∨
    ∃ count ≤ mostLinks, ∃ last, Steps store.root count ⟨store.origin path, path.names⟩ last ∧
      Stuck store.root (mostLinks - count) last .nameTooLong

variable {store : Store} {path : Path} {kind : Kind} {fault : LookupFault}

theorem reaches_iff_place : store.Reaches path kind ↔
    ∃ names, store.place path = .ok names ∧ store.root.kindAt names = some kind := by
  unfold place
  constructor
  · rintro ⟨noNull, short, count, enough, names, steps, stands⟩
    refine ⟨names, ?_, stands⟩
    simp [noNull, Nat.not_lt.2 short, follow_eq_ok_iff_steps.2 ⟨count, enough, steps⟩]
  · rintro ⟨names, placed, stands⟩
    split at placed
    · cases placed
    · rename_i noNull
      split at placed
      · cases placed
      · rename_i short
        rcases follow_eq_ok_iff_steps.1 placed with ⟨count, enough, steps⟩
        exact ⟨by simpa using noNull, Nat.not_lt.1 short, count, enough, names, steps, stands⟩

theorem reaches_iff_node : store.Reaches path kind ↔
    ∃ node, store.node path = .ok node ∧ node.kind = kind := by
  rw [reaches_iff_place]
  cases placed : store.place path with
  | error fault => simp [node_of_error placed]
  | ok names =>
      rw [node_of_place placed]
      unfold Node.kindAt
      cases found : store.root.at? names <;> simp [found]

theorem overlong_iff_node : store.Overlong path ↔ store.node path = .error .nameTooLong := by
  have placed : store.node path = .error .nameTooLong ↔ store.place path = .error .nameTooLong := by
    cases placed : store.place path with
    | error fault => simp [node_of_error placed]
    | ok names =>
        rw [node_of_place placed]
        cases store.root.at? names <;> simp
  rw [placed]
  unfold place
  constructor
  · rintro ⟨noNull, long | ⟨count, enough, last, steps, stuck⟩⟩
    · simp [noNull, long]
    · simp [noNull, follow_eq_error_iff_stuck.2 ⟨count, enough, last, steps, stuck⟩]
  · intro failed
    split at failed
    · cases failed
    · rename_i noNull
      refine ⟨by simpa using noNull, ?_⟩
      split at failed
      · rename_i long
        exact .inl long
      · exact .inr (follow_eq_error_iff_stuck.1 failed)

/-- A path leads to one kind of thing at most. -/
theorem Reaches.unique {other : Kind} (reaches : store.Reaches path kind)
    (again : store.Reaches path other) : kind = other := by
  rcases reaches_iff_node.1 reaches with ⟨node, found, rfl⟩
  rcases reaches_iff_node.1 again with ⟨_, same, rfl⟩
  rw [found] at same
  cases same
  rfl

theorem Reaches.fits (reaches : store.Reaches path kind) : ¬store.Overlong path := by
  intro overlong
  rcases reaches_iff_node.1 reaches with ⟨node, found, _⟩
  rw [overlong_iff_node.1 overlong] at found
  cases found

/-- To be a directory is a reason why something cannot be read, but never why it is not found. -/
theorem node_ne_isDirectory : store.node path ≠ .error .isDirectory := by
  intro failed
  cases placed : store.place path with
  | error fault =>
      rw [node_of_error placed] at failed
      cases failed
      unfold place at placed
      split at placed
      · cases placed
      · split at placed
        · cases placed
        · rcases follow_eq_error_iff_stuck.1 placed with ⟨count, _, last, _, stuck⟩
          cases stuck
  | ok names =>
      rw [node_of_place placed] at failed
      split at failed <;> cases failed

/-- A null character is refused before the first step, and no step comes upon one. -/
theorem place_eq_nullCharacter :
    store.place path = .error .nullCharacter ↔ '\x00' ∈ path.text.toList := by
  unfold place
  constructor
  · intro failed
    split at failed
    · rename_i null
      simpa using null
    · split at failed
      · cases failed
      · rcases follow_eq_error_iff_stuck.1 failed with ⟨count, _, last, _, stuck⟩
        cases stuck
  · intro null
    simp [null]

theorem null_of_content (refused : store.content path = .error .nullCharacter) :
    '\x00' ∈ path.text.toList := by
  cases placed : store.place path with
  | error fault =>
      rw [content_of_error placed] at refused
      cases refused
      exact place_eq_nullCharacter.1 placed
  | ok names =>
      rw [content_of_place placed] at refused
      split at refused <;> cases refused

theorem test_of_node {node : Node} (found : store.node path = .ok node) (holds : Node -> Bool) :
    store.test holds path = .ok (holds node) := by
  unfold test
  rw [found]

theorem test_of_node_error {fault : LookupFault} (failed : store.node path = .error fault)
    (holds : Node -> Bool) :
    store.test holds path = if isAbsence fault then .ok false else .error fault := by
  unfold test
  rw [failed]

/-- A look-up finds something, finds nothing, or is given up since a name is too long. -/
theorem node_cases (store : Store) (path : Path) :
    (∃ node, store.node path = .ok node ∧ store.Reaches path node.kind) ∨
      (∃ fault, store.node path = .error fault ∧ isAbsence fault = true ∧
        (∀ kind, ¬store.Reaches path kind) ∧ ¬store.Overlong path) ∨
      (store.node path = .error .nameTooLong ∧ store.Overlong path) := by
  cases found : store.node path with
  | ok node => exact .inl ⟨node, rfl, reaches_iff_node.2 ⟨node, found, rfl⟩⟩
  | error fault =>
      have nowhere : ∀ kind, ¬store.Reaches path kind := by
        intro kind reaches
        rcases reaches_iff_node.1 reaches with ⟨node, same, _⟩
        rw [found] at same
        cases same
      cases fault with
      | isDirectory => exact absurd found node_ne_isDirectory
      | nameTooLong => exact .inr (.inr ⟨rfl, overlong_iff_node.2 found⟩)
      | missing | notDirectory | tooManyLinks | nullCharacter =>
          refine .inr (.inl ⟨_, rfl, rfl, nowhere, ?_⟩)
          rw [overlong_iff_node, found]
          exact nofun

end Store

end Files
end ImportCensus

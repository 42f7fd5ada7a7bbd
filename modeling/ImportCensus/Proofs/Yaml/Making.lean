import ImportCensus.Proofs.Sequence
import ImportCensus.Proofs.Yaml.Scalars
import ImportCensus.Yaml.Value

namespace ImportCensus
namespace Yaml

/-!
# Faults of making

The value of a document is made of the values of the nodes that stand in it.  Where it
cannot be made for the sake of a value, one of these nodes is to blame all by itself: a
scalar whose text has no value of its type, a key that holds what cannot be looked up, or an
ordered mapping that does not tell its entries apart.
-/

open Config (Datum)

variable {isOld : Bool} {outer inner node : Node} {fault : ValueFault}

/-! ## Nodes within nodes -/

/-- A node stands somewhere in another one. -/
inductive Within : Node -> Node -> Prop
  | self (node : Node) : Within node node
  | item {tag : Tag} {items : List Node} {start : Mark} {item inner : Node}
      (member : item ∈ items) (within : Within item inner) :
      Within (.sequence tag items start) inner
  | key {tag : Tag} {entries : List (Node × Node)} {start : Mark} {entry : Node × Node}
      {inner : Node} (member : entry ∈ entries) (within : Within entry.1 inner) :
      Within (.mapping tag entries start) inner
  | value {tag : Tag} {entries : List (Node × Node)} {start : Mark} {entry : Node × Node}
      {inner : Node} (member : entry ∈ entries) (within : Within entry.2 inner) :
      Within (.mapping tag entries start) inner

theorem Within.trans (first : Within outer node) (second : Within node inner) :
    Within outer inner := by
  induction first with
  | self node => exact second
  | item member _ ih => exact .item member (ih second)
  | key member _ ih => exact .key member (ih second)
  | value member _ ih => exact .value member (ih second)

/-- A mapping with one entry in a sequence has its key and its value in there. -/
theorem within_of_pair {seqTag tag : Tag} {items : List Node} {start place : Mark}
    {key value : Node} (member : .mapping tag [(key, value)] place ∈ items) :
    Within (.sequence seqTag items start) key ∧ Within (.sequence seqTag items start) value := by
  have here : (key, value) ∈ [(key, value)] := List.mem_cons_self
  exact ⟨.item member (.key here (.self key)), .item member (.value here (.self value))⟩

/-! ## Nodes that are to blame -/

/-- What is wrong with a node itself if the value of a document cannot be made. -/
inductive Offends (isOld : Bool) : Node -> ValueFault -> Prop
  /-- The text of a scalar has no value of its type. -/
  | scalar {node : Node} {type : StandardType} {fault : ValueFault}
      (tagged : node.tag = .standard type) (lacks : Lacks type fault)
      (failed : scalarDatum isOld node = .error (.value fault)) : Offends isOld node fault
  /-- A key of a mapping holds a collection. -/
  | key {tag : Tag} {entries : List (Node × Node)} {start : Mark} {entry : Node × Node}
      {typeName : String} (member : entry ∈ entries)
      (unhashable : unhashableIn? entry.1 = some typeName) :
      Offends isOld (.mapping tag entries start) (.unhashable typeName)
  /-- A key of an ordered mapping is a collection. -/
  | orderedKey {items : List Node} {start : Mark} {tag : Tag} {entry : Node × Node} {place : Mark}
      {type : CollectionType} (member : .mapping tag [entry] place ∈ items)
      (collection : collectionType? entry.1.tag = some type) :
      Offends isOld (.sequence (.standard .orderedMapping) items start) (.unhashable type.typeName)
  /-- Two entries of an ordered mapping have the same key. -/
  | repeatedEntry {items : List Node} {start : Mark} {tag again : Tag}
      {first second : Node × Node} {place further : Mark} {key found : Datum}
      (inOrder : [.mapping tag [first] place, .mapping again [second] further].Sublist items)
      (firstKey : scalarDatum isOld first.1 = .ok key)
      (secondKey : scalarDatum isOld second.1 = .ok found) (same : sameKey key found = true) :
      Offends isOld (.sequence (.standard .orderedMapping) items start) .repeatedEntry

/-- Some node within a node is to blame. -/
def HoldsOffender (isOld : Bool) (outer : Node) (fault : ValueFault) : Prop :=
  ∃ inner, Within outer inner ∧ Offends isOld inner fault

theorem HoldsOffender.of_within (within : Within outer inner)
    (holds : HoldsOffender isOld inner fault) : HoldsOffender isOld outer fault := by
  rcases holds with ⟨found, standing, offends⟩
  exact ⟨found, within.trans standing, offends⟩

/-! ## Entries of mappings -/

/-- An entry comes from a mapping that stands somewhere in a node.  A key that is marked as
a value is an entry's key as a text. -/
inductive EntryWithin (outer : Node) : Node × Node -> Prop
  | written {tag : Tag} {entries : List (Node × Node)} {start : Mark} {entry : Node × Node}
      (within : Within outer (.mapping tag entries start)) (member : entry ∈ entries) :
      EntryWithin outer entry
  | marked {tag : Tag} {entries : List (Node × Node)} {start : Mark} {entry : Node × Node}
      {text : String} {place : Mark} (within : Within outer (.mapping tag entries start))
      (member : entry ∈ entries) :
      EntryWithin outer (.scalar (.standard .text) text place, entry.2)

namespace EntryWithin

variable {entry : Node × Node}

theorem trans (within : Within outer inner) (standing : EntryWithin inner entry) :
    EntryWithin outer entry := by
  cases standing with
  | written further member => exact .written (within.trans further) member
  | marked further member => exact .marked (within.trans further) member

theorem value (standing : EntryWithin outer entry) : Within outer entry.2 := by
  cases standing with
  | written within member => exact within.trans (.value member (.self _))
  | marked within member => exact within.trans (.value member (.self _))

/-- A key stands within the node as well, unless it is no more than a text. -/
theorem key (standing : EntryWithin outer entry) :
    Within outer entry.1 ∨ ∃ text place, entry.1 = .scalar (.standard .text) text place := by
  cases standing with
  | written within member => exact .inl (within.trans (.key member (.self _)))
  | marked within member => exact .inr ⟨_, _, rfl⟩

/-- A key that holds a collection is one of the document. -/
theorem unhashable {typeName : String} (standing : EntryWithin outer entry)
    (found : unhashableIn? entry.1 = some typeName) :
    HoldsOffender isOld outer (.unhashable typeName) := by
  cases standing with
  | written within member => exact ⟨_, within, .key member found⟩
  | marked within member => cases found

end EntryWithin

/-- The entries of a node, its own ones and merged ones. -/
def AllWithin (outer : Node) (entries : List (Node × Node)) : Prop :=
  ∀ entry ∈ entries, EntryWithin outer entry

theorem AllWithin.trans {entries : List (Node × Node)} (within : Within outer inner)
    (all : AllWithin inner entries) : AllWithin outer entries :=
  fun entry member => (all entry member).trans within

section Merging

variable {cause : ValueFault -> Prop} {entriesOf : Node -> Except Fault (List (Node × Node))}
  (finds : ∀ node, Meets cause (AllWithin node) (entriesOf node))

include finds

theorem mergedEntries_meets (start : Mark) (value : Node) :
    Meets cause (AllWithin value) (mergedEntries entriesOf start value) := by
  cases value with
  | scalar tag text place => exact .error .inside
  | mapping tag entries place => exact finds _
  | sequence tag items place =>
      refine (@Meets.mapM _ _ _ items _ (fun _ => AllWithin (.sequence tag items place)) ?_).andThen
        fun merged listed => .pure ?_
      · intro item member
        cases item with
        | scalar tag text place => exact .error .inside
        | sequence tag items place => exact .error .inside
        | mapping tag entries place =>
            exact (finds _).mono (fun _ => id) fun _ => .trans (.item member (.self _))
      · intro entry member
        rcases List.mem_flatten.1 member with ⟨found, inMerged, inFound⟩
        rcases listed found (List.mem_reverse.1 inMerged) with ⟨item, -, all⟩
        exact all entry inFound

/-- Sorting out one entry adds none but entries of the node. -/
theorem sortEntry_meets {start : Mark} {entries : Entries} {entry : Node × Node}
    (all : AllWithin outer (entries.merged ++ entries.own))
    {tag : Tag} {listed : List (Node × Node)} {place : Mark}
    (within : Within outer (.mapping tag listed place)) (member : entry ∈ listed) :
    Meets cause (fun next => AllWithin outer (next.merged ++ next.own))
      (sortEntry entriesOf start entries entry) := by
  have put (added : Node × Node) (standing : EntryWithin outer added) :
      AllWithin outer (entries.merged ++ (entries.own ++ [added])) := by
    intro found inAll
    rw [← List.append_assoc] at inAll
    rcases List.mem_append.1 inAll with earlier | last
    · exact all found earlier
    · rw [List.mem_singleton.1 last]
      exact standing
  unfold sortEntry
  split
  · dsimp only
    split
    · exact .error .inside
    · refine (mergedEntries_meets finds start entry.2).andThen fun merged found => .pure ?_
      intro added inAll
      rcases List.mem_append.1 inAll with inMerged | own
      · exact (found added inMerged).trans (within.trans (.value member (.self _)))
      · exact all added (List.mem_append_right _ own)
  · exact .ok (put _ (.marked within member))
  · exact .ok (put _ (.written within member))

end Merging

/-- The entries of a mapping are found without any faults about values. -/
theorem entriesOf_meets {cause : ValueFault -> Prop} (limit : Nat) (node : Node) :
    Meets cause (fun entries => AllWithin node (entries.merged ++ entries.own))
      (entriesOf limit node) := by
  have none (node : Node) : AllWithin node ([] ++ []) := fun _ member => absurd member List.not_mem_nil
  induction limit generalizing node with
  | zero => exact .ok (none node)
  | succ limit ih =>
      cases node with
      | scalar tag text start => exact .ok (none _)
      | sequence tag items start => exact .ok (none _)
      | mapping tag entries start =>
          unfold entriesOf
          refine Meets.foldlM (fun _ (found : Entries) => AllWithin _ (found.merged ++ found.own))
            (none _) ?_
          intro done entry rest found whole all
          have member : entry ∈ entries := whole ▸ List.mem_append_right _ List.mem_cons_self
          refine sortEntry_meets (fun inner => ?_) all (.self _) member
          exact (ih inner).andThen fun _ all => .pure all

/-! ## Ways to make members -/

theorem deepDatum_of_scalar (limit : Nat) (scalar : collectionType? node.tag = none) :
    deepDatum isOld limit node = scalarDatum isOld node := by
  cases limit <;> simp only [deepDatum, scalar]

theorem shallowDatum_of_scalar (scalar : collectionType? node.tag = none) :
    shallowDatum isOld node = scalarDatum isOld node >>= fun datum => pure (datum, []) := by
  unfold shallowDatum
  rw [scalar]

/-- A way to make members that makes scalars at once. -/
structure MakesScalars (isOld : Bool) (making : Making) : Prop where
  key (name : String) (place : Mark) :
    making.key (.scalar (.standard .text) name place) = .ok (.text name)
  member {node : Node} (scalar : collectionType? node.tag = none) :
    making.member node = scalarDatum isOld node >>= fun datum => pure (datum, [])

theorem deepDatum_text (limit : Nat) (name : String) (place : Mark) :
    deepDatum isOld limit (.scalar (.standard .text) name place) = .ok (.text name) :=
  deepDatum_of_scalar limit rfl

theorem makesScalars_deep (limit : Nat) :
    MakesScalars isOld ⟨limit, deepDatum isOld limit, fun member => do
      return (← deepDatum isOld limit member, [])⟩ where
  key := deepDatum_text limit
  member := by
    intro node scalar
    dsimp only
    rw [deepDatum_of_scalar limit scalar]

theorem makesScalars_shallow (limit : Nat) :
    MakesScalars isOld ⟨limit, deepDatum isOld limit, shallowDatum isOld⟩ where
  key := deepDatum_text limit
  member := shallowDatum_of_scalar

/-- A value with nothing pending. -/
theorem scalarDatum_of_alone {made : Datum × List Node}
    (found : (scalarDatum isOld node >>= fun datum => pure (datum, [])) = Except.ok made) :
    scalarDatum isOld node = .ok made.1 := by
  rcases bind_eq_ok.1 found with ⟨datum, isDatum, same⟩
  cases same
  exact isDatum

/-! ## Members of collections -/

/-- What is made of a collection leaves nothing pending but nodes that stand in it. -/
def PendingWithin {α : Type} (outer : Node) (made : Made α) : Prop :=
  ∀ node ∈ made.2, Within outer node

theorem pending_append {first second : List Node} (here : ∀ node ∈ first, Within outer node)
    (there : ∀ node ∈ second, Within outer node) : ∀ node ∈ first ++ second, Within outer node :=
  List.forall_mem_append.2 ⟨here, there⟩

/-- A way to make members finds fault with the members only, leaves nothing else pending, and
gives scalars their values. -/
structure Making.Fair (isOld : Bool) (making : Making) : Prop where
  key (node : Node) : Confined (HoldsOffender isOld node) (making.key node)
  member (node : Node) : Meets (HoldsOffender isOld node) (PendingWithin node) (making.member node)
  scalars : MakesScalars isOld making

theorem not_holdsOffender_text {text : String} {place : Mark} :
    ¬HoldsOffender isOld (.scalar (.standard .text) text place) fault := by
  rintro ⟨_, ⟨⟩, offends⟩
  cases offends with
  | scalar _ _ failed => cases failed

namespace Making.Fair

variable {making : Making} (fair : making.Fair isOld)

include fair

theorem scalarDatum_of_member {made : Datum × List Node}
    (scalar : collectionType? node.tag = none) (found : making.member node = .ok made) :
    scalarDatum isOld node = .ok made.1 := by
  rw [fair.scalars.member scalar] at found
  exact scalarDatum_of_alone found

theorem member_within (within : Within outer inner) :
    Meets (HoldsOffender isOld outer) (PendingWithin outer) (making.member inner) :=
  (fair.member inner).mono (fun _ => .of_within within) fun _ pending node member =>
    within.trans (pending node member)

theorem key_within {entry : Node × Node} (standing : EntryWithin outer entry) :
    Confined (HoldsOffender isOld outer) (making.key entry.1) := by
  rcases standing.key with within | ⟨text, place, isText⟩
  · exact (fair.key _).mono fun _ => .of_within within
  · rw [isText]
    exact (fair.key _).mono fun _ holds => absurd holds not_holdsOffender_text

theorem items {items : List Node} (within : ∀ item ∈ items, Within outer item) :
    Meets (HoldsOffender isOld outer) (PendingWithin outer) (making.items items) := by
  unfold Making.items
  refine (Meets.mapM fun item member => fair.member_within (within item member)).andThen
    fun made listed => .pure ?_
  intro node member
  rcases List.mem_flatMap.1 member with ⟨found, inMade, inFound⟩
  rcases listed found inMade with ⟨_, -, pending⟩
  exact pending node inFound

/-- One more entry of a mapping, whose key may hold what cannot be looked up. -/
theorem entry {entry : Node × Node} (standing : EntryWithin outer entry) {start : Mark}
    {isChecked : Bool} {made : Made (List (Datum × Datum))} (pending : PendingWithin outer made) :
    Meets (HoldsOffender isOld outer) (PendingWithin outer)
      (making.entry start isChecked made entry) := by
  unfold Making.entry
  refine Meets.behind (fair.key_within standing) fun key => ?_
  split
  · exact .error .inside
  · refine (fair.member_within standing.value).andThen fun value inValue => ?_
    dsimp only
    split
    · next found => exact .error (Confined.value.2 (standing.unhashable found))
    · split
      · exact .error .inside
      · exact .pure (pending_append pending inValue)

theorem entries (node : Node) :
    Meets (HoldsOffender isOld node) (PendingWithin node) (making.entries node) := by
  unfold Making.entries
  split
  · refine (entriesOf_meets making.limit _).andThen fun found all => ?_
    refine Meets.foldlM (fun _ => PendingWithin _) (fun _ => nofun) ?_
    intro done entry rest made whole pending
    exact fair.entry (all entry (whole ▸ List.mem_append_right _ List.mem_cons_self)) pending
  · exact .error .alone

/-- One more pair. -/
theorem pair {key value : Node} (keyWithin : Within outer key) (valueWithin : Within outer value)
    {made : Made (List (Datum × Datum))} (pending : PendingWithin outer made) :
    Meets (HoldsOffender isOld outer) (PendingWithin outer) (making.pair made key value) := by
  unfold Making.pair
  refine (fair.member_within keyWithin).andThen fun key inKey => ?_
  refine (fair.member_within valueWithin).andThen fun value inValue => ?_
  exact .pure (pending_append (pending_append pending inKey) inValue)

end Making.Fair

/-- What has been made of the first items of an ordered mapping: its keys are the values of
scalars, one for each item. -/
structure MadeInOrder (isOld : Bool) (outer : Node) (done : List Node)
    (made : Made (List (Datum × Datum))) : Prop where
  pending : PendingWithin outer made
  keys : ∀ entry ∈ made.1, ∃ tag written place, Node.mapping tag [written] place ∈ done ∧
    scalarDatum isOld written.1 = .ok entry.1

theorem MadeInOrder.nil : MadeInOrder isOld outer [] ([], []) where
  pending := fun _ => nofun
  keys := fun _ => nofun

theorem MadeInOrder.snoc {done : List Node} {made : Made (List (Datum × Datum))} {tag : Tag}
    {key value : Node} {place : Mark} {found : Datum × List Node} {valued : Datum × List Node}
    (sofar : MadeInOrder isOld outer done made) (inKey : PendingWithin outer found)
    (inValue : PendingWithin outer valued) (keyDatum : scalarDatum isOld key = .ok found.1) :
    MadeInOrder isOld outer (done ++ [.mapping tag [(key, value)] place])
      (made.1 ++ [(found.1, valued.1)], made.2 ++ found.2 ++ valued.2) where
  pending := pending_append (pending_append sofar.pending inKey) inValue
  keys := by
    intro entry member
    rcases List.mem_append.1 member with earlier | last
    · rcases sofar.keys entry earlier with ⟨tag, written, place, inDone, datum⟩
      exact ⟨tag, written, place, List.mem_append_left _ inDone, datum⟩
    · rw [List.mem_singleton.1 last]
      exact ⟨tag, (key, value), place, List.mem_append_right _ List.mem_cons_self, keyDatum⟩

theorem exists_sameKey {key : Datum} {entries : List (Datum × Datum)}
    (found : (valueOf? key entries).isSome) : ∃ entry ∈ entries, sameKey entry.1 key = true := by
  unfold valueOf? at found
  rw [Option.isSome_map, List.find?_isSome] at found
  exact found

theorem sublist_of_mem {done rest : List Node} {first second : Node} (earlier : first ∈ done) :
    [first, second].Sublist (done ++ second :: rest) :=
  (List.singleton_sublist.2 earlier).append (List.singleton_sublist.2 List.mem_cons_self)

/-- One more entry of an ordered mapping, whose key may be a collection or one of the keys in
front of it. -/
theorem Making.Fair.orderedEntry {making : Making} (fair : making.Fair isOld)
    {items done rest : List Node} {start place : Mark} {tag : Tag} {key value : Node}
    (whole : items = done ++ .mapping tag [(key, value)] place :: rest)
    {made : Made (List (Datum × Datum))}
    (sofar : MadeInOrder isOld (.sequence (.standard .orderedMapping) items start) done made) :
    Meets (HoldsOffender isOld (.sequence (.standard .orderedMapping) items start))
      (MadeInOrder isOld (.sequence (.standard .orderedMapping) items start)
        (done ++ [.mapping tag [(key, value)] place]))
      (making.orderedEntry made key value) := by
  have member : Node.mapping tag [(key, value)] place ∈ items :=
    whole ▸ List.mem_append_right _ List.mem_cons_self
  have within := @within_of_pair (.standard .orderedMapping) _ _ start _ _ _ member
  unfold Making.orderedEntry
  refine (fair.member_within within.1).found.andThen fun found here => ?_
  rcases here with ⟨inKey, made_eq⟩
  cases kind : collectionType? key.tag with
  | some type => exact .error (Confined.value.2 ⟨_, .self _, .orderedKey member kind⟩)
  | none =>
      have keyDatum := fair.scalarDatum_of_member kind made_eq
      dsimp only
      split
      · next isFound =>
        rcases exists_sameKey isFound with ⟨earlier, inMade, same⟩
        rcases sofar.keys earlier inMade with ⟨_, written, _, inDone, earlierDatum⟩
        refine .error (Confined.value.2 ⟨_, .self _, ?_⟩)
        exact .repeatedEntry (whole ▸ sublist_of_mem inDone) earlierDatum keyDatum same
      · refine (fair.member_within within.2).andThen fun value inValue => .pure ?_
        exact sofar.snoc inKey inValue keyDatum

/-- The items of a sequence are mappings with one entry each. -/
theorem pairsOf_meets {items : List Node} {start : Mark} {activity : Activity} {seqTag : Tag}
    {cause : ValueFault -> Prop}
    {make : Made (List (Datum × Datum)) -> Node -> Node -> Except Fault (Made (List (Datum × Datum)))}
    (holds : List Node -> Made (List (Datum × Datum)) -> Prop) (holdsAtStart : holds [] ([], []))
    (makes : ∀ done tag key value place rest made,
      items = done ++ .mapping tag [(key, value)] place :: rest -> holds done made ->
        Meets cause (holds (done ++ [.mapping tag [(key, value)] place])) (make made key value)) :
    Meets cause (holds items) (pairsOf make activity (.sequence seqTag items start)) := by
  unfold pairsOf
  refine Meets.foldlM holds holdsAtStart ?_
  intro done item rest made whole here
  split
  · exact makes done _ _ _ _ rest made whole here
  · exact .error .inside
  · exact .error .inside

theorem tag_of_orderedMapping {tag : Tag} (kind : collectionType? tag = some .orderedMapping) :
    tag = .standard .orderedMapping := by
  unfold collectionType? at kind
  split at kind <;> first | rfl | cases kind

/-- A collection is made without fault but for what stands in it. -/
theorem Making.Fair.collection {making : Making} (fair : making.Fair isOld) {type : CollectionType}
    (kind : collectionType? node.tag = some type) :
    Meets (HoldsOffender isOld node) (PendingWithin node) (making.collection type node) := by
  cases type with
  | sequence =>
      unfold Making.collection
      dsimp only
      split
      · refine (fair.items fun item member => .item member (.self _)).andThen fun made pending => ?_
        exact .pure pending
      · exact .error .alone
  | mapping => exact (fair.entries node).andThen fun made pending => .pure pending
  | set => exact (fair.entries node).andThen fun made pending => .pure pending
  | orderedMapping =>
      unfold Making.collection
      dsimp only
      cases node with
      | scalar tag text start => exact .error .inside
      | mapping tag entries start => exact .error .inside
      | sequence tag items start =>
          cases tag_of_orderedMapping kind
          refine (pairsOf_meets (MadeInOrder isOld _) .nil ?_).andThen fun made sofar =>
            .pure sofar.pending
          intro done tag key value place rest made whole sofar
          exact fair.orderedEntry whole sofar
  | pairs =>
      unfold Making.collection
      dsimp only
      cases node with
      | scalar tag text start => exact .error .inside
      | mapping tag entries start => exact .error .inside
      | sequence tag items start =>
          refine (pairsOf_meets (fun _ => PendingWithin _) (fun _ => nofun) ?_).andThen
            fun made pending => .pure pending
          intro done tag key value place rest made whole pending
          have member : Node.mapping tag [(key, value)] place ∈ items :=
            whole ▸ List.mem_append_right _ List.mem_cons_self
          exact fair.pair (within_of_pair member).1 (within_of_pair member).2 pending

/-! ## Data of nodes -/

theorem scalarDatum_confined (node : Node) :
    Confined (HoldsOffender isOld node) (scalarDatum isOld node) := by
  intro fault failed
  refine ⟨node, .self node, ?_⟩
  have again := failed
  unfold scalarDatum at again
  split at again
  · next type tagged =>
    split at again
    · next isScalar _ => exact .scalar tagged (scalarValue_confined isScalar fault again) failed
    · cases again
    · cases again
  · cases again

/-- A node made with all it holds finds fault with what stands in it. -/
theorem deepDatum_confined (limit : Nat) (node : Node) :
    Confined (HoldsOffender isOld node) (deepDatum isOld limit node) := by
  induction limit generalizing node with
  | zero =>
      cases kind : collectionType? node.tag with
      | none =>
          rw [deepDatum_of_scalar _ kind]
          exact scalarDatum_confined node
      | some type =>
          simp [deepDatum, kind]
  | succ limit ih =>
      cases kind : collectionType? node.tag with
      | none =>
          rw [deepDatum_of_scalar _ kind]
          exact scalarDatum_confined node
      | some type =>
          have fair : Making.Fair isOld ⟨limit, deepDatum isOld limit, fun member => do
              return (← deepDatum isOld limit member, [])⟩ :=
            { key := ih
              member := fun node => Meets.behind (ih node) fun _ => .pure fun _ => nofun
              scalars := makesScalars_deep limit }
          unfold deepDatum
          rw [kind]
          exact (fair.collection kind).confined.andThen fun _ => .pure _

theorem shallowDatum_meets (node : Node) :
    Meets (HoldsOffender isOld node) (PendingWithin node) (shallowDatum isOld node) := by
  cases kind : collectionType? node.tag with
  | none =>
      rw [shallowDatum_of_scalar kind]
      exact Meets.behind (scalarDatum_confined node) fun _ => .pure fun _ => nofun
  | some type =>
      unfold shallowDatum
      rw [kind]
      refine .ok fun inner member => ?_
      rw [List.mem_singleton.1 member]
      exact .self node

theorem fair_shallow (limit : Nat) :
    Making.Fair isOld ⟨limit, deepDatum isOld limit, shallowDatum isOld⟩ where
  key := deepDatum_confined limit
  member := shallowDatum_meets
  scalars := makesScalars_shallow limit

theorem expand_meets (limit : Nat) (node : Node) :
    Meets (HoldsOffender isOld node) (fun next => ∀ inner ∈ next, Within node inner)
      (expand isOld limit node) := by
  unfold expand
  split
  · next type kind => exact ((fair_shallow limit).collection kind).andThen fun _ pending => .pure pending
  · exact .ok fun _ => nofun

/-- Going down level by level stays within the node. -/
theorem expandAll_confined (limit : Nat) {pending : List Node}
    (within : ∀ inner ∈ pending, Within node inner) :
    Confined (HoldsOffender isOld node) (expandAll isOld limit pending) := by
  induction limit generalizing pending with
  | zero => cases pending <;> exact .ok _
  | succ limit ih =>
      cases pending with
      | nil => exact .ok _
      | cons first rest =>
          have each : ∀ inner ∈ first :: rest, Meets (HoldsOffender isOld node)
              (fun next => ∀ found ∈ next, Within node found) (expand isOld (limit + 1) inner) := by
            intro inner member
            have here := within inner member
            exact (expand_meets _ inner).mono (fun _ => .of_within here)
              fun next inNext found member => here.trans (inNext found member)
          unfold expandAll
          rw [Confined.bind]
          refine ⟨(Meets.mapM each).confined, fun next found => ih ?_⟩
          intro inner member
          rcases List.mem_flatten.1 member with ⟨part, inNext, inPart⟩
          rcases (Meets.mapM each).holds next found part inNext with ⟨_, -, standing⟩
          exact standing inner inPart

/-- The value of a document cannot be made only if one of its nodes is to blame. -/
theorem datum_confined (limit : Nat) (root : Node) :
    Confined (HoldsOffender isOld root) (root.datum isOld limit) := by
  unfold Node.datum
  rw [Confined.bind]
  refine ⟨(shallowDatum_meets root).confined, fun made found => ?_⟩
  refine (expandAll_confined limit ((shallowDatum_meets root).holds made found)).andThen fun _ => ?_
  exact deepDatum_confined limit root

end Yaml
end ImportCensus

import ImportCensus.Limits

namespace ImportCensus

/-!
# What the limits allow

Whether an outline can be written does not depend on the order in which its parts are come upon:
no integer in it may have too many digits, and it may not be higher than the levels that there
are (`Limits.Allows`).  So telling something is exact (`tell_eq_ok`), and the excess that it ends
in otherwise is one that is there (`Limits.Oversteps`).
-/

namespace Outline

mutual

/-- The integers on any level. -/
def integers : Outline -> List Int
  | .plain => []
  | .integer value => [value]
  | .level parts => integersOf parts

def integersOf : List Outline -> List Int
  | [] => []
  | part :: rest => part.integers ++ integersOf rest

end

mutual

/-- How many levels stand one above the other. -/
def height : Outline -> Nat
  | .plain | .integer _ => 0
  | .level parts => heightOf parts + 1

def heightOf : List Outline -> Nat
  | [] => 0
  | part :: rest => max part.height (heightOf rest)

end

end Outline

namespace Limits

variable {limits : Limits} {activity : String} {left : Option Nat} {outline : Outline}
  {parts : List Outline} {excess : Excess}

/-- An integer has no more digits than can be written. -/
def Admits (limits : Limits) (value : Int) : Prop :=
  ∀ most, limits.digits = some most -> value.natAbs < Nat.pow 10 most

/-- The levels that are left suffice for a height. -/
def Reaches (left : Option Nat) (height : Nat) : Prop := ∀ most, left = some most -> height ≤ most

/-- Everything in an outline can be written. -/
structure Allows (limits : Limits) (outline : Outline) : Prop where
  integers : ∀ value ∈ outline.integers, limits.Admits value
  reaches : Reaches limits.levels outline.height

/-- An excess that is there in an outline. -/
inductive Oversteps (limits : Limits) (activity : String) (outline : Outline) : Excess -> Prop
  | digits {most : Nat} {value : Int} (bound : limits.digits = some most)
      (member : value ∈ outline.integers) (long : Nat.pow 10 most ≤ value.natAbs) :
      Oversteps limits activity outline (.digits most)
  | stack {most : Nat} (bound : limits.levels = some most) (high : most < outline.height) :
      Oversteps limits activity outline (.stack activity)

theorem Oversteps.not_allows (oversteps : limits.Oversteps activity outline excess) :
    ¬limits.Allows outline := by
  intro allows
  cases oversteps with
  | digits bound member long =>
      exact absurd (allows.integers _ member _ bound) (Nat.not_lt.2 long)
  | stack bound high => exact absurd (allows.reaches _ bound) (Nat.not_le.2 high)

/-- An integer alone is allowed if it has no more digits than can be written. -/
theorem allows_integer {value : Int} : limits.Allows (.integer value) ↔ limits.Admits value := by
  constructor
  · exact fun allows => allows.integers value List.mem_cons_self
  · intro admits
    refine ⟨?_, fun _ _ => Nat.zero_le _⟩
    rintro _ (_ | ⟨_, ⟨⟩⟩)
    exact admits

/-- An integer alone is an excess by its digits only. -/
theorem of_oversteps_integer {value : Int} (oversteps : limits.Oversteps activity (.integer value) excess) :
    ∃ most, limits.digits = some most ∧ Nat.pow 10 most ≤ value.natAbs ∧ excess = .digits most := by
  cases oversteps with
  | digits bound member long =>
      rw [List.mem_singleton.1 member] at long
      exact ⟨_, bound, long, rfl⟩
  | stack bound high => cases high

theorem admits_zero : limits.Admits 0 := fun _ _ => Nat.pow_pos (by decide)

theorem admits_usual {stack : Stack} {value : Int} (single : value.natAbs < 10) :
    (usual stack).Admits value := by
  have grows : ∀ most, most ≠ 0 -> 10 ≤ Nat.pow 10 most := fun _ some => Nat.le_self_pow some 10
  rintro _ ⟨⟩
  exact Nat.lt_of_lt_of_le single (grows _ (by decide))

/-! ## Levels -/

theorem reaches_succ {height : Nat} :
    Reaches left (height + 1) ↔ left ≠ some 0 ∧ Reaches (left.map Nat.pred) height := by
  cases left with
  | none => exact iff_of_true nofun ⟨nofun, nofun⟩
  | some most =>
      cases most with
      | zero => exact iff_of_false (fun reaches => nomatch reaches 0 rfl) fun found => found.1 rfl
      | succ most =>
          constructor
          · intro reaches
            refine ⟨nofun, ?_⟩
            rintro _ ⟨⟩
            exact Nat.le_of_succ_le_succ (reaches _ rfl)
          · rintro ⟨_, reaches⟩ _ ⟨⟩
            exact Nat.succ_le_succ (reaches _ rfl)

theorem reaches_max {first second : Nat} :
    Reaches left (max first second) ↔ Reaches left first ∧ Reaches left second := by
  simp only [Reaches, Nat.max_le, forall_and]

theorem not_reaches {height : Nat} (short : ¬Reaches left height) :
    ∃ most, left = some most ∧ most < height := by
  simpa [Reaches] using short

/-! ## The first excess -/

theorem ofInteger?_eq_none {value : Int} :
    limits.ofInteger? value = none ↔ limits.Admits value := by
  unfold ofInteger? Admits
  cases limits.digits with
  | none => exact iff_of_true rfl nofun
  | some most => simp

theorem ofInteger?_of_long {value : Int} {most : Nat} (bound : limits.digits = some most)
    (long : Nat.pow 10 most ≤ value.natAbs) : limits.ofInteger? value = some (.digits most) := by
  rw [ofInteger?, bound]
  exact if_neg (Nat.not_lt.2 long)

theorem ofInteger?_eq_some {value : Int} (found : limits.ofInteger? value = some excess) :
    ∃ most, limits.digits = some most ∧ Nat.pow 10 most ≤ value.natAbs ∧ excess = .digits most := by
  unfold ofInteger? at found
  split at found
  · next most bound =>
    split at found
    · cases found
    · next long =>
      cases found
      exact ⟨most, bound, Nat.not_lt.1 long, rfl⟩
  · cases found

mutual

/-- By induction on the outline, since the levels that are left become fewer on the way down. -/
theorem excess?_eq_none_iff (limits : Limits) (activity : String) (left : Option Nat) :
    (outline : Outline) -> (limits.excess? activity left outline = none ↔
      (∀ value ∈ outline.integers, limits.Admits value) ∧ Reaches left outline.height)
  | .plain => by simp [excess?, Outline.integers, Outline.height, Reaches]
  | .integer value => by
      simp [excess?, Outline.integers, Outline.height, Reaches, ofInteger?_eq_none]
  | .level parts => by
      rw [excess?, Outline.integers, Outline.height, reaches_succ]
      split
      · next ended => exact iff_of_false nofun fun allowed => allowed.2.1 ended
      · next goesOn =>
        rw [firstExcess?_eq_none_iff limits activity _ parts]
        exact and_congr_right fun _ => (and_iff_right goesOn).symm

theorem firstExcess?_eq_none_iff (limits : Limits) (activity : String) (left : Option Nat) :
    (parts : List Outline) -> (limits.firstExcess? activity left parts = none ↔
      (∀ value ∈ Outline.integersOf parts, limits.Admits value) ∧
        Reaches left (Outline.heightOf parts))
  | [] => by simp [firstExcess?, Outline.integersOf, Outline.heightOf, Reaches]
  | part :: rest => by
      rw [firstExcess?, Option.or_eq_none_iff, excess?_eq_none_iff limits activity left part,
        firstExcess?_eq_none_iff limits activity left rest, Outline.integersOf, Outline.heightOf,
        reaches_max, List.forall_mem_append]
      exact and_and_and_comm

end

mutual

theorem of_excess?_eq_some (limits : Limits) (activity : String) (left : Option Nat) :
    (outline : Outline) -> limits.excess? activity left outline = some excess ->
      (∃ value ∈ outline.integers, limits.ofInteger? value = some excess) ∨
        ¬Reaches left outline.height ∧ excess = .stack activity
  | .plain, found => nomatch found
  | .integer value, found => .inl ⟨value, List.mem_cons_self, found⟩
  | .level parts, found => by
      rw [excess?] at found
      rw [Outline.integers, Outline.height, reaches_succ]
      split at found
      · next ended =>
        cases found
        exact .inr ⟨fun reaches => reaches.1 ended, rfl⟩
      · rcases of_firstExcess?_eq_some limits activity _ parts found with long | ⟨high, same⟩
        · exact .inl long
        · exact .inr ⟨fun reaches => high reaches.2, same⟩

theorem of_firstExcess?_eq_some (limits : Limits) (activity : String) (left : Option Nat) :
    (parts : List Outline) -> limits.firstExcess? activity left parts = some excess ->
      (∃ value ∈ Outline.integersOf parts, limits.ofInteger? value = some excess) ∨
        ¬Reaches left (Outline.heightOf parts) ∧ excess = .stack activity
  | [], found => nomatch found
  | part :: rest, found => by
      rw [Outline.integersOf, Outline.heightOf, reaches_max]
      rcases Option.or_eq_some_iff.1 found with here | ⟨_, behind⟩
      · rcases of_excess?_eq_some limits activity left part here with ⟨value, member, long⟩ | ⟨high, same⟩
        · exact .inl ⟨value, List.mem_append_left _ member, long⟩
        · exact .inr ⟨fun reaches => high reaches.1, same⟩
      · rcases of_firstExcess?_eq_some limits activity left rest behind with
          ⟨value, member, long⟩ | ⟨high, same⟩
        · exact .inl ⟨value, List.mem_append_right _ member, long⟩
        · exact .inr ⟨fun reaches => high reaches.2, same⟩

end

theorem excess?_levels_eq_none :
    limits.excess? activity limits.levels outline = none ↔ limits.Allows outline := by
  rw [excess?_eq_none_iff]
  exact ⟨fun allowed => ⟨allowed.1, allowed.2⟩, fun allows => ⟨allows.integers, allows.reaches⟩⟩

theorem oversteps_of_excess? (found : limits.excess? activity limits.levels outline = some excess) :
    limits.Oversteps activity outline excess := by
  rcases of_excess?_eq_some limits activity limits.levels outline found with
    ⟨value, member, found⟩ | ⟨high, rfl⟩
  · rcases ofInteger?_eq_some found with ⟨most, bound, long, rfl⟩
    exact .digits bound member long
  · rcases not_reaches high with ⟨most, bound, high⟩
    exact .stack bound high

/-! ## Telling -/

/-- The parts come upon at the top have all the levels that there are. -/
theorem firstExcess?_eq_findSome? :
    limits.firstExcess? activity left parts = parts.findSome? (limits.excess? activity left) := by
  induction parts with
  | nil => rfl
  | cons part rest ih =>
      rw [firstExcess?, List.findSome?_cons, ih]
      cases limits.excess? activity left part <;> rfl

variable {α : Type} {told found : α}

/-- Something is told if and only if all that it shows can be written. -/
theorem tell_eq_ok : limits.tell activity parts told = .ok found ↔
    (∀ part ∈ parts, limits.Allows part) ∧ found = told := by
  have allowed : limits.firstExcess? activity limits.levels parts = none ↔
      ∀ part ∈ parts, limits.Allows part := by
    simp only [firstExcess?_eq_findSome?, List.findSome?_eq_none_iff, excess?_levels_eq_none]
  rw [← allowed]
  unfold tell
  cases limits.firstExcess? activity limits.levels parts with
  | some excess => exact iff_of_false nofun fun none => nomatch none.1
  | none =>
      constructor
      · rintro ⟨⟩
        exact ⟨rfl, rfl⟩
      · rintro ⟨_, rfl⟩
        rfl

/-- What is told instead is an excess of something that would have been shown. -/
theorem oversteps_of_tell (failed : limits.tell activity parts told = .error excess) :
    ∃ part ∈ parts, limits.Oversteps activity part excess := by
  unfold tell at failed
  split at failed
  · next first =>
    cases failed
    rw [firstExcess?_eq_findSome?] at first
    rcases List.exists_of_findSome?_eq_some first with ⟨part, member, here⟩
    exact ⟨part, member, oversteps_of_excess? here⟩
  · cases failed

theorem exists_tell_eq_error : (∃ excess, limits.tell activity parts told = .error excess) ↔
    ∃ part ∈ parts, ¬limits.Allows part := by
  constructor
  · rintro ⟨excess, failed⟩
    rcases oversteps_of_tell failed with ⟨part, member, oversteps⟩
    exact ⟨part, member, oversteps.not_allows⟩
  · rintro ⟨part, member, refused⟩
    cases outcome : limits.tell activity parts told with
    | error excess => exact ⟨excess, rfl⟩
    | ok found => exact absurd ((tell_eq_ok.1 outcome).1 part member) refused

end Limits

end ImportCensus

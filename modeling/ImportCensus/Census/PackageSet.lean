namespace ImportCensus
namespace Census

/-!
# Package sets

A finite set of package names, kept as the list of its members in strictly
increasing order of their code points.  Two sets with the same members are
therefore equal.
-/

structure PackageSet where
  members : List String
  increasing : members.Pairwise fun first second => first < second

namespace PackageSet

/-- A name put into its place among others. -/
def insertName (name : String) : List String -> List String
  | [] => [name]
  | first :: rest =>
    if name < first then name :: first :: rest
    else if name = first then first :: rest
    else first :: insertName name rest

theorem mem_insertName {name other : String} {names : List String} :
    other ∈ insertName name names ↔ other = name ∨ other ∈ names := by
  induction names with
  | nil => simp [insertName]
  | cons first rest ih =>
    rw [insertName]
    split
    · simp
    · split
      · rename_i _ same
        subst same
        simp
      · simp [ih, or_left_comm]

theorem increasing_insertName {name : String} {names : List String}
    (increasing : names.Pairwise fun first second => first < second) :
    (insertName name names).Pairwise fun first second => first < second := by
  induction names with
  | nil => simp [insertName]
  | cons first rest ih =>
    have above := (List.pairwise_cons.1 increasing).1
    have others := (List.pairwise_cons.1 increasing).2
    rw [insertName]
    split
    · rename_i below
      refine List.pairwise_cons.2 ⟨?_, increasing⟩
      intro other member
      rcases List.mem_cons.1 member with same | member
      · exact same ▸ below
      · exact String.lt_trans below (above other member)
    · split
      · exact increasing
      · rename_i notBelow different
        refine List.pairwise_cons.2 ⟨?_, ih others⟩
        intro other member
        rcases mem_insertName.1 member with same | member
        · subst same
          exact Std.lt_of_le_of_ne (Std.not_lt.1 notBelow) fun same => different same.symm
        · exact above other member

/-- The set without members. -/
def empty : PackageSet := ⟨[], List.Pairwise.nil⟩

/-- A set with one more name. -/
def insert (packages : PackageSet) (name : String) : PackageSet :=
  ⟨insertName name packages.members, increasing_insertName packages.increasing⟩

/-- The set of the names in a list. -/
def ofList (names : List String) : PackageSet := names.foldl insert empty

/-- The names of two sets together. -/
def union (packages others : PackageSet) : PackageSet := others.members.foldl insert packages

def size (packages : PackageSet) : Nat := packages.members.length

instance : Membership String PackageSet := ⟨fun packages name => name ∈ packages.members⟩

instance (name : String) (packages : PackageSet) : Decidable (name ∈ packages) :=
  inferInstanceAs (Decidable (name ∈ packages.members))

theorem mem_def {name : String} {packages : PackageSet} :
    name ∈ packages ↔ name ∈ packages.members := Iff.rfl

@[simp] theorem not_mem_empty {name : String} : ¬ name ∈ empty := by
  simp [mem_def, empty]

@[simp] theorem mem_insert {name other : String} {packages : PackageSet} :
    other ∈ packages.insert name ↔ other = name ∨ other ∈ packages := mem_insertName

theorem mem_foldl_insert {name : String} {names : List String} {packages : PackageSet} :
    name ∈ names.foldl insert packages ↔ name ∈ packages ∨ name ∈ names := by
  induction names generalizing packages with
  | nil => simp
  | cons first rest ih =>
    rw [List.foldl_cons, ih, mem_insert, List.mem_cons]
    grind

@[simp] theorem mem_ofList {name : String} {names : List String} :
    name ∈ ofList names ↔ name ∈ names := by
  simp [ofList, mem_foldl_insert]

@[simp] theorem mem_union {name : String} {packages others : PackageSet} :
    name ∈ packages.union others ↔ name ∈ packages ∨ name ∈ others := mem_foldl_insert

/-- Lists in strictly increasing order are equal once they have the same members. -/
theorem members_ext {names others : List String}
    (increasing : names.Pairwise fun first second => first < second)
    (othersIncreasing : others.Pairwise fun first second => first < second)
    (same : ∀ name, name ∈ names ↔ name ∈ others) : names = others := by
  induction names generalizing others with
  | nil =>
    cases others with
    | nil => rfl
    | cons first rest => exact absurd ((same first).2 (by simp)) (by simp)
  | cons first rest ih =>
    cases others with
    | nil => exact absurd ((same first).1 (by simp)) (by simp)
    | cons second others =>
      have above := List.pairwise_cons.1 increasing
      have othersAbove := List.pairwise_cons.1 othersIncreasing
      have heads : first = second := by
        rcases List.mem_cons.1 ((same first).1 (by simp)) with h | h
        · exact h
        · rcases List.mem_cons.1 ((same second).2 (by simp)) with h' | h'
          · exact h'.symm
          · exact absurd (String.lt_trans (othersAbove.1 first h) (above.1 second h'))
              (String.lt_irrefl second)
      subst heads
      refine congrArg (first :: ·) (ih above.2 othersAbove.2 fun name => ?_)
      have whole := same name
      simp only [List.mem_cons] at whole
      constructor
      · intro member
        rcases whole.1 (.inr member) with h | h
        · exact absurd (h ▸ above.1 name member) (String.lt_irrefl first)
        · exact h
      · intro member
        rcases whole.2 (.inr member) with h | h
        · exact absurd (h ▸ othersAbove.1 name member) (String.lt_irrefl first)
        · exact h

/-- Sets with the same members are equal. -/
theorem ext {packages others : PackageSet}
    (same : ∀ name, name ∈ packages ↔ name ∈ others) : packages = others := by
  obtain ⟨names, increasing⟩ := packages
  obtain ⟨otherNames, othersIncreasing⟩ := others
  have h : names = otherNames := members_ext increasing othersIncreasing same
  subst h
  rfl

end PackageSet

end Census
end ImportCensus

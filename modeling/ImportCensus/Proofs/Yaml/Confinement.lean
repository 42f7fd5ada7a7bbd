import ImportCensus.Yaml.Fault

namespace ImportCensus
namespace Yaml

/-!
# Confined faults

A fault of a document either has a place in it or is about a value that cannot be made.
The faults of the second kind are the ones that nobody who reads a configuration expects.
A computation is confined to some of them if it fails with no others.  The laws here follow
the way computations are put together, so that a function is confined as soon as its parts
are.
-/

variable {α β σ : Type} {cause other : ValueFault -> Prop}

/-- A result has no faults about values but some. -/
def Confined (cause : ValueFault -> Prop) (result : Except Fault α) : Prop :=
  ∀ fault, result = .error (.value fault) -> cause fault

namespace Confined

theorem mono {result : Except Fault α} (confined : Confined cause result)
    (wider : ∀ fault, cause fault -> other fault) : Confined other result :=
  fun fault failed => wider fault (confined fault failed)

@[simp]
theorem ok (a : α) : Confined cause (.ok a) := by
  rintro fault ⟨⟩

@[simp]
theorem pure (a : α) : Confined cause (Pure.pure a) := ok a

@[simp]
theorem marked {activity : Option (Activity × Option Mark)} {problem : Option (Problem × Mark)} :
    Confined cause (.error (.marked activity problem) : Except Fault α) := by
  rintro fault ⟨⟩

@[simp]
theorem inside {activity : Activity} {start place : Mark} {problem : Problem} :
    Confined cause (.error (.inside activity start problem place) : Except Fault α) := marked

@[simp]
theorem alone {place : Mark} {problem : Problem} :
    Confined cause (.error (.alone problem place) : Except Fault α) := marked

@[simp]
theorem value {fault : ValueFault} :
    Confined cause (.error (.value fault) : Except Fault α) ↔ cause fault := by
  constructor
  · intro confined
    exact confined fault rfl
  · rintro caused _ ⟨⟩
    exact caused

/-- What is confined is so whatever type its result would have. -/
theorem error {fault : Fault} (confined : Confined cause (.error fault : Except Fault α)) :
    Confined cause (.error fault : Except Fault β) := by
  rintro found ⟨⟩
  exact confined found rfl

@[simp]
theorem bind {first : Except Fault α} {rest : α -> Except Fault β} :
    Confined cause (first >>= rest) ↔
      Confined cause first ∧ ∀ a, first = .ok a -> Confined cause (rest a) := by
  cases first with
  | error fault =>
      constructor
      · intro confined
        exact ⟨error confined, by rintro a ⟨⟩⟩
      · rintro ⟨confined, -⟩
        exact error confined
  | ok a =>
      constructor
      · intro confined
        refine ⟨ok a, ?_⟩
        rintro _ ⟨⟩
        exact confined
      · rintro ⟨-, others⟩
        exact others a rfl

@[simp]
theorem map {result : Except Fault α} {change : α -> β} :
    Confined cause (change <$> result) ↔ Confined cause result := by
  cases result with
  | error fault => exact ⟨error, error⟩
  | ok a => exact iff_of_true (ok _) (ok a)

@[simp]
theorem except_map {result : Except Fault α} {change : α -> β} :
    Confined cause (result.map change) ↔ Confined cause result := map

@[simp]
theorem ite {c : Prop} [Decidable c] {first second : Except Fault α} :
    Confined cause (if c then first else second) ↔
      (c -> Confined cause first) ∧ (¬c -> Confined cause second) := by
  split <;> simp [*]

/-- Computations one after the other are confined if each is. -/
theorem andThen {first : Except Fault α} {rest : α -> Except Fault β}
    (confined : Confined cause first) (others : ∀ a, Confined cause (rest a)) :
    Confined cause (first >>= rest) :=
  bind.2 ⟨confined, fun a _ => others a⟩

/-! ## Computations with a state -/

@[simp]
theorem run_ite {c : Prop} [Decidable c] {first second : StateT σ (Except Fault) α} {state : σ} :
    (if c then first else second).run state = if c then first.run state else second.run state := by
  split <;> rfl

theorem run_andThen {first : StateT σ (Except Fault) α} {rest : α -> StateT σ (Except Fault) β}
    {state : σ} (confined : Confined cause (first.run state))
    (others : ∀ a state, Confined cause ((rest a).run state)) :
    Confined cause ((first >>= rest).run state) := by
  rw [StateT.run_bind]
  exact confined.andThen fun found => others found.1 found.2

/-- A choice between computations, whatever is behind it. -/
theorem run_either {c : Prop} [Decidable c] {first second : StateT σ (Except Fault) α}
    {rest : α -> StateT σ (Except Fault) β} {state : σ} (here : Confined cause (first.run state))
    (there : Confined cause (second.run state))
    (others : ∀ a state, Confined cause ((rest a).run state)) :
    Confined cause ((if c then first >>= rest else second >>= rest).run state) := by
  split
  · exact run_andThen here others
  · exact run_andThen there others

end Confined

/-! ## Results with a property -/

variable {holds between : α -> Prop}

/-- A result is confined, and where it is a value this has some property. -/
structure Meets (cause : ValueFault -> Prop) (holds : α -> Prop) (result : Except Fault α) :
    Prop where
  confined : Confined cause result
  holds : ∀ a, result = .ok a -> holds a

namespace Meets

theorem ok {a : α} (here : holds a) : Meets cause holds (.ok a) where
  confined := .ok a
  holds := by
    rintro _ ⟨⟩
    exact here

theorem pure {a : α} (here : holds a) : Meets cause holds (Pure.pure a) := ok here

/-- A failure has every property. -/
theorem error {fault : Fault} (confined : Confined cause (.error fault : Except Fault α)) :
    Meets cause holds (.error fault) where
  confined := confined
  holds := by rintro a ⟨⟩

theorem mono {wider : α -> Prop} {result : Except Fault α} (meets : Meets cause holds result)
    (causes : ∀ fault, cause fault -> other fault) (values : ∀ a, holds a -> wider a) :
    Meets other wider result where
  confined := meets.confined.mono causes
  holds := fun a found => values a (meets.holds a found)

/-- That a value is the result is a property of it as well. -/
theorem found {result : Except Fault α} (meets : Meets cause holds result) :
    Meets cause (fun a => holds a ∧ result = .ok a) result where
  confined := meets.confined
  holds := fun a same => ⟨meets.holds a same, same⟩

theorem andThen {first : Except Fault α} {rest : α -> Except Fault β} {holds : β -> Prop}
    (meets : Meets cause between first)
    (others : ∀ a, between a -> Meets cause holds (rest a)) :
    Meets cause holds (first >>= rest) := by
  cases first with
  | error fault => exact error meets.confined.error
  | ok a => exact others a (meets.holds a rfl)

/-- Behind a computation of which nothing is known but that it is confined. -/
theorem behind {first : Except Fault α} {rest : α -> Except Fault β} {holds : β -> Prop}
    (confined : Confined cause first) (others : ∀ a, Meets cause holds (rest a)) :
    Meets cause holds (first >>= rest) :=
  andThen ⟨confined, fun _ _ => trivial⟩ fun a (_ : True) => others a

/-- What is read of a list has been read of its elements. -/
theorem mapM {values : List α} {read : α -> Except Fault β} {holds : α -> β -> Prop}
    (meets : ∀ a ∈ values, Meets cause (holds a) (read a)) :
    Meets cause (fun results => ∀ b ∈ results, ∃ a ∈ values, holds a b) (values.mapM read) := by
  induction values with
  | nil => exact pure fun b member => absurd member List.not_mem_nil
  | cons first rest ih =>
      rw [List.mapM_cons]
      refine (meets first List.mem_cons_self).andThen fun b here => ?_
      have others := ih fun a member => meets a (List.mem_cons_of_mem _ member)
      refine others.andThen fun results behind => pure ?_
      intro found member
      rcases List.mem_cons.1 member with rfl | member
      · exact ⟨first, List.mem_cons_self, here⟩
      · rcases behind found member with ⟨a, listed, holdsOf⟩
        exact ⟨a, List.mem_cons_of_mem _ listed, holdsOf⟩

/-- Folding over a list keeps what each step keeps, given what has been folded by then. -/
theorem foldlM {values : List α} {step : β -> α -> Except Fault β} (holds : List α -> β -> Prop)
    {start : β} (holdsAtStart : holds [] start)
    (steps : ∀ done a rest made, values = done ++ a :: rest -> holds done made ->
      Meets cause (holds (done ++ [a])) (step made a)) :
    Meets cause (holds values) (values.foldlM step start) := by
  have behind : ∀ rest done made, values = done ++ rest -> holds done made ->
      Meets cause (holds values) (rest.foldlM step made) := by
    intro rest
    induction rest with
    | nil =>
        intro done made whole here
        rw [whole, List.append_nil]
        exact pure here
    | cons a rest ih =>
        intro done made whole here
        rw [List.foldlM_cons]
        refine (steps done a rest made whole here).andThen fun next there => ?_
        refine ih (done ++ [a]) next ?_ there
        rw [whole, List.append_assoc]
        rfl
  exact behind values [] start rfl holdsAtStart

end Meets

end Yaml
end ImportCensus

namespace ImportCensus

/-!
# One after the other

Computations that are done one after the other go on up to the first that fails, and this one
alone decides what goes wrong.
-/

variable {ε α β : Type} {read : α -> Except ε β} {values : List α} {error : ε}

theorem bind_eq_ok {first : Except ε α} {next : α -> Except ε β} {found : β} :
    first >>= next = .ok found ↔ ∃ value, first = .ok value ∧ next value = .ok found := by
  cases first with
  | error fault => simp [bind, Except.bind]
  | ok value => simp [bind, Except.bind]

/-- What is only changed behind a computation does not make it fail. -/
theorem bind_pure_eq_error {result : Except ε α} {change : α -> β} :
    (result >>= fun a => pure (change a)) = .error error ↔ result = .error error := by
  cases result with
  | error other =>
      constructor <;>
        · rintro ⟨⟩
          rfl
  | ok a => exact iff_of_false nofun nofun

theorem bind_pure_isOk {result : Except ε α} {change : α -> β} :
    (∃ b, (result >>= fun a => pure (change a)) = .ok b) ↔ ∃ a, result = .ok a := by
  cases result with
  | error other => exact iff_of_false nofun nofun
  | ok a => exact iff_of_true ⟨change a, rfl⟩ ⟨a, rfl⟩

theorem mapError_eq_ok {δ : Type} {result : Except ε α} {change : ε -> δ} {value : α} :
    result.mapError change = .ok value ↔ result = .ok value := by
  cases result with
  | error other => exact iff_of_false nofun nofun
  | ok found =>
      constructor <;>
        · rintro ⟨⟩
          rfl

theorem mapError_eq_error {δ : Type} {result : Except ε α} {change : ε -> δ} {changed : δ} :
    result.mapError change = .error changed ↔ ∃ other, result = .error other ∧ change other = changed := by
  cases result with
  | error other =>
      constructor
      · rintro ⟨⟩
        exact ⟨other, rfl, rfl⟩
      · rintro ⟨_, ⟨⟩, rfl⟩
        rfl
  | ok found => exact iff_of_false nofun fun ⟨_, failed, _⟩ => nomatch failed

theorem mapM_cons_of_error {first : α} {rest : List α} (here : read first = .error error) :
    (first :: rest).mapM read = .error error := by
  rw [List.mapM_cons, here]
  rfl

theorem mapM_cons_of_ok {first : α} {rest : List α} {found : β} (here : read first = .ok found) :
    (first :: rest).mapM read = .error error ↔ rest.mapM read = .error error := by
  rw [List.mapM_cons, here]
  cases rest.mapM read <;> simp [bind, Except.bind, pure, Except.pure]

/-- Things that are read one by one fail as the first that cannot be read. -/
theorem mapM_eq_error : values.mapM read = .error error ↔
    ∃ before value after, values = before ++ value :: after ∧
      (∀ other ∈ before, ∃ found, read other = .ok found) ∧ read value = .error error := by
  induction values with
  | nil => exact ⟨nofun, fun ⟨before, _, _, empty, _⟩ => by cases before <;> cases empty⟩
  | cons first rest ih =>
      cases here : read first with
      | error fault =>
          rw [mapM_cons_of_error here]
          constructor
          · intro failed
            cases failed
            exact ⟨[], first, rest, rfl, nofun, here⟩
          · rintro ⟨before, value, after, split, readable, failed⟩
            cases before with
            | nil =>
                cases split
                cases here.symm.trans failed
                rfl
            | cons other before =>
                cases split
                rcases readable first List.mem_cons_self with ⟨found, same⟩
                cases here.symm.trans same
      | ok found =>
          rw [mapM_cons_of_ok here, ih]
          constructor
          · rintro ⟨before, value, after, rfl, readable, failed⟩
            refine ⟨first :: before, value, after, rfl, ?_, failed⟩
            exact List.forall_mem_cons.2 ⟨⟨found, here⟩, readable⟩
          · rintro ⟨before, value, after, split, readable, failed⟩
            cases before with
            | nil =>
                cases split
                cases here.symm.trans failed
            | cons other before =>
                cases split
                exact ⟨before, value, after, rfl, (List.forall_mem_cons.1 readable).2, failed⟩

theorem mapM_isOk : (∃ found, values.mapM read = .ok found) ↔
    ∀ value ∈ values, ∃ found, read value = .ok found := by
  induction values with
  | nil => exact iff_of_true ⟨[], rfl⟩ fun _ => nofun
  | cons first rest ih =>
      rw [List.forall_mem_cons, ← ih]
      cases here : read first with
      | error fault =>
          rw [mapM_cons_of_error here]
          exact iff_of_false (by rintro ⟨_, ⟨⟩⟩) (by rintro ⟨⟨_, ⟨⟩⟩, _⟩)
      | ok value =>
          rw [List.mapM_cons, here]
          cases rest.mapM read with
          | error fault => exact iff_of_false (by rintro ⟨_, ⟨⟩⟩) (by rintro ⟨_, ⟨_, ⟨⟩⟩⟩)
          | ok found => exact iff_of_true ⟨value :: found, rfl⟩ ⟨⟨value, rfl⟩, ⟨found, rfl⟩⟩

/-- Where it is known what each of the values gives, nothing can go wrong. -/
theorem mapM_eq_map {give : α -> β} (reads : ∀ value ∈ values, read value = .ok (give value)) :
    values.mapM read = .ok (values.map give) := by
  induction values with
  | nil => rfl
  | cons first rest ih =>
      rw [List.forall_mem_cons] at reads
      rw [List.mapM_cons, reads.1, ih reads.2]
      rfl

/-- What can be read anyway may be left out, if it is only asked how reading fails. -/
theorem mapM_filter_eq_error (keep : α -> Bool)
    (harmless : ∀ value ∈ values, keep value = false -> ∃ found, read value = .ok found) :
    (values.filter keep).mapM read = .error error ↔ values.mapM read = .error error := by
  induction values with
  | nil => rfl
  | cons first rest ih =>
      have later := ih fun value member => harmless value (List.mem_cons_of_mem _ member)
      cases kept : keep first with
      | false =>
          rcases harmless first List.mem_cons_self kept with ⟨found, here⟩
          rw [List.filter_cons_of_neg (by simp [kept]), mapM_cons_of_ok here, later]
      | true =>
          rw [List.filter_cons_of_pos kept]
          cases here : read first with
          | error fault =>
              rw [List.mapM_cons, List.mapM_cons, here]
              rfl
          | ok found => rw [mapM_cons_of_ok here, mapM_cons_of_ok here, later]

end ImportCensus

import ImportCensus.Proofs.Yaml.Making

namespace ImportCensus
namespace Yaml

/-!
# Documents of fields

The document that a configuration file is made for has a name and a value on each line.
Where the names differ and the values are scalars its value is made in one go, line by line,
and the first line without a value decides what goes wrong.
-/

open Config (Datum)

/-- A line of a document: a name and a value for it. -/
structure Field where
  name : String
  place : Mark
  value : Node

namespace Field

def entry (field : Field) : Node × Node :=
  (.scalar (.standard .text) field.name field.place, field.value)

/-- The datum of a line. -/
def datum (isOld : Bool) (field : Field) : Except Fault (Datum × Datum) := do
  return (.text field.name, ← scalarDatum isOld field.value)

theorem name_of_datum {isOld : Bool} {field : Field} {entry : Datum × Datum}
    (found : field.datum isOld = .ok entry) : entry.1 = .text field.name := by
  rcases bind_eq_ok.1 found with ⟨value, -, same⟩
  cases same
  rfl

end Field

/-- A document of lines, each with a name of its own and a scalar as its value. -/
structure AreFields (fields : List Field) : Prop where
  distinct : (fields.map Field.name).Nodup
  scalar : ∀ field ∈ fields, collectionType? field.value.tag = none

/-- The root of a document of lines. -/
def rootOf (fields : List Field) (start : Mark) : Node :=
  .mapping (.standard .mapping) (fields.map Field.entry) start

variable {isOld : Bool} {fields : List Field} {start : Mark}

/-- Nothing is merged into such a document. -/
theorem entriesOf_rootOf (limit : Nat) (fields : List Field) (start : Mark) :
    entriesOf (limit + 1) (rootOf fields start) = .ok ⟨[], fields.map Field.entry⟩ := by
  have sorted (finds : Node -> Except Fault (List (Node × Node))) (own : List (Node × Node)) :
      (fields.map Field.entry).foldlM (sortEntry finds start) ⟨[], own⟩ =
        .ok ⟨[], own ++ fields.map Field.entry⟩ := by
    induction fields generalizing own with
    | nil =>
        rw [List.map_nil, List.append_nil]
        rfl
    | cons field rest ih =>
        rw [List.map_cons, List.foldlM_cons]
        have step : sortEntry finds start ⟨[], own⟩ field.entry =
            .ok ⟨[], own ++ [field.entry]⟩ := rfl
        rw [step]
        exact (ih _).trans (by rw [List.append_assoc]; rfl)
  exact sorted _ []

theorem sameKey_text (first second : String) :
    sameKey (.text first) (.text second) = (first == second) := by
  unfold sameKey
  rfl

/-- None of the entries has a name. -/
def IsNew (made : List (Datum × Datum)) (name : String) : Prop :=
  ∀ entry ∈ made, sameKey entry.1 (.text name) = false

/-- A name that is not there yet has its value put behind all others. -/
theorem setValue_of_new {name : String} {value : Datum} {made : List (Datum × Datum)}
    (new : IsNew made name) :
    setValue (.text name) value made = made ++ [(.text name, value)] := by
  induction made with
  | nil => rfl
  | cons first rest ih =>
      unfold setValue
      rw [new first List.mem_cons_self]
      rw [ih fun entry member => new entry (List.mem_cons_of_mem _ member)]
      rfl

theorem valueOf_of_new {name : String} {made : List (Datum × Datum)}
    (new : IsNew made name) :
    valueOf? (.text name) made = none := by
  unfold valueOf?
  rw [Option.map_eq_none_iff, List.find?_eq_none]
  intro entry member same
  rw [new entry member] at same
  cases same

namespace MakesScalars

variable {making : Making} (makes : MakesScalars isOld making)

include makes

/-- A line with a new name is put behind all others. -/
theorem entry_eq {field : Field} (scalar : collectionType? field.value.tag = none)
    {made : List (Datum × Datum)} (new : IsNew made field.name) :
    making.entry start true (made, []) field.entry =
      field.datum isOld >>= fun entry => pure (made ++ [entry], []) := by
  unfold Making.entry Field.entry Field.datum
  dsimp only
  rw [makes.key, makes.member scalar]
  cases scalarDatum isOld field.value with
  | error fault => rfl
  | ok value =>
      have put : setValue (.text field.name) value made = made ++ [(.text field.name, value)] :=
        setValue_of_new new
      dsimp only [asKey?, unhashableIn?, bind, Except.bind, pure, Except.pure]
      rw [if_pos rfl, valueOf_of_new new, put]
      rfl

/-- The lines are made one after the other. -/
theorem foldlM_eq {made : List (Datum × Datum)} (areFields : AreFields fields)
    (new : ∀ field ∈ fields, IsNew made field.name) :
    (fields.map Field.entry).foldlM (making.entry start true) (made, []) =
      fields.mapM (Field.datum isOld) >>= fun entries => pure (made ++ entries, []) := by
  induction fields generalizing made with
  | nil =>
      rw [List.map_nil, List.foldlM_nil, List.mapM_nil, pure_bind, List.append_nil]
  | cons field rest ih =>
      have distinct := areFields.distinct
      rw [List.map_cons, List.nodup_cons] at distinct
      have others : AreFields rest :=
        ⟨distinct.2, fun found member => areFields.scalar found (List.mem_cons_of_mem _ member)⟩
      rw [List.map_cons, List.foldlM_cons, List.mapM_cons,
        makes.entry_eq (areFields.scalar field List.mem_cons_self) (new field List.mem_cons_self)]
      cases isDatum : field.datum isOld with
      | error fault => rfl
      | ok entry =>
          have stillNew : ∀ found ∈ rest, IsNew (made ++ [entry]) found.name := by
            intro found member other inMade
            rcases List.mem_append.1 inMade with earlier | last
            · exact new found (List.mem_cons_of_mem _ member) other earlier
            · rw [List.mem_singleton.1 last, Field.name_of_datum isDatum, sameKey_text,
                beq_eq_false_iff_ne]
              intro same
              exact distinct.1 (same ▸ List.mem_map_of_mem member)
          change (rest.map Field.entry).foldlM _ (made ++ [entry], []) = _
          rw [ih others stillNew]
          cases rest.mapM (Field.datum isOld) with
          | error fault => rfl
          | ok entries =>
              refine congrArg (fun made => Except.ok (made, [])) ?_
              rw [List.append_assoc]
              rfl

theorem entries_eq {limit : Nat} (isLimit : making.limit = limit + 1)
    (areFields : AreFields fields) :
    making.entries (rootOf fields start) =
      fields.mapM (Field.datum isOld) >>= fun entries => pure (entries, []) := by
  unfold Making.entries rootOf
  dsimp only
  rw [isLimit]
  rw [show entriesOf (limit + 1) (.mapping _ (fields.map Field.entry) start) = _ from
    entriesOf_rootOf limit fields start]
  exact makes.foldlM_eq areFields fun field _ => fun _ => nofun

end MakesScalars

/-! ## The whole document -/

theorem expand_rootOf (limit : Nat) (areFields : AreFields fields) :
    expand isOld (limit + 1) (rootOf fields start) =
      fields.mapM (Field.datum isOld) >>= fun _ => pure [] := by
  change (Making.entries ⟨limit + 1, _, _⟩ (rootOf fields start) >>= _) >>= _ = _
  rw [(makesScalars_shallow (limit + 1)).entries_eq rfl areFields]
  cases fields.mapM (Field.datum isOld) <;> rfl

theorem deepDatum_rootOf (limit : Nat) (areFields : AreFields fields) :
    deepDatum isOld (limit + 2) (rootOf fields start) =
      fields.mapM (Field.datum isOld) >>= fun entries => pure (.mapping entries) := by
  change (Making.entries ⟨limit + 1, _, _⟩ (rootOf fields start) >>= _) >>= _ = _
  rw [(makesScalars_deep (limit + 1)).entries_eq rfl areFields]
  cases fields.mapM (Field.datum isOld) <;> rfl

/-- The datum of a document of lines holds the lines in their order, if each has a value. -/
theorem datum_rootOf (limit : Nat) (areFields : AreFields fields) :
    (rootOf fields start).datum isOld (limit + 2) =
      fields.mapM (Field.datum isOld) >>= fun entries => pure (.mapping entries) := by
  change (([rootOf fields start].mapM (expand isOld (limit + 2)) >>= fun next =>
    expandAll isOld (limit + 1) next.flatten) >>= fun _ =>
      deepDatum isOld (limit + 2) (rootOf fields start)) = _
  rw [List.mapM_cons, expand_rootOf (limit + 1) areFields, deepDatum_rootOf limit areFields]
  cases fields.mapM (Field.datum isOld) <;> rfl

/-- A line lacks its value, and those in front of it have theirs. -/
def FirstLacking (isOld : Bool) (fields : List Field) (fault : Fault) : Prop :=
  ∃ before field after, fields = before ++ field :: after ∧
    (∀ other ∈ before, ∃ value, scalarDatum isOld other.value = .ok value) ∧
    scalarDatum isOld field.value = .error fault

/-- Making such a document fails as the first line that lacks its value. -/
theorem datum_rootOf_eq_error (limit : Nat) (areFields : AreFields fields) {fault : Fault} :
    (rootOf fields start).datum isOld (limit + 2) = .error fault ↔
      FirstLacking isOld fields fault := by
  rw [datum_rootOf limit areFields, bind_pure_eq_error, mapM_eq_error]
  simp only [Field.datum, bind_pure_eq_error, bind_pure_isOk, FirstLacking]

end Yaml
end ImportCensus

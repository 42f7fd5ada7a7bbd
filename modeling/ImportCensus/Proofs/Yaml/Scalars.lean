import ImportCensus.Proofs.Yaml.Confinement
import ImportCensus.Yaml.Scalar

namespace ImportCensus
namespace Yaml

/-!
# Scalars without values

Every text is a value of the types that take any text.  The other types each turn down texts
in their own ways, and never in the way of another type.
-/

/-- What may be wrong with a scalar of a type. -/
inductive Lacks : StandardType -> ValueFault -> Prop
  | integer {base : Nat} {text : String} (none : Number.integer? base text.toList = none) :
      Lacks .integer (.integer base text)
  | manyDigits {count : Nat} (many : Number.mostDigits < count) : Lacks .integer (.manyDigits count)
  | emptyInteger : Lacks .integer .noNumeral
  | number {text : String} (none : Number.binary? text.toList = none) : Lacks .float (.number text)
  | repeatedExponent : Lacks .float .repeatedExponent
  | overflow : Lacks .float .overflow
  | emptyNumber : Lacks .float .noNumeral
  | truth {word : String} (none : word ∉ ["yes", "y", "true", "on", "no", "n", "false", "off"]) :
      Lacks .boolean (.noTruth word)
  | timestamp (what : String) : Lacks .timestamp (.outOfRange what)

/-! ## Integers -/

theorem integerIn_confined (base : Nat) (digits : List Char) :
    Confined (Lacks .integer) (integerIn base digits) := by
  unfold integerIn
  split
  · next many =>
    rw [Bool.and_eq_true, decide_eq_true_eq, decide_eq_true_eq] at many
    exact Confined.value.2 (.manyDigits many.2)
  · cases spelled : Number.integer? base digits with
    | some value => exact .ok _
    | none =>
        refine Confined.value.2 (.integer ?_)
        rw [String.toList_ofList]
        exact spelled

theorem magnitude_confined (isOld : Bool) (unsigned : List Char) :
    Confined (Lacks .integer) (magnitude isOld unsigned) := by
  unfold magnitude
  split
  · exact .ok _
  · exact integerIn_confined _ _
  · exact integerIn_confined _ _
  · exact integerIn_confined _ _
  · exact integerIn_confined _ _
  · split
    · exact Confined.value.2 .emptyInteger
    · exact integerIn_confined _ _
  · split
    · refine (Meets.foldlM (fun _ _ => True) trivial ?_).confined
      intro done part rest value whole _
      exact ⟨(integerIn_confined _ _).andThen fun _ => .pure _, fun _ _ => trivial⟩
    · exact integerIn_confined _ _

theorem integerValue_confined (isOld : Bool) (text : List Char) :
    Confined (Lacks .integer) (integerValue isOld text) := by
  unfold integerValue
  dsimp only
  split
  · exact Confined.value.2 .emptyInteger
  · exact (magnitude_confined _ _).andThen fun _ => .pure _

/-! ## Numbers -/

theorem numberIn_confined (text : List Char) : Confined (Lacks .float) (numberIn text) := by
  unfold numberIn
  cases spelled : Number.binary? text with
  | some value => exact .ok _
  | none =>
      refine Confined.value.2 (.number ?_)
      rw [String.toList_ofList]
      exact spelled

theorem sumSixties_confined (unit : Nat) (sum : Number.Binary64) (parts : List Number.Binary64) :
    Confined (Lacks .float) (sumSixties unit sum parts) := by
  induction parts generalizing unit sum with
  | nil => exact .ok _
  | cons part rest ih =>
      unfold sumSixties
      split
      · exact Confined.value.2 .overflow
      · exact ih _ _

theorem realMagnitude_confined (isOld : Bool) (unsigned : List Char) :
    Confined (Lacks .float) (realMagnitude isOld unsigned) := by
  unfold realMagnitude
  split
  · exact .ok _
  · split
    · exact .ok _
    · split
      · refine Confined.andThen ?_ fun _ => sumSixties_confined _ _ _
        exact (Meets.mapM fun part _ => ⟨numberIn_confined part, fun _ _ => trivial⟩).confined
      · split
        · exact Confined.value.2 .repeatedExponent
        · exact numberIn_confined _

theorem floatValue_confined (isOld : Bool) (text : List Char) :
    Confined (Lacks .float) (floatValue isOld text) := by
  unfold floatValue
  dsimp only
  split
  · exact Confined.value.2 .emptyNumber
  · exact (realMagnitude_confined _ _).andThen fun _ => .pure _

/-! ## Words and dates -/

theorem booleanValue_confined (text : String) : Confined (Lacks .boolean) (booleanValue text) := by
  unfold booleanValue
  dsimp only
  split
  · exact .ok _
  · split
    · exact .ok _
    · next notTrue notFalse =>
      refine Confined.value.2 (.truth ?_)
      intro listed
      rcases List.mem_append.1 (show _ ∈ ["yes", "y", "true", "on"] ++ ["no", "n", "false", "off"]
        from listed) with isTrue | isFalse
      · exact notTrue (List.contains_iff_mem.2 isTrue)
      · exact notFalse (List.contains_iff_mem.2 isFalse)

theorem outOfRange_confined {α : Type} (what : String) :
    Confined (Lacks .timestamp) (outOfRange what : Except Fault α) :=
  Confined.value.2 (.timestamp what)

theorem dateValue_confined (stamp : Timestamp) : Confined (Lacks .timestamp) (dateValue stamp) := by
  unfold dateValue
  dsimp only
  split
  · exact outOfRange_confined _
  · split
    · exact outOfRange_confined _
    · split
      · exact outOfRange_confined _
      · exact .ok _

theorem zoneValue_confined (zone : List Char) : Confined (Lacks .timestamp) (zoneValue zone) := by
  unfold zoneValue
  split
  · exact .ok _
  · dsimp only
    split
    · exact outOfRange_confined _
    · exact .ok _

theorem timestampValue_confined (stamp : Timestamp) :
    Confined (Lacks .timestamp) (timestampValue stamp) := by
  unfold timestampValue
  split
  · exact (dateValue_confined _).andThen fun _ => .pure _
  · refine (zoneValue_confined _).andThen fun zone => ?_
    refine (dateValue_confined _).andThen fun date => ?_
    dsimp only
    split
    · exact outOfRange_confined _
    · split
      · exact outOfRange_confined _
      · split
        · exact outOfRange_confined _
        · exact .pure _

/-- Bytes that are not well written are told with a place. -/
theorem binaryValue_confined {cause : ValueFault -> Prop} (text : List Char) (start : Mark) :
    Confined cause (binaryValue text start) := by
  unfold binaryValue
  dsimp only
  split
  · exact .alone
  · split
    · exact .alone
    · exact .ok _

/-- A scalar that has no value lacks it in the way of its type. -/
theorem scalarValue_confined {isOld : Bool} {type : StandardType} {text : String} {start : Mark}
    {result : Except Fault Config.Datum}
    (isScalar : scalarValue? isOld type text start = some result) :
    Confined (Lacks type) result := by
  unfold scalarValue? at isScalar
  split at isScalar <;> cases isScalar
  · exact .ok _
  · simp [booleanValue_confined]
  · simp [integerValue_confined]
  · simp [floatValue_confined]
  · exact .ok _
  · simp [binaryValue_confined]
  · split
    · exact timestampValue_confined _
    · exact .alone

end Yaml
end ImportCensus

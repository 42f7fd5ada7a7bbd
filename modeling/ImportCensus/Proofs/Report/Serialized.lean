import ImportCensus.Proofs.Json.Writing
import ImportCensus.Proofs.Limits
import ImportCensus.Report.Record

namespace ImportCensus
namespace Report

open Json (Denotes Value WritesAs dumps)

namespace Record

variable (record : Record)

/-- The members in front of the elapsed time. -/
def front : List (String × Value) := (record.members .null).dropLast

/-- The members of a record denote themselves, and the elapsed time what it denotes. -/
theorem writesAs_members {elapsed found : Value} (writes : WritesAs elapsed found) :
    WritesAs (.object (record.members elapsed)) (.object (record.members found)) := by
  have names : ∀ value ∈ record.packages.members.map Value.string, WritesAs value value := by
    intro value member
    rcases List.mem_map.1 member with ⟨name, _, rfl⟩
    exact Json.writesAs_string name
  exact Json.writesAs_object (.cons ⟨rfl, Json.writesAs_string _⟩ (.cons ⟨rfl, Json.writesAs_integer _⟩
    (.cons ⟨rfl, Json.writesAs_integer _⟩ (.cons ⟨rfl, Json.writesAs_array (List.forall₂_same.2 names)⟩
      (.cons ⟨rfl, writes⟩ .nil)))))

/-- With finite seconds, the text of a record denotes its members with some number of seconds. -/
theorem writesAs_toJson {negative : Bool} {significand : Nat} {exponent : Int}
    (finite : record.elapsed = .finite negative significand exponent) :
    ∃ seconds, WritesAs record.toJson (.object (record.members (.number seconds))) := by
  rcases Json.writesAs_number negative significand exponent with ⟨seconds, writes⟩
  refine ⟨seconds, ?_⟩
  rw [toJson, finite]
  exact record.writesAs_members writes

end Record

/-- A value with characters of all kinds, a large integer and empty parts. -/
def nested : Value :=
  .object [("\"\\é", .array [.null, .boolean true, .integer (-12345678901234567890123), .array [], .object []]),
    ("", .string "line\nbreak\u0001/𝄞")]

end Report
end ImportCensus

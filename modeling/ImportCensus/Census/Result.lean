import ImportCensus.Census.PackageSet

namespace ImportCensus
namespace Census

/-!
# Results

What a scan finds out: how many files were looked at, how many of them could not
be used, and the third-party packages that the others import.
-/

structure Result where
  fileCount : Nat
  failedFiles : Nat
  packages : PackageSet

/-- The result of a scan without files. -/
def Result.none : Result := ⟨0, 0, .empty⟩

end Census
end ImportCensus

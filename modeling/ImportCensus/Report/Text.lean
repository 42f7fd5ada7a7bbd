import ImportCensus.Census.Result
import ImportCensus.Report.Elapsed

namespace ImportCensus
namespace Report

/-!
# The report as text

A headline with the counts and the elapsed time, an empty line, and the packages,
one on each line.
-/

def headline (result : Census.Result) (elapsed : String) : String :=
  "Found '" ++ toString result.packages.size ++ "' third-party package imports in '" ++
    toString result.fileCount ++ "' files. (Took " ++ elapsed ++ ")"

/-- Lines as a text; every line is ended. -/
def ended (lines : List String) : String := String.join (lines.map fun line => line ++ "\n")

/-- The report of a result with its packages in the given order, given the text of its
elapsed time. -/
def listing (result : Census.Result) (packages : List String) (elapsed : String) : String :=
  ended (headline result elapsed :: "" :: packages)

/-- The report of a result with its packages in increasing order. -/
def text (result : Census.Result) (elapsed : String) : String :=
  listing result result.packages.members elapsed

end Report
end ImportCensus

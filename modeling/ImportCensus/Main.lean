import ImportCensus.CommandLine.Command
import ImportCensus.Files.Description
import ImportCensus.Json.Reader

namespace ImportCensus

/-!
# The program

The program reads the description of a store from its input stream and carries
out the command for its arguments.  The description's member `processors` is the
number of processors, if it is known; the variable `TPI_DEBUG` asks for log lines.
-/

/-- The surroundings that an object describes. -/
def CommandLine.Surroundings.ofJson? (debug : Bool) (value : Json.Value) :
    Option CommandLine.Surroundings := do
  let store ← Files.Store.ofJson? value
  let processors := match value.get? "processors" with
    | some (.integer count) => some count.toNat
    | _ => none
  return ⟨store, .standard, processors, debug, .unbounded⟩

/-- Everything that is left in a stream. -/
partial def readAll (stream : IO.FS.Stream) (done : String) : IO String := do
  let line ← stream.getLine
  if line.isEmpty then return done else readAll stream (done ++ line)

/-- The seconds in a number of nanoseconds. -/
def secondsOf (nanoseconds : Nat) : Number.Binary64 :=
  .ofQuotient ⟨false, nanoseconds, 1000000000⟩

/-- Carry out the command and return its exit code; a failure that no user can
be told to mend has the code one. -/
def serve (arguments : List String) : IO UInt32 := do
  let started ← IO.monoNanosNow
  let debug := ((← IO.getEnv "TPI_DEBUG").getD "") != ""
  let description ← readAll (← IO.getStdin) ""
  match (Json.read description.toList).bind (CommandLine.Surroundings.ofJson? debug) with
  | none =>
    IO.eprintln "The input describes no files."
    return 1
  | some surroundings =>
    let outcome := CommandLine.command surroundings arguments
    let stopped ← IO.monoNanosNow
    let seconds := secondsOf (stopped - started)
    let (errors, code) := match outcome with
      | .ok reply => (reply.errors, reply.code.toUInt32)
      | .error failure => (failure.message ++ "\n", 1)
    IO.eprint errors
    IO.print (CommandLine.written seconds Census.PackageSet.members outcome)
    return code

end ImportCensus

def main (arguments : List String) : IO UInt32 := ImportCensus.serve arguments

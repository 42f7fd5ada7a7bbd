import ImportCensus.Number.Numeral

namespace ImportCensus

/-!
# Limits

A process can write and read only so much, whatever the values are.  An integer has at most so
many decimal digits in a text, a value is nested at most so deep where it is written, and a
document may be nested too deep to be read.  The number of digits is a setting of the process.
How far the stack reaches depends on all that is going on already, so it is left open here: a
stack tells how many levels can be written and which documents can be read.  What goes beyond a
limit ends in an `Excess`, wherever it comes up.
-/

/-- The stack of a process, as far as values can be too deep for it. -/
structure Stack where
  /-- How many levels of a value can be written, if not all. -/
  levels : Option Nat
  /-- Whether a document can be read. -/
  reads : List Char -> Bool

/-- A stack without an end. -/
def Stack.unbounded : Stack := ⟨none, fun _ => true⟩

/-- What a process can write and read. -/
structure Limits extends Stack where
  /-- How many decimal digits of an integer can be written, if not all. -/
  digits : Option Nat

/-- A limit that is exceeded. -/
inductive Excess where
  | digits (most : Nat)
  /-- The stack ends while something is being done. -/
  | stack (activity : String)
  deriving DecidableEq, Repr

def Excess.message : Excess -> String
  | .digits most =>
    "Exceeds the limit (" ++ toString most ++ " digits) for integer string conversion; " ++
      "use sys.set_int_max_str_digits() to increase the limit"
  | .stack activity => "maximum recursion depth exceeded" ++ activity

/-- What of a value can exceed a limit: its integers, and the levels on which they are. -/
inductive Outline where
  | plain
  | integer (value : Int)
  | level (parts : List Outline)
  deriving Repr, Inhabited

namespace Limits

/-- The limits of a process whose settings have not been changed. -/
def usual (stack : Stack) : Limits := { stack with digits := some Number.mostDigits }

/-- The excess of an integer. -/
def ofInteger? (limits : Limits) (value : Int) : Option Excess :=
  match limits.digits with
  | some most => if value.natAbs < Nat.pow 10 most then none else some (.digits most)
  | none => none

mutual

/-- The first excess that writing an outline comes upon, where so many levels are left. -/
def excess? (limits : Limits) (activity : String) (left : Option Nat) : Outline -> Option Excess
  | .plain => none
  | .integer value => limits.ofInteger? value
  | .level parts =>
    if left = some 0 then some (.stack activity)
    else firstExcess? limits activity (left.map Nat.pred) parts

def firstExcess? (limits : Limits) (activity : String) (left : Option Nat) :
    List Outline -> Option Excess
  | [] => none
  | part :: rest =>
    (excess? limits activity left part).or (firstExcess? limits activity left rest)

end

/-- What is told with some data in it, if all of them can be written. -/
def tell {α : Type} (limits : Limits) (activity : String) (shown : List Outline) (told : α) :
    Except Excess α :=
  match limits.firstExcess? activity limits.levels shown with
  | some excess => .error excess
  | none => .ok told

end Limits

end ImportCensus

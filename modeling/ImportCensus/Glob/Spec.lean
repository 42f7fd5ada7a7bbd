import ImportCensus.Glob.Match
import ImportCensus.Text.Blank

namespace ImportCensus
namespace Glob

/-!
# Lists of patterns

Of several patterns the last one that matches a path decides.  Lines that are
blank or begin with a number sign are no patterns, and a list without any pattern
decides nothing.
-/

/-- A list of patterns in order. -/
abbrev Spec := List Pattern

/-- The lines that are patterns, without the white space around them. -/
def meaningful (lines : List (List Char)) : List (List Char) :=
  (lines.map Text.trim).filter fun line => !line.isEmpty && line.head? != some '#'

/-- The patterns of some lines; none if no line is one. -/
def Spec.ofLines (lines : List (List Char)) : Except PatternError (Option Spec) := do
  match meaningful lines with
  | [] => return none
  | kept => return some (← kept.mapM Pattern.read)

/-- A path relative to the root, without a leading slash or a leading dot segment. -/
def relative (path : List Char) : List Char :=
  match path with
  | '/' :: rest => rest
  | '.' :: '/' :: rest => rest
  | _ => path

namespace Spec

/-- The verdict of the last pattern that matches a path, if one does. -/
def verdict? (spec : Spec) (path : List Char) : Option Bool :=
  (spec.reverse.find? fun pattern => pattern.shape.matches path).map fun pattern =>
    !pattern.negated

/-- Whether a list of patterns selects a path. -/
def selects (spec : Spec) (path : List Char) : Bool :=
  (spec.verdict? (relative path)).getD false

end Spec

end Glob
end ImportCensus

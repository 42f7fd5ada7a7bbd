namespace ImportCensus
namespace Imports

/-!
# Import references

What an import statement asks for: a module, or names out of a module that may
be given relative to the importing file.  The *base* of a dotted module name is
its first segment, and it is all that later decisions look at.
-/

/-- One imported module, or one from-import. -/
inductive Reference where
  /-- A module, perhaps under another name. -/
  | direct (module : String) (rename : Option String)
  /-- Names out of a module; the level counts the leading dots. -/
  | names (module : Option String) (level : Nat) (names : List String)
  deriving DecidableEq, Repr

/-- The first segment of a dotted name, on its characters. -/
def baseChars (module : List Char) : List Char := module.takeWhile fun c => c != '.'

/-- The first segment of a dotted name. -/
def moduleBase (module : String) : String := String.ofList (baseChars module.toList)

theorem baseChars_idem (module : List Char) : baseChars (baseChars module) = baseChars module := by
  induction module with
  | nil => rfl
  | cons c rest ih =>
    by_cases h : c = '.'
    · simp [baseChars, h]
    · simpa [baseChars, h] using ih

theorem moduleBase_idem (module : String) : moduleBase (moduleBase module) = moduleBase module := by
  simp [moduleBase, baseChars_idem]

namespace Reference

/-- Whether a from-import names a module by its full name. -/
def isAbsolute : Reference -> Bool
  | .direct _ _ => true
  | .names module level _ => level == 0 && module.any fun name => name != ""

/-- The module that is a candidate for classification, if there is one: relative
imports and empty names have none. -/
def candidate? : Reference -> Option String
  | .direct module _ => if module = "" then none else some module
  | .names (some module) 0 _ => if module = "" then none else some module
  | .names _ _ _ => none

end Reference

/-- The bases of all candidates, in order of appearance. -/
def absoluteBases (references : List Reference) : List String :=
  references.filterMap fun reference => reference.candidate?.map moduleBase

theorem absoluteBases_append (first second : List Reference) :
    absoluteBases (first ++ second) = absoluteBases first ++ absoluteBases second := by
  simp [absoluteBases]

end Imports
end ImportCensus

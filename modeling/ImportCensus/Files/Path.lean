namespace ImportCensus
namespace Files

/-!
# Paths

A path is an anchor and a row of names.  Empty names and single dots are never
part of a path; two dots are kept, since what they mean depends on links.  A path
begins at the root if it has an anchor, and exactly two slashes in front are an
anchor of their own.
-/

structure Path where
  /-- The number of slashes in front: none, one, or two. -/
  anchor : Nat
  names : List String
  deriving DecidableEq, Repr

namespace Path

/-- The path of a text's parts between slashes. -/
def isName (part : String) : Bool := part != "" && part != "."

/-- The parts of a text between slashes. -/
def splitSlash (text : String) : List String :=
  (go text.toList).map String.ofList
where
  go : List Char -> List (List Char)
    | [] => [[]]
    | c :: rest =>
      if c = '/' then [] :: go rest
      else match go rest with
        | first :: others => (c :: first) :: others
        | [] => [[c]]

/-- The path that a text spells. -/
def ofText (text : String) : Path :=
  let slashes := (text.toList.takeWhile fun c => c == '/').length
  ⟨if slashes = 2 then 2 else min slashes 1, (splitSlash text).filter isName⟩

/-- The text of a path. -/
def text (path : Path) : String :=
  if path.anchor = 0 && path.names.isEmpty then "."
  else String.ofList (List.replicate path.anchor '/') ++ "/".intercalate path.names

/-- A path below another; an anchored one replaces it. -/
def join (base below : Path) : Path :=
  if below.anchor = 0 then ⟨base.anchor, base.names ++ below.names⟩ else below

/-- The path of a text below a path. -/
def child (base : Path) (text : String) : Path := base.join (ofText text)

/-- The path without its last name. -/
def parent (path : Path) : Path := ⟨path.anchor, path.names.dropLast⟩

/-- The last name, empty for a path without names. -/
def name (path : Path) : String := path.names.getLast?.getD ""

end Path

/-- The suffix of a file name, with its dot: a dot at either end begins none. -/
def suffix (name : String) : List Char :=
  let tail := (name.toList.reverse.takeWhile fun c => c != '.').reverse
  let stem := name.toList.length - tail.length
  if 1 < stem && !tail.isEmpty then '.' :: tail else []

/-- The suffixes of sources and of stubs. -/
def sourceSuffixes : List String := [".py", ".pyi"]

/-- Whether a file name has the suffix of a source or a stub, in any case. -/
def isSourceName (name : String) : Bool :=
  sourceSuffixes.contains (String.ofList ((suffix name).map Char.toLower))

end Files
end ImportCensus

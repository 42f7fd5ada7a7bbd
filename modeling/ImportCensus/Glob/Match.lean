import ImportCensus.Glob.Pattern

namespace ImportCensus
namespace Glob

/-!
# Matching paths

A pattern is matched against a path from its beginning.  Behind the last segment
the path must end, or go on with a slash: what matches a directory matches all
that lies below it.
-/

/-- Whether a character is in one of the ranges of a set. -/
def inSet (ranges : List (Char × Char)) (c : Char) : Bool :=
  ranges.any fun range => decide (range.1 ≤ c) && decide (c ≤ range.2)

/-- All that may follow where pieces have matched a beginning of a path: the
pieces match if the rest satisfies the continuation for some way to match. -/
def matchPieces (behind : List Char -> Bool) : List Piece -> List Char -> Bool
  | [], path => behind path
  | .char c :: pieces, path =>
    match path with
    | d :: rest => c == d && matchPieces behind pieces rest
    | [] => false
  | .one :: pieces, path =>
    match path with
    | d :: rest => d != '/' && matchPieces behind pieces rest
    | [] => false
  | .set negated ranges :: pieces, path =>
    match path with
    | d :: rest => (inSet ranges d != negated) && matchPieces behind pieces rest
    | [] => false
  | .many :: pieces, path =>
    matchPieces behind pieces path ||
      match path with
      | d :: rest => d != '/' && matchPieces behind (.many :: pieces) rest
      | [] => false
termination_by pieces path => (pieces.length, path.length)

/-- Whether some place behind a slash, with at least one character before the
slash and no line feed before it, satisfies the continuation. -/
def behindSlash (behind : List Char -> Bool) (started : Bool) : List Char -> Bool
  | [] => false
  | c :: rest =>
    (started && c == '/' && behind rest) ||
      (c != '\n' && behindSlash behind true rest)

/-- Whether some place behind at least one character, none of them a line feed,
satisfies the continuation. -/
def behindSome (behind : List Char -> Bool) : List Char -> Bool
  | [] => false
  | c :: rest => c != '\n' && (behind rest || behindSome behind rest)

/-- Whether the path ends here, or goes on below. -/
def endsOrBelow (path : List Char) : Bool :=
  path == [] || path == ['\n'] || path.head? == some '/'

/-- Whether the path goes on below. -/
def below (path : List Char) : Bool := path.head? == some '/'

/-- The pieces of a segment; a star alone stands for at least one character. -/
def matchGlob (behind : List Char -> Bool) (pieces : List Piece) (path : List Char) : Bool :=
  if pieces = [.many] then matchPieces behind [.one, .many] path
  else matchPieces behind pieces path

/-- The segments behind the first: a slash comes before each of them. -/
def matchRest : List Segment -> List Char -> Bool
  | [], path => endsOrBelow path
  | [.anyDepth], path => below path
  | .anyDepth :: rest, path =>
    matchRest rest path ||
      match path with
      | '/' :: deeper => behindSome (matchRest rest) deeper
      | _ => false
  | .glob pieces :: rest, path =>
    match path with
    | '/' :: deeper => matchGlob (matchRest rest) pieces deeper
    | _ => false

/-- All segments. -/
def matchSegments : List Segment -> List Char -> Bool
  | [], path => endsOrBelow path
  | .glob pieces :: rest, path => matchGlob (matchRest rest) pieces path
  | .anyDepth :: .glob pieces :: rest, path =>
    matchGlob (matchRest rest) pieces path ||
      behindSlash (matchGlob (matchRest rest) pieces) false path
  | .anyDepth :: rest, path => matchRest rest path

/-- Whether a pattern matches a path. -/
def Shape.matches : Shape -> List Char -> Bool
  | .nothing, _ => false
  | .everything, text => text.any fun c => c != '\n'
  | .nested, text => text.contains '/'
  | .path segments, text => matchSegments segments text

end Glob
end ImportCensus

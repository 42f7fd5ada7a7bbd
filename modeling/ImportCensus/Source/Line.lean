import ImportCensus.Source.Lexeme
import ImportCensus.Text.Position

namespace ImportCensus
namespace Source

/-!
# Logical lines

Lexemes become tokens once their positions are known, and tokens are grouped
into logical lines.  A line feed inside brackets, or behind a backslash, ends
no line.  What is neither white space nor a token, a comment or a hidden line
feed, is kept as an *extra*: inside a line it stays with the token behind it, and
between the lines it is a row of its own, with its own indentation.
-/

inductive ExtraKind where
  | comment
  | continuation
  deriving DecidableEq, Repr

/-- A comment or a hidden line feed. -/
structure Extra where
  kind : ExtraKind
  span : Text.Span
  deriving DecidableEq, Repr

/-- A lexeme that the grammar sees, with the extras before it on its line. -/
structure Token where
  kind : LexemeKind
  text : String
  span : Text.Span
  before : List Extra
  deriving DecidableEq, Repr

/-- Whether a token is of a kind and spelled in a given way. -/
def Token.is (token : Token) (kind : LexemeKind) (text : String) : Bool :=
  token.kind == kind && token.text == text

/-- A logical line: its indentation, its tokens, and the extras behind the last. -/
structure Line where
  indent : Nat
  first : Token
  more : List Token
  after : List Extra
  deriving Repr

/-- The tokens of a line. -/
def Line.tokens (line : Line) : List Token := line.first :: line.more

inductive Row where
  /-- A comment that stands alone, with its indentation. -/
  | remark (indent : Nat) (extra : Extra)
  | line (content : Line)
  deriving Repr

/-- The place where a row begins. -/
def Row.start : Row -> Text.Position
  | .remark _ extra => extra.span.start
  | .line content => content.first.span.start

/-- The indentation behind more white space: a space counts one, a tab eight,
and a carriage return or a form feed begins anew. -/
def indentBehind (indent : Nat) (blank : List Char) : Nat :=
  blank.foldl (fun width c =>
    if c == ' ' then width + 1
    else if c == '\t' then width + 8
    else if c == '\r' || c == '\x0c' then 0
    else width) indent

/-- What is known of the line that is being collected.  Both lists run
backwards. -/
structure LineState where
  position : Text.Position
  indent : Nat
  tokens : List Token
  extras : List Extra

namespace LineState

def start (position : Text.Position) : LineState := ⟨position, 0, [], []⟩

/-- The rows that the collected part amounts to when its line ends. -/
def finish (state : LineState) : List Row :=
  match state.tokens.reverse with
  | [] => state.extras.reverse.map (Row.remark state.indent)
  | first :: more => [.line ⟨state.indent, first, more, state.extras.reverse⟩]

end LineState

/-- The rows of the lexemes that follow the collected part of a line. -/
def rowsFrom (state : LineState) : List Lexeme -> List Row
  | [] => state.finish
  | lexeme :: rest =>
    let stop := state.position.advanceAll lexeme.text
    let span : Text.Span := ⟨state.position, stop⟩
    match lexeme.kind with
    | .blank =>
      let indent :=
        if state.tokens.isEmpty then indentBehind state.indent lexeme.text else state.indent
      rowsFrom { state with position := stop, indent := indent } rest
    | .newline => state.finish ++ rowsFrom (.start stop) rest
    | .continuation =>
      rowsFrom { state with position := stop, extras := ⟨.continuation, span⟩ :: state.extras } rest
    | .comment =>
      rowsFrom { state with position := stop, extras := ⟨.comment, span⟩ :: state.extras } rest
    | kind =>
      let text := String.ofList lexeme.text
      if state.tokens.isEmpty then
        state.extras.reverse.map (Row.remark state.indent) ++
          rowsFrom ⟨stop, state.indent, [⟨kind, text, span, []⟩], []⟩ rest
      else
        rowsFrom ⟨stop, state.indent, ⟨kind, text, span, state.extras.reverse⟩ :: state.tokens, []⟩
          rest

/-- The rows of a source text. -/
def rows (text : List Char) : List Row :=
  rowsFrom (.start .origin) (lexemes text)

end Source
end ImportCensus

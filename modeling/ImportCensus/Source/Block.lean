import ImportCensus.Source.Statement

namespace ImportCensus
namespace Source

open Syntax (CompoundKind)

/-!
# Blocks

The rows of a source text are gathered into blocks by their indentation.  A
block opens behind a header whose next line is indented more deeply than the
block around the header, and its level is the indentation of that line.  It
closes before the first line that is indented less deeply than its level.  A
line that is merely deeper than its neighbours, or returns to a level that was
never opened, is an ordinary line of the block it falls into.  A header without
a deeper line behind it has an empty block.

Blocks nest to any depth here.  A reader that writes its open levels down in a record
of fixed size can keep some hundreds of them and misreads what is nested deeper; such
a capacity is no rule of the language and is left out, so what is proved of texts at
every depth is proved of the language.
-/

/-- The indentation of the next line; the end of the text is not indented. -/
def nextIndent : List Row -> Nat
  | [] => 0
  | .remark _ _ :: rest => nextIndent rest
  | .line content :: _ => content.indent

/-- The leading remarks that are indented at least as deeply as a level, and
the rows behind them. -/
def remarksFrom (level : Nat) : List Row -> List Extra × List Row
  | .remark indent extra :: rest =>
    if level ≤ indent then
      let (others, below) := remarksFrom level rest
      (extra :: others, below)
    else ([], .remark indent extra :: rest)
  | rows => ([], rows)

/-- The remarks that belong to a block of a level: all of them, unless the
block closes behind them, in which case a remark that is less indented ends it. -/
def remarksIn (level : Nat) (rows : List Row) : List Extra × List Row :=
  remarksFrom (if nextIndent rows < level then level else 0) rows

/-- The clause that a keyword opens. -/
def clauseKind? (token : Token) : Option CompoundKind :=
  match token.kind, token.text with
  | .keyword, "elif" => some .elifClause
  | .keyword, "else" => some .elseClause
  | .keyword, "except" => some .exceptClause
  | .keyword, "finally" => some .finallyClause
  | _, _ => none

/-- The place of a clause behind its statement: clauses of the first rank may be
repeated, and ranks never decrease. -/
def clauseRank? : CompoundKind -> CompoundKind -> Option Nat
  | .ifStatement, .elifClause => some 0
  | .ifStatement, .elseClause => some 1
  | .forStatement, .elseClause => some 1
  | .whileStatement, .elseClause => some 1
  | .tryStatement, .exceptClause => some 0
  | .tryStatement, .elseClause => some 1
  | .tryStatement, .finallyClause => some 2
  | _, _ => none

/-- Whether a clause of one rank may follow a clause of another. -/
def mayFollow (rank last : Nat) : Bool := rank = 0 && last = 0 || last < rank

/-- Whether a kind of opening is a clause, and not a statement. -/
def isClause : CompoundKind -> Bool
  | .elifClause | .elseClause | .exceptClause | .exceptGroupClause | .finallyClause
  | .caseClause => true
  | _ => false

/-- Whether a kind of opening may stand behind a decorator. -/
def isDefinition : CompoundKind -> Bool
  | .functionDefinition | .classDefinition => true
  | _ => false

/-- The failure at the beginning of a line. -/
def Line.fault (line : Line) : Fault := ⟨line.first.span.start, line.tokens⟩

/-- The block that some items make up, or the empty block at a place. -/
def blockOver (place : Text.Position) : List Item -> Part
  | [] => .block ⟨place, place⟩ []
  | head :: tail =>
    .block ⟨head.span.start, ((head :: tail).getLast (by simp)).span.stop⟩ (head :: tail)

/-- The place behind a row of parts. -/
def stopOf (start : Text.Position) (parts : List Part) : Text.Position :=
  match parts.getLast? with
  | some part => part.span.stop
  | none => start

/-- The compound over a row of parts. -/
def compoundOver (kind : CompoundKind) : List Part -> Compound
  | head :: tail => .build kind head tail
  | [] => .mk kind ⟨.origin, .origin⟩ []

mutual

/-- The items of a block of a level, and the rows behind the block.  The cases
of a match statement form a block of their own kind. -/
def blockItems (inMatch : Bool) (level : Nat) : Nat -> List Row ->
    Except Fault (List Item × List Row)
  | 0, _ => .error ⟨.origin, []⟩
  | limit + 1, rows => do
    let (remarks, rest) := remarksIn level rows
    match rest with
    | .line line :: below =>
      if line.indent < level then return (remarks.map Item.extra, rest)
      else
        let (here, rest) ← statementAt inMatch level limit line below
        let (others, rest) ← blockItems inMatch level limit rest
        return (remarks.map Item.extra ++ here ++ others, rest)
    | _ => return (remarks.map Item.extra, rest)
termination_by structural limit => limit

/-- The statements that begin with a line. -/
def statementAt (inMatch : Bool) (level : Nat) : Nat -> Line -> List Row ->
    Except Fault (List Item × List Row)
  | 0, _, _ => .error ⟨.origin, []⟩
  | limit + 1, line, below => do
    match ← line.read inMatch with
    | .statements items => return (items ++ line.after.map Item.extra, below)
    | .opening opening =>
      if isClause opening.kind && !inMatch then .error line.fault
      else
        let (body, rest) ← compoundAt level limit opening line.after below
        return ([.compound body], rest)
    | .decorator phrase =>
      let (body, rest) ← decorated level limit [.phrase phrase] line.after below
      return ([.compound body], rest)
termination_by structural limit => limit

/-- The compound statement of an opening, with its clauses. -/
def compoundAt (level : Nat) : Nat -> Opening -> List Extra -> List Row ->
    Except Fault (Compound × List Row)
  | 0, _, _, _ => .error ⟨.origin, []⟩
  | limit + 1, opening, after, below => do
    let (body, rest) ← suite level limit opening after below
    let (others, rest) ← clausesAt opening.kind level limit 0 rest
    return (compoundOver opening.kind (body ++ others), rest)
termination_by structural limit => limit

/-- The parts of an opening: its header, and the block behind the colon. -/
def suite (level : Nat) : Nat -> Opening -> List Extra -> List Row ->
    Except Fault (List Part × List Row)
  | 0, _, _, _ => .error ⟨.origin, []⟩
  | limit + 1, opening, after, below => do
    let header := opening.parts.map Part.phrase
    match opening.suite with
    | some items =>
      return (header ++ [blockOver .origin (items ++ after.map Item.extra)], below)
    | none =>
      let before := header ++ after.map Part.extra
      let place := stopOf .origin before
      let deeper := nextIndent below
      if level < deeper then
        let (remarks, rest) := remarksFrom 0 below
        let (items, rest) ← blockItems (opening.kind = .matchStatement) deeper limit rest
        return (before ++ remarks.map Part.extra ++ [blockOver place items], rest)
      else return (before ++ [blockOver place []], below)
termination_by structural limit => limit

/-- The clauses that follow a statement, given the rank of the last one. -/
def clausesAt (owner : CompoundKind) (level : Nat) : Nat -> Nat -> List Row ->
    Except Fault (List Part × List Row)
  | 0, _, _ => .error ⟨.origin, []⟩
  | limit + 1, last, rows => do
    let (remarks, rest) := remarksFrom 0 rows
    match rest with
    | .line line :: below =>
      match (clauseKind? line.first).bind (clauseRank? owner) with
      | some rank =>
        if level ≤ line.indent && mayFollow rank last then
          match ← line.read false with
          | .opening opening =>
            let (body, rest) ← suite level limit opening line.after below
            let (others, rest) ← clausesAt owner level limit rank rest
            return (remarks.map Part.extra ++ .clause (compoundOver opening.kind body) :: others,
              rest)
          | _ => .error line.fault
        else return ([], rows)
      | none => return ([], rows)
    | _ => return ([], rows)
termination_by structural limit => limit

/-- The definition behind decorators, given the parts so far. -/
def decorated (level : Nat) : Nat -> List Part -> List Extra -> List Row ->
    Except Fault (Compound × List Row)
  | 0, _, _, _ => .error ⟨.origin, []⟩
  | limit + 1, parts, after, below => do
    let (remarks, rest) := remarksFrom 0 below
    let parts := parts ++ after.map Part.extra ++ remarks.map Part.extra
    match rest with
    | .line line :: below =>
      if line.indent < level then .error line.fault
      else
        match ← line.read false with
        | .decorator phrase => decorated level limit (parts ++ [.phrase phrase]) line.after below
        | .opening opening =>
          if isDefinition opening.kind then
            let (body, rest) ← compoundAt level limit opening line.after below
            return (compoundOver .decoratedDefinition (parts ++ [.clause body]), rest)
          else .error line.fault
        | .statements _ => .error line.fault
    | _ => .error ⟨stopOf .origin parts, []⟩
termination_by structural limit => limit

end

/-- The items of a whole source text.  Every row is passed once, by at most four
nested readers. -/
def program (rows : List Row) : Except Fault (List Item) := do
  let (items, _) ← blockItems false 0 (4 * rows.length + 4) rows
  return items

end Source
end ImportCensus

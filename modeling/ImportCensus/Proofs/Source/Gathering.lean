import ImportCensus.Source.Block

namespace ImportCensus
namespace Source

open Syntax (CompoundKind)

/-!
# How lines are gathered

The readers of blocks, one step at a time, for rows that are lines without remarks: what
a reader gives follows from what the readers give that it calls.  The limits count down
by one with each step, so that they are enough wherever they are enough for the calls.
-/

variable {inMatch : Bool} {level limit last : Nat} {line : Line} {below middle rest : List Row}
  {items more : List Item} {parts others : List Part} {kind owner : CompoundKind}
  {phrases : List Phrase} {body : Compound}

/-- Rows before which a block of a level closes. -/
inductive Closes (level : Nat) : List Row -> Prop
  | nil : Closes level []
  | line {line : Line} {rest : List Row} (less : line.indent < level) : Closes level (.line line :: rest)

/-- Rows before which a statement of a level ends: the block around it closes, or a line
of no deeper level follows that begins no clause. -/
inductive Ends (level : Nat) : List Row -> Prop
  | closes {rest : List Row} (closes : Closes level rest) : Ends level rest
  | line {line : Line} {rest : List Row} (flat : line.indent ≤ level)
      (noClause : clauseKind? line.first = none) : Ends level (.line line :: rest)

/-- Where a statement ends, its deeper blocks close. -/
theorem Ends.closes_of_lt {deeper : Nat} (ends : Ends level rest) (less : level < deeper) :
    Closes deeper rest := by
  cases ends with
  | closes closes =>
      cases closes with
      | nil => exact .nil
      | line lower => exact .line (Nat.lt_trans lower less)
  | line flat => exact .line (Nat.lt_of_le_of_lt flat less)

/-! ## Items of a block -/

theorem blockItems_closes (closes : Closes level rest) :
    blockItems inMatch level (limit + 1) rest = .ok ([], rest) := by
  unfold blockItems
  cases closes with
  | nil => rfl
  | line less =>
      dsimp only [remarksIn, remarksFrom]
      rw [if_pos less]
      rfl

theorem blockItems_line (deep : level ≤ line.indent)
    (here : statementAt inMatch level limit line below = .ok (items, middle))
    (behind : blockItems inMatch level limit middle = .ok (more, rest)) :
    blockItems inMatch level (limit + 1) (.line line :: below) = .ok (items ++ more, rest) := by
  unfold blockItems
  dsimp only [remarksIn, remarksFrom]
  rw [if_neg (Nat.not_lt.2 deep), here]
  simp only [Bind.bind, Except.bind, behind]
  rfl

/-! ## Statements -/

theorem statementAt_statements (reads : line.read inMatch = .ok (.statements items)) (bare : line.after = []) :
    statementAt inMatch level (limit + 1) line below = .ok (items, below) := by
  unfold statementAt
  rw [reads, bare]
  simp [Bind.bind, Except.bind, pure, Except.pure]

theorem statementAt_opening {opening : Opening} (reads : line.read inMatch = .ok (.opening opening))
    (bare : line.after = []) (isStatement : (isClause opening.kind && !inMatch) = false)
    (gathers : compoundAt level limit opening [] below = .ok (body, rest)) :
    statementAt inMatch level (limit + 1) line below = .ok ([.compound body], rest) := by
  unfold statementAt
  rw [reads, bare]
  simp only [Bind.bind, Except.bind, isStatement, gathers]
  rfl

theorem statementAt_decorator {phrase : Phrase} (reads : line.read inMatch = .ok (.decorator phrase))
    (bare : line.after = []) (gathers : decorated level limit [.phrase phrase] [] below = .ok (body, rest)) :
    statementAt inMatch level (limit + 1) line below = .ok ([.compound body], rest) := by
  unfold statementAt
  rw [reads, bare]
  simp only [Bind.bind, Except.bind, gathers]
  rfl

/-! ## Compound statements -/

/-- The parts of a compound statement before its clauses. -/
def suiteParts (phrases : List Phrase) (items : List Item) : List Part :=
  let header := phrases.map Part.phrase
  header ++ [blockOver (stopOf .origin header) items]

theorem suite_block {deeper : Nat} (indent : line.indent = deeper) (deep : level < deeper)
    (gathers : blockItems (kind = .matchStatement) deeper limit (.line line :: below) = .ok (items, rest)) :
    suite level (limit + 1) ⟨kind, phrases, none⟩ [] (.line line :: below) =
      .ok (suiteParts phrases items, rest) := by
  unfold suite
  dsimp only [nextIndent, remarksFrom]
  rw [indent, if_pos deep, gathers]
  simp [Bind.bind, Except.bind, pure, Except.pure, suiteParts]

theorem compoundAt_suite {opening : Opening} (here : suite level limit opening [] below = .ok (parts, middle))
    (behind : clausesAt opening.kind level limit 0 middle = .ok (others, rest)) :
    compoundAt level (limit + 1) opening [] below = .ok (compoundOver opening.kind (parts ++ others), rest) := by
  unfold compoundAt
  rw [here]
  simp only [Bind.bind, Except.bind, behind]
  rfl

/-! ## Clauses -/

theorem clausesAt_ends (ends : Ends level rest) :
    clausesAt owner level (limit + 1) last rest = .ok ([], rest) := by
  unfold clausesAt
  cases ends with
  | closes closes =>
      cases closes with
      | nil => rfl
      | @line line _ less =>
          dsimp only [remarksFrom]
          cases (clauseKind? line.first).bind (clauseRank? owner) with
          | none => rfl
          | some rank =>
              dsimp only
              rw [decide_eq_false (Nat.not_le.2 less)]
              rfl
  | line _ noClause =>
      dsimp only [remarksFrom]
      rw [noClause]
      rfl

theorem clausesAt_clause {rank : Nat} {opening : Opening} (isClause : clauseKind? line.first = some opening.kind)
    (ranked : clauseRank? owner opening.kind = some rank) (follows : mayFollow rank last = true)
    (deep : level ≤ line.indent) (reads : line.read false = .ok (.opening opening)) (bare : line.after = [])
    (here : suite level limit opening [] below = .ok (parts, middle))
    (behind : clausesAt owner level limit rank middle = .ok (others, rest)) :
    clausesAt owner level (limit + 1) last (.line line :: below) =
      .ok (.clause (compoundOver opening.kind parts) :: others, rest) := by
  unfold clausesAt
  dsimp only [remarksFrom]
  rw [isClause, Option.bind_some, ranked]
  simp only [decide_eq_true deep, follows, Bool.and_self, if_true, reads, bare, here, behind,
    Bind.bind, Except.bind]
  rfl

/-! ## Decorators -/

theorem decorated_decorator {phrase : Phrase} (deep : level ≤ line.indent)
    (reads : line.read false = .ok (.decorator phrase)) (bare : line.after = [])
    (behind : decorated level limit (parts ++ [.phrase phrase]) [] below = .ok (body, rest)) :
    decorated level (limit + 1) parts [] (.line line :: below) = .ok (body, rest) := by
  unfold decorated
  dsimp only [remarksFrom]
  rw [if_neg (Nat.not_lt.2 deep), reads]
  simp only [Bind.bind, Except.bind, List.map_nil, List.append_nil, bare, behind]

theorem decorated_definition {opening : Opening} (deep : level ≤ line.indent)
    (reads : line.read false = .ok (.opening opening)) (bare : line.after = [])
    (defines : isDefinition opening.kind = true)
    (gathers : compoundAt level limit opening [] below = .ok (body, rest)) :
    decorated level (limit + 1) parts [] (.line line :: below) =
      .ok (compoundOver .decoratedDefinition (parts ++ [.clause body]), rest) := by
  unfold decorated
  dsimp only [remarksFrom]
  rw [if_neg (Nat.not_lt.2 deep), reads]
  simp only [Bind.bind, Except.bind, List.map_nil, List.append_nil, bare, defines, if_true, gathers]
  rfl

end Source
end ImportCensus

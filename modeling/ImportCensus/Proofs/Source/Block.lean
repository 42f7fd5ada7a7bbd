import ImportCensus.Proofs.Source.Statement
import ImportCensus.Proofs.Source.Tokens
import ImportCensus.Source.Document

namespace ImportCensus
namespace Source

/-!
# What programs are made of

The readers of blocks call each other, each with a smaller limit.  What they give
is answered for together: `BlocksSound` holds of every limit, because what each of
them puts together from sound lines and from what the others give is sound.  The
rows that one of them leaves are an end of its rows, so that the tokens in them
have every property that all tokens of the program have.
-/

open Phrase (AllApart)

variable {α β : Type} {outcome : Except Fault α} {good : α -> Prop} {fine : β -> Prop}
  {property : Token -> Prop}

/-- An outcome that is good unless it is a fault. -/
def Gives (outcome : Except Fault α) (good : α -> Prop) : Prop :=
  ∀ found, outcome = .ok found -> good found

theorem Gives.pure {value : α} (holds : good value) : Gives (Pure.pure value) good := by
  intro found same
  cases same
  exact holds

theorem Gives.imp {better : α -> Prop} (first : Gives outcome better)
    (implies : ∀ found, better found -> good found) : Gives outcome good :=
  fun found same => implies found (first found same)

theorem Gives.error {fault : Fault} : Gives (.error fault) good := by
  intro found same
  cases same

theorem Gives.bind {next : α -> Except Fault β} (first : Gives outcome good)
    (onward : ∀ found, good found -> Gives (next found) fine) : Gives (outcome >>= next) fine := by
  intro found same
  cases result : outcome with
  | error fault =>
      rw [result] at same
      cases same
  | ok value =>
      rw [result] at same
      exact onward value (first value result) found same

theorem Gives.ite {condition : Prop} [Decidable condition] {first second : Except Fault α}
    (holds : Gives first good) (fails : Gives second good) :
    Gives (if condition then first else second) good := by
  split
  · exact holds
  · exact fails

/-! ## Rows of parts -/

theorem Item.allSound_append {first second : List Item} :
    Item.AllSound property (first ++ second) ↔ Item.AllSound property first ∧ Item.AllSound property second := by
  simp only [Item.allSound_iff, List.mem_append, or_imp, forall_and]

theorem Item.allSound_extras (extras : List Extra) : Item.AllSound property (extras.map Item.extra) := by
  rw [Item.allSound_iff]
  intro item member
  rcases List.mem_map.1 member with ⟨extra, _, rfl⟩
  trivial

theorem Part.allSound_append {first second : List Part} :
    Part.AllSound property (first ++ second) ↔ Part.AllSound property first ∧ Part.AllSound property second := by
  simp only [Part.allSound_iff, List.mem_append, or_imp, forall_and]

theorem Part.allSound_extras (extras : List Extra) : Part.AllSound property (extras.map Part.extra) := by
  rw [Part.allSound_iff]
  intro part member
  rcases List.mem_map.1 member with ⟨extra, _, rfl⟩
  trivial

theorem Part.allSound_phrases {phrases : List Phrase} (apart : AllApart phrases) :
    Part.AllSound property (phrases.map Part.phrase) := by
  rw [Part.allSound_iff]
  intro part member
  rcases List.mem_map.1 member with ⟨phrase, within, rfl⟩
  exact Phrase.allApart_iff.1 apart phrase within

theorem Part.allSound_single {part : Part} : Part.AllSound property [part] ↔ part.Sound property := by
  rw [Part.allSound_iff, List.forall_mem_singleton]

theorem blockOver_sound (place : Text.Position) {items : List Item} (sound : Item.AllSound property items) :
    (blockOver place items).Sound property := by
  cases items with
  | nil => exact sound
  | cons item rest => exact sound

theorem compoundOver_sound (kind : Syntax.CompoundKind) {parts : List Part}
    (sound : Part.AllSound property parts) : (compoundOver kind parts).Sound property := by
  cases parts with
  | nil => exact sound
  | cons part rest => exact sound

/-! ## Rows behind remarks -/

theorem remarksFrom_suffix (level : Nat) (rows : List Row) : (remarksFrom level rows).2 <:+ rows := by
  induction rows with
  | nil => exact List.suffix_rfl
  | cons row rows ih =>
      unfold remarksFrom
      cases row with
      | line content => exact List.suffix_rfl
      | remark indent extra =>
          dsimp only
          split
          · exact ih.trans (List.suffix_cons _ _)
          · exact List.suffix_rfl

theorem suffix_of_remarksFrom {level : Nat} {rows rest : List Row} {remarks : List Extra}
    (parted : remarksFrom level rows = (remarks, rest)) : rest <:+ rows := by
  have left := remarksFrom_suffix level rows
  rw [parted] at left
  exact left

/-! ## The readers of blocks -/

/-- What the readers of blocks give under a limit is sound, and they leave an end of
their rows. -/
structure BlocksSound (property : Token -> Prop) (limit : Nat) : Prop where
  items (inMatch : Bool) (level : Nat) (rows : List Row) (all : Row.AllTokens property rows) :
    Gives (blockItems inMatch level limit rows) fun found =>
      Item.AllSound property found.1 ∧ found.2 <:+ rows
  statement (inMatch : Bool) (level : Nat) (line : Line) (below : List Row)
    (all : Row.AllTokens property (.line line :: below)) :
    Gives (statementAt inMatch level limit line below) fun found =>
      Item.AllSound property found.1 ∧ found.2 <:+ below
  compound (level : Nat) (opening : Opening) (after : List Extra) (below : List Row)
    (all : Row.AllTokens property below) (sound : (Reading.opening opening).Sound property) :
    Gives (compoundAt level limit opening after below) fun found =>
      found.1.Sound property ∧ found.2 <:+ below
  suite (level : Nat) (opening : Opening) (after : List Extra) (below : List Row)
    (all : Row.AllTokens property below) (sound : (Reading.opening opening).Sound property) :
    Gives (suite level limit opening after below) fun found =>
      Part.AllSound property found.1 ∧ found.2 <:+ below
  clauses (owner : Syntax.CompoundKind) (level last : Nat) (rows : List Row)
    (all : Row.AllTokens property rows) :
    Gives (clausesAt owner level limit last rows) fun found =>
      Part.AllSound property found.1 ∧ found.2 <:+ rows
  decorated (level : Nat) (parts : List Part) (after : List Extra) (below : List Row)
    (all : Row.AllTokens property below) (sound : Part.AllSound property parts) :
    Gives (decorated level limit parts after below) fun found =>
      found.1.Sound property ∧ found.2 <:+ below

theorem read_gives {line : Line} {rows : List Row} (inMatch : Bool)
    (all : Row.AllTokens property (.line line :: rows)) :
    Gives (line.read inMatch) (Reading.Sound property) :=
  fun _ => Line.read_sound (all line List.mem_cons_self)

theorem blocksSound_zero : BlocksSound property 0 where
  items _ _ _ _ := .error
  statement _ _ _ _ _ := .error
  compound _ _ _ _ _ _ := .error
  suite _ _ _ _ _ _ := .error
  clauses _ _ _ _ _ := .error
  decorated _ _ _ _ _ _ := .error

section Step

variable {limit : Nat} (less : BlocksSound property limit)
include less

theorem blockItems_sound (inMatch : Bool) (level : Nat) (rows : List Row)
    (all : Row.AllTokens property rows) :
    Gives (blockItems inMatch level (limit + 1) rows) fun found =>
      Item.AllSound property found.1 ∧ found.2 <:+ rows := by
  unfold blockItems
  split
  rename_i remarks rest parted
  have left : rest <:+ rows := suffix_of_remarksFrom parted
  split
  · rename_i line below
    refine .ite (.pure ⟨Item.allSound_extras _, left⟩) ?_
    refine (less.statement _ _ _ _ (all.of_suffix left)).bind fun here hereSound => ?_
    have further := hereSound.2.trans ((List.suffix_cons _ below).trans left)
    refine (less.items _ _ _ (all.of_suffix further)).bind fun others othersSound => .pure ?_
    simp only [Item.allSound_append]
    exact ⟨⟨⟨Item.allSound_extras _, hereSound.1⟩, othersSound.1⟩, othersSound.2.trans further⟩
  · exact .pure ⟨Item.allSound_extras _, left⟩

theorem statementAt_sound (inMatch : Bool) (level : Nat) (line : Line) (below : List Row)
    (all : Row.AllTokens property (.line line :: below)) :
    Gives (statementAt inMatch level (limit + 1) line below) fun found =>
      Item.AllSound property found.1 ∧ found.2 <:+ below := by
  refine (read_gives inMatch all).bind fun reading sound => ?_
  cases reading with
  | statements items =>
      exact .pure ⟨Item.allSound_append.2 ⟨sound, Item.allSound_extras _⟩, List.suffix_rfl⟩
  | opening header =>
      refine .ite .error ((less.compound _ _ _ _ all.tail sound).bind fun body bodySound => .pure ?_)
      exact ⟨Item.allSound_iff.2 (List.forall_mem_singleton.2 bodySound.1), bodySound.2⟩
  | decorator phrase =>
      have parts : Part.AllSound property [.phrase phrase] := Part.allSound_single.2 sound
      refine (less.decorated _ _ _ _ all.tail parts).bind fun body bodySound => .pure ?_
      exact ⟨Item.allSound_iff.2 (List.forall_mem_singleton.2 bodySound.1), bodySound.2⟩

theorem compoundAt_sound (level : Nat) (opening : Opening) (after : List Extra) (below : List Row)
    (all : Row.AllTokens property below) (sound : (Reading.opening opening).Sound property) :
    Gives (compoundAt level (limit + 1) opening after below) fun found =>
      found.1.Sound property ∧ found.2 <:+ below := by
  refine (less.suite _ _ _ _ all sound).bind fun body bodySound => ?_
  refine (less.clauses _ _ _ _ (all.of_suffix bodySound.2)).bind fun others othersSound => .pure ?_
  have parts := Part.allSound_append.2 ⟨bodySound.1, othersSound.1⟩
  exact ⟨compoundOver_sound _ parts, othersSound.2.trans bodySound.2⟩

theorem suite_sound (level : Nat) (opening : Opening) (after : List Extra) (below : List Row)
    (all : Row.AllTokens property below) (sound : (Reading.opening opening).Sound property) :
    Gives (suite level (limit + 1) opening after below) fun found =>
      Part.AllSound property found.1 ∧ found.2 <:+ below := by
  have header : Part.AllSound property (opening.parts.map Part.phrase) :=
    Part.allSound_phrases sound.1
  have withBlock : ∀ place items before, Item.AllSound property items -> Part.AllSound property before ->
      Part.AllSound property (before ++ [blockOver place items]) :=
    fun place items before itemsSound beforeSound =>
      Part.allSound_append.2 ⟨beforeSound, Part.allSound_single.2 (blockOver_sound place itemsSound)⟩
  have before := Part.allSound_append.2 ⟨header, Part.allSound_extras after⟩
  unfold suite
  extract_lets headerParts
  split
  · rename_i items inline
    have itemsSound := Item.allSound_append.2 ⟨sound.2 items inline, Item.allSound_extras after⟩
    exact .pure ⟨withBlock _ _ _ itemsSound header, List.suffix_rfl⟩
  · refine .ite ?_ (.pure ⟨withBlock _ _ _ trivial before, List.suffix_rfl⟩)
    split
    rename_i remarks rest parted
    have left : rest <:+ below := suffix_of_remarksFrom parted
    refine (less.items _ _ _ (all.of_suffix left)).bind fun found itemsSound => .pure ?_
    refine ⟨withBlock _ _ _ itemsSound.1 ?_, itemsSound.2.trans left⟩
    exact Part.allSound_append.2 ⟨before, Part.allSound_extras _⟩

theorem clausesAt_sound (owner : Syntax.CompoundKind) (level last : Nat) (rows : List Row)
    (all : Row.AllTokens property rows) :
    Gives (clausesAt owner level (limit + 1) last rows) fun found =>
      Part.AllSound property found.1 ∧ found.2 <:+ rows := by
  have none : Gives (pure ([], rows)) fun found : List Part × List Row =>
      Part.AllSound property found.1 ∧ found.2 <:+ rows := .pure ⟨trivial, List.suffix_rfl⟩
  unfold clausesAt
  split
  rename_i remarks rest parted
  have left : rest <:+ rows := suffix_of_remarksFrom parted
  split
  · rename_i line below
    split
    · refine .ite ((read_gives false (all.of_suffix left)).bind fun reading sound => ?_) none
      split
      · refine (less.suite _ _ _ _ (all.of_suffix left).tail sound).bind fun body bodySound => ?_
        have further := bodySound.2.trans ((List.suffix_cons _ below).trans left)
        refine (less.clauses _ _ _ _ (all.of_suffix further)).bind fun others othersSound => .pure ?_
        refine ⟨?_, othersSound.2.trans further⟩
        rw [Part.allSound_append]
        exact ⟨Part.allSound_extras _, compoundOver_sound _ bodySound.1, othersSound.1⟩
      · exact .error
    · exact none
  · exact none

theorem decorated_sound (level : Nat) (parts : List Part) (after : List Extra) (below : List Row)
    (all : Row.AllTokens property below) (sound : Part.AllSound property parts) :
    Gives (decorated level (limit + 1) parts after below) fun found =>
      found.1.Sound property ∧ found.2 <:+ below := by
  unfold decorated
  split
  rename_i remarks rest parted
  have left : rest <:+ below := suffix_of_remarksFrom parted
  extract_lets joined
  have joinedSound : Part.AllSound property joined := by
    simp only [joined, Part.allSound_append]
    exact ⟨⟨sound, Part.allSound_extras _⟩, Part.allSound_extras _⟩
  split
  · rename_i line further
    have behind : further <:+ below := (List.suffix_cons _ further).trans left
    refine .ite .error ((read_gives false (all.of_suffix left)).bind fun reading readingSound => ?_)
    cases reading with
    | decorator phrase =>
        have last : Part.AllSound property [.phrase phrase] := Part.allSound_single.2 readingSound
        have more := Part.allSound_append.2 ⟨joinedSound, last⟩
        refine (less.decorated _ _ _ _ (all.of_suffix behind) more).imp fun body bodySound => ?_
        exact ⟨bodySound.1, bodySound.2.trans behind⟩
    | opening header =>
        refine .ite ?_ .error
        refine (less.compound _ _ _ _ (all.of_suffix behind) readingSound).bind fun body bodySound => ?_
        refine .pure ⟨compoundOver_sound _ (Part.allSound_append.2 ⟨joinedSound, ?_⟩), ?_⟩
        · exact Part.allSound_single.2 bodySound.1
        · exact bodySound.2.trans behind
    | statements items => exact .error
  · exact .error

end Step

theorem blocksSound (limit : Nat) : BlocksSound property limit := by
  induction limit with
  | zero => exact blocksSound_zero
  | succ limit less =>
      exact ⟨blockItems_sound less, statementAt_sound less, compoundAt_sound less,
        suite_sound less, clausesAt_sound less, decorated_sound less⟩

/-- The items of every program are sound. -/
theorem program_sound {rows : List Row} {items : List Item} (all : Row.AllTokens property rows)
    (reads : program rows = .ok items) : Item.AllSound property items := by
  have gives : Gives (program rows) (Item.AllSound property) :=
    ((blocksSound _).items false 0 rows all).bind fun _ sound => .pure sound.1
  exact gives items reads

/-! ## Accepted texts -/

/-- A walk through a document meets no statement of the older dialect where there is none. -/
theorem findSome?_legacy_eq_none {document : Document} :
    (document.nodes.findSome? fun tree =>
        (legacy? tree.kind).map fun statement => (statement, tree.span.start)) = none ↔
      ∀ node ∈ document.root.preorder, legacy? node.kind = none := by
  rw [List.findSome?_eq_none_iff, document.nodes_eq_preorder]
  simp only [Option.map_eq_none_iff]

/-- A text is accepted if it is a program that holds no statement of the older dialect. -/
theorem readSource_eq_ok {text : List Char} {document : Document} :
    readSource text = .ok document ↔ Document.ofText text = .ok document ∧
      ∀ node ∈ document.root.preorder, legacy? node.kind = none := by
  unfold readSource Document.ofText
  dsimp only
  cases Document.ofRows text (rows text) with
  | error fault => simp
  | ok found =>
      dsimp only
      constructor
      · intro accepted
        split at accepted
        · cases accepted
        · rename_i none
          cases accepted
          exact ⟨rfl, findSome?_legacy_eq_none.1 none⟩
      · rintro ⟨same, none⟩
        cases same
        rw [findSome?_legacy_eq_none.2 none]

end Source
end ImportCensus

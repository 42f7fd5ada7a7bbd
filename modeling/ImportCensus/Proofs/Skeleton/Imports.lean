import ImportCensus.Proofs.Imports.Completeness
import ImportCensus.Proofs.Skeleton.Scanning
import ImportCensus.Proofs.Source.Taking

namespace ImportCensus
namespace Skeleton

open Imports (Reference dottedText directReferences importedModule importedNames referencesOf)
open Source (Document Item LexemeKind Phrase Shows Token)
open Source.Reader (CommaTokens DottedTokens Listed Takes leafOf)
open Syntax (Role Tree)

/-!
# Reading printed import statements

The tokens of a printed import statement are read as phrases from which its references
are rebuilt: dotted names from the names that their tokens cover, without the blanks
around dots, and the level of a relative module from the dots in the text that its
prefix covers, where nothing but blanks stands between them.
-/

/-! ## Tokens of words -/

variable {text : List Char} {words : List Word} {tokens rest : List Token}

theorem spells_append {first second : List Word} :
    Spells (first ++ second) tokens ↔
      ∃ front behind, tokens = front ++ behind ∧ Spells first front ∧ Spells second behind :=
  forall₂_append

theorem spells_cons {word : Word} :
    Spells (word :: words) tokens ↔ ∃ place others, tokens = word.token place :: others ∧ Spells words others := by
  constructor
  · intro spelled
    cases spelled with
    | cons here others =>
        rcases here with ⟨place, rfl⟩
        exact ⟨place, _, rfl, others⟩
  · rintro ⟨place, others, rfl, spelled⟩
    exact .cons ⟨place, rfl⟩ spelled

theorem before_of_spells (spelled : Spells words tokens) : ∀ token ∈ tokens, token.before = [] := by
  induction spelled with
  | nil => exact nofun
  | cons here _ ih =>
      rcases here with ⟨place, rfl⟩
      exact List.forall_mem_cons.2 ⟨rfl, ih⟩

/-- The names among some words are those among their tokens. -/
theorem names_of_spells (spelled : Spells words tokens) :
    (tokens.filter fun token => token.kind == .name).map Token.text =
      (words.filter fun word => word.kind == .name).map Word.text := by
  induction spelled with
  | nil => rfl
  | cons here _ ih =>
      rcases here with ⟨place, rfl⟩
      rw [List.filter_cons, List.filter_cons, Word.token]
      dsimp only
      split
      · rw [List.map_cons, List.map_cons, ih]
      · exact ih

/-! ## Dotted names -/

theorem dottedTokens {names : List Name} (spelled : Spells (dotted names) tokens) : DottedTokens tokens := by
  induction names generalizing tokens with
  | nil =>
      cases spelled
      exact .nil
  | cons name names ih =>
      rcases spells_cons.1 spelled with ⟨_, _, rfl, behind⟩
      rcases spells_cons.1 behind with ⟨_, _, rfl, others⟩
      exact .cons rfl rfl (ih others)

theorem names_dotted (names : List Name) :
    ((dotted names).filter fun word => word.kind == .name).map Word.text = names.map Name.text := by
  induction names with
  | nil => rfl
  | cons name names ih =>
      rw [dotted, List.flatMap_cons, List.filter_append, List.map_append]
      exact congrArg (name.text :: ·) ih

/-- The trees of tokens without extras before them. -/
theorem trees_leafOf (bare : ∀ token ∈ tokens, token.before = []) :
    Phrase.trees (tokens.map leafOf) = tokens.map fun token => (leafOf token).tree none := by
  induction tokens with
  | nil => rfl
  | cons token tokens ih =>
      rw [List.forall_mem_cons] at bare
      have lead : (leafOf token).lead = [] := bare.1
      rw [List.map_cons, Phrase.trees, lead, ih bare.2]
      rfl

/-- The identifiers among the trees of tokens are those of names. -/
theorem filter_identifiers (tokens : List Token) :
    ((tokens.map fun token => (leafOf token).tree none).filter fun tree => tree.kind.isNamed).filter
        (fun tree => tree.kind == .phrase .identifier) =
      (tokens.filter fun token => token.kind == .name).map fun token => (leafOf token).tree none := by
  rw [List.filter_filter, List.filter_map]
  apply congrArg
  apply List.filter_congr
  intro token _
  by_cases isName : token.kind = .name
  · rw [Function.comp_apply, Source.Reader.leafOf_name isName, isName]
    rfl
  · rw [Function.comp_apply, Source.Reader.leafOf_other isName, beq_eq_false_iff_ne.2 isName]
    rfl

/-- A dotted name is rebuilt from its names, with single dots between them. -/
theorem dottedText_dottedName {module : Dotted} {head : Token} (root : Tree) (role : Option Role)
    (spelled : Spells module.words (head :: tokens)) (covers : ∀ token ∈ head :: tokens, Covers text token) :
    dottedText ⟨text, root⟩ ((Phrase.build .dottedName (leafOf head) (tokens.map leafOf)).tree role) =
      module.text := by
  have bare := before_of_spells spelled
  have children : ((Phrase.build .dottedName (leafOf head) (tokens.map leafOf)).tree role).children =
      (head :: tokens).map fun token => (leafOf token).tree none := by
    show (leafOf head).tree none :: Phrase.trees (tokens.map leafOf) = _
    rw [trees_leafOf fun token member => bare token (List.mem_cons_of_mem _ member)]
    rfl
  have names : ((head :: tokens).filter fun token => token.kind == .name).map Token.text =
      (module.first :: module.more).map Name.text := by
    rw [names_of_spells spelled]
    exact congrArg (module.first.text :: ·) (names_dotted module.more)
  have texts : (((head :: tokens).filter fun token => token.kind == .name).map fun token =>
        (leafOf token).tree none).map
        (fun part => String.ofList (Document.textOf ⟨text, root⟩ part)) =
      (module.first :: module.more).map Name.text := by
    rw [List.map_map, ← names]
    apply List.map_congr_left
    intro token member
    have covered : (leafOf token).span.slice text = token.text.toList :=
      covers token (List.mem_filter.1 member).1
    exact (congrArg String.ofList covered).trans String.ofList_toList
  unfold dottedText
  rw [Tree.namedChildren, children, filter_identifiers]
  cases found : ((head :: tokens).filter fun token => token.kind == .name).map fun token =>
      (leafOf token).tree none with
  | nil =>
      rw [found] at texts
      cases texts
  | cons first others =>
      rw [found] at texts
      exact congrArg (String.intercalate ".") texts

/-! ## Imported names -/

/-- The tree of an imported name: a dotted name, or one with its label. -/
inductive IsRenamed (text : List Char) : Renamed -> Tree -> Prop
  | bare {module : Dotted} {tree : Tree} (kind : tree.kind = .phrase .dottedName)
      (role : tree.role = some .name) (spells : ∀ root, dottedText ⟨text, root⟩ tree = module.text) :
      IsRenamed text ⟨module, none⟩ tree
  | labelled {module : Dotted} {name : Name} {tree target label : Tree}
      (kind : tree.kind = .phrase .aliasedImport) (role : tree.role = some .name)
      (named : tree.childrenIn .name = [target]) (labels : tree.childrenIn .alias = [label])
      (spells : ∀ root, dottedText ⟨text, root⟩ target = module.text)
      (covers : ∀ root, Document.textOf ⟨text, root⟩ label = name.text.toList) :
      IsRenamed text ⟨module, some name⟩ tree

theorem IsRenamed.role {renamed : Renamed} {tree : Tree} (is : IsRenamed text renamed tree) :
    tree.role = some .name := by
  cases is with
  | bare _ role => exact role
  | labelled _ role => exact role

/-- What may follow an imported name: neither a dot nor a label. -/
def EndsImported (behind : List Token) : Prop :=
  Shows .symbol "." behind = false ∧ Shows .keyword "as" behind = false

/-- The tokens of an imported name. -/
def Imported (text : List Char) (renamed : Renamed) (tokens : List Token) : Prop :=
  Spells renamed.words tokens ∧ ∀ token ∈ tokens, Covers text token

/-- The phrase of an imported name. -/
def ReadAs (text : List Char) (renamed : Renamed) (phrase : Phrase) : Prop :=
  phrase.lead = [] ∧ IsRenamed text renamed (phrase.tree none)

theorem importedName_takes {renamed : Renamed} (imported : Imported text renamed tokens)
    (ends : EndsImported rest) :
    Takes Source.Reader.importedName tokens rest (ReadAs text renamed) := by
  rcases renamed with ⟨module, rename⟩
  rcases imported with ⟨spelled, covers⟩
  rcases spells_append.1 spelled with ⟨front, label, rfl, named, labelled⟩
  rcases spells_cons.1 named with ⟨place, more, rfl, behind⟩
  rw [List.forall_mem_append] at covers
  have spells := fun root role => dottedText_dottedName root role named covers.1
  cases rename with
  | none =>
      cases labelled
      refine .bind (Source.Reader.dottedName_takes rfl (dottedTokens behind) ends.1) ?_
      rintro _ rfl
      refine .ifMissing ends.2 (.pure ⟨rfl, .bare rfl rfl fun root => spells root _⟩)
  | some name =>
      rcases spells_cons.1 labelled with ⟨link, _, rfl, last⟩
      rcases spells_cons.1 last with ⟨stop, _, rfl, none⟩
      cases none
      refine .bind (Source.Reader.dottedName_takes rfl (dottedTokens behind) rfl) ?_
      rintro _ rfl
      refine .ifShown rfl ?_
      refine .step Source.Reader.plain_takes ?_
      rintro _ rfl
      refine .last (Source.Reader.identifier_takes rfl) ?_
      rintro _ rfl
      have labelCovers : Covers text (name.word.token stop) := covers.2 _ (by simp)
      exact .pure ⟨rfl, .labelled rfl rfl rfl rfl (fun root => spells root _) fun _ => labelCovers⟩

/-! ## Lists of imported names -/

theorem imported_begins {renamed : Renamed} {behind : List Token} (imported : Imported text renamed tokens) :
    (tokens ++ behind).head?.any Source.Reader.isName = true := by
  rcases spells_cons.1 imported.1 with ⟨place, others, rfl, _⟩
  rfl

theorem endsImported_comma {sign : Token} {behind : List Token} (is : sign.is .symbol "," = true) :
    EndsImported (sign :: behind) := by
  unfold Token.is at is
  rw [Bool.and_eq_true, beq_iff_eq, beq_iff_eq] at is
  simp [EndsImported, Shows, Token.is, is.1, is.2]

/-- Imported names behind commas, as tokens. -/
theorem commaTokens {renamed : List Renamed} (spelled : Spells (behindCommas (renamed.map Renamed.words)) tokens)
    (covers : ∀ token ∈ tokens, Covers text token) : CommaTokens (Imported text) renamed tokens := by
  induction renamed generalizing tokens with
  | nil =>
      cases spelled
      exact .nil
  | cons first others ih =>
      rcases spells_cons.1 spelled with ⟨place, _, rfl, behind⟩
      rcases spells_append.1 behind with ⟨here, later, rfl, named, remaining⟩
      rw [List.forall_mem_cons, List.forall_mem_append] at covers
      exact .cons rfl ⟨named, covers.2.1⟩ (ih remaining covers.2.2)

/-- What may follow a list of imported names. -/
def EndsList (behind : List Token) : Prop := EndsImported behind ∧ Shows .symbol "," behind = false

theorem endsList_nil : EndsList [] := ⟨⟨rfl, rfl⟩, rfl⟩

theorem importedNames_takes {first : Renamed} {more : List Renamed}
    (spelled : Spells (first.words ++ behindCommas (more.map Renamed.words)) tokens)
    (covers : ∀ token ∈ tokens, Covers text token) (ends : EndsList rest) :
    Takes Source.Reader.importedNames tokens rest fun parts =>
      ∃ head others, parts = head :: others ∧ ReadAs text first head ∧ Listed (ReadAs text) more others := by
  rcases spells_append.1 spelled with ⟨here, behind, rfl, named, others⟩
  rw [List.forall_mem_append] at covers
  exact Source.Reader.commaList_takes (fun _ _ _ => importedName_takes) (fun _ _ _ => imported_begins)
    (fun _ _ => endsImported_comma) ⟨named, covers.1⟩ (commaTokens others covers.2) ends.1 ends.2

/-- Neither a star nor a module that names are imported from. -/
structure IsCommon (tree : Tree) : Prop where
  kind : tree.kind ≠ .phrase .wildcardImport
  role : tree.role ≠ some .moduleName

theorem isCommon_extras {extras : List Source.Extra} :
    ∀ tree ∈ extras.map Source.Extra.tree, IsCommon tree := by
  intro tree member
  rcases List.mem_map.1 member with ⟨⟨_ | _, span⟩, _, rfl⟩ <;> exact ⟨nofun, nofun⟩

theorem isCommon_leaf {token : Token} : IsCommon ((Phrase.leaf none token).tree none) := ⟨nofun, nofun⟩

theorem IsRenamed.isCommon {renamed : Renamed} {tree : Tree} (is : IsRenamed text renamed tree) :
    IsCommon tree where
  kind := by
    cases is with
    | bare kind => rw [kind]; decide
    | labelled kind => rw [kind]; decide
  role := by
    rw [is.role]
    decide

/-- The parts of a list in the role of names are its names, and all are common. -/
theorem trees_listed {renamed : List Renamed} {parts : List Phrase}
    (listed : Listed (ReadAs text) renamed parts) :
    List.Forall₂ (IsRenamed text) renamed
      ((Phrase.trees parts).filter fun tree => tree.role == some .name) ∧
      ∀ tree ∈ Phrase.trees parts, IsCommon tree := by
  induction listed with
  | nil => exact ⟨.nil, nofun⟩
  | @cons value values comma part parts holds behind ih =>
      have sign : (Phrase.leaf none comma).lead = comma.before := rfl
      have role : ((part.tree none).role == some Role.name) = true := by
        rw [holds.2.role]
        rfl
      constructor
      · rw [Phrase.trees, Phrase.trees, holds.1, List.map_nil, List.nil_append, sign,
          List.filter_append, Imports.extras_role, List.nil_append,
          List.filter_cons_of_neg (by exact nofun), List.filter_cons, if_pos role]
        exact .cons holds.2 ih.1
      · rw [Phrase.trees, Phrase.trees, holds.1, List.map_nil, List.nil_append]
        refine List.forall_mem_append.2 ⟨isCommon_extras, ?_⟩
        exact List.forall_mem_cons.2 ⟨isCommon_leaf, List.forall_mem_cons.2 ⟨holds.2.isCommon, ih.2⟩⟩

/-- The parts of a list that begins with a name. -/
theorem trees_list {first : Renamed} {more : List Renamed} {head : Phrase} {others : List Phrase}
    (reads : ReadAs text first head) (listed : Listed (ReadAs text) more others) :
    List.Forall₂ (IsRenamed text) (first :: more)
      ((Phrase.trees (head :: others)).filter fun tree => tree.role == some .name) ∧
      ∀ tree ∈ Phrase.trees (head :: others), IsCommon tree := by
  have later := trees_listed listed
  have role : ((head.tree none).role == some Role.name) = true := by
    rw [reads.2.role]
    rfl
  rw [Phrase.trees, reads.1, List.map_nil, List.nil_append, List.filter_cons, if_pos role]
  exact ⟨.cons reads.2 later.1, List.forall_mem_cons.2 ⟨reads.2.isCommon, later.2⟩⟩

/-! ## References of imported names -/

/-- The modules of an import statement are those that are printed. -/
theorem directReferences_renamed {renamed : List Renamed} {tree root : Tree}
    (children : List.Forall₂ (IsRenamed text) renamed (tree.childrenIn .name)) :
    directReferences ⟨text, root⟩ tree = renamed.map Renamed.reference := by
  unfold directReferences
  generalize tree.childrenIn .name = names at children
  induction children with
  | nil => rfl
  | @cons first tree others trees is _ ih =>
      rw [List.filterMap_cons, ih]
      cases is with
      | bare kind role spells =>
          rw [if_neg (by rw [kind]; decide), if_pos kind, spells]
          rfl
      | labelled kind role named labels spells covers =>
          rw [if_pos kind, named, labels]
          simp only [List.head?_cons, Option.map_some, spells, covers, String.ofList_toList]
          rfl

/-- The names of a from-import are those that are printed. -/
theorem importedNames_renamed {renamed : List Renamed} {tree root : Tree}
    (children : List.Forall₂ (IsRenamed text) renamed (tree.childrenIn .name))
    (noStar : ∀ child ∈ tree.children, child.kind ≠ .phrase .wildcardImport) :
    importedNames ⟨text, root⟩ tree = renamed.map fun name => name.target.text := by
  have none : (tree.namedChildren.any fun child => child.kind == .phrase .wildcardImport) = false := by
    rw [List.any_eq_false]
    intro child member
    simpa using noStar child (List.mem_filter.1 member).1
  unfold importedNames
  rw [none, if_neg Bool.false_ne_true]
  generalize tree.childrenIn .name = names at children
  induction children with
  | nil => rfl
  | @cons first tree others trees is _ ih =>
      rw [List.filterMap_cons, ih]
      cases is with
      | bare kind role spells =>
          rw [if_neg (by rw [kind]; decide), spells]
          rfl
      | labelled kind role named labels spells covers =>
          rw [if_pos kind, named]
          simp only [List.head?_cons, Option.map_some, spells]
          rfl

/-! ## Origins -/

/-- A stretch of text falls into two at any place inside it. -/
theorem slice_append {first middle last : Text.Position} (before : first.offset ≤ middle.offset)
    (behind : middle.offset ≤ last.offset) :
    (⟨first, last⟩ : Text.Span).slice text =
      (⟨first, middle⟩ : Text.Span).slice text ++ (⟨middle, last⟩ : Text.Span).slice text := by
  have length : last.offset - first.offset =
      (middle.offset - first.offset) + (last.offset - middle.offset) := by omega
  have start : first.offset + (middle.offset - first.offset) = middle.offset := by omega
  unfold Text.Span.slice
  dsimp only
  rw [length, List.take_add, List.drop_drop, start]

theorem countP_blank {gap : List Char} (blank : ∀ c ∈ gap, Source.isBlank c = true) :
    (gap.countP fun c => c == '.') = 0 := by
  rw [List.countP_eq_zero]
  intro c member isDot
  have space := blank c member
  rw [beq_iff_eq.1 isDot] at space
  revert space
  decide

/-- What a token covers, and where its stretch ends. -/
structure Stands (text : List Char) (token : Token) (characters : List Char) : Prop where
  covers : token.span.slice text = characters
  ordered : token.span.start.offset ≤ token.span.stop.offset

theorem stands_dot {token : Token} (dot : ∃ place, token = (Word.mark .dot).token place)
    (covers : Covers text token) : Stands text token ['.'] := by
  have own : token.span.slice text = ['.'] := by
    rcases dot with ⟨place, rfl⟩
    exact covers.trans (Mark.toList_text .dot)
  have length := congrArg List.length own
  rw [Text.Span.slice, List.length_take, List.length_singleton] at length
  exact ⟨own, by omega⟩

/-- From the first of some dots to the last there are as many dots as tokens, whatever
blanks stand between them. -/
theorem countP_dots {first : Token} {more : List Token}
    (dots : ∀ token ∈ first :: more, Stands text token ['.'])
    (chain : List.IsChain (Beside text) (first :: more)) :
    first.span.start.offset ≤ ((first :: more).getLast (by simp)).span.stop.offset ∧
      ((⟨first.span.start, ((first :: more).getLast (by simp)).span.stop⟩ : Text.Span).slice text).countP
        (fun c => c == '.') = more.length + 1 := by
  induction more generalizing first with
  | nil =>
      rw [List.forall_mem_singleton] at dots
      exact ⟨dots.ordered, congrArg (List.countP fun c => c == '.') dots.covers⟩
  | cons second others ih =>
      rw [List.forall_mem_cons] at dots
      rw [List.isChain_cons_cons] at chain
      have later := ih dots.2 chain.2
      have gap := chain.1.ordered
      have own : ((⟨first.span.start, first.span.stop⟩ : Text.Span).slice text).countP
          (fun c => c == '.') = 1 := congrArg (List.countP fun c => c == '.') dots.1.covers
      rw [List.getLast_cons (List.cons_ne_nil second others)]
      refine ⟨by have := dots.1.ordered; omega, ?_⟩
      rw [slice_append dots.1.ordered (by omega), slice_append gap later.1,
        List.countP_append, List.countP_append, own, countP_blank chain.1.blank, later.2, List.length_cons]
      omega

/-- The dots before a relative module. -/
theorem dots_of_spells {count : Nat} (spelled : Spells (List.replicate count (.mark .dot)) tokens) :
    tokens.length = count ∧ ∀ token ∈ tokens, ∃ place, token = (Word.mark .dot).token place := by
  induction count generalizing tokens with
  | zero =>
      cases spelled
      exact ⟨rfl, nofun⟩
  | succ count ih =>
      rcases spells_cons.1 spelled with ⟨place, others, rfl, behind⟩
      rcases ih behind with ⟨length, dots⟩
      exact ⟨congrArg (· + 1) length, List.forall_mem_cons.2 ⟨⟨place, rfl⟩, dots⟩⟩

/-- The tree of the module that names are imported from, whatever statement it is part of. -/
structure IsOrigin (text : List Char) (origin : Origin) (tree : Tree) : Prop where
  role : tree.role = some .moduleName
  kind : tree.kind ≠ .phrase .wildcardImport
  names : ∀ root around, around.childrenIn .moduleName = [tree] ->
    importedModule ⟨text, root⟩ around = (origin.module?, origin.level)

/-- The phrase of the module that names are imported from. -/
def OriginAs (text : List Char) (origin : Origin) (phrase : Phrase) : Prop :=
  phrase.lead = [] ∧ IsOrigin text origin (phrase.tree (some .moduleName))

/-- What may follow a module that names are imported from: neither a dot nor a name. -/
def EndsOrigin (behind : List Token) : Prop :=
  Shows .symbol "." behind = false ∧ behind.head?.any Source.Reader.isName = false

/-- The text that the dots of a relative module cover. -/
theorem countP_leading (role : Option Role) (root : Tree) {dot : Token} {dots : List Token}
    (spelled : ∀ token ∈ dot :: dots, ∃ place, token = (Word.mark .dot).token place)
    (chain : List.IsChain (Beside text) (dot :: dots)) (covers : ∀ token ∈ dot :: dots, Covers text token) :
    (Document.textOf ⟨text, root⟩ ((Phrase.build .importPrefix (.leaf none dot)
      (dots.map (Phrase.leaf none))).tree role)).countP (fun c => c == '.') = dots.length + 1 := by
  have last : (Phrase.leaf none dot :: dots.map (Phrase.leaf none)).getLast (List.cons_ne_nil _ _) =
      Phrase.leaf none ((dot :: dots).getLast (List.cons_ne_nil _ _)) :=
    List.getLast_map (f := Phrase.leaf none) (l := dot :: dots) (List.cons_ne_nil _ _)
  have within := countP_dots (fun token member => stands_dot (spelled token member) (covers token member)) chain
  refine Eq.trans ?_ within.2
  unfold Document.textOf
  show List.countP _ (Text.Span.slice ⟨dot.span.start, _⟩ text) = _
  rw [last]
  rfl

theorem importedModule_takes {origin : Origin} (spelled : Spells origin.words tokens)
    (chain : List.IsChain (Beside text) tokens) (covers : ∀ token ∈ tokens, Covers text token)
    (ends : EndsOrigin rest) : Takes Source.Reader.importedModule tokens rest (OriginAs text origin) := by
  cases origin with
  | absolute module =>
      rcases spells_cons.1 spelled with ⟨place, more, rfl, behind⟩
      refine .counted (.skip (Source.Reader.dots_takes nofun rfl (Nat.zero_le _)) ?_)
      rintro _ rfl
      refine (Source.Reader.dottedName_takes rfl (dottedTokens behind) ends.1).imp ?_
      rintro _ rfl
      refine ⟨rfl, rfl, nofun, fun root around standing => ?_⟩
      unfold importedModule
      rw [standing]
      exact congrArg (fun name => (some name, 0)) (dottedText_dottedName root _ spelled covers)
  | relative more module =>
      rcases spells_append.1 spelled with ⟨_, behind, rfl, dotted, named⟩
      rcases spells_cons.1 dotted with ⟨place, dots, rfl, others⟩
      have isDot := dots_of_spells others
      have spelledDots := List.forall_mem_cons.2 ⟨⟨place, rfl⟩, isDot.2⟩
      have signs : ∀ token ∈ (Word.mark .dot).token place :: dots, token.is .symbol "." = true := by
        intro token member
        rcases spelledDots token member with ⟨place, rfl⟩
        rfl
      rw [List.forall_mem_append] at covers
      have level := fun root role => (countP_leading role root
        spelledDots chain.left_of_append covers.1).trans (congrArg (· + 1) isDot.1)
      cases module with
      | none =>
          cases named
          rw [List.append_nil]
          refine .counted (.last (Source.Reader.dots_takes signs ends.1 (by simp)) ?_)
          rintro _ rfl
          refine .ifNotNext ends.2 (.pure ?_)
          refine ⟨rfl, rfl, nofun, fun root around standing => ?_⟩
          unfold importedModule
          rw [standing]
          exact congrArg (none, ·) (level root none)
      | some module =>
          rcases spells_cons.1 named with ⟨start, tail, rfl, follows⟩
          refine .counted (.bind (Source.Reader.dots_takes signs rfl (by simp)) ?_)
          rintro _ rfl
          refine .ifNext rfl ?_
          refine .last (Source.Reader.dottedName_takes rfl (dottedTokens follows) ends.1) ?_
          rintro _ rfl
          refine .pure ⟨rfl, rfl, nofun, fun root around standing => ?_⟩
          unfold importedModule
          rw [standing]
          exact congrArg₂ (fun name count => (some name, count))
            (dottedText_dottedName root _ named covers.2) (level root none)

end Skeleton
end ImportCensus

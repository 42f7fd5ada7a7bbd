import ImportCensus.Proofs.Imports.Bases
import ImportCensus.Proofs.Imports.Completeness

namespace ImportCensus
namespace Imports

open Syntax (Kind Role Tree)
open Source (Document IsIdentifier Phrase Token readSource)

/-!
# Modules are rows of identifiers

The modules that the references of a program name are read from the text that their
tokens cover.  Each of them is a row of identifiers with dots between them, and
therefore never empty: the guards against empty modules have no effect on programs.
-/

/-- Identifiers with dots between them. -/
def IsModule (module : String) : Prop :=
  ∃ first rest, (∀ segment ∈ first :: rest, IsIdentifier segment.toList) ∧
    module = ".".intercalate (first :: rest)

theorem IsModule.ne_empty {module : String} (named : IsModule module) : module ≠ "" := by
  rcases named with ⟨first, rest, identifiers, rfl⟩
  rcases identifiers first List.mem_cons_self with ⟨c, more, spelled, _⟩
  intro empty
  have characters := congrArg String.toList empty
  cases rest with
  | nil =>
      rw [String.intercalate_singleton, spelled] at characters
      cases characters
  | cons second rest =>
      rw [String.intercalate_cons_cons, String.toList_append, String.toList_append, spelled]
        at characters
      cases characters

/-- The base of a row of identifiers is the first of them. -/
theorem IsModule.base {module : String} (named : IsModule module) :
    IsIdentifier (moduleBase module).toList := by
  rcases named with ⟨first, rest, identifiers, rfl⟩
  have identifier := identifiers first List.mem_cons_self
  have base : moduleBase (".".intercalate (first :: rest)) = first := by
    refine isFirstSegment_iff.1 ⟨identifier.not_mem (by decide), ?_⟩
    cases rest with
    | nil => exact .inl String.intercalate_singleton
    | cons second rest =>
        refine .inr ⟨".".intercalate (second :: rest), ?_⟩
        rw [String.intercalate_cons_cons]
  rw [base]
  exact identifier

namespace Reference

/-- The module that a reference names, if it names one. -/
def module? : Reference -> Option String
  | .direct module _ => some module
  | .names module _ _ => module

/-- The module that a reference names in full: no dots lead up from the importing file. -/
def full? : Reference -> Option String
  | .direct module _ => some module
  | .names module 0 _ => module
  | .names _ (_ + 1) _ => none

theorem full?_names {source : Option String × Nat} {names : List String} {module : String} :
    (Reference.names source.1 source.2 names).full? = some module ↔ source = (some module, 0) := by
  rcases source with ⟨found, level⟩
  cases level <;> simp [full?]

theorem module?_of_full? {reference : Reference} {module : String}
    (full : reference.full? = some module) : reference.module? = some module := by
  cases reference with
  | direct => exact full
  | names found level names =>
      cases level with
      | zero => exact full
      | succ level => cases full

/-- The candidates are the modules that are named in full and are not empty. -/
theorem candidate?_eq_some {reference : Reference} {module : String} :
    reference.candidate? = some module ↔ reference.full? = some module ∧ module ≠ "" := by
  unfold candidate? full?
  cases reference with
  | direct => grind
  | names found level names =>
      cases level with
      | zero => cases found <;> grind
      | succ level => cases found <;> simp

end Reference

/-! ## Dotted names -/

def isIdentifierNode (tree : Tree) : Bool := tree.kind == .phrase .identifier

/-- The tree of a name. -/
def nameTree (token : Token) : Tree := (Phrase.leaf (some .identifier) token).tree none

theorem extras_not_identifier (extras : List Source.Extra) :
    (extras.map Source.Extra.tree).filter isIdentifierNode = [] := by
  rw [List.filter_eq_nil_iff]
  intro tree member
  rcases List.mem_map.1 member with ⟨extra, _, rfl⟩
  rcases extra with ⟨_ | _, span⟩
  · exact nofun
  · exact nofun

/-- The identifiers among the parts of a dotted name are its names in order. -/
theorem dotted_identifiers {property : Token -> Prop} {parts : List Phrase}
    (dotted : Phrase.Dotted property parts) :
    ∃ first rest, (∀ token ∈ first :: rest, token.kind = .name ∧ property token) ∧
      (Phrase.treesWithin parts).filter isIdentifierNode =
        (first :: rest).map nameTree ∧
      (Phrase.trees parts).filter isIdentifierNode =
        (first :: rest).map nameTree := by
  induction dotted with
  | @last token kind has =>
      refine ⟨token, [], by simp [kind, has], rfl, ?_⟩
      rw [Phrase.trees, List.filter_append, extras_not_identifier]
      rfl
  | @before token dot parts kind has spelled behind ih =>
      rcases ih with ⟨first, rest, all, _, later⟩
      have sign : (Phrase.trees (.leaf none dot :: parts)).filter isIdentifierNode =
          (Phrase.trees parts).filter isIdentifierNode := by
        rw [Phrase.trees, List.filter_append, extras_not_identifier]
        rfl
      refine ⟨token, first :: rest, ?_, ?_, ?_⟩
      · intro other member
        rcases List.mem_cons.1 member with rfl | member
        · exact ⟨kind, has⟩
        · exact all other member
      · rw [Phrase.treesWithin, List.filter_cons_of_pos rfl, sign, later]
        rfl
      · rw [Phrase.trees, List.filter_append, extras_not_identifier, List.filter_cons_of_pos rfl, sign,
          later]
        rfl

/-- A dotted name that covers its tokens is read as a row of identifiers. -/
theorem dottedText_isModule {document : Document} {tree : Tree}
    (dotted : IsDotted (Token.Standing document.text) tree) : IsModule (dottedText document tree) := by
  rcases dotted.made with ⟨parts, children, names⟩
  rcases dotted_identifiers names with ⟨first, rest, all, identifiers, _⟩
  have found : tree.namedChildren.filter (fun child => child.kind == .phrase .identifier) =
      (first :: rest).map nameTree := by
    rw [← identifiers, Tree.namedChildren, children, List.filter_filter]
    apply List.filter_congr
    intro child _
    rw [isIdentifierNode, Bool.and_eq_left_iff_imp, beq_iff_eq]
    intro kind
    rw [kind]
    rfl
  have covered : ∀ token ∈ first :: rest,
      String.ofList (document.textOf (nameTree token)) = token.text := by
    intro token member
    have covers := (all token member).2.covers
    exact (congrArg String.ofList covers).trans String.ofList_toList
  have texts : ((first :: rest).map nameTree).map (fun part => String.ofList (document.textOf part)) =
      (first :: rest).map Token.text := by
    rw [List.map_map]
    exact List.map_congr_left covered
  refine ⟨first.text, rest.map Token.text, ?_, ?_⟩
  · intro segment member
    rw [← List.map_cons] at member
    rcases List.mem_map.1 member with ⟨token, within, rfl⟩
    exact (all token within).2.named (all token within).1
  · unfold dottedText
    rw [found, List.map_cons]
    exact congrArg (String.intercalate ".") texts

/-! ## Modules of import statements -/

variable {document : Document} {tree : Tree} {parts : List Phrase}

/-- A plain import statement names modules. -/
theorem directReferences_isModule (children : tree.children = Phrase.trees parts)
    (ofImport : ∀ part ∈ parts, part.OfImport (Token.Standing document.text))
    {reference : Reference} (member : reference ∈ directReferences document tree) :
    ∀ module ∈ reference.module?, IsModule module := by
  unfold directReferences at member
  rcases List.mem_filterMap.1 member with ⟨child, within, chosen⟩
  rw [Tree.childrenIn, children, List.mem_filter, beq_iff_eq] at within
  rcases isImportedName_of_role ofImport within.1 within.2 with ⟨part, imported, rfl⟩
  rcases importedName_tree imported with dotted | ⟨kind, target, label, name, dotted, labelled⟩
  · rw [if_neg (by rw [dotted.kind]; decide), if_pos dotted.kind] at chosen
    cases chosen
    rintro _ ⟨rfl⟩
    exact dottedText_isModule dotted
  · rw [if_pos kind, name] at chosen
    cases chosen
    rintro _ ⟨rfl⟩
    exact dottedText_isModule dotted

/-- The module of a from-import is its first part in that role. -/
theorem head?_moduleName {head : Token} {kind : Syntax.PhraseKind} {span : Text.Span}
    {inner rest : List Phrase} (children : tree.children =
      Phrase.trees (.leaf none head :: .inRole .moduleName (.node kind span inner) :: rest)) :
    (tree.childrenIn .moduleName).head? =
      some ((Phrase.node kind span inner).tree (some .moduleName)) := by
  have headRole : ¬(((Phrase.leaf none head).tree none).role == some Role.moduleName) = true := by
    intro same
    cases same
  rw [Tree.childrenIn, children, Phrase.trees, List.filter_append, extras_role, List.nil_append,
    List.filter_cons, if_neg headRole, Phrase.trees, List.filter_append, extras_role,
    List.nil_append, Phrase.tree, List.filter_cons, if_pos (by rfl)]
  rfl

/-- What a row of nodes names is what one of them names, if each step keeps what has
been found or takes a dotted name instead. -/
theorem foldl_module (document : Document) {step : Option String × Nat -> Tree -> Option String × Nat}
    (steps : ∀ state child, (step state child).1 = state.1 ∨
      child.kind = .phrase .dottedName ∧ (step state child).1 = some (dottedText document child))
    {children : List Tree} {state : Option String × Nat} {module : String}
    (folded : (children.foldl step state).1 = some module) :
    state.1 = some module ∨
      ∃ child ∈ children, child.kind = .phrase .dottedName ∧ module = dottedText document child := by
  induction children generalizing state with
  | nil => exact .inl folded
  | cons child rest ih =>
      rcases ih folded with before | ⟨other, member, found⟩
      · rcases steps state child with kept | ⟨kind, taken⟩
        · exact .inl (kept ▸ before)
        · rw [taken] at before
          exact .inr ⟨child, List.mem_cons_self, kind, (Option.some.inj before).symm⟩
      · exact .inr ⟨other, List.mem_cons_of_mem _ member, found⟩

/-- Among the parts of a relative module, only a name behind the dots is a dotted name. -/
theorem relative_dotted {property : Token -> Prop} {around : Text.Span} {inner : List Phrase}
    (named : (Phrase.node .relativeImport around inner).IsModuleName property) :
    ∀ child ∈ Phrase.treesWithin inner, child.kind = .phrase .dottedName -> IsDotted property child := by
  intro child member kind
  cases named with
  | relative =>
      rcases List.mem_singleton.1 member with rfl
      cases kind
  | below dotted =>
      rw [Phrase.treesWithin] at member
      rcases List.mem_cons.1 member with rfl | member
      · cases kind
      · rcases mem_trees member with ⟨⟨_ | _, span⟩, rfl⟩ | ⟨part, within, rfl⟩
        · cases kind
        · cases kind
        · rcases List.mem_singleton.1 within with rfl
          exact isDotted_tree none dotted

theorem importedModule_isModule {kind : Syntax.PhraseKind} {span : Text.Span} {inner : List Phrase}
    (named : (Phrase.node kind span inner).IsModuleName (Token.Standing document.text))
    (first : (tree.childrenIn .moduleName).head? =
      some ((Phrase.node kind span inner).tree (some .moduleName)))
    {module : String} (imported : (importedModule document tree).1 = some module) :
    IsModule module := by
  unfold importedModule at imported
  rw [first] at imported
  dsimp only at imported
  split at imported
  · rename_i relative
    cases relative
    refine (foldl_module document ?_ imported).elim ?_ ?_
    · intro state child
      split
      · exact .inl rfl
      · split
        · rename_i kind
          exact .inr ⟨kind, rfl⟩
        · exact .inl rfl
    · intro none
      cases none
    · rintro ⟨child, member, kind, rfl⟩
      rw [Tree.namedChildren] at member
      have within := (List.mem_filter.1 member).1
      exact dottedText_isModule (relative_dotted named child within kind)
  · rename_i notRelative
    cases imported
    cases named with
    | absolute dotted => exact dottedText_isModule (isDotted_tree _ dotted)
    | relative => exact absurd rfl notRelative
    | below => exact absurd rfl notRelative

theorem future_isModule : IsModule "__future__" := by
  have letters : ['_', 'f', 'u', 't', 'u', 'r', 'e', '_', '_'].all Text.isIdentifierContinue = true := by
    decide +kernel
  have identifier : IsIdentifier "__future__".toList :=
    ⟨'_', _, rfl, by decide, List.all_eq_true.1 letters⟩
  exact ⟨"__future__", [], by simpa using identifier, rfl⟩

/-- In a program, every module that a visible import statement names is a row of identifiers. -/
theorem module_isModule {text : List Char} (accepted : readSource text = .ok document) {place : Place}
    (visible : Visible document.root place tree) {reference : Reference}
    (listed : reference ∈ referencesOf document tree) : ∀ module ∈ reference.module?, IsModule module := by
  rcases root_of_readSource accepted with ⟨items, sound, rootKind, rootChildren⟩
  have regular : isImport tree.kind = true -> Regular (Token.Standing document.text) tree := by
    intro statement
    have member : (place, tree) ∈ visibleImports document.root :=
      mem_visibleImports.2 ⟨visible, statement⟩
    have among : tree ∈ allImports document.root := by
      rw [allImports_eq_visibleImports rootKind rootChildren sound]
      exact List.mem_map.2 ⟨_, member, rfl⟩
    exact nodes_regular rootKind rootChildren sound tree (List.mem_filter.1 among).1
  unfold referencesOf at listed
  split at listed
  · rename_i kind
    rcases (regular (by rw [kind]; rfl)).shaped kind with ⟨parts, children, ofImport⟩
    exact directReferences_isModule children ofImport listed
  · rename_i kind
    rcases (regular (by rw [kind]; rfl)).sourced kind with
      ⟨_, children, head, source, rest, rfl, named⟩
    rcases List.mem_singleton.1 listed with rfl
    intro module imported
    cases source with
    | node =>
        exact importedModule_isModule named (head?_moduleName children) imported
    | leaf => cases named
    | inRole => cases named
  · rcases List.mem_singleton.1 listed with rfl
    rintro _ ⟨rfl⟩
    exact future_isModule
  · cases listed

end Imports
end ImportCensus

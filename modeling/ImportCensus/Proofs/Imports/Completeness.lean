import ImportCensus.Proofs.Imports.Search
import ImportCensus.Proofs.Source.Block
import Mathlib

namespace ImportCensus
namespace Imports

open Syntax (Kind Role Tree)
open Source (Apart importKindNames Document Item Compound Part Phrase readSource)

/-!
# No import statement is missed

In the tree of a program an import statement stands nowhere but in the module and
in blocks, and blocks stand nowhere but in compound statements and clauses.  The
search along blocks therefore meets every import statement that a walk through all
nodes meets, and in the same order.

The walk looks nodes up by the names of their kinds.  A token goes by its spelling,
so that it also has to be shown that no token is spelled like such a name.
-/

/-- The import statements among all nodes of a tree, in document order. -/
def allImports (tree : Tree) : List Tree :=
  tree.preorder.filter fun node => isImport node.kind

def allImportsOf (trees : List Tree) : List Tree :=
  (Tree.preorderAll trees).filter fun node => isImport node.kind

/-- The import statements that a search meets among the children of a node. -/
def searchedImports (above : Kind) (children : List Tree) : List Tree :=
  (Search.pending (children.filter fun child => leadsTo above child.kind)).filter
    fun node => isImport node.kind

/-! ## Both orders, node by node -/

theorem allImports_node (kind : Kind) (role : Option Role) (span : Text.Span)
    (children : List Tree) :
    allImports (.node kind role span children) =
      if isImport kind then .node kind role span children :: allImportsOf children
      else allImportsOf children := by
  unfold allImports
  rw [Tree.preorder, List.filter_cons]
  rfl

theorem map_snd_visibleImports (tree : Tree) :
    (visibleImports tree).map Prod.snd =
      ((visible tree).map Prod.snd).filter fun node => isImport node.kind := by
  rw [visibleImports, List.filter_map]
  rfl

theorem visibleImports_node (kind : Kind) (role : Option Role) (span : Text.Span)
    (children : List Tree) :
    (visibleImports (.node kind role span children)).map Prod.snd =
      if isImport kind then .node kind role span children :: searchedImports kind children
      else searchedImports kind children := by
  rw [map_snd_visibleImports, map_snd_visible, searched_eq_filter, List.filter_cons]
  rfl

theorem allImportsOf_cons (tree : Tree) (rest : List Tree) :
    allImportsOf (tree :: rest) = allImports tree ++ allImportsOf rest := by
  rw [allImportsOf, Tree.preorderAll, List.filter_append]
  rfl

theorem allImportsOf_append (first second : List Tree) :
    allImportsOf (first ++ second) = allImportsOf first ++ allImportsOf second := by
  induction first with
  | nil => rfl
  | cons tree rest ih => rw [List.cons_append, allImportsOf_cons, allImportsOf_cons, ih, List.append_assoc]

theorem searchedImports_cons (above : Kind) (tree : Tree) (rest : List Tree) :
    searchedImports above (tree :: rest) =
      (if leadsTo above tree.kind then (visibleImports tree).map Prod.snd else []) ++
        searchedImports above rest := by
  unfold searchedImports
  by_cases leads : leadsTo above tree.kind = true
  · rw [List.filter_cons, if_pos leads, if_pos leads, Search.pending, List.flatMap_cons,
      List.filter_append, map_snd_visibleImports]
    rfl
  · rw [List.filter_cons, if_neg leads, if_neg leads]
    rfl

theorem searchedImports_append (above : Kind) (first second : List Tree) :
    searchedImports above (first ++ second) =
      searchedImports above first ++ searchedImports above second := by
  unfold searchedImports Search.pending
  rw [List.filter_append, List.flatMap_append, List.filter_append]

/-- Where the search goes on to none of the children, it meets nothing. -/
theorem searchedImports_eq_nil {above : Kind} {children : List Tree}
    (stops : ∀ child ∈ children, leadsTo above child.kind = false) :
    searchedImports above children = [] := by
  have none : children.filter (fun child => leadsTo above child.kind) = [] := by
    rw [List.filter_eq_nil_iff]
    intro child member
    simp [stops child member]
  rw [searchedImports, none]
  rfl

/-! ## Phrases -/

/-- A kind of node that stands inside statements, spelled apart if it is a token's. -/
def Inside : Kind -> Prop
  | .phrase _ => True
  | .token spelling => Apart spelling
  | _ => False

theorem Inside.not_import {kind : Kind} (inside : Inside kind) : isImport kind = false := by
  cases kind with
  | phrase | token => rfl
  | module | block | simple | compound => exact inside.elim

/-- Neither statements, clauses nor the inside of them lead to what stands inside. -/
theorem Inside.not_leadsTo {above kind : Kind} (inside : Inside kind)
    (notSequence : above ≠ .module ∧ above ≠ .block) : leadsTo above kind = false := by
  cases kind with
  | phrase | token => cases above <;> simp_all [leadsTo, isCompound]
  | module | block | simple | compound => exact inside.elim

theorem extra_nodes (extra : Source.Extra) : ∀ node ∈ extra.tree.preorder, Inside node.kind := by
  intro node member
  rcases List.mem_singleton.1 member with rfl
  trivial

theorem extras_nodes (extras : List Source.Extra) :
    ∀ node ∈ Tree.preorderAll (extras.map Source.Extra.tree), Inside node.kind := by
  intro node member
  rw [Tree.preorderAll_eq_flatMap, List.flatMap_map] at member
  rcases List.mem_flatMap.1 member with ⟨extra, _, within⟩
  exact extra_nodes extra node within

mutual

/-- All nodes of a phrase's tree stand inside statements. -/
theorem phrase_nodes : (role : Option Role) -> (phrase : Phrase) -> phrase.Apart ->
    ∀ node ∈ (phrase.tree role).preorder, Inside node.kind
  | role, .leaf none token, apart => by
      intro node member
      rcases List.mem_singleton.1 member with rfl
      exact Phrase.apart_token.1 apart
  | role, .leaf (some kind) token, _ => by
      intro node member
      rcases List.mem_singleton.1 member with rfl
      trivial
  | role, .node kind span parts, apart => by
      intro node member
      rw [Phrase.tree] at member
      rcases List.mem_cons.1 member with rfl | below
      · trivial
      · exact within_nodes parts (Phrase.apart_node.1 apart) node below
  | role, .inRole inner phrase, apart => by
      rw [Phrase.tree]
      exact phrase_nodes (some inner) phrase (Phrase.apart_inRole.1 apart)

theorem within_nodes : (parts : List Phrase) -> Phrase.AllApart parts ->
    ∀ node ∈ Tree.preorderAll (Phrase.treesWithin parts), Inside node.kind
  | [], _ => nofun
  | phrase :: rest, apart => by
      intro node member
      rw [Phrase.allApart_cons] at apart
      rw [Phrase.treesWithin, Tree.preorderAll, List.mem_append] at member
      rcases member with first | later
      · exact phrase_nodes none phrase apart.1 node first
      · exact trees_nodes rest apart.2 node later

theorem trees_nodes : (parts : List Phrase) -> Phrase.AllApart parts ->
    ∀ node ∈ Tree.preorderAll (Phrase.trees parts), Inside node.kind
  | [], _ => nofun
  | phrase :: rest, apart => by
      intro node member
      rw [Phrase.allApart_cons] at apart
      rw [Phrase.trees, Tree.preorderAll_append, Tree.preorderAll] at member
      rcases List.mem_append.1 member with before | member
      · exact extras_nodes phrase.lead node before
      rcases List.mem_append.1 member with first | later
      · exact phrase_nodes none phrase apart.1 node first
      · exact trees_nodes rest apart.2 node later

end

theorem mem_preorderAll_of_mem {tree : Tree} {trees : List Tree} (member : tree ∈ trees) :
    tree ∈ Tree.preorderAll trees := by
  rw [Tree.preorderAll_eq_flatMap, List.mem_flatMap]
  refine ⟨tree, member, ?_⟩
  cases tree
  exact List.mem_cons_self

theorem allImportsOf_inside {children : List Tree}
    (inside : ∀ node ∈ Tree.preorderAll children, Inside node.kind) : allImportsOf children = [] := by
  rw [allImportsOf, List.filter_eq_nil_iff]
  intro node member
  simp [(inside node member).not_import]

theorem searchedImports_inside {above : Kind} {children : List Tree}
    (inside : ∀ node ∈ Tree.preorderAll children, Inside node.kind)
    (notSequence : above ≠ .module ∧ above ≠ .block) : searchedImports above children = [] :=
  searchedImports_eq_nil fun _ member =>
    (inside _ (mem_preorderAll_of_mem member)).not_leadsTo notSequence

/-! ## Statements and blocks -/

variable {property : Source.Token -> Prop}

theorem simple_nodes {kind : Syntax.SimpleKind} {parts : List Phrase} (apart : Phrase.AllApart parts) :
    ∀ node ∈ Tree.preorderAll (if Source.isWordStatement kind then [] else Phrase.trees parts),
      Inside node.kind := by
  split
  · nofun
  · exact trees_nodes parts apart

theorem part_phrase_nodes {phrase : Phrase} (apart : phrase.Apart) :
    ∀ node ∈ Tree.preorderAll (Part.phrase phrase).trees, Inside node.kind := by
  intro node member
  rw [Part.trees, Tree.preorderAll_append] at member
  rcases List.mem_append.1 member with before | within
  · exact extras_nodes phrase.lead node before
  · rw [Tree.preorderAll, Tree.preorderAll, List.append_nil] at within
    exact phrase_nodes none phrase apart node within

theorem leadsTo_sequence {above : Kind} (sequence : above = .module ∨ above = .block) (kind : Kind) :
    leadsTo above kind = kind.isNamed := by
  rcases sequence with rfl | rfl <;> rfl

mutual

/-- In the tree of an item that is more than a token the search meets every import statement. -/
theorem item_imports : (item : Item) -> item.Sound property ->
    allImports item.tree =
      if item.tree.kind.isNamed then (visibleImports item.tree).map Prod.snd else []
  | .simple kind span parts, sound => by
      have inside : ∀ node ∈ Tree.preorderAll
          (if Source.isWordStatement kind then [] else Phrase.trees parts), Inside node.kind :=
        simple_nodes sound.1
      have unsearched : searchedImports (.simple kind)
          (if Source.isWordStatement kind then [] else Phrase.trees parts) = [] :=
        searchedImports_inside inside ⟨nofun, nofun⟩
      rw [Item.tree, allImports_node, visibleImports_node, allImportsOf_inside inside, unsearched]
      rfl
  | .compound body, sound => by
      rw [Item.tree, compound_imports body sound]
      cases body
      rfl
  | .separator token, _ => rfl
  | .extra trivia, _ => rfl

theorem items_imports : (items : List Item) -> Item.AllSound property items -> {above : Kind} ->
    (above = .module ∨ above = .block) ->
    allImportsOf (Item.treeAll items) = searchedImports above (Item.treeAll items)
  | [], _, _, _ => rfl
  | item :: rest, sound, above, sequence => by
      rw [Item.treeAll, allImportsOf_cons, searchedImports_cons, leadsTo_sequence sequence,
        item_imports item sound.1, items_imports rest sound.2 sequence]

theorem compound_imports : (body : Compound) -> body.Sound property ->
    allImports body.tree = (visibleImports body.tree).map Prod.snd
  | .mk kind span parts, sound => by
      rw [Compound.tree, allImports_node, visibleImports_node, parts_imports parts sound kind]

theorem part_imports : (part : Part) -> part.Sound property -> (owner : Syntax.CompoundKind) ->
    allImportsOf part.trees = searchedImports (.compound owner) part.trees
  | .phrase inner, sound, owner => by
      have inside := part_phrase_nodes sound
      have unsearched : searchedImports (.compound owner) (Part.phrase inner).trees = [] :=
        searchedImports_inside inside ⟨nofun, nofun⟩
      rw [allImportsOf_inside inside, unsearched]
  | .block span items, sound, owner => by
      rw [Part.trees, allImportsOf_cons, searchedImports_cons, allImports_node, visibleImports_node,
        items_imports items sound (.inr rfl)]
      rfl
  | .clause body, sound, owner => by
      rw [Part.trees, allImportsOf_cons, searchedImports_cons, compound_imports body sound]
      cases body
      rfl
  | .extra trivia, _, owner => rfl

theorem parts_imports : (parts : List Part) -> Part.AllSound property parts -> (owner : Syntax.CompoundKind) ->
    allImportsOf (Part.treeAll parts) = searchedImports (.compound owner) (Part.treeAll parts)
  | [], _, _ => rfl
  | part :: rest, sound, owner => by
      rw [Part.treeAll, allImportsOf_append, searchedImports_append, part_imports part sound.1 owner,
        parts_imports rest sound.2 owner]

end

/-! ## Nodes of a program -/

/-- What is known of every node of a program: a token is spelled apart, an import
statement holds tokens and imported names only, and a from-import begins with a module. -/
structure Regular (property : Source.Token -> Prop) (node : Tree) : Prop where
  spelled : ∀ spelling, node.kind = .token spelling -> Apart spelling
  shaped : node.kind = .simple .importModules ->
    ∃ parts, node.children = Phrase.trees parts ∧ ∀ part ∈ parts, part.OfImport property
  sourced : node.kind = .simple .importFrom ->
    ∃ parts, node.children = Phrase.trees parts ∧ Phrase.AreFromImport property parts

theorem Inside.regular {node : Tree} (inside : Inside node.kind) : Regular property node where
  spelled spelling same := by
    rw [same] at inside
    exact inside
  shaped same := by
    rw [same] at inside
    exact inside.elim
  sourced same := by
    rw [same] at inside
    exact inside.elim

theorem Regular.of_kind {kind : Kind} {role : Option Role} {span : Text.Span} {children : List Tree}
    (owner : kind = .module ∨ kind = .block ∨ ∃ compound, kind = .compound compound) :
    Regular property (.node kind role span children) := by
  rcases owner with rfl | rfl | ⟨compound, rfl⟩
  · exact ⟨nofun, nofun, nofun⟩
  · exact ⟨nofun, nofun, nofun⟩
  · exact ⟨nofun, nofun, nofun⟩

mutual

theorem item_nodes : (item : Item) -> item.Sound property -> ∀ node ∈ item.tree.preorder, Regular property node
  | .simple kind span parts, sound => by
      intro node member
      rw [Item.tree] at member
      rcases List.mem_cons.1 member with rfl | below
      · refine ⟨nofun, fun same => ?_, fun same => ?_⟩
        · cases same
          exact ⟨parts, rfl, sound.2.1 rfl⟩
        · cases same
          exact ⟨parts, rfl, sound.2.2 rfl⟩
      · exact (simple_nodes sound.1 node below).regular
  | .compound body, sound => compound_nodes body sound
  | .separator token, sound => by
      intro node member
      rcases List.mem_singleton.1 member with rfl
      refine Inside.regular ?_
      exact sound
  | .extra trivia, _ => fun node member => (extra_nodes trivia node member).regular

theorem items_nodes : (items : List Item) -> Item.AllSound property items ->
    ∀ node ∈ Tree.preorderAll (Item.treeAll items), Regular property node
  | [], _ => nofun
  | item :: rest, sound => by
      intro node member
      rw [Item.treeAll, Tree.preorderAll] at member
      rcases List.mem_append.1 member with first | later
      · exact item_nodes item sound.1 node first
      · exact items_nodes rest sound.2 node later

theorem compound_nodes : (body : Compound) -> body.Sound property -> ∀ node ∈ body.tree.preorder, Regular property node
  | .mk kind span parts, sound => by
      intro node member
      rw [Compound.tree] at member
      rcases List.mem_cons.1 member with rfl | below
      · exact .of_kind (.inr (.inr ⟨kind, rfl⟩))
      · exact parts_nodes parts sound node below

theorem part_nodes : (part : Part) -> part.Sound property ->
    ∀ node ∈ Tree.preorderAll part.trees, Regular property node
  | .phrase inner, sound => fun node member => (part_phrase_nodes sound node member).regular
  | .block span items, sound => by
      intro node member
      rw [Part.trees, Tree.preorderAll, Tree.preorderAll, List.append_nil] at member
      rcases List.mem_cons.1 member with rfl | below
      · exact .of_kind (.inr (.inl rfl))
      · exact items_nodes items sound node below
  | .clause body, sound => by
      rw [Part.trees, Tree.preorderAll, Tree.preorderAll, List.append_nil]
      exact compound_nodes body sound
  | .extra trivia, _ => by
      rw [Part.trees, Tree.preorderAll, Tree.preorderAll, List.append_nil]
      exact fun node member => (extra_nodes trivia node member).regular

theorem parts_nodes : (parts : List Part) -> Part.AllSound property parts ->
    ∀ node ∈ Tree.preorderAll (Part.treeAll parts), Regular property node
  | [], _ => nofun
  | part :: rest, sound => by
      intro node member
      rw [Part.treeAll, Tree.preorderAll_append] at member
      rcases List.mem_append.1 member with first | later
      · exact part_nodes part sound.1 node first
      · exact parts_nodes rest sound.2 node later

end

/-- Names of kinds tell import statements from all other regular nodes. -/
theorem Regular.named {node : Tree} (regular : Regular property node) :
    importKindNames.contains node.kind.name = isImport node.kind := by
  cases same : node.kind with
  | module | block => rfl
  | simple kind => cases kind <;> rfl
  | compound kind => cases kind <;> rfl
  | phrase kind => cases kind <;> rfl
  | token spelling =>
      exact regular.spelled spelling same

/-! ## References of an import statement -/

/-- What a reference has from the part of an import statement that it stands for: the
name, and the alias if there is one. -/
inductive NamedBy (document : Document) (part : Tree) : Reference -> Prop
  | bare (kind : part.kind = .phrase .dottedName) :
      NamedBy document part (.direct (dottedText document part) none)
  | renamed {target label : Tree} (kind : part.kind = .phrase .aliasedImport)
      (name : part.childrenIn .name = [target]) (dotted : target.kind = .phrase .dottedName)
      (labelled : part.childrenIn .alias = [label]) :
      NamedBy document part
        (.direct (dottedText document target) (some (String.ofList (document.textOf label))))

theorem extras_role (extras : List Source.Extra) (role : Role) :
    (extras.map Source.Extra.tree).filter (fun child => child.role == some role) = [] := by
  rw [List.filter_eq_nil_iff]
  intro tree member
  rcases List.mem_map.1 member with ⟨extra, _, rfl⟩
  exact nofun

theorem mem_trees {parts : List Phrase} {child : Tree} (member : child ∈ Phrase.trees parts) :
    (∃ extra : Source.Extra, child = extra.tree) ∨ ∃ part ∈ parts, child = part.tree none := by
  induction parts with
  | nil => cases member
  | cons part rest ih =>
      rw [Phrase.trees] at member
      rcases List.mem_append.1 member with before | member
      · rcases List.mem_map.1 before with ⟨extra, _, same⟩
        exact .inl ⟨extra, same.symm⟩
      rcases List.mem_cons.1 member with same | later
      · exact .inr ⟨part, List.mem_cons_self, same⟩
      · exact (ih later).imp_right fun ⟨other, within, same⟩ =>
          ⟨other, List.mem_cons_of_mem _ within, same⟩

/-- A part of an import statement in the role of a name is an imported name. -/
theorem isImportedName_of_role {parts : List Phrase} {child : Tree}
    (ofImport : ∀ part ∈ parts, part.OfImport property) (member : child ∈ Phrase.trees parts)
    (role : child.role = some .name) : ∃ part : Phrase, part.IsImportedName property ∧ child = part.tree none := by
  rcases mem_trees member with ⟨extra, rfl⟩ | ⟨part, within, rfl⟩
  · cases role
  · rcases ofImport part within with ⟨token, rfl⟩ | name
    · cases role
    · exact ⟨part, name, rfl⟩

theorem forall₂_filterMap {α β : Type} {relation : α -> β -> Prop} {choose : α -> Option β}
    {values : List α} (chosen : ∀ value ∈ values, ∃ image, choose value = some image ∧ relation value image) :
    List.Forall₂ relation values (values.filterMap choose) := by
  induction values with
  | nil => exact .nil
  | cons value rest ih =>
      rcases chosen value List.mem_cons_self with ⟨image, same, related⟩
      rw [List.filterMap_cons, same]
      exact .cons related (ih fun other member => chosen other (List.mem_cons_of_mem _ member))

/-- The children of an alias: extras aside, the name, the keyword and the label. -/
theorem aliasedImport_children {around span : Text.Span} {parts : List Phrase}
    {link label : Source.Token} (role : Role) (outer : Option Role) :
    ((Phrase.node .aliasedImport around
        [.inRole .name (.node .dottedName span parts), .leaf none link,
          .inRole .alias (.leaf (some .identifier) label)]).tree outer).childrenIn role =
      match role with
      | .name => [(Phrase.node .dottedName span parts).tree (some .name)]
      | .alias => [(Phrase.leaf (some .identifier) label).tree (some .alias)]
      | .moduleName => [] := by
  simp only [Tree.childrenIn, Phrase.tree, Tree.children, Phrase.treesWithin, Phrase.trees,
    List.filter_cons, List.filter_append, extras_role]
  cases role <;> rfl

/-- The tree of names between dots, each of them read from a token with a property. -/
structure IsDotted (property : Source.Token -> Prop) (tree : Tree) : Prop where
  kind : tree.kind = .phrase .dottedName
  made : ∃ parts, tree.children = Phrase.treesWithin parts ∧ Phrase.Dotted property parts

theorem isDotted_tree {span : Text.Span} {parts : List Phrase} (role : Option Role)
    (dotted : Phrase.Dotted property parts) :
    IsDotted property ((Phrase.node .dottedName span parts).tree role) :=
  ⟨rfl, parts, rfl, dotted⟩

theorem importedName_tree {part : Phrase} (name : part.IsImportedName property) :
    IsDotted property (part.tree none) ∨
      (part.tree none).kind = .phrase .aliasedImport ∧
        ∃ target label, (part.tree none).childrenIn .name = [target] ∧
          IsDotted property target ∧ (part.tree none).childrenIn .alias = [label] := by
  cases name with
  | bare dotted => exact .inl (isDotted_tree _ dotted)
  | renamed dotted =>
      exact .inr ⟨rfl, _, _, aliasedImport_children .name _, isDotted_tree _ dotted,
        aliasedImport_children .alias _⟩

/-- An import statement has one reference for each of its names. -/
theorem directReferences_named (document : Document) {tree : Tree} {parts : List Phrase}
    (children : tree.children = Phrase.trees parts) (ofImport : ∀ part ∈ parts, part.OfImport property) :
    List.Forall₂ (NamedBy document) (tree.childrenIn .name) (directReferences document tree) := by
  unfold directReferences
  apply forall₂_filterMap
  intro child member
  rw [Tree.childrenIn, children, List.mem_filter, beq_iff_eq] at member
  rcases isImportedName_of_role ofImport member.1 member.2 with ⟨part, imported, rfl⟩
  rcases importedName_tree imported with dotted | ⟨kind, target, label, name, dotted, labelled⟩
  · refine ⟨_, ?_, .bare dotted.kind⟩
    rw [if_neg (by rw [dotted.kind]; exact nofun), if_pos dotted.kind]
  · refine ⟨_, ?_, .renamed kind name dotted.kind labelled⟩
    rw [if_pos kind, name, labelled]
    rfl

/-! ## Programs -/

/-- The document that is read from a text has the tree of a sound program. -/
theorem root_of_readSource {text : List Char} {document : Document}
    (accepted : readSource text = .ok document) :
    ∃ items, Item.AllSound (Source.Token.Standing document.text) items ∧ document.root.kind = .module ∧
      document.root.children = Item.treeAll items := by
  have ofRows : Document.ofRows text (Source.rows text) = .ok document :=
    (Source.readSource_eq_ok.1 accepted).1
  unfold Document.ofRows at ofRows
  cases reads : Source.program (Source.rows text) with
  | error fault =>
      rw [reads] at ofRows
      cases ofRows
  | ok items =>
      rw [reads] at ofRows
      cases ofRows
      exact ⟨items, Source.program_sound (Source.rows_standing text) reads, rfl, rfl⟩

theorem allImports_eq_visibleImports {root : Tree} {items : List Item} (kind : root.kind = .module)
    (children : root.children = Item.treeAll items) (sound : Item.AllSound property items) :
    allImports root = (visibleImports root).map Prod.snd := by
  cases root with
  | node rootKind role span below =>
      cases kind
      cases children
      rw [allImports_node, visibleImports_node, items_imports items sound (.inl rfl)]

theorem nodes_regular {root : Tree} {items : List Item} (kind : root.kind = .module)
    (children : root.children = Item.treeAll items) (sound : Item.AllSound property items) :
    ∀ node ∈ root.preorder, Regular property node := by
  cases root with
  | node rootKind role span below =>
      cases kind
      cases children
      intro node member
      rcases List.mem_cons.1 member with rfl | below
      · exact .of_kind (.inl rfl)
      · exact items_nodes items sound node below

theorem findNamed_eq_allImports {document : Document}
    (regular : ∀ node ∈ document.root.preorder, Regular property node) :
    document.findNamed importKindNames = allImports document.root := by
  rw [Document.findNamed, document.nodes_eq_preorder]
  apply List.filter_congr
  intro node member
  exact (regular node member).named

/-- The import statements that a search turns into references are all nodes of a
text's tree that go by the name of an import statement, in the same order.  One of
the plain form has one reference for each of its names; one of either other form has
a single reference. -/
theorem collect_misses_no_import (text : List Char) (document : Document)
    (accepted : readSource text = .ok document) :
    (visibleImports document.root).map Prod.snd = document.findNamed importKindNames ∧
      collect document =
        (document.findNamed importKindNames).flatMap (referencesOf document) ∧
      ∀ tree ∈ document.findNamed importKindNames,
        tree.kind = .simple .importModules ∧
            List.Forall₂ (NamedBy document) (tree.childrenIn .name) (referencesOf document tree) ∨
          (tree.kind = .simple .importFrom ∨ tree.kind = .simple .futureImport) ∧
            ∃ module level names, referencesOf document tree = [.names module level names] := by
  rcases root_of_readSource accepted with ⟨items, sound, kind, children⟩
  have regular := nodes_regular kind children sound
  have found : (visibleImports document.root).map Prod.snd = document.findNamed importKindNames := by
    rw [findNamed_eq_allImports regular, allImports_eq_visibleImports kind children sound]
  refine ⟨found, ?_, ?_⟩
  · rw [collect_eq_flatMap, ← found, List.flatMap_map]
  · intro tree member
    rw [findNamed_eq_allImports regular, allImports, List.mem_filter] at member
    unfold referencesOf
    cases form : tree.kind with
    | simple statement =>
        cases statement with
        | importModules =>
            rcases (regular tree member.1).shaped form with ⟨parts, made, ofImport⟩
            exact .inl ⟨rfl, directReferences_named document made ofImport⟩
        | importFrom => exact .inr ⟨.inl rfl, _, _, _, rfl⟩
        | futureImport => exact .inr ⟨.inr rfl, _, _, _, rfl⟩
        | _ =>
            rw [form] at member
            cases member.2
    | _ =>
        rw [form] at member
        cases member.2

/-- An import statement behind a condition on one line is met by both ways. -/
theorem collect_misses_no_import_behind_condition :
    ∃ document, readSource "if x: import a as b".toList = .ok document ∧
      (document.findNamed importKindNames).map Tree.kind = [.simple .importModules] ∧
      (visibleImports document.root).map Prod.snd = document.findNamed importKindNames ∧
      collect document = (document.findNamed importKindNames).flatMap (referencesOf document) := by
  have found : (readSource "if x: import a as b".toList).toOption.map (fun document =>
      (document.findNamed importKindNames).map Tree.kind) = some [.simple .importModules] := by cbv
  cases accepted : readSource "if x: import a as b".toList with
  | error fault =>
      rw [accepted] at found
      cases found
  | ok document =>
      rw [accepted] at found
      have claim := collect_misses_no_import _ document accepted
      exact ⟨document, rfl, Option.some.inj found, claim.1, claim.2.1⟩

end Imports
end ImportCensus

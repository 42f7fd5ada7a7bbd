import ImportCensus.Yaml.Implicit
import ImportCensus.Yaml.Lexer

namespace ImportCensus
namespace Yaml

/-!
# Nodes of a document

A document is a tree of scalars, sequences and mappings, each with a tag and the
place where it begins.  An alias stands for the node of its anchor, which has to be
complete: a node that holds itself is no tree, and an alias inside its own anchor is
refused here as one without an anchor.  What is not written, such as the value of a
key without one, is an empty scalar.
-/

inductive Node where
  | scalar (tag : Tag) (text : String) (start : Mark)
  | sequence (tag : Tag) (items : List Node) (start : Mark)
  | mapping (tag : Tag) (entries : List (Node × Node)) (start : Mark)
  deriving Repr

namespace Node

def tag : Node -> Tag
  | .scalar tag _ _ | .sequence tag _ _ | .mapping tag _ _ => tag

def start : Node -> Mark
  | .scalar _ _ start | .sequence _ _ start | .mapping _ _ start => start

/-- How a kind of node is named in messages. -/
def kindName : Node -> String
  | .scalar _ _ _ => "scalar"
  | .sequence _ _ _ => "sequence"
  | .mapping _ _ _ => "mapping"

end Node

/-- What is known while nodes are read. -/
structure Composer where
  lexer : Lexer
  /-- The nodes that have anchors in this document. -/
  anchors : List (String × Node)
  /-- What the handles of tags stand for in this document. -/
  handles : List (String × String)

abbrev Composing := StateT Composer (Except Fault)

namespace Composing

def fail {α : Type} (fault : Fault) : Composing α := fun _ => .error fault

/-- Do something with the tokens. -/
def lexing {α : Type} (action : Lexing α) : Composing α := fun composer =>
  match action.run composer.lexer with
  | .ok (result, lexer) => .ok (result, { composer with lexer := lexer })
  | .error fault => .error fault

def peek : Composing Token := lexing peekToken

def take : Composing Token := lexing takeToken

/-- Whether the next token is of one of some kinds. -/
def isNext (kinds : List TokenKind) : Composing Bool := do
  return kinds.contains (← peek).kind

/-- Whether the older version of the format is in force. -/
def isOld : Composing Bool := do return (← get).lexer.isOld

/-- A node that is not written. -/
def emptyNode (place : Mark) : Node := .scalar (.standard .null) "" place

end Composing

open Composing

/-- The standard handles. -/
def standardHandles : List (String × String) := [("!", "!"), ("!!", standardTag)]

/-- What stands in front of a node. -/
structure NodeLabels where
  anchor : Option String
  /-- The tag: its handle, its suffix and its place. -/
  tag : Option (Option String × String × Mark)
  start : Option Mark

/-- Read the anchor and the tag in front of a node, in either order. -/
def nodeLabels : Composing NodeLabels := do
  match (← peek).kind with
  | .anchor name =>
    let token ← take
    match (← peek).kind with
    | .tag handle suffix =>
      let second ← take
      return ⟨some name, some (handle, suffix, second.start), some token.start⟩
    | _ => return ⟨some name, none, some token.start⟩
  | .tag handle suffix =>
    let token ← take
    match (← peek).kind with
    | .anchor name =>
      let second ← take
      return ⟨some name, some (handle, suffix, second.start), some second.start⟩
    | _ => return ⟨none, some (handle, suffix, token.start), some token.start⟩
  | _ => return ⟨none, none, none⟩

/-- The address that a tag stands for, if it is not the mark of no tag. -/
def tagAddress? (labels : NodeLabels) : Composing (Option String) := do
  match labels.tag with
  | none => return none
  | some (none, suffix, _) => return some suffix
  | some (some handle, suffix, place) =>
    match (← get).handles.find? fun found => found.1 == handle with
    | some (_, meant) => return some (meant ++ suffix)
    | none =>
      fail (.inside .taggedNode (labels.start.getD place) (.undefinedHandle handle) place)

/-- The tag of a collection. -/
def collectionTag (type : StandardType) (address : Option String) : Tag :=
  match address with
  | none | some "!" => .standard type
  | some address => .ofAddress address

/-- The tag of a scalar. -/
def scalarTag (isOld : Bool) (style : ScalarStyle) (text : String) (address : Option String) :
    Tag :=
  match address with
  | none => .standard (if style = .plain then implicitType isOld text else .text)
  | some "!" => .standard (implicitType isOld text)
  | some address => .ofAddress address

/-- Remember the node of an anchor. -/
def remember (anchor : Option String) (node : Node) : Composing Node := do
  match anchor with
  | some name => modify fun composer => { composer with anchors := (name, node) :: composer.anchors }
  | none => pure ()
  return node

/-- A token was found where a collection had to go on. -/
def unexpected {α : Type} (activity : Activity) (start : Mark) (what : String) :
    Composing α := do
  let token ← peek
  fail (.inside activity start (.unexpected what token.kind.name) token.start)

def blockEndWanted : String := "<block end>, but found "

mutual

/-- Read a node.  A block sequence without indentation of its own may stand only
behind a key. -/
def node (limit : Nat) (isBlock mayBeFlat : Bool) : Composing Node :=
  match limit with
  | 0 => return emptyNode (Cursor.ofText []).mark
  | limit + 1 => do
    match (← peek).kind with
    | .alias name =>
      let token ← take
      match (← get).anchors.find? fun found => found.1 == name with
      | some (_, found) => return found
      | none => fail (.alone (.undefinedAlias name) token.start)
    | _ =>
      let labels ← nodeLabels
      let address ← tagAddress? labels
      let token ← peek
      let start := labels.start.getD token.start
      match token.kind with
      | .scalar text style =>
        let _ ← take
        remember labels.anchor (.scalar (scalarTag (← isOld) style text address) text start)
      | .flowSequenceStart =>
        let _ ← take
        let items ← flowItems limit token.start true
        remember labels.anchor (.sequence (collectionTag .sequence address) items start)
      | .flowMappingStart =>
        let _ ← take
        let entries ← flowEntries limit token.start true
        remember labels.anchor (.mapping (collectionTag .mapping address) entries start)
      | .blockItem =>
        if mayBeFlat then
          let items ← flatItems limit
          remember labels.anchor (.sequence (collectionTag .sequence address) items start)
        else missing labels address isBlock token start
      | .blockSequenceStart =>
        if isBlock then
          let _ ← take
          let items ← blockItems limit token.start
          remember labels.anchor (.sequence (collectionTag .sequence address) items start)
        else missing labels address isBlock token start
      | .blockMappingStart =>
        if isBlock then
          let _ ← take
          let entries ← blockEntries limit token.start
          remember labels.anchor (.mapping (collectionTag .mapping address) entries start)
        else missing labels address isBlock token start
      | _ => missing labels address isBlock token start
termination_by structural limit

/-- A node without content: it needs an anchor or a tag. -/
def missing (labels : NodeLabels) (address : Option String) (isBlock : Bool) (token : Token)
    (start : Mark) : Composing Node := do
  if labels.anchor.isSome || labels.tag.isSome then
    remember labels.anchor (.scalar (scalarTag (← isOld) .plain "" address) "" start)
  else
    fail (.inside (if isBlock then .blockNode else .flowNode) start (.noContent token.kind.name)
      token.start)

/-- The items of a block sequence. -/
def blockItems (limit : Nat) (start : Mark) : Composing (List Node) :=
  match limit with
  | 0 => return []
  | limit + 1 => do
    match (← peek).kind with
    | .blockItem =>
      let token ← take
      let item ← if ← isNext [.blockItem, .blockEnd] then pure (emptyNode token.stop)
        else node limit true false
      return item :: (← blockItems limit start)
    | .blockEnd =>
      let _ ← take
      return []
    | _ => unexpected .blockSequence start blockEndWanted
termination_by structural limit

/-- The items of a block sequence without indentation of its own. -/
def flatItems (limit : Nat) : Composing (List Node) :=
  match limit with
  | 0 => return []
  | limit + 1 => do
    match (← peek).kind with
    | .blockItem =>
      let token ← take
      let item ← if ← isNext [.blockItem, .key, .value, .blockEnd] then pure (emptyNode token.stop)
        else node limit true false
      return item :: (← flatItems limit)
    | _ => return []
termination_by structural limit

/-- The value of a key in a block mapping. -/
def blockValue (limit : Nat) : Composing Node :=
  match limit with
  | 0 => return emptyNode (Cursor.ofText []).mark
  | limit + 1 => do
    if ← isNext [.value] then
      let token ← take
      if ← isNext [.key, .value, .blockEnd] then return emptyNode token.stop
      else node limit true true
    else return emptyNode (← peek).start
termination_by structural limit

/-- The entries of a block mapping. -/
def blockEntries (limit : Nat) (start : Mark) : Composing (List (Node × Node)) :=
  match limit with
  | 0 => return []
  | limit + 1 => do
    match (← peek).kind with
    | .key =>
      let token ← take
      let key ← if ← isNext [.key, .value, .blockEnd] then pure (emptyNode token.stop)
        else node limit true true
      let value ← blockValue limit
      return (key, value) :: (← blockEntries limit start)
    | .blockEnd =>
      let _ ← take
      return []
    | .value =>
      if ← isOld then unexpected .blockMapping start blockEndWanted
      else
        let key := emptyNode (← peek).start
        let value ← blockValue limit
        return (key, value) :: (← blockEntries limit start)
    | _ => unexpected .blockMapping start blockEndWanted
termination_by structural limit

/-- The value of a key between brackets, which a token of some kinds ends. -/
def flowValue (limit : Nat) (ends : List TokenKind) : Composing Node :=
  match limit with
  | 0 => return emptyNode (Cursor.ofText []).mark
  | limit + 1 => do
    if ← isNext [.value] then
      let token ← take
      if ← isNext ends then return emptyNode token.stop else node limit false false
    else return emptyNode (← peek).start
termination_by structural limit

/-- The items of a flow sequence; a key among them makes a mapping of one entry. -/
def flowItems (limit : Nat) (start : Mark) (isFirst : Bool) : Composing (List Node) :=
  match limit with
  | 0 => return []
  | limit + 1 => do
    if ← isNext [.flowSequenceEnd] then
      let _ ← take
      return []
    else
      if !isFirst then
        if ← isNext [.flowItem] then let _ ← take
        else unexpected .flowSequence start "',' or ']', but got "
      let token ← peek
      match token.kind with
      | .key =>
        let _ ← take
        let key ← if ← isNext [.value, .flowItem, .flowSequenceEnd] then pure (emptyNode token.stop)
          else node limit false false
        let value ← flowValue limit [.flowItem, .flowSequenceEnd]
        let item : Node := .mapping (.standard .mapping) [(key, value)] token.start
        return item :: (← flowItems limit start false)
      | .flowSequenceEnd =>
        let _ ← take
        return []
      | _ =>
        let item ← node limit false false
        return item :: (← flowItems limit start false)
termination_by structural limit

/-- The entries of a flow mapping. -/
def flowEntries (limit : Nat) (start : Mark) (isFirst : Bool) : Composing (List (Node × Node)) :=
  match limit with
  | 0 => return []
  | limit + 1 => do
    if ← isNext [.flowMappingEnd] then
      let _ ← take
      return []
    else
      if !isFirst then
        if ← isNext [.flowItem] then let _ ← take
        else unexpected .flowMapping start "',' or '\x7d', but got "
      let token ← peek
      match token.kind with
      | .key =>
        let _ ← take
        let key ← if ← isNext [.value, .flowItem, .flowMappingEnd] then pure (emptyNode token.stop)
          else node limit false false
        let value ← flowValue limit [.flowItem, .flowMappingEnd]
        return (key, value) :: (← flowEntries limit start false)
      | .flowMappingEnd =>
        let _ ← take
        return []
      | .value =>
        if ← isOld then entryWithoutValue limit start
        else
          let value ← flowValue limit [.flowItem, .flowMappingEnd]
          return (emptyNode token.stop, value) :: (← flowEntries limit start false)
      | _ => entryWithoutValue limit start
termination_by structural limit

/-- An entry of a flow mapping that is a key alone, and the entries behind it. -/
def entryWithoutValue (limit : Nat) (start : Mark) : Composing (List (Node × Node)) :=
  match limit with
  | 0 => return []
  | limit + 1 => do
    let key ← node limit false false
    let value := emptyNode (← peek).start
    return (key, value) :: (← flowEntries limit start false)
termination_by structural limit

end

end Yaml
end ImportCensus

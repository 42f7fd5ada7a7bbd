import ImportCensus.Yaml.Document
import ImportCensus.Yaml.Scalar

namespace ImportCensus
namespace Yaml

/-!
# Values of documents

The datum that a node denotes.  A collection has its value before its members have
theirs, so faults are found level by level: those of the outer collections come
before those of the inner ones.  Only keys are made at once, with all they hold.
-/

open Config (Datum)

/-! ## Keys -/

/-- The number that a datum is equal to, if it is one; a truth value is as well. -/
def exactNumber? : Datum -> Option Number.Binary64
  | .boolean value => some (.ofInt (if value then 1 else 0))
  | .float value => some value
  | _ => none

/-- Whether two binary numbers are equal as numbers. -/
def sameNumber (x y : Number.Binary64) : Bool :=
  match x, y with
  | .nan, _ | _, .nan => false
  | .finite _ 0 _, .finite _ 0 _ => true
  | x, y => decide (x = y)

/-- Whether an integer is equal to a binary number. -/
def sameInteger (value : Int) (x : Number.Binary64) : Bool :=
  match x.quotient? with
  | some q => decide ((if q.negative then -(q.num : Int) else q.num) = value * q.den)
  | none => false

mutual

/-- Whether two data are equal as keys: numbers are compared by value, whatever
their types. -/
def sameKey : Datum -> Datum -> Bool
  | .null, .null => true
  | .text first, .text second => first == second
  | .bytes first, .bytes second => first == second
  | .date first, .date second => first == second
  | .dateTime first, .dateTime second => first == second
  | .integer first, .integer second => first == second
  | .integer first, second => (exactNumber? second).any (sameInteger first)
  | first, .integer second => (exactNumber? first).any (sameInteger second)
  | .tuple first, .tuple second => sameKeys first second
  | first, second =>
    match exactNumber? first, exactNumber? second with
    | some x, some y => sameNumber x y
    | _, _ => false

def sameKeys : List Datum -> List Datum -> Bool
  | [], [] => true
  | first :: rest, second :: others => sameKey first second && sameKeys rest others
  | _, _ => false

end

/-- A datum as a key: a list becomes a tuple, other collections cannot be keys. -/
def asKey? : Datum -> Option Datum
  | .list items => some (.tuple items)
  | .mapping _ | .set _ => none
  | key => some key

/-- The value of a key among some entries. -/
def valueOf? (key : Datum) (entries : List (Datum × Datum)) : Option Datum :=
  (entries.find? fun found => sameKey found.1 key).map Prod.snd

/-- Entries with a value for a key; a key that is there already keeps its place. -/
def setValue (key value : Datum) : List (Datum × Datum) -> List (Datum × Datum)
  | [] => [(key, value)]
  | (other, old) :: rest =>
    if sameKey other key then (other, value) :: rest else (other, old) :: setValue key value rest

/-! ## Merged entries -/

/-- The entries of a mapping, those that it merges in front of its own. -/
structure Entries where
  merged : List (Node × Node)
  own : List (Node × Node)

/-- Merge what a key that merges has as its value, given how to find the entries
of a mapping. -/
def mergedEntries (entriesOf : Node -> Except Fault (List (Node × Node))) (start : Mark)
    (value : Node) : Except Fault (List (Node × Node)) :=
  match value with
  | .mapping _ _ _ => entriesOf value
  | .sequence _ items _ => do
    let merged ← items.mapM fun item =>
      match item with
      | .mapping _ _ _ => entriesOf item
      | _ => .error (.inside .mapping start (.wrongNode "a mapping for merging" item.kindName)
          item.start)
    return merged.reverse.flatten
  | _ => .error (.inside .mapping start
      (.wrongNode "a mapping or list of mappings for merging" value.kindName) value.start)

/-- Sort out one entry of a mapping. -/
def sortEntry (entriesOf : Node -> Except Fault (List (Node × Node))) (start : Mark)
    (entries : Entries) (entry : Node × Node) : Except Fault Entries :=
  match entry.1 with
  | .scalar (.standard .merge) text place => do
    if !entries.merged.isEmpty then
      .error (.inside .mapping start (.repeatedMerge text) place)
    return { entries with merged := ← mergedEntries entriesOf start entry.2 }
  | .scalar (.standard .value) text place =>
    .ok { entries with own := entries.own ++ [(.scalar (.standard .text) text place, entry.2)] }
  | _ => .ok { entries with own := entries.own ++ [entry] }

/-- The entries of a mapping, with what is merged into the mappings it merges. -/
def entriesOf (limit : Nat) (node : Node) : Except Fault Entries :=
  match limit, node with
  | limit + 1, .mapping _ entries start =>
    entries.foldlM (sortEntry (fun inner => do
      let found ← entriesOf limit inner
      return found.merged ++ found.own) start) ⟨[], []⟩
  | _, _ => .ok ⟨[], []⟩

/-! ## Types of collections -/

/-- The collection types. -/
inductive CollectionType where
  | sequence
  | mapping
  | set
  | orderedMapping
  | pairs
  deriving DecidableEq, Repr

/-- The collection type of a tag. -/
def collectionType? : Tag -> Option CollectionType
  | .standard .sequence => some .sequence
  | .standard .mapping => some .mapping
  | .standard .set => some .set
  | .standard .orderedMapping => some .orderedMapping
  | .standard .pairs => some .pairs
  | _ => none

/-- How messages name the type. -/
def CollectionType.typeName : CollectionType -> String
  | .sequence | .pairs => "list"
  | .mapping => "dict"
  | .set => "set"
  | .orderedMapping => "ordereddict"

/-- The type of a node that is a collection. -/
def typeName? (node : Node) : Option String :=
  (collectionType? node.tag).map CollectionType.typeName

/-- The type of the first thing in a key that cannot be looked up.  A sequence can be, if
no collection is in it. -/
def unhashableIn? (key : Node) : Option String :=
  match collectionType? key.tag, key with
  | some .sequence, .sequence _ items _ => items.findSome? typeName?
  | some .pairs, .sequence _ items _ =>
    items.findSome? fun item =>
      match item with
      | .mapping _ [(first, second)] _ => (typeName? first).or (typeName? second)
      | _ => none
  | _, _ => none

/-- A collection without members. -/
def CollectionType.empty : CollectionType -> Datum
  | .sequence | .pairs => .list []
  | .mapping | .orderedMapping => .mapping []
  | .set => .set []

/-! ## Members of collections -/

/-- How a collection makes its members: keys at once, and other members in a way
that may leave collections pending. -/
structure Making where
  limit : Nat
  key : Node -> Except Fault Datum
  member : Node -> Except Fault (Datum × List Node)

/-- What has been made of a collection, and what is pending. -/
abbrev Made (α : Type) := α × List Node

/-- Make all items of a sequence. -/
def Making.items (making : Making) (items : List Node) : Except Fault (Made (List Datum)) := do
  let made ← items.mapM making.member
  return (made.map Prod.fst, made.flatMap Prod.snd)

/-- Make one more entry of a mapping.  That a key holds what cannot be looked up is seen
only when the key is. -/
def Making.entry (making : Making) (start : Mark) (isChecked : Bool)
    (made : Made (List (Datum × Datum))) (entry : Node × Node) :
    Except Fault (Made (List (Datum × Datum))) := do
  match asKey? (← making.key entry.1) with
  | none => .error (.inside .mapping start .unhashableKey entry.1.start)
  | some key =>
    let (value, pending) ← making.member entry.2
    if let some typeName := unhashableIn? entry.1 then .error (.value (.unhashable typeName))
    match if isChecked then valueOf? key made.1 else none with
    | some first =>
      .error (.inside .mapping start (.repeatedKey key value first) entry.1.start)
    | none => return (setValue key value made.1, made.2 ++ pending)

/-- Make all entries of a mapping.  Repeated keys are accepted only if something is
merged into it. -/
def Making.entries (making : Making) (node : Node) :
    Except Fault (Made (List (Datum × Datum))) := do
  match node with
  | .mapping _ _ start =>
    let entries ← entriesOf making.limit node
    (entries.merged ++ entries.own).foldlM
      (making.entry start entries.merged.isEmpty) ([], [])
  | _ => .error (.alone (.wrongNode "a mapping node" node.kindName) node.start)

/-- Make one more pair. -/
def Making.pair (making : Making) (made : Made (List (Datum × Datum))) (key value : Node) :
    Except Fault (Made (List (Datum × Datum))) := do
  let (key, inKey) ← making.member key
  let (value, inValue) ← making.member value
  return (made.1 ++ [(key, value)], made.2 ++ inKey ++ inValue)

/-- Make one more entry of an ordered mapping.  Its key is looked up before there is a
value, and it must not be found. -/
def Making.orderedEntry (making : Making) (made : Made (List (Datum × Datum)))
    (key value : Node) : Except Fault (Made (List (Datum × Datum))) := do
  let (found, inKey) ← making.member key
  if let some type := collectionType? key.tag then .error (.value (.unhashable type.typeName))
  if (valueOf? found made.1).isSome then .error (.value .repeatedEntry)
  let (value, inValue) ← making.member value
  return (made.1 ++ [(found, value)], made.2 ++ inKey ++ inValue)

/-- Make the members of a sequence of mappings with one entry each, given how one more
entry is made. -/
def pairsOf (make : Made (List (Datum × Datum)) -> Node -> Node ->
      Except Fault (Made (List (Datum × Datum)))) (activity : Activity) (node : Node) :
    Except Fault (Made (List (Datum × Datum))) := do
  match node with
  | .sequence _ items start =>
    items.foldlM (fun (made : Made (List (Datum × Datum))) item =>
      match item with
      | .mapping _ [(key, value)] _ => make made key value
      | .mapping _ entries place =>
        .error (.inside activity start
          (.wrongNode "a single mapping item" (toString entries.length ++ " items")) place)
      | _ => .error (.inside activity start
          (.wrongNode "a mapping of length 1" item.kindName) item.start)) ([], [])
  | _ => .error (.inside activity node.start (.wrongNode "a sequence" node.kindName) node.start)

/-- Make a collection with its members. -/
def Making.collection (making : Making) (type : CollectionType) (node : Node) :
    Except Fault (Made Datum) := do
  match type with
  | .sequence =>
    match node with
    | .sequence _ items _ =>
      let (items, pending) ← making.items items
      return (.list items, pending)
    | _ => .error (.alone (.wrongNode "a sequence node" node.kindName) node.start)
  | .mapping =>
    let (entries, pending) ← making.entries node
    return (.mapping entries, pending)
  | .set =>
    let (entries, pending) ← making.entries node
    return (.set (entries.map Prod.fst), pending)
  | .orderedMapping =>
    let (entries, pending) ← pairsOf making.orderedEntry .orderedMapping node
    return (.mapping entries, pending)
  | .pairs =>
    let (entries, pending) ← pairsOf making.pair .pairs node
    return (.list (entries.map fun entry => .tuple [entry.1, entry.2]), pending)

/-- The text of a scalar; a mapping may hold it under the mark of a value. -/
def scalarText? : Node -> Option String
  | .scalar _ text _ => some text
  | .sequence _ _ _ => none
  | .mapping _ entries _ => entries.findSome? fun entry =>
    match entry.1, entry.2 with
    | .scalar (.standard .value) _ _, .scalar _ text _ => some text
    | _, _ => none

/-- The value of a node that is no collection. -/
def scalarDatum (isOld : Bool) (node : Node) : Except Fault Datum :=
  match node.tag with
  | .standard type =>
    match scalarValue? isOld type ((scalarText? node).getD "") node.start, scalarText? node with
    | some value, some _ => value
    | some _, none => .error (.alone (.wrongNode "a scalar node" node.kindName) node.start)
    | none, _ => .error (.alone (.unknownTag node.tag.address) node.start)
  | .other address => .error (.alone (.unknownTag address) node.start)

/-- The value of a node with all it holds, made at once. -/
def deepDatum (isOld : Bool) (limit : Nat) (node : Node) : Except Fault Datum :=
  match limit, collectionType? node.tag with
  | limit + 1, some type => do
    let made ← Making.collection ⟨limit, deepDatum isOld limit, fun member => do
      return (← deepDatum isOld limit member, [])⟩ type node
    return made.1
  | _, some type => .ok type.empty
  | _, none => scalarDatum isOld node

/-- The value of a member, a collection without members so far. -/
def shallowDatum (isOld : Bool) (node : Node) : Except Fault (Datum × List Node) :=
  match collectionType? node.tag with
  | some type => .ok (type.empty, [node])
  | none => do return (← scalarDatum isOld node, [])

/-- Make the members of a pending collection; the answer is what is pending then. -/
def expand (isOld : Bool) (limit : Nat) (node : Node) : Except Fault (List Node) :=
  match collectionType? node.tag with
  | some type => do
    let made ← Making.collection ⟨limit, deepDatum isOld limit, shallowDatum isOld⟩ type node
    return made.2
  | none => .ok []

/-- Make the members of all pending collections, level by level. -/
def expandAll (isOld : Bool) (limit : Nat) (pending : List Node) : Except Fault Unit :=
  match limit, pending with
  | _, [] | 0, _ => .ok ()
  | limit + 1, pending => do
    let next ← pending.mapM (expand isOld (limit + 1))
    expandAll isOld limit next.flatten

/-- The datum of the root of a document. -/
def Node.datum (isOld : Bool) (limit : Nat) (root : Node) : Except Fault Datum := do
  let (_, pending) ← shallowDatum isOld root
  expandAll isOld limit pending
  deepDatum isOld limit root

/-- The datum that a text denotes as a document; a text without a document denotes
nothing. -/
def read (text : List Char) : Except Fault Datum := do
  match ← readNode text with
  | (none, _) => return .null
  | (some root, isOld) => root.datum isOld (stepBound text)

end Yaml
end ImportCensus

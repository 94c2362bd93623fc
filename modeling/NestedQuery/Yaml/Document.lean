/-
Reading YAML documents from their tokens. Anchored nodes are numbered, and a link holds the number of its
target. Every step of the reader is one of a few for each token, so the number of tokens bounds the
recursion.
-/
import NestedQuery.Yaml.Basic
import NestedQuery.Yaml.Token

namespace NestedQuery.Yaml

/-! ## Anchors -/

/-- An anchored node: the number of anchors before it in the text, its number for links, and the node. -/
structure Anchored where
  order : Nat
  number : Nat
  node : Node

/-- The anchors so far. -/
structure Anchors where
  /-- Names with their numbers, the latest first. -/
  names : List (String × Nat) := []
  nodes : List Anchored := []

namespace Anchors

/-- The next anchor has as number the count of different names before it. So a name that is given again and
the next new name have the same number. -/
def nextNumber (a : Anchors) : Nat := (a.names.map (·.1)).eraseDups.length

def declare (a : Anchors) (name : String) : Anchors := { a with names := (name, a.nextNumber) :: a.names }

/-- The number that a name stands for. -/
def number? (a : Anchors) (name : String) : Option Nat := (a.names.find? (·.1 == name)).map (·.2)

/-- The target of a number: the node that is the last in the text to have it. -/
def target? (a : Anchors) (number : Nat) : Option Node :=
  let later (best : Option Anchored) (next : Anchored) : Option Anchored :=
    match best with
    | some b => if b.order < next.order then some next else some b
    | none => some next
  ((a.nodes.filter (·.number == number)).foldl later none).map (·.node)

end Anchors

/-! ## Tokens in turn -/

/-- The tokens still to be read, the anchors so far, and what handles stand for. -/
structure Source where
  tokens : List Token
  anchors : Anchors := {}
  handles : List (String × List UInt8) := []

abbrev Reading := StateT Source Option

namespace Reading

def peek : Reading (Option Token) := do return (← get).tokens.head?

def skip : Reading Unit := modify fun s => { s with tokens := s.tokens.drop 1 }

def refuse {α : Type} : Reading α := fun _ => none

/-! ## Properties -/

/-- The tag that a written one stands for. -/
def tag (t : TagText) : Reading Tag := do
  if t.handle.isEmpty then return ⟨t.suffix⟩
  else
    match (← get).handles.find? (·.1 == t.handle) with
    | some (_, start) => return ⟨start ++ t.suffix⟩
    | none => refuse

/-- Anchor and tag of a node. -/
structure Properties where
  anchor : Option String := none
  tag : Option Tag := none

/-- Reads an anchor, a tag, or both in either order. -/
def properties : Reading Properties := do
  match ← peek with
  | some (.anchor name) =>
    skip
    match ← peek with
    | some (.tag t) =>
      skip
      return ⟨some name, some (← tag t)⟩
    | _ => return ⟨some name, none⟩
  | some (.tag t) =>
    skip
    let t ← tag t
    match ← peek with
    | some (.anchor name) =>
      skip
      return ⟨some name, some t⟩
    | _ => return ⟨none, some t⟩
  | _ => return {}

/-- A node that has properties may have no content. -/
def emptyNode (p : Properties) : Reading Node :=
  if p.anchor.isSome || p.tag.isSome then return .scalar p.tag true "" else refuse

/-- A link to a node with the given name. -/
def link (name : String) : Reading Node := do
  match (← get).anchors.number? name with
  | some number => return .link number
  | none => refuse

/-- Reads a node with an anchor, which is declared first and may stand in the node itself. -/
def anchored (name : Option String) (content : Reading Node) : Reading Node := do
  match name with
  | none => content
  | some name =>
    let anchors := (← get).anchors
    modify fun s => { s with anchors := anchors.declare name }
    let node ← content
    let entry : Anchored := ⟨anchors.names.length, anchors.nextNumber, node⟩
    modify fun s => { s with anchors := { s.anchors with nodes := entry :: s.anchors.nodes } }
    return node

/-! ## Nodes -/

/-- Where a node stands: between brackets, in a block, or as key or value in a block mapping, where a sequence
may start in the column of the mapping. -/
inductive Slot where
  | flow
  | block
  | member
  deriving DecidableEq

def endsItem : Option Token → Bool
  | some .dash | some .blockEnd => true
  | _ => false

def endsMember : Option Token → Bool
  | some .key | some .value | some .blockEnd => true
  | _ => false

def endsLooseItem (t : Option Token) : Bool := endsItem t || endsMember t

def endsFlowItem : Option Token → Bool
  | some .comma | some .closeSeq => true
  | _ => false

def endsFlowValue : Option Token → Bool
  | some .comma | some .closeMap => true
  | _ => false

def isValue : Option Token → Bool
  | some .value => true
  | _ => false

/-- Passes the comma before every item but the first. -/
def comma (first : Bool) : Reading Unit := do
  if first then return ()
  else
    match ← peek with
    | some .comma => skip
    | _ => refuse

mutual

def node : Nat → Slot → Reading Node
  | 0, _ => refuse
  | steps + 1, slot => do
    match ← peek with
    | some (.link name) =>
      skip
      link name
    | _ =>
      let p ← properties
      anchored p.anchor (content steps slot p)

/-- The content of a node behind its properties. -/
def content : Nat → Slot → Properties → Reading Node
  | 0, _, _ => refuse
  | steps + 1, slot, p => do
    match ← peek with
    | some (.scalar plain text) =>
      skip
      return .scalar p.tag plain text
    | some .openSeq =>
      skip
      return .seq (← flowItems steps true)
    | some .openMap =>
      skip
      return .map (← flowEntries steps true)
    | some .dash => if slot = .member then return .seq (← looseItems steps) else emptyNode p
    | some .blockSeq =>
      if slot = .flow then emptyNode p
      else
        skip
        return .seq (← blockItems steps)
    | some .blockMap =>
      if slot = .flow then emptyNode p
      else
        skip
        return .map (← blockEntries steps)
    | _ => emptyNode p

/-- A node, or nothing where the next token already belongs to what follows. -/
def nodeUnless : Nat → (Option Token → Bool) → Slot → Reading Node
  | 0, _, _ => refuse
  | steps + 1, ends, slot => do
    if ends (← peek) then return .empty else node steps slot

/-- What follows the mark of a value, if the mark is there. -/
def valueUnless : Nat → (Option Token → Bool) → Slot → Reading Node
  | 0, _, _ => refuse
  | steps + 1, ends, slot => do
    if isValue (← peek) then
      skip
      nodeUnless steps ends slot
    else return .empty

/-- The items of a block sequence. -/
def blockItems : Nat → Reading (List Node)
  | 0 => refuse
  | steps + 1 => do
    match ← peek with
    | some .dash =>
      skip
      let item ← nodeUnless steps endsItem .block
      return item :: (← blockItems steps)
    | some .blockEnd =>
      skip
      return []
    | _ => refuse

/-- The items of a sequence in the column of the mapping around it; it ends before any other token. -/
def looseItems : Nat → Reading (List Node)
  | 0 => refuse
  | steps + 1 => do
    match ← peek with
    | some .dash =>
      skip
      let item ← nodeUnless steps endsLooseItem .block
      return item :: (← looseItems steps)
    | _ => return []

/-- The entries of a block mapping. -/
def blockEntries : Nat → Reading (List (Node × Node))
  | 0 => refuse
  | steps + 1 => do
    match ← peek with
    | some .key =>
      skip
      let key ← nodeUnless steps endsMember .member
      let value ← valueUnless steps endsMember .member
      return (key, value) :: (← blockEntries steps)
    | some .blockEnd =>
      skip
      return []
    | _ => refuse

/-- The items of a sequence between brackets; a comma may stand before the closing one. -/
def flowItems : Nat → Bool → Reading (List Node)
  | 0, _ => refuse
  | steps + 1, first => do
    match ← peek with
    | some .closeSeq =>
      skip
      return []
    | _ =>
      comma first
      match ← peek with
      | some .closeSeq =>
        skip
        return []
      | some .key =>
        skip
        let item ← flowPair steps
        return item :: (← flowItems steps false)
      | _ =>
        let item ← node steps .flow
        return item :: (← flowItems steps false)

/-- An item that is a mapping with one entry. The token behind a missing key is passed with it. -/
def flowPair : Nat → Reading Node
  | 0 => refuse
  | steps + 1 => do
    let ahead ← peek
    let key ← nodeUnless steps (fun t => isValue t || endsFlowItem t) .flow
    if isValue ahead || endsFlowItem ahead then skip
    let value ← valueUnless steps endsFlowItem .flow
    return .map [(key, value)]

/-- The entries of a mapping between brackets. An entry without the mark of a key is a key alone. -/
def flowEntries : Nat → Bool → Reading (List (Node × Node))
  | 0, _ => refuse
  | steps + 1, first => do
    match ← peek with
    | some .closeMap =>
      skip
      return []
    | _ =>
      comma first
      match ← peek with
      | some .closeMap =>
        skip
        return []
      | some .key =>
        skip
        let key ← nodeUnless steps (fun t => isValue t || endsFlowValue t) .flow
        let value ← valueUnless steps endsFlowValue .flow
        return (key, value) :: (← flowEntries steps false)
      | _ =>
        let key ← node steps .flow
        return (key, .empty) :: (← flowEntries steps false)

end

/-! ## Documents -/

/-- Reads the directives before a document. The version is given at most once and is 1.1 or 1.2; no handle
is given twice. -/
def directives : Nat → Bool → Reading Unit
  | 0, _ => refuse
  | steps + 1, versioned => do
    match ← peek with
    | some (.directive (.version major minor)) =>
      if versioned || major != 1 || (minor != 1 && minor != 2) then refuse
      else
        skip
        directives steps true
    | some (.directive (.handle handle start)) =>
      if (← get).handles.any (·.1 == handle) then refuse
      else
        skip
        modify fun s => { s with handles := (handle, start) :: s.handles }
        directives steps versioned
    | _ => return ()

/-- What handles stand for unless a directive says otherwise. -/
def defaultHandles : List (String × List UInt8) :=
  [("!", (Tag.ofText "!").octets), ("!!", (Tag.ofText "tag:yaml.org,2002:").octets)]

def endsDocument : Option Token → Bool
  | none | some (.directive _) | some .documentStart | some .documentEnd => true
  | _ => false

/-- Reads the root of the first document. Directives need the marker that starts a document, and only behind
the marker, or in a text without any token, may the document be empty. -/
def root (steps : Nat) : Reading Node := do
  let ahead ← peek
  if ahead.isNone then return .empty
  else
    match ahead with
    | some (.directive _) | some .documentStart =>
      directives steps false
      modify fun s => { s with handles := s.handles ++ defaultHandles }
      match ← peek with
      | some .documentStart =>
        skip
        nodeUnless steps endsDocument .block
      | _ => refuse
    | _ =>
      modify fun s => { s with handles := defaultHandles }
      node steps .block

end Reading

/-- A document: its root, and the nodes that links lead to. -/
structure Document where
  root : Node
  anchors : Anchors

/-- Nothing but markers that end it may follow a document. -/
def onlyEnds (tokens : List Token) : Bool :=
  tokens.all fun
    | .documentEnd => true
    | _ => false

namespace Document

/-- The only document in a text. -/
def parse? (text : String) : Option Document := do
  let tokens ← tokens? text
  let (root, source) ← (Reading.root (4 * tokens.length + 4)).run { tokens }
  if onlyEnds source.tokens then return ⟨root, source.anchors⟩ else none

/-! ## Views -/

/-- A node, or the target of a link. -/
def follow (d : Document) : Node → Node
  | .link number => (d.anchors.target? number).getD .empty
  | node => node

/-- The items of a sequence; nothing is a sequence without items. -/
def items? (d : Document) (node : Node) : Option (List Node) :=
  match d.follow node with
  | .seq items => some items
  | .scalar _ true "" => some []
  | _ => none

/-- The entries of a mapping, whose keys have to be scalars; nothing is a mapping without entries. -/
def entries? (d : Document) (node : Node) : Option (List (String × Node)) :=
  match d.follow node with
  | .map entries => entries.mapM fun (key, value) => (d.follow key).text?.map (·, value)
  | .scalar _ true "" => some []
  | _ => none

/-- The fields of a record: a mapping, in which other keys are skipped and a field may not be repeated. -/
def fields? (d : Document) (names : List String) (node : Node) : Option (List (String × Node)) := do
  let entries ← d.entries? node
  let fields := entries.filter (names.contains ·.1)
  if (fields.map (·.1)).Nodup then some fields else none

/-! ## Links followed -/

/-- The links among some nodes. -/
def linkCount (nodes : List Node) : Nat := nodes.countP (·.isLink)

/-- The links followed to read the fields of a record: to itself, to keys, and to the values of fields. -/
def recordLinks (d : Document) (names : List String) (node : Node) : Nat :=
  let inside := match d.follow node with
    | .map entries =>
      let fields := entries.filter fun (key, _) => (d.follow key).text?.any names.contains
      linkCount (entries.map (·.1)) + linkCount (fields.map (·.2))
    | _ => 0
  linkCount [node] + inside

/-- A document allows to follow a hundred links for each of its parts. -/
def linkLimit (d : Document) : Nat := 100 * d.root.parts

end Document

end NestedQuery.Yaml

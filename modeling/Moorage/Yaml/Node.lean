import Moorage.Yaml.Tag
import Moorage.Yaml.Token.Lexer

/-!
# `Moorage.Yaml.Node`: the nodes of a YAML document

A node is a scalar or a collection with an optional tag. `Outline` is a node as
the text writes it, with aliases by number; `Reading.document` reads it by the
grammar of tokens. `Node.documents` puts for every alias the node that it stands
for. An alias stands for the last node that was given its number, and numbers
count the distinct anchor names met before.
-/

set_option autoImplicit false

namespace Moorage.Yaml

/-- A node as the text writes it. -/
inductive Outline where
  | alias (number : Nat)
  | scalar (tag : Option Tag) (style : Style) (text : String)
  | sequence (tag : Option Tag) (items : List Outline)
  | mapping (tag : Option Tag) (entries : List (Outline × Outline))
  deriving Repr, Inhabited

/-- A node. Where an alias stood, the node that it stands for is marked, because
an alias takes part in fewer rules than the node in its place would. -/
inductive Node where
  | alias (target : Node)
  | scalar (tag : Option Tag) (style : Style) (text : String)
  | sequence (tag : Option Tag) (items : List Node)
  | mapping (tag : Option Tag) (entries : List (Node × Node))
  deriving Repr, Inhabited

/-- The node that an alias stands for, and any other node itself. -/
def Node.target : Node → Node
  | .alias target => target.target
  | node => node

/-- The tag of a node. -/
def Node.tag : Node → Option Tag
  | .alias target => target.tag
  | .scalar tag .. | .sequence tag _ | .mapping tag _ => tag

/-- The text of a scalar that stands in its place. -/
def Node.label? : Node → Option String
  | .scalar _ _ text => some text
  | _ => none

/-- A node with an anchor: how many such nodes began before it, the number of its
anchor and the node. -/
structure Anchored where
  serial : Nat
  number : Nat
  node : Outline
  deriving Repr, Inhabited

/-- The anchors of a document: the numbers of the names, how many nodes with an
anchor have begun, and those that are complete. -/
structure Anchors where
  numbers : List (String × Nat) := []
  begun : Nat := 0
  complete : List Anchored := []
  deriving Repr, Inhabited

namespace Anchors

/-- The count of distinct names. -/
def size (a : Anchors) : Nat := a.numbers.length

/-- Gives a name the next number. The result is how many nodes with an anchor
began before, that number, and the anchors from now on. -/
def declare (a : Anchors) (name : String) : Nat × Nat × Anchors :=
  let number := a.size
  (a.begun, number,
    { a with numbers := (name, number) :: a.numbers.filter (·.1 ≠ name), begun := a.begun + 1 })

/-- The nodes of the numbers, those that began later first. -/
def nodes (a : Anchors) : List (Nat × Outline) :=
  (a.complete.mergeSort fun x y => y.serial ≤ x.serial).map fun x => (x.number, x.node)

/-- The number of a name. -/
def number? (a : Anchors) (name : String) : Option Nat :=
  (a.numbers.find? (·.1 = name)).map (·.2)

end Anchors

/-- The state of the reader of tokens: the tokens to come, the tag handles of the
document, the anchors met, and the count of nodes and ends of collections. -/
structure Reader where
  tokens : List Token
  handles : List (String × List UInt8) := []
  anchors : Anchors := {}
  events : Nat := 0
  deriving Repr, Inhabited

/-- A step of reading: it fails, or it gives a result and the state after it. -/
abbrev Reading (α : Type) := StateT Reader (Except Fault) α

namespace Reading

/-- The next token. -/
def peek : Reading (Option Token) := do return (← get).tokens.head?

/-- Passes over the next token. -/
def skip : Reading Unit := modify fun r => { r with tokens := r.tokens.drop 1 }

/-- Passes over the next token if it is the given one. -/
def accept (token : Token) : Reading Bool := do
  if (← peek) = some token then
    skip
    return true
  else return false

/-- Counts one more node or end of a collection. -/
def count : Reading Unit := modify fun r => { r with events := r.events + 1 }

/-- Fails for a reason of grammar. -/
def refuse {α : Type} (reason : String) : Reading α := throw (.malformed reason)

/-- The node of a place where nothing stands. -/
def emptyNode : Reading Outline := do
  count
  return .scalar none .plain ""

/-- Whether the next token is one of the given ones, or the tokens are at their
end. -/
def atOneOf (tokens : List Token) : Reading Bool := do
  return (← peek).all tokens.contains

/-- The full tag of a handle and a suffix. -/
def resolveTag (handle : String) (suffix : List UInt8) : Reading Tag := do
  if handle = "" then return ⟨suffix⟩
  match (← get).handles.find? (·.1 = handle) with
  | some (_, lead) => return ⟨lead ++ suffix⟩
  | none => refuse "an undefined tag handle"

/-- The serial and the number of the anchor of a node that begins, if it has
one. -/
def declareAnchor (anchor : Option String) : Reading (Option (Nat × Nat)) := do
  match anchor with
  | none => return none
  | some name =>
      let r ← get
      let (serial, number, anchors) := r.anchors.declare name
      set { r with anchors := anchors }
      return some (serial, number)

/-- Records the complete node of an anchor. -/
def bindAnchor (anchor : Option (Nat × Nat)) (node : Outline) : Reading Outline := do
  match anchor with
  | none => return node
  | some (serial, number) =>
      modify fun r =>
        { r with anchors.complete :=
            { serial := serial, number := number, node := node } :: r.anchors.complete }
      return node

/-- The anchor and the tag in front of a node, in either order. -/
def properties : Reading (Option String × Option Tag) := do
  match ← peek with
  | some (.anchor name) =>
      skip
      match ← peek with
      | some (.tag handle suffix) =>
          skip
          return (some name, some (← resolveTag handle suffix))
      | _ => return (some name, none)
  | some (.tag handle suffix) =>
      skip
      match ← peek with
      | some (.anchor name) =>
          skip
          return (some name, some (← resolveTag handle suffix))
      | _ => return (none, some (← resolveTag handle suffix))
  | _ => return (none, none)

mutual

/-- A node. `block` allows block collections; `indentless` allows a block
sequence at the column of its parent mapping. -/
def node (block indentless : Bool) : (fuel : Nat) → Reading Outline
  | 0 => refuse "no end of the nodes"
  | fuel + 1 => do
      match ← peek with
      | some (.alias name) =>
          skip
          count
          match (← get).anchors.number? name with
          | some number => return .alias number
          | none => throw .unknownAlias
      | _ =>
          let (anchor, tag) ← properties
          let token ← peek
          if indentless && token = some .blockEntry then
            let number ← declareAnchor anchor
            count
            bindAnchor number (.sequence tag (← indentlessItems fuel))
          else
            match token with
            | some (.scalar text style) =>
                skip
                count
                let number ← declareAnchor anchor
                bindAnchor number (.scalar tag style text)
            | some .flowSequenceStart =>
                skip
                let number ← declareAnchor anchor
                count
                bindAnchor number (.sequence tag (← flowItems true fuel))
            | some .flowMappingStart =>
                skip
                let number ← declareAnchor anchor
                count
                bindAnchor number (.mapping tag (← flowEntries true fuel))
            | some .blockSequenceStart =>
                if block then
                  skip
                  let number ← declareAnchor anchor
                  count
                  bindAnchor number (.sequence tag (← blockItems fuel))
                else nothing anchor tag
            | some .blockMappingStart =>
                if block then
                  skip
                  let number ← declareAnchor anchor
                  count
                  bindAnchor number (.mapping tag (← blockEntries fuel))
                else nothing anchor tag
            | _ => nothing anchor tag

/-- A node of properties alone, which is an empty scalar. -/
def nothing (anchor : Option String) (tag : Option Tag) : Reading Outline := do
  if anchor.isNone && tag.isNone then refuse "a missing node"
  else
    count
    let number ← declareAnchor anchor
    bindAnchor number (.scalar tag .plain "")

/-- A node, or an empty one where a token of the list comes next. -/
def nodeUnless (stops : List Token) (block indentless : Bool) :
    (fuel : Nat) → Reading Outline
  | 0 => refuse "no end of the nodes"
  | fuel + 1 => do
      if ((← peek).any stops.contains) then emptyNode else node block indentless fuel

/-- The entries of a block sequence after its start. -/
def blockItems : (fuel : Nat) → Reading (List Outline)
  | 0 => refuse "no end of the nodes"
  | fuel + 1 => do
      if ← accept .blockEntry then
        let item ← nodeUnless [.blockEntry, .blockEnd] true false fuel
        return item :: (← blockItems fuel)
      else if ← accept .blockEnd then
        count
        return []
      else refuse "a block sequence without a hyphen"

/-- The entries of a block sequence at the column of its parent. -/
def indentlessItems : (fuel : Nat) → Reading (List Outline)
  | 0 => refuse "no end of the nodes"
  | fuel + 1 => do
      if ← accept .blockEntry then
        let item ← nodeUnless [.blockEntry, .key, .value, .blockEnd] true false fuel
        return item :: (← indentlessItems fuel)
      else
        count
        return []

/-- The entries of a block mapping after its start. -/
def blockEntries : (fuel : Nat) → Reading (List (Outline × Outline))
  | 0 => refuse "no end of the nodes"
  | fuel + 1 => do
      if ← accept .key then
        let key ← nodeUnless [.key, .value, .blockEnd] true true fuel
        let value ← blockValue fuel
        return (key, value) :: (← blockEntries fuel)
      else if ← accept .blockEnd then
        count
        return []
      else refuse "a block mapping without a key"

/-- The value of a block mapping's entry. -/
def blockValue : (fuel : Nat) → Reading Outline
  | 0 => refuse "no end of the nodes"
  | fuel + 1 => do
      if ← accept .value then nodeUnless [.key, .value, .blockEnd] true true fuel
      else emptyNode

/-- The items of a flow sequence after its start. An item may be a mapping of one
entry without braces. -/
def flowItems (first : Bool) : (fuel : Nat) → Reading (List Outline)
  | 0 => refuse "no end of the nodes"
  | fuel + 1 => do
      if ← accept .flowSequenceEnd then
        count
        return []
      else
        unless first do
          unless ← accept .flowEntry do refuse "a flow sequence without a comma"
        if ← accept .key then
          let item ← singleEntry fuel
          return item :: (← flowItems false fuel)
        else if ← accept .flowSequenceEnd then
          count
          return []
        else
          let item ← node false false fuel
          return item :: (← flowItems false fuel)

/-- The mapping of one entry inside a flow sequence, after the token of its
key. -/
def singleEntry : (fuel : Nat) → Reading Outline
  | 0 => refuse "no end of the nodes"
  | fuel + 1 => do
      count
      let key ←
        if ← atOneOf [.value, .flowEntry, .flowSequenceEnd] then
          skip
          emptyNode
        else node false false fuel
      let value ←
        if ← accept .value then
          nodeUnless [.flowEntry, .flowSequenceEnd] false false fuel
        else emptyNode
      count
      return .mapping none [(key, value)]

/-- The entries of a flow mapping after its start. -/
def flowEntries (first : Bool) : (fuel : Nat) → Reading (List (Outline × Outline))
  | 0 => refuse "no end of the nodes"
  | fuel + 1 => do
      if ← accept .flowMappingEnd then
        count
        return []
      else
        unless first do
          unless ← accept .flowEntry do refuse "a flow mapping without a comma"
        if ← accept .key then
          let key ← nodeUnless [.value, .flowEntry, .flowMappingEnd] false false fuel
          let value ←
            if ← accept .value then
              nodeUnless [.flowEntry, .flowMappingEnd] false false fuel
            else emptyNode
          return (key, value) :: (← flowEntries false fuel)
        else if ← accept .flowMappingEnd then
          count
          return []
        else
          let key ← node false false fuel
          let value ← emptyNode
          return (key, value) :: (← flowEntries false fuel)

end

/-- The directives in front of a document: at most one version, which must be 1.1
or 1.2, and tag handles, each at most once. -/
def directives : (fuel : Nat) → (versioned : Bool) → Reading Unit
  | 0, _ => refuse "no end of the directives"
  | fuel + 1, versioned => do
      match ← peek with
      | some (.versionDirective major minor) =>
          let number (digits : List Char) := digits.dropWhile (· = '0')
          if versioned then refuse "a second version directive"
          else if number major ≠ ['1'] || !(number minor = ['1'] || number minor = ['2']) then
            refuse "an incompatible version"
          else
            skip
            directives fuel true
      | some (.tagDirective handle lead) =>
          if (← get).handles.any (·.1 = handle) then refuse "a second directive for a tag handle"
          else
            modify fun r => { r with handles := (handle, lead) :: r.handles }
            skip
            directives fuel versioned
      | _ => return ()

/-- The tag handles that every document has, after its own. -/
def defaultHandles : List (String × List UInt8) :=
  [("!", Tag.bytesOf "!"), ("!!", Tag.bytesOf "tag:yaml.org,2002:")]

/-- Whether a token begins or ends a document, as the end of the tokens does. -/
def isBoundary : Token → Bool
  | .versionDirective .. | .tagDirective .. | .documentStart | .documentEnd => true
  | _ => false

/-- The root node of the next document, or nothing at the end of the text. Only the
first document may do without a mark of its start. Tag handles and anchors are
those of one document. -/
def document (isFirst : Bool) : Reading (Option Outline) := do
  let fuel := 8 * (← get).tokens.length + 8
  if !isFirst then
    modify fun r => { r with tokens := r.tokens.dropWhile (· = .documentEnd) }
  if (← peek).isNone then return none
  modify fun r => { tokens := r.tokens }
  let isExplicit := !isFirst || (match ← peek with
    | some (.versionDirective ..) | some (.tagDirective ..) | some .documentStart => true
    | _ => false)
  directives fuel false
  modify fun r => { r with handles := r.handles ++ defaultHandles }
  if isExplicit then
    unless ← accept .documentStart do refuse "a document without a start"
  let root ← if isExplicit && (← peek).all isBoundary then emptyNode else node true false fuel
  let _ ← accept .documentEnd
  return some root

end Reading

namespace Node

/-- The most collections that may be nested in one another. -/
def depthLimit : Nat := 128

/-- What the replacement of aliases needs to know: the nodes of the numbers, and
how many replacements are allowed. -/
structure Aliases where
  nodes : List (Nat × Outline)
  limit : Nat

/-- The outline that stands at a place, after the replacement of an alias, and
whether there was one. The state counts the replacements. -/
def follow (aliases : Aliases) (outline : Outline) :
    StateT Nat (Except Fault) (Outline × Bool) := do
  match outline with
  | .alias number =>
      let jumps := (← get) + 1
      set jumps
      if aliases.limit < jumps then throw .aliasFlood
      match aliases.nodes.find? (·.1 = number) with
      | some (_, target) => return (target, true)
      | none => throw .tooDeep
  | _ => return (outline, false)

/-- The node of an outline with at most `depth` collections in one another. An
alias inside the node that it stands for has no node yet, and none in finite
depth. -/
def expand (aliases : Aliases) : (depth : Nat) → Outline → StateT Nat (Except Fault) Node
  | depth, outline => do
      let (target, isAlias) ← follow aliases outline
      let node ← match depth, target with
        | _, .alias _ => throw .unknownAlias
        | _, .scalar tag style text => pure (.scalar tag style text)
        | 0, _ => throw .tooDeep
        | d + 1, .sequence tag items =>
            pure (.sequence tag (← items.mapM (expand aliases d)))
        | d + 1, .mapping tag entries =>
            let entries ← entries.mapM fun (key, value) => do
              return (← expand aliases d key, ← expand aliases d value)
            pure (.mapping tag entries)
      return if isAlias then .alias node else node

/-- The root nodes of the documents from the reader's position on. -/
def documentsFrom (isFirst : Bool) : (fuel : Nat) → Reader → Except Fault (List Node)
  | 0, _ => .error (.malformed "no end of the documents")
  | fuel + 1, reader => do
      let (root, reader) ← (Reading.document isFirst).run reader
      match root with
      | none => return []
      | some outline =>
          let aliases : Aliases :=
            { nodes := reader.anchors.nodes, limit := 100 * reader.events }
          let (node, _) ← (expand aliases depthLimit outline).run 0
          return node :: (← documentsFrom false fuel reader)

/-- The root nodes of the documents of a text. -/
def documents (text : String) : Except Fault (List Node) := do
  let tokens ← Token.ofText text
  documentsFrom true (tokens.length + 1) { tokens := tokens }

/-- The root node of a text, or nothing for a text without a document. -/
def ofText (text : String) : Except Fault (Option Node) := do
  match ← documents text with
  | [] => return none
  | [node] => return some node
  | _ => throw .secondDocument

end Node

end Moorage.Yaml

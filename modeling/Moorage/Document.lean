import Moorage.Registry
import Moorage.Resource.Shape
import Moorage.Text.Utf8

/-!
# `Moorage.Document`: documents that declare resources

A document is a list of declarations. The keys that every declaration has are
read from the text of their scalars; the other keys are typed data for the type
that is declared. `Document.load` reads a text against the directory that its
relative paths start from, `Document.loadFile` a file against its directory.

The whole document is read first. A misshapen document is reported by the place
of the first misfit, but only when its text has a YAML value at all.
-/

set_option autoImplicit false

namespace Moorage

open Yaml (Node Value)

/-- A declaration before its own keys are read. -/
structure Declaration where
  type : ResourceType
  name : String
  moduleName : Option String
  isDisabled : Bool
  dependsOn : List String
  fields : List (Value × Value)
  deriving Repr, Inhabited

namespace Document

/-- Why a document cannot be read: it has no value, or not the right shape. -/
inductive Refusal where
  | fault (fault : Yaml.Fault)
  | misfit (misplaced : Misplaced)
  deriving Repr

/-- A result or the refusal of a document. -/
abbrev Reads := Except Refusal

/-- Refuses the shape of what stands at a place. -/
def misfit {α : Type} (place : String) (mismatch : Mismatch) : Reads α :=
  .error (.misfit { place := place, mismatch := mismatch })

/-- What a node is, for a message. -/
def foundAt : Node → Found
  | .alias target => foundAt target
  | .sequence .. => .sequence
  | .mapping .. => .map
  | .scalar tag style text =>
      match Yaml.readScalar tag style text with
      | .ok .null => .unit
      | .ok (.boolean b) => .boolean b
      | .ok (.integer n) => .integer n
      | .ok (.float x) => .float x
      | .ok .wideInteger | .ok .text | .error _ => .text text

/-- Refuses a node for the type that it has. -/
def refuse {α : Type} (place : String) (node : Node) (expected : String) : Reads α :=
  misfit place (.invalidType (foundAt node) expected)

/-- The place of a key below a place. A key that is no scalar has no name. -/
def below (place : String) (key : Option String) : String :=
  match place, key with
  | "", some key => key
  | "", none => "?"
  | place, some key => s!"{place}.{key}"
  | place, none => s!"{place}.?"

/-- The place of an item of a sequence. -/
def item (place : String) (index : Nat) : String := s!"{place}[{index}]"

/-- Whether a node stands where the text writes nothing. -/
def isBare (node : Node) : Bool :=
  match node.target with
  | .scalar _ .plain "" => true
  | _ => false

/-- The text of a scalar as it is written. -/
def rawText (expected place : String) (node : Node) : Reads String :=
  match node.target with
  | .scalar _ _ text => .ok text
  | node => refuse place node expected

/-- The text of a scalar, or nothing for a plain null. A tag of the core schema
may ask for null as well. -/
def rawOptional (place : String) (node : Node) : Reads (Option String) :=
  match node.target with
  | .scalar none .plain text =>
      .ok (if text = "" || Yaml.Core.isNull text then none else some text)
  | .scalar (some tag) .plain text =>
      if tag = Yaml.Tag.core "null" then
        if Yaml.Core.isNull text then .ok none
        else misfit place (.invalidValue (.text text) "null")
      else .ok (some text)
  | _ => (rawText "a string" place node).map some

/-- A boolean that is written plainly. -/
def rawBoolean (place : String) (node : Node) : Reads Bool :=
  match node.target with
  | .scalar tag style text =>
      let isLiteral := style = .plain || (style = .literal && tag = some (Yaml.Tag.core "bool"))
      match if isLiteral then Yaml.Core.boolean? text else none with
      | some b => .ok b
      | none => refuse place node "a boolean"
  | _ => refuse place node "a boolean"

/-- A list of texts as they are written. -/
def rawTexts (place : String) (node : Node) : Reads (List String) :=
  match node.target with
  | .sequence _ items =>
      items.zipIdx.mapM fun (node, index) => rawText "a string" (item place index) node
  | _ => if isBare node then .ok [] else refuse place node "a sequence"

/-- The words of the resource types. -/
def typeWords : List String := ResourceType.all.map ResourceType.keyword

/-- The type that a word stands for. -/
def typeOfWord (place word : String) : Reads ResourceType :=
  match ResourceType.ofKeyword? word with
  | some type => .ok type
  | none => misfit place (.unknownVariant word typeWords)

/-- A resource type: the word as it is written, or the name of a custom tag on
nothing. An unknown name is a fault of the whole declaration, at `owner`, unless an
alias brings it in. -/
def resourceType (owner place : String) (node : Node) : Reads ResourceType :=
  let typeOfTag (namePlace tag : String) (node : Node) : Reads ResourceType := do
    let type ← typeOfWord namePlace tag
    match node with
    | .scalar _ style text =>
        if style = .plain && (text = "" || Yaml.Core.isNull text) then .ok type
        else misfit place (.invalidValue (.text text) "null")
    | _ => refuse place node "unit"
  let typeOf (namePlace : String) (node : Node) : Reads ResourceType :=
    match Yaml.customName? node.tag, node with
    | some name, _ => typeOfTag namePlace name node
    | none, .scalar _ _ text => typeOfWord place text
    | none, _ => refuse place node "a YAML tag starting with '!'"
  match node with
  | .alias target => typeOf place target
  | _ => typeOf owner node

mutual

/-- The place of the first custom tag of a node, if it has any. -/
def taggedPlace? (place : String) : Node → Option String
  | .alias target => taggedPlace? place target
  | .scalar tag _ _ => if (Yaml.customName? tag).isSome then some place else none
  | .sequence tag items =>
      if (Yaml.customName? tag).isSome then some place else taggedItem? place 0 items
  | .mapping tag entries =>
      if (Yaml.customName? tag).isSome then some place else taggedEntry? place entries

/-- The place of the first custom tag among the items of a sequence. -/
def taggedItem? (place : String) (index : Nat) : List Node → Option String
  | [] => none
  | node :: rest =>
      taggedPlace? (item place index) node <|> taggedItem? place (index + 1) rest

/-- The place of the first custom tag among the entries of a mapping. -/
def taggedEntry? (place : String) : List (Node × Node) → Option String
  | [] => none
  | entry :: rest => taggedIn? place entry <|> taggedEntry? place rest

/-- The place of the first custom tag in a key or its value. -/
def taggedIn? (place : String) : Node × Node → Option String
  | (key, value) => taggedPlace? place key <|> taggedPlace? (below place key.label?) value

end

/-- The data of a key that belongs to the declared type. Custom tags have no
place in it. -/
def fieldValue (place : String) (node : Node) : Reads Value :=
  match taggedPlace? place node with
  | some tagged => misfit tagged .taggedValue
  | none => (Value.ofNode false node).mapError .fault

/-- What has been read of a declaration. -/
structure Draft where
  type : Option ResourceType := none
  name : Option String := none
  moduleName : Option (Option String) := none
  isDisabled : Option Bool := none
  dependsOn : Option (List String) := none
  fields : List (String × Value) := []

/-- Stores a key that may occur once. -/
def once {α : Type} (place key : String) (earlier : Option α) (value : Reads α) :
    Reads (Option α) :=
  if earlier.isSome then misfit place (.duplicateField key) else value.map some

/-- The draft with one more entry. -/
def Draft.take (place : String) (draft : Draft) (entry : Node × Node) : Reads Draft := do
  let (key, value) := entry
  let valuePlace := below place key.label?
  match ← rawText "field identifier" place key with
  | "type" =>
      return { draft with
        type := ← once place "type" draft.type (resourceType place valuePlace value) }
  | "name" =>
      return { draft with
        name := ← once place "name" draft.name (rawText "a string" valuePlace value) }
  | "module" =>
      return { draft with
        moduleName := ← once place "module" draft.moduleName (rawOptional valuePlace value) }
  | "disabled" =>
      return { draft with
        isDisabled := ← once place "disabled" draft.isDisabled (rawBoolean valuePlace value) }
  | "depends_on" =>
      return { draft with
        dependsOn := ← once place "depends_on" draft.dependsOn (rawTexts valuePlace value) }
  | key => return { draft with fields := draft.fields ++ [(key, ← fieldValue valuePlace value)] }

/-- A value that must have been given. -/
def required {α : Type} (place key : String) : Option α → Reads α
  | some x => .ok x
  | none => misfit place (.missingField key)

/-- The first key that occurs again later. -/
def repeated? (fields : List (String × Value)) : Option String :=
  (fields.zipIdx.find? fun (field, index) =>
    (fields.take index).any fun earlier => earlier.1 = field.1).map fun found => found.1.1

/-- The declaration of a complete draft. -/
def Draft.finish (place : String) (draft : Draft) : Reads Declaration := do
  let type ← required place "type" draft.type
  let name ← required place "name" draft.name
  match repeated? draft.fields with
  | some key => misfit place (.duplicateEntry key)
  | none =>
      return { type := type, name := name, moduleName := draft.moduleName.getD none,
               isDisabled := draft.isDisabled.getD false,
               dependsOn := draft.dependsOn.getD [],
               fields := draft.fields.map fun field => (.text field.1, field.2) }

/-- The declaration that a node writes. -/
def declaration (place : String) (node : Node) : Reads Declaration := do
  let entries ← match node.target with
    | .mapping _ entries => .ok entries
    | _ => if isBare node then .ok [] else refuse place node "struct Declaration"
  let draft ← entries.foldlM (Draft.take place) {}
  draft.finish place

/-- The declarations of the list at a place. -/
def declarations (place : String) (node : Node) : Reads (List Declaration) :=
  match node.target with
  | .sequence _ items =>
      items.zipIdx.mapM fun (node, index) => declaration (item place index) node
  | _ => if isBare node then .ok [] else refuse place node "a sequence"

/-- The declarations of a document, which has one key. -/
def ofNode (node : Node) : Reads (List Declaration) := do
  let entries ← match node.target with
    | .mapping _ entries => .ok entries
    | _ => if isBare node then .ok [] else refuse "" node "struct Document"
  let found ← entries.foldlM
    (fun found entry => do
      let (key, value) := entry
      match ← rawText "field identifier" "" key with
      | "resources" => once "" "resources" found (declarations (below "" key.label?) value)
      | key => misfit "" (.unknownField key ["resources"]))
    none
  return found.getD []

/-- The declarations that a text writes. -/
def read (text : String) : Except Error (List Declaration) :=
  match Node.ofText text with
  | .error fault => .error (.config (.notYaml fault))
  | .ok none => .ok []
  | .ok (some node) =>
      match ofNode node with
      | .ok declarations => .ok declarations
      | .error (.fault fault) => .error (.config (.notYaml fault))
      | .error (.misfit misplaced) =>
          match Value.ofNode false node with
          | .error fault => .error (.config (.notYaml fault))
          | .ok _ => .error (.config (.document misplaced))

/-- A volume whose bind source is seen from the base directory. An empty source
stays. -/
def rebasedVolume (base : String) (volume : Volume) : Volume :=
  if volume.kind = .bind ∧ volume.source ≠ "" then
    { volume with source := Path.join base volume.source }
  else volume

/-- A configuration whose relative paths are seen from the base directory. -/
def rebased (base : String) : Spec → Spec
  | .container c => .container { c with volumes := c.volumes.map (rebasedVolume base) }
  | .k8sCluster c => .k8sCluster { c with volumes := c.volumes.map (rebasedVolume base) }
  | .nomadCluster c => .nomadCluster { c with volumes := c.volumes.map (rebasedVolume base) }
  | .helm c => .helm { c with values := c.values.map (Path.join base) }
  | .docs c => .docs { c with path := Path.join base c.path }
  | spec => spec

/-- The resource of a declaration. -/
def resource (base : String) (d : Declaration) : Except Error Resource :=
  match Spec.shape d.type (.mapping d.fields) with
  | .error mismatch =>
      .error (.config (.declaration s!"{d.type.keyword}.{d.name}" mismatch))
  | .ok spec =>
      .ok { name := d.name, moduleName := d.moduleName, dependsOn := d.dependsOn,
            spec := rebased base spec, isDisabled := d.isDisabled }

/-- The registry of the resources that a text declares. Declarations are turned
into resources and registered one by one, so that the first failure of either
kind is the one reported. -/
def load (text base : String) : Except Error Registry := do
  (← read text).foldlM
    (fun registry d => do
      let (_, registry) ← registry.add (← resource base d)
      return registry)
    Registry.empty

/-- The registry of a file, of which the contents are given or the reason why they
cannot be read. Relative paths in it are seen from its directory, and that
directory from the working directory `cwd`. -/
def loadFile (cwd path : String) (contents : Except FileFault ByteArray) :
    Except Error Registry := do
  let contents ← contents.mapError (Error.io path)
  let text ← (Text.Utf8.decode contents).mapError fun _ => Error.io path .notText
  match Path.absolute? cwd (Path.parent path) with
  | none => .error (.io (Path.parent path) .emptyPath)
  | some base => load text base

end Document

end Moorage

import Moorage.Text.Cut

/-!
# `Moorage.Reference`: addresses of declared resources

A resource is addressed as `type.name`, or as `type.name.module` when it was
declared inside a module.

* `ResourceType`: the closed set of types, in declaration order.
* `Reference`: an address, its text and the reading of that text.
-/

set_option autoImplicit false

namespace Moorage

/-- The types of resource that a document may declare. -/
inductive ResourceType where
  | network
  | container
  | k8sCluster
  | nomadCluster
  | helm
  | ingress
  | docs
  deriving DecidableEq, Repr, Inhabited

namespace ResourceType

/-- Every type, in declaration order. -/
def all : List ResourceType :=
  [network, container, k8sCluster, nomadCluster, helm, ingress, docs]

/-- The word that stands for the type in references and documents. -/
def keyword : ResourceType → String
  | network => "network"
  | container => "container"
  | k8sCluster => "k8s_cluster"
  | nomadCluster => "nomad_cluster"
  | helm => "helm"
  | ingress => "ingress"
  | docs => "docs"

/-- The position of the type in declaration order. -/
def index (type : ResourceType) : Nat := all.idxOf type

/-- The type that a word stands for. -/
def ofKeyword? (word : String) : Option ResourceType :=
  all.find? fun type => type.keyword = word

end ResourceType

/-- Why a text is not the reference that is wanted. -/
inductive ReferenceFault where
  | segmentCount
  | emptySegment
  | unknownType
  | notNetwork
  | notCluster
  | stated (reason : String)
  deriving DecidableEq, Repr

/-- The wording of a reference fault. -/
def ReferenceFault.message : ReferenceFault → String
  | .segmentCount => "expected type.name or type.name.module"
  | .emptySegment => "empty name segment"
  | .unknownType => "unknown resource type"
  | .notNetwork => "expected a network reference"
  | .notCluster => "helm releases target a k8s_cluster"
  | .stated reason => reason

/-- The address of a declared resource. -/
structure Reference where
  type : ResourceType
  name : String
  moduleName : Option String
  deriving DecidableEq, Repr, Inhabited

namespace Reference

/-- The text of a reference: its parts with dots between them. -/
def text (r : Reference) : String :=
  match r.moduleName with
  | none => r.type.keyword ++ "." ++ r.name
  | some m => r.type.keyword ++ "." ++ r.name ++ "." ++ m

instance : ToString Reference := ⟨text⟩

/-- The same resource name and type inside the module `m`. -/
def inModule (r : Reference) (m : String) : Reference := { r with moduleName := some m }

/-- The reference with the given parts, once they are known to be as many as a
reference has. Empty names are refused before an unknown type is. -/
def ofParts (type name : List Char) (moduleName : Option (List Char)) :
    Except ReferenceFault Reference :=
  if name.isEmpty || moduleName.any List.isEmpty then .error .emptySegment
  else
    match ResourceType.ofKeyword? (String.ofList type) with
    | none => .error .unknownType
    | some t =>
        .ok { type := t, name := String.ofList name,
              moduleName := moduleName.map String.ofList }

/-- The reference that a text writes. -/
def read (text : String) : Except ReferenceFault Reference :=
  match Text.cutAll '.' text.toList with
  | [type, name] => ofParts type name none
  | [type, name, moduleName] => ofParts type name (some moduleName)
  | _ => .error .segmentCount

/-- The order of references: by type in declaration order, then by name, then by
module, the resources outside of modules first. -/
def order (a b : Reference) : Ordering :=
  (compare a.type.index b.type.index).then
    ((compare a.name b.name).then
      (match a.moduleName, b.moduleName with
        | none, none => .eq
        | none, some _ => .lt
        | some _, none => .gt
        | some m, some n => compare m n))

end Reference

end Moorage

import Moorage.Path
import Moorage.Yaml.Shape

/-!
# `Moorage.Kubernetes.Config`: what a kubeconfig says

A kubeconfig names contexts, clusters and users, and which context is the current
one. Its text may hold several documents, which are joined: what an earlier one says
stays, and names that are new are appended.

* `Config.ofText`: the kubeconfig that a text writes.
* `Config.located`: the kubeconfig with its paths seen from a directory.
-/

set_option autoImplicit false

namespace Moorage.Kubernetes

open Yaml (Value Shape)

/-- A context: the cluster and the user that it stands for. -/
structure Context where
  cluster : String
  user : Option String := none
  deriving DecidableEq, Repr, Inhabited

/-- Data that is given as text or in a file. The text wins. -/
structure Material where
  text : Option String := none
  file : Option String := none
  deriving DecidableEq, Repr, Inhabited

/-- A cluster: its server, whose certificates are trusted, and a server in between. -/
structure Cluster where
  server : Option String := none
  authority : Material := {}
  proxy : Option String := none
  deriving DecidableEq, Repr, Inhabited

/-- A provider of tokens. -/
structure TokenProvider where
  name : String
  settings : List (String × String) := []
  deriving DecidableEq, Repr, Inhabited

/-- A user: the ways to prove who it is, and in whose name it acts. -/
structure User where
  name : Option String := none
  password : Option String := none
  token : Option String := none
  tokenFile : Option String := none
  certificate : Material := {}
  key : Material := {}
  actsAs : Option String := none
  actsAsGroups : List String := []
  provider : Option TokenProvider := none
  /-- Whether a program hands out the proof. -/
  asksProgram : Bool := false
  deriving DecidableEq, Repr, Inhabited

/-- A part of a kubeconfig under a name. -/
structure Named (α : Type) where
  name : String
  value : Option α := none
  deriving Repr, Inhabited

/-- What a kubeconfig says. -/
structure Config where
  kind : Option String := none
  version : Option String := none
  currentContext : Option String := none
  contexts : List (Named Context) := []
  clusters : List (Named Cluster) := []
  users : List (Named User) := []
  deriving Repr, Inhabited

/-- Why a text is no kubeconfig. -/
inductive ConfigRefusal where
  | notYaml (fault : Yaml.Fault)
  | misshapen (mismatch : Mismatch)
  | kindMismatch
  | versionMismatch
  deriving DecidableEq, Repr

/-- The wording of a text that is no kubeconfig. -/
def ConfigRefusal.message : ConfigRefusal → String
  | notYaml fault => s!"failed to parse kubeconfig YAML: {fault.message}"
  | misshapen mismatch => s!"the structure of the parsed kubeconfig is invalid: {mismatch.message}"
  | kindMismatch => "kinds of the documents do not match"
  | versionMismatch => "API versions of the documents do not match"

namespace Config

/-- A field of an optional text. -/
def textField {α : Type} (store : α → Option String → α) : Option (Shape.Field α) :=
  some (Shape.field (Shape.optional Shape.text) store)

/-- A field that has to be of the given shape, or null, and says nothing. -/
def ignored {α β : Type} (shape : Shape β) : Option (Shape.Field α) :=
  some (Shape.ignored (Shape.optional shape))

mutual

/-- Whether a value is data without custom tags whose maps have texts as keys. -/
def isPlainData : Value → Bool
  | .tagged .. => false
  | .sequence items => arePlainItems items
  | .mapping entries => arePlainEntries entries
  | _ => true

/-- Whether the items of a list are such data. -/
def arePlainItems : List Value → Bool
  | [] => true
  | item :: rest => isPlainData item && arePlainItems rest

/-- Whether the entries of a map are such data under texts. -/
def arePlainEntries : List (Value × Value) → Bool
  | [] => true
  | entry :: rest => isPlainEntry entry && arePlainEntries rest

/-- Whether an entry of a map is such data under a text. -/
def isPlainEntry : Value × Value → Bool
  | (key, value) =>
      (match key.untagged with
        | .text _ => true
        | _ => false) && isPlainData value

end

/-- The shape of data of any kind. -/
def anyData : Shape Unit := fun value =>
  if isPlainData value then .ok () else Shape.refuse value "any valid JSON value"

/-- The shape of an extension: data under a name. -/
def extension : Shape Unit := fun value => do
  let (name, data) ← Shape.record "NamedExtension" ((none, none) : Option String × Option Unit)
    (fun
      | "name" => some (Shape.field Shape.text fun part name => (some name, part.2))
      | "extension" => some (Shape.field anyData fun part data => (part.1, some data))
      | _ => none) value
  let _ ← Shape.required "name" name
  Shape.required "extension" data

/-- The shape of a part under a name. -/
def named {α : Type} (key : String) (shape : Shape α) : Shape (Named α) := fun value => do
  let (name, part) ← Shape.record "Named" ((none, none) : Option String × Option α)
    (fun k =>
      if k = "name" then some (Shape.field Shape.text fun part name => (some name, part.2))
      else if k = key then
        some (Shape.field (Shape.optional shape) fun part value => (part.1, value))
      else none) value
  return { name := ← Shape.required "name" name, value := part }

/-- The shape of a context. -/
def context : Shape Context := fun value => do
  let (cluster, user) ← Shape.record "Context" ((none, none) : Option String × Option String)
    (fun
      | "cluster" => some (Shape.field Shape.text fun c cluster => (some cluster, c.2))
      | "user" => textField fun c user => (c.1, user)
      | "namespace" => ignored Shape.text
      | "extensions" => ignored (Shape.list extension)
      | _ => none) value
  return { cluster := ← Shape.required "cluster" cluster, user := user }

/-- The shape of a cluster. -/
def cluster : Shape Cluster :=
  Shape.record "Cluster" {} fun
    | "server" => textField fun c server => { c with server := server }
    | "certificate-authority" => textField fun c file => { c with authority.file := file }
    | "certificate-authority-data" => textField fun c text => { c with authority.text := text }
    | "proxy-url" => textField fun c proxy => { c with proxy := proxy }
    | "tls-server-name" => ignored Shape.text
    | "insecure-skip-tls-verify" => ignored Shape.boolean
    | "disable-compression" => ignored Shape.boolean
    | "extensions" => ignored (Shape.list extension)
    | _ => none

/-- The shape of a provider of tokens. -/
def tokenProvider : Shape TokenProvider := fun value => do
  let (name, settings) ← Shape.record "AuthProviderConfig"
    ((none, []) : Option String × List (String × String))
    (fun
      | "name" => some (Shape.field Shape.text fun p name => (some name, p.2))
      | "config" => some (Shape.field Shape.textPairs fun p settings => (p.1, settings))
      | _ => none) value
  return { name := ← Shape.required "name" name, settings := settings }

/-- The shape of a program that hands out proofs. -/
def program : Shape Unit :=
  Shape.record "ExecConfig" () fun
    | "apiVersion" => ignored Shape.text
    | "command" => ignored Shape.text
    | "args" => ignored (Shape.list Shape.text)
    | "env" => ignored (Shape.list Shape.textPairs)
    | "interactiveMode" => ignored (Shape.keyword id ["Never", "IfAvailable", "Always"])
    | "provideClusterInfo" => some (Shape.ignored Shape.boolean)
    | _ => none

/-- The shape of a user. -/
def user : Shape User :=
  Shape.record "AuthInfo" {} fun
    | "username" => textField fun u name => { u with name := name }
    | "password" => textField fun u password => { u with password := password }
    | "token" => textField fun u token => { u with token := token }
    | "tokenFile" => textField fun u file => { u with tokenFile := file }
    | "client-certificate" => textField fun u file => { u with certificate.file := file }
    | "client-certificate-data" => textField fun u text => { u with certificate.text := text }
    | "client-key" => textField fun u file => { u with key.file := file }
    | "client-key-data" => textField fun u text => { u with key.text := text }
    | "as" => textField fun u name => { u with actsAs := name }
    | "as-groups" =>
        some (Shape.field (Shape.optional (Shape.list Shape.text)) fun u groups =>
          { u with actsAsGroups := groups.getD [] })
    | "auth-provider" =>
        some (Shape.field (Shape.optional tokenProvider) fun u provider =>
          { u with provider := provider })
    | "exec" =>
        some (Shape.field (Shape.optional program) fun u program =>
          { u with asksProgram := program.isSome })
    | _ => none

/-- The shape of preferences, which say nothing. -/
def preferences : Shape Unit :=
  Shape.record "Preferences" () fun
    | "colors" => ignored Shape.boolean
    | "extensions" => ignored (Shape.list extension)
    | _ => none

/-- A field of a list of parts. -/
def partsField {α : Type} (key : String) (shape : Shape α)
    (store : Config → List (Named α) → Config) : Option (Shape.Field Config) :=
  some (Shape.field (Shape.optional (Shape.list (named key shape))) fun c parts =>
    store c (parts.getD []))

/-- The shape of a kubeconfig. -/
def shape : Shape Config :=
  Shape.record "Kubeconfig" {} fun
    | "kind" => textField fun c kind => { c with kind := kind }
    | "apiVersion" => textField fun c version => { c with version := version }
    | "preferences" => ignored preferences
    | "extensions" => ignored (Shape.list extension)
    | "current-context" => textField fun c name => { c with currentContext := name }
    | "contexts" => partsField "context" context fun c parts => { c with contexts := parts }
    | "clusters" => partsField "cluster" cluster fun c parts => { c with clusters := parts }
    | "users" => partsField "user" user fun c parts => { c with users := parts }
    | _ => none

/-- The parts of a list and those of a later one whose names are new. -/
def joinParts {α : Type} (parts later : List (Named α)) : List (Named α) :=
  parts ++ later.filter fun part => !parts.any fun earlier => earlier.name = part.name

/-- Whether two texts are both given and differ. -/
def disagree (a b : Option String) : Bool := a.isSome && b.isSome && a ≠ b

/-- The kubeconfig of two documents. -/
def join (c later : Config) : Except ConfigRefusal Config :=
  if disagree c.kind later.kind then .error .kindMismatch
  else if disagree c.version later.version then .error .versionMismatch
  else
    .ok { kind := c.kind <|> later.kind
          version := c.version <|> later.version
          currentContext := c.currentContext <|> later.currentContext
          contexts := joinParts c.contexts later.contexts
          clusters := joinParts c.clusters later.clusters
          users := joinParts c.users later.users }

/-- The kubeconfig that a text writes. -/
def ofText (text : String) : Except ConfigRefusal Config := do
  let values ← (Value.documents text).mapError .notYaml
  let configs ← values.mapM fun value => (shape value).mapError .misshapen
  match configs with
  | [] => return {}
  | first :: rest => rest.foldlM join first

/-- The first part of a name, if it has a value. -/
def find? {α : Type} (name : String) (parts : List (Named α)) : Option α :=
  (parts.find? (·.name = name)).bind Named.value

end Config

/-- The material with its file seen from a directory. -/
def Material.located (directory : String) (m : Material) : Material :=
  { m with file := m.file.map (Path.join directory) }

/-- The cluster with its files seen from a directory. -/
def Cluster.located (directory : String) (c : Cluster) : Cluster :=
  { c with authority := c.authority.located directory }

/-- The user with its files seen from a directory. -/
def User.located (directory : String) (u : User) : User :=
  { u with
    tokenFile := u.tokenFile.map (Path.join directory)
    certificate := u.certificate.located directory
    key := u.key.located directory }

end Moorage.Kubernetes

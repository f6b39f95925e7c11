import Moorage.Http
import Moorage.Http.Address
import Moorage.Instant
import Moorage.Kubernetes.Config
import Moorage.Pem
import Moorage.Service
import Moorage.Text.Blank
import Moorage.Text.Utf8

/-!
# `Moorage.Kubernetes.Access`: how a kubeconfig reaches its cluster

`Kubernetes.access` follows the current context to a server and works out the
headers that prove who asks. Whatever the kubeconfig points at has to be there and
well formed, even where this way to the server makes no use of it. A user may be
unknown: then nobody in particular asks.
-/

set_option autoImplicit false

namespace Moorage.Kubernetes

/-- Why material cannot be had. -/
inductive MaterialFault where
  | absent
  | notBase64
  | unreadable (path : String) (fault : FileFault)
  deriving DecidableEq, Repr

/-- The wording of material that cannot be had. -/
def MaterialFault.message : MaterialFault → String
  | absent => "no base64 data or file"
  | notBase64 => "failed to decode base64 data"
  | unreadable path fault => s!"failed to read file {path}: {fault.message}"

/-- Why a kubeconfig does not reach a cluster. -/
inductive AccessFault where
  | refused (refusal : ConfigRefusal)
  | noCurrentContext
  | unknownContext (name : String)
  | unknownCluster (name : String)
  | noServer
  | invalidServer (address : String)
  | noAuthority (fault : MaterialFault)
  | invalidAuthority
  | invalidIdentity
  | unsupportedProxy (address : String)
  | unsupportedProvider (name : String)
  | invalidExpiry (text : String)
  | noTokenFile (fault : MaterialFault)
  | noProgram
  | invalidHeader
  deriving DecidableEq, Repr

/-- The wording of a kubeconfig that reaches nothing. -/
def AccessFault.message : AccessFault → String
  | refused refusal => refusal.message
  | noCurrentContext => "failed to determine current context"
  | unknownContext name => s!"failed to load current context: {name}"
  | unknownCluster name => s!"failed to load the cluster of context: {name}"
  | noServer => "cluster url is missing on selected cluster"
  | invalidServer address => s!"failed to parse cluster url: {address}"
  | noAuthority fault => s!"failed to load certificate authority: {fault.message}"
  | invalidAuthority => "failed to parse the certificates of the authority"
  | invalidIdentity => "failed to parse the client's certificate or its key"
  | unsupportedProxy address => s!"proxy {address} is not supported"
  | unsupportedProvider name => s!"authentication with provider {name} not supported"
  | invalidExpiry text => s!"malformed expiration date of a token: {text}"
  | noTokenFile fault => s!"failed to read token file: {fault.message}"
  | noProgram => "unable to run the program for authentication"
  | invalidHeader => "failed to parse header value"

/-- A way to read files. -/
abbrev FileReader (m : Type → Type) := String → m (Except FileFault ByteArray)

/-- A step towards the cluster. -/
abbrev Step (m : Type → Type) := ExceptT AccessFault m

/-- Refuses unless a condition holds. -/
def Step.require {m : Type → Type} [Monad m] (condition : Bool) (fault : AccessFault) :
    Step m Unit :=
  if condition then pure () else throw fault

/-- A step that asks for nothing. -/
def Step.ofExcept {m : Type → Type} [Monad m] {α : Type} (outcome : Except AccessFault α) :
    Step m α :=
  ExceptT.mk (pure outcome)

/-- The bytes of a file. -/
def readBytes {m : Type → Type} [Monad m] (files : FileReader m) (path : String) :
    m (Except MaterialFault (List UInt8)) := do
  match ← files path with
  | .ok contents => return .ok contents.toList
  | .error fault => return .error (.unreadable path fault)

/-- The bytes of material. -/
def Material.load {m : Type → Type} [Monad m] (files : FileReader m) (material : Material) :
    m (Except MaterialFault (List UInt8)) :=
  match material.text, material.file with
  | some text, _ =>
      match Text.Base64.decode? Text.Base64.standard text.toList with
      | some bytes => return .ok bytes
      | none => return .error .notBase64
  | none, some path => readBytes files path
  | none, none => return .error .absent

/-- Whether bytes hold blocks alone that are well formed, with certificates among
them that are. -/
def isAuthority (bytes : List UInt8) : Bool :=
  match Pem.blocks? bytes with
  | none => false
  | some blocks =>
      (blocks.filter (·.label = "CERTIFICATE")).all fun block => Der.isCertificate block.contents

/-- The labels of private keys. -/
def keyLabels : List String := ["PRIVATE KEY", "RSA PRIVATE KEY", "EC PRIVATE KEY"]

/-- Whether bytes hold a certificate and a private key. -/
def isIdentity (bytes : List UInt8) : Bool :=
  match Pem.blocks? bytes with
  | none => false
  | some blocks =>
      let certificates := blocks.filter (·.label = "CERTIFICATE")
      let keys := blocks.filter fun block => keyLabels.contains block.label
      !certificates.isEmpty && !keys.isEmpty
        && certificates.all (fun block => Der.isCertificate block.contents)
        && keys.all fun block => Der.isPrivateKey block.contents

/-- The headers, unless one of them cannot be sent. -/
def checked (headers : List (String × String)) : Except AccessFault (List (String × String)) :=
  if headers.all fun header => Http.isHeaderValue header.2 then .ok headers
  else .error .invalidHeader

/-- The header of a token. -/
def bearer (token : String) : List (String × String) := [("Authorization", "Bearer " ++ token)]

/-- The header of a name and a password. -/
def basic (name password : String) : List (String × String) :=
  let credentials := (name ++ ":" ++ password).toUTF8.toList
  [("Authorization", "Basic " ++ Text.Base64.encode Text.Base64.standard credentials)]

/-- The setting of a provider under a key. -/
def TokenProvider.setting? (p : TokenProvider) (key : String) : Option String :=
  (p.settings.reverse.find? (·.1 = key)).map (·.2)

/-- The seconds that a token has to be good for. -/
def tokenMargin : Int := 60

/-- The token that a provider keeps for later calls, if it is good for a while. -/
def TokenProvider.keptToken (now : Instant) (p : TokenProvider) : Except AccessFault String :=
  match p.setting? "access-token", p.setting? "expiry" with
  | some token, some text =>
      match Instant.read? text with
      | none => .error (.invalidExpiry text)
      | some expiry =>
          if (now.afterSecs tokenMargin).nanos < expiry.nanos then .ok token
          else .error .noProgram
  | _, _ => .error .noProgram

/-- The headers that a provider of tokens stands for. A provider that keeps a token
is asked again when that one has expired, so that nothing is known of its text
before it is sent. -/
def TokenProvider.proof (now : Instant) (p : TokenProvider) :
    Except AccessFault (List (String × String)) :=
  match p.name, p.setting? "id-token" with
  | "oidc", some token | "gcp", some token => checked (bearer token)
  | "gcp", none => (p.keptToken now).map bearer
  | name, _ => .error (.unsupportedProvider name)

/-- The headers that prove who a user is. Of several ways the first is taken: a
provider, a password, a token, a file with a token, a program. A file is read again
before requests, so that its text may be anything here. -/
def User.proof {m : Type → Type} [Monad m] (files : FileReader m) (now : Instant) (u : User) :
    Step m (List (String × String)) := do
  match u.provider with
  | some provider => Step.ofExcept (provider.proof now)
  | none =>
      match u.name, u.password, u.token, u.tokenFile with
      | some name, some password, _, _ => return basic name password
      | _, _, some token, _ => Step.ofExcept (checked (bearer token))
      | _, _, _, some path =>
          match ← ExceptT.lift (readBytes files path) with
          | .error fault => throw (.noTokenFile fault)
          | .ok bytes =>
              match Text.Utf8.decode ⟨bytes.toArray⟩ with
              | .error _ => throw (.noTokenFile (.unreadable path .notText))
              | .ok text => return bearer (Text.trimmed text)
      | _, _, _, none => if u.asksProgram then throw .noProgram else return []

/-- The headers that say in whose name a user acts. -/
def User.role (u : User) : Except AccessFault (List (String × String)) :=
  checked ((u.actsAs.map fun name => ("Impersonate-User", name)).toList
    ++ u.actsAsGroups.map fun group => ("Impersonate-Group", group))

/-- Checks the certificates that a cluster's kubeconfig trusts. -/
def Cluster.checkAuthority {m : Type → Type} [Monad m] (files : FileReader m) (c : Cluster) :
    Step m Unit := do
  if c.authority = {} then return
  match ← ExceptT.lift (c.authority.load files) with
  | .error fault => throw (.noAuthority fault)
  | .ok bytes => Step.require (isAuthority bytes) .invalidAuthority

/-- Checks a user's certificate and key. When one of them cannot be had, the user has
neither. -/
def User.checkIdentity {m : Type → Type} [Monad m] (files : FileReader m) (u : User) :
    Step m Unit := do
  let key ← ExceptT.lift (u.key.load files)
  let certificate ← ExceptT.lift (u.certificate.load files)
  match key, certificate with
  | .ok key, .ok certificate =>
      Step.require (isIdentity (key ++ [10] ++ certificate)) .invalidIdentity
  | _, _ => return

/-- The way to the cluster of the current context. -/
def Config.access {m : Type → Type} [Monad m] (files : FileReader m) (now : Instant)
    (directory : String) (c : Config) : Step m ClusterAccess := do
  let some name := c.currentContext | throw .noCurrentContext
  let some context := Config.find? name c.contexts | throw (.unknownContext name)
  let some cluster := Config.find? context.cluster c.clusters
    | throw (.unknownCluster context.cluster)
  let cluster := cluster.located directory
  let user := ((context.user.bind fun name => Config.find? name c.users).getD {}).located directory
  let some server := cluster.server | throw .noServer
  Step.require (Http.isAddress server) (.invalidServer server)
  cluster.checkAuthority files
  let proxy := cluster.proxy.getD ""
  Step.require (proxy = "") (.unsupportedProxy proxy)
  let proof ← user.proof files now
  user.checkIdentity files
  let role ← Step.ofExcept user.role
  return { server := server, headers := proof ++ role }

/-- The way to the cluster of a kubeconfig's text in a directory. -/
def access {m : Type → Type} [Monad m] (files : FileReader m) (now : Instant)
    (directory text : String) : m (Except AccessFault ClusterAccess) :=
  ExceptT.run do
    match Config.ofText text with
    | .error refusal => throw (.refused refusal)
    | .ok config => config.access files now directory

end Moorage.Kubernetes

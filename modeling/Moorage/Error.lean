import Moorage.Duration
import Moorage.Mismatch
import Moorage.Reference
import Moorage.Yaml.Fault

/-!
# `Moorage.Error`: what can go wrong

Every failure names the resource it belongs to, and is built from its cause; the
wording is in `Error.message` alone.

* `Error`: the failures of loading, building the graph, providers and walks.
* `Error.kind`: the coarse classification of a failure.
-/

set_option autoImplicit false

namespace Moorage

/-- Why a file operation failed. -/
inductive FileFault where
  | missing
  | notDirectory
  | isDirectory
  | emptyPath
  | nameTooLong
  | nulCharacter
  | notText
  | notArchive
  | stated (text : String)
  deriving DecidableEq, Repr

/-- The wording of a file fault. -/
def FileFault.message : FileFault → String
  | .missing => "no such file or directory"
  | .notDirectory => "not a directory"
  | .isDirectory => "is a directory"
  | .emptyPath => "empty path"
  | .nameTooLong => "file name too long"
  | .nulCharacter => "unexpected nul character"
  | .notText => "not valid UTF-8 text"
  | .notArchive => "not a tar archive"
  | .stated text => text

/-- Why a configuration is refused. -/
inductive ConfigFault where
  | notYaml (fault : Yaml.Fault)
  | document (fault : Misplaced)
  | declaration (label : String) (mismatch : Mismatch)
  | portRange (range : String)
  | relativeSource (source : String)
  | within (fault : ConfigFault)
  | unsupportedDriver (driver : String)
  | portsExhausted (start : Nat)
  | missingClusters
  | clusterWithoutServer
  | serverNotText
  | kubeconfigEncoding (detail : String)
  | stated (message : String)
  deriving DecidableEq, Repr

/-- The wording of a refused configuration, which `Error.message` introduces. -/
def ConfigFault.message : ConfigFault → String
  | .notYaml fault => "invalid document: " ++ fault.message
  | .document fault => "invalid document: " ++ fault.message
  | .declaration label mismatch => label ++ ": " ++ mismatch.message
  | .portRange range => "invalid port range '" ++ range ++ "', expected start-end"
  | .relativeSource source => "bind mount source '" ++ source ++ "' must be an absolute path"
  | .within fault => "invalid configuration: " ++ fault.message
  | .unsupportedDriver driver => "unsupported cluster driver '" ++ driver ++ "'"
  | .portsExhausted start => "no free host ports left above " ++ toString start
  | .missingClusters => "invalid kubeconfig: missing clusters"
  | .clusterWithoutServer => "invalid kubeconfig: cluster without server"
  | .serverNotText => "invalid kubeconfig: server is not a string"
  | .kubeconfigEncoding detail => "kubeconfig is not UTF-8: " ++ detail
  | .stated message => message

/-- Why a call of the container engine or of a client failed. -/
inductive EngineFault where
  /-- The peer answered with a failure, in its own words. -/
  | reported (message : String)
  /-- No usable answer came back. -/
  | exchange (detail : String)
  deriving DecidableEq, Repr

/-- The wording of a failed call. -/
def EngineFault.message : EngineFault → String
  | .reported message => message
  | .exchange detail => detail

/-- A failure. -/
inductive Error where
  | io (path : String) (fault : FileFault)
  | config (fault : ConfigFault)
  | invalidReference (reference : String) (fault : ReferenceFault)
  | conflict (reference : String)
  | unresolvedDependency (reference dependency : String)
  | cycle (source target : String)
  | notFound (object id : String)
  | alreadyExists (object id : String)
  | engine (operation : String) (fault : EngineFault)
  | provider (reference step : String) (source : Error)
  | timeout (reference step : String) (after : Duration)
  | cancelled (reference step : String)
  | dependencyFailed (reference dependency : String)
  | execution (failures : List (String × Error))
  | serialization (fault : Yaml.Fault)
  deriving BEq, Repr, Inhabited

/-- The coarse classification of failures. -/
inductive ErrorKind where
  | config
  | provider
  | timeout
  | notFound
  deriving DecidableEq, Repr

/-- The word for a kind of failure. -/
def ErrorKind.word : ErrorKind → String
  | .config => "config"
  | .provider => "provider"
  | .timeout => "timeout"
  | .notFound => "not found"

namespace Error

/-- The kind of a failure. A provider's failure has the kind of its source,
except that an object missing inside a provider's step is the provider's
failure. -/
def kind : Error → ErrorKind
  | config _ | invalidReference .. | conflict _ | unresolvedDependency .. | cycle .. => .config
  | notFound .. => .notFound
  | timeout .. | cancelled .. => .timeout
  | provider _ _ source =>
      match source.kind with
      | .notFound => .provider
      | kind => kind
  | io .. | alreadyExists .. | engine .. | dependencyFailed .. | execution _
  | serialization _ => .provider

/-- Whether the failure reports a missing reference or object. -/
def isNotFound : Error → Bool
  | notFound .. => true
  | _ => false

mutual

/-- The wording of a failure. -/
def message : Error → String
  | io path fault => s!"I/O error at {path}: {fault.message}"
  | config fault => s!"invalid configuration: {fault.message}"
  | invalidReference reference fault =>
      s!"invalid reference '{reference}': {fault.message}"
  | conflict reference => s!"resource {reference} already exists in the registry"
  | unresolvedDependency reference dependency =>
      s!"unable to resolve dependency '{dependency}' declared by {reference}"
  | cycle source target => s!"dependency cycle detected at edge {source} -> {target}"
  | notFound object id => s!"{object} not found: {id}"
  | alreadyExists object id => s!"{object} already exists: {id}"
  | engine operation fault =>
      s!"container engine error during {operation}: {fault.message}"
  | provider reference step source => s!"{reference}: {step} failed: {source.message}"
  | timeout reference step after => s!"{reference}: {step} timed out after {after.text}"
  | cancelled reference step => s!"{reference}: {step} cancelled"
  | dependencyFailed reference dependency =>
      s!"{reference} skipped: dependency {dependency} failed"
  | execution failures =>
      toString failures.length ++ " resource(s) failed: "
        ++ String.intercalate "; " (failureTexts failures)
  | serialization fault => s!"serialization error: {fault.message}"

/-- The wording of the failures of a walk, in order. -/
def failureTexts : List (String × Error) → List String
  | [] => []
  | failure :: rest => failureText failure :: failureTexts rest

/-- The wording of one resource's failure in a walk. -/
def failureText : String × Error → String
  | (reference, error) => s!"{reference}: {error.message}"

end

end Error

/-- The reference that a text writes, or the failure that carries the text. -/
def Reference.parse (text : String) : Except Error Reference :=
  (Reference.read text).mapError (Error.invalidReference text)

end Moorage

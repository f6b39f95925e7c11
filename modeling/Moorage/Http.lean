import Moorage.Json.Reader

/-!
# `Moorage.Http`: requests and responses

A request names the address of the server, a path as its parts, query parameters
and a body, all of them as they are meant and not as they are encoded.
`Request.target` is the encoded path and query.
-/

set_option autoImplicit false

namespace Moorage.Http

/-- What a request does. -/
inductive Method where
  | get
  | post
  | put
  | delete
  deriving DecidableEq, Repr, Inhabited

/-- The word for a method. -/
def Method.word : Method → String
  | get => "GET"
  | post => "POST"
  | put => "PUT"
  | delete => "DELETE"

/-- The body of a request. -/
inductive Body where
  | empty
  | json (value : Json)
  | tar (archive : ByteArray)
  deriving Inhabited

/-- The bytes of a body. -/
def Body.bytes : Body → ByteArray
  | empty => ByteArray.empty
  | json value => value.text.toUTF8
  | tar archive => archive

/-- The media type of a body. -/
def Body.mediaType? : Body → Option String
  | empty => none
  | json _ => some "application/json"
  | tar _ => some "application/x-tar"

/-- A request to the server at an address. -/
structure Request where
  address : String
  method : Method
  path : List String
  query : List (String × String) := []
  headers : List (String × String) := []
  body : Body := .empty
  deriving Inhabited

/-- What a server answers. -/
structure Response where
  status : Nat
  body : ByteArray
  deriving Inhabited

/-- Why there is no response. -/
inductive Fault where
  /-- Nobody accepts connections at the address. -/
  | unreachable
  /-- What came back is no response. -/
  | garbled
  /-- A header of the request cannot be sent. -/
  | unsendable
  deriving DecidableEq, Repr

/-- The wording of a failed exchange. -/
def Fault.message : Fault → String
  | unreachable => "error trying to connect"
  | garbled => "error reading a response"
  | unsendable => "failed to parse header value"

/-- Whether a text may be the value of a header. -/
def isHeaderValue (text : String) : Bool :=
  text.toList.all fun c => c = '\t' || (32 ≤ c.toNat && c.toNat ≠ 127)

/-- Whether every header of a request can be sent. -/
def Request.isSendable (r : Request) : Bool := r.headers.all fun header => isHeaderValue header.2

/-- What comes of a request. -/
abbrev Exchange := Except Fault Response

/-- Whether the response reports a failure of the request or of the server. -/
def Response.failed (r : Response) : Bool := 400 ≤ r.status

/-- Whether a byte stands for itself in a path or a query. -/
def isPlain (byte : UInt8) : Bool :=
  let c := Char.ofNat byte.toNat
  c.isAlphanum || c = '-' || c = '.' || c = '_' || c = '~'

/-- The hexadecimal digit of a number below sixteen. -/
def hexDigit (n : Nat) : Char := (Nat.digitChar n).toUpper

/-- A byte as it is written in a path or a query. -/
def encodedByte (byte : UInt8) : List Char :=
  if isPlain byte then [Char.ofNat byte.toNat]
  else ['%', hexDigit (byte.toNat / 16), hexDigit (byte.toNat % 16)]

/-- A text as it is written in a path or a query. -/
def encoded (text : String) : String :=
  String.ofList (text.toUTF8.toList.flatMap encodedByte)

/-- The encoded path and query of a request. -/
def Request.target (r : Request) : String :=
  let path := String.join (r.path.map fun part => "/" ++ encoded part)
  let query := r.query.map fun (key, value) => encoded key ++ "=" ++ encoded value
  if query.isEmpty then path else path ++ "?" ++ String.intercalate "&" query

end Moorage.Http

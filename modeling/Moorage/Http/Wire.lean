import Moorage.Http
import Moorage.Text.Blank
import Moorage.Text.Cut
import Moorage.Text.Digits

/-!
# `Moorage.Http.Wire`: requests and responses as bytes

A connection carries one exchange: the request asks the server to close it, so
that all bytes up to its end belong to the response.

* `Endpoint.ofAddress?`: where the server of an address listens.
* `Request.wire`: the bytes of a request.
* `Response.ofWire`: the response that bytes carry.
-/

set_option autoImplicit false

namespace Moorage.Http

/-- Where a server listens, and the path below which it serves. -/
structure Endpoint where
  host : String
  port : UInt16 := 80
  base : String := ""
  deriving DecidableEq, Repr

/-- A host without the brackets that an address of version six stands in. -/
def bareHost (host : List Char) : List Char :=
  match host with
  | '[' :: rest => Text.upTo ']' rest
  | _ => host

/-- A path without the slashes at its end. -/
def withoutLastSlashes (path : List Char) : List Char :=
  (path.reverse.dropWhile (· = '/')).reverse

/-- The endpoint of an address over TCP. There is none for an address that asks for
a secured connection or for a socket on this machine. -/
def Endpoint.ofAddress? (address : String) : Option Endpoint := do
  let text := address.toList
  let rest ← Text.dropLead? "tcp://".toList text <|> Text.dropLead? "http://".toList text
  let authority := Text.upTo '/' rest
  let base := String.ofList (withoutLastSlashes (rest.drop authority.length))
  match Text.cutLast ':' authority with
  | some (host, port) =>
      if port.contains ']' then
        return { host := String.ofList (bareHost authority), base := base }
      else
        let port ← Text.unsigned? 65535 port
        return { host := String.ofList (bareHost host), port := UInt16.ofNat port, base := base }
  | none => return { host := String.ofList authority, base := base }

/-- The headers that every request to an endpoint has, and those for its body. -/
def Request.allHeaders (r : Request) (e : Endpoint) : List (String × String) :=
  [("Host", s!"{e.host}:{e.port}"), ("Connection", "close"),
    ("Content-Length", toString r.body.bytes.size)]
    ++ (r.body.mediaType?.map fun media => ("Content-Type", media)).toList ++ r.headers

/-- The bytes of a request to an endpoint. -/
def Request.wire (r : Request) (e : Endpoint) : ByteArray :=
  let first := s!"{r.method.word} {e.base}{r.target} HTTP/1.1\r\n"
  let headers := (r.allHeaders e).map fun (name, value) => s!"{name}: {value}\r\n"
  (first ++ String.join headers ++ "\r\n").toUTF8 ++ r.body.bytes

/-- The bytes before and after the first empty line. -/
def cutHead : List UInt8 → Option (List UInt8 × List UInt8)
  | 13 :: 10 :: 13 :: 10 :: rest => some ([], rest)
  | byte :: rest => (cutHead rest).map fun (head, body) => (byte :: head, body)
  | [] => none

/-- The bytes before and after the first end of a line. -/
def cutLine : List UInt8 → Option (List UInt8 × List UInt8)
  | 13 :: 10 :: rest => some ([], rest)
  | byte :: rest => (cutLine rest).map fun (line, rest) => (byte :: line, rest)
  | [] => none

/-- The value of a hexadecimal digit. -/
def hexValue? (byte : UInt8) : Option Nat :=
  if 48 ≤ byte ∧ byte ≤ 57 then some (byte.toNat - 48)
  else if 65 ≤ byte ∧ byte ≤ 70 then some (byte.toNat - 55)
  else if 97 ≤ byte ∧ byte ≤ 102 then some (byte.toNat - 87)
  else none

/-- The number that hexadecimal digits write; what follows them says nothing. -/
def chunkSize? (line : List UInt8) : Option Nat :=
  match (line.map hexValue?).takeWhile Option.isSome with
  | [] => none
  | digits => some (digits.foldl (fun value digit => 16 * value + digit.getD 0) 0)

/-- The body that chunks make up, each behind a line with its size; the last one is
empty. Every chunk takes a byte, so that `limit` need not be more than the number
of bytes. -/
def joinChunks (limit : Nat) (bytes : List UInt8) : Option (List UInt8) :=
  match limit with
  | 0 => none
  | limit + 1 => do
      let (line, rest) ← cutLine bytes
      let size ← chunkSize? line
      if size = 0 then return []
      else if rest.length < size then none
      else
        match rest.drop size with
        | 13 :: 10 :: others => return rest.take size ++ (← joinChunks limit others)
        | _ => none

/-- The value of a header, whose name may be written in capitals. -/
def header? (name : String) (lines : List String) : Option String :=
  lines.findSome? fun line =>
    match Text.cutFirst ':' line.toList with
    | some (key, value) =>
        if (String.ofList key).toLower = name then some (String.ofList (Text.trim value))
        else none
    | none => none

/-- The body of a response, cut as its headers say. -/
def bodyOf (headers : List String) (bytes : List UInt8) : Option (List UInt8) :=
  if (header? "transfer-encoding" headers).any (·.toLower = "chunked") then
    joinChunks (bytes.length + 1) bytes
  else
    match header? "content-length" headers with
    | none => some bytes
    | some length => do
        let length ← Text.digits? length.toList
        if bytes.length < length then none else return bytes.take length

/-- The status of the first line of a response. -/
def statusOf? (line : String) : Option Nat := do
  let rest ← Text.dropLead? "HTTP/1.".toList line.toList
  let (_, rest) ← Text.cutFirst ' ' rest
  Text.digits? (Text.upTo ' ' rest)

/-- The response that bytes carry. -/
def Response.ofWire (bytes : ByteArray) : Except Fault Response :=
  let response : Option Response := do
    let (head, rest) ← cutHead bytes.toList
    match Text.lines (Text.Utf8.decodeLossy head.toByteArray) with
    | [] => none
    | first :: headers =>
        return { status := ← statusOf? first, body := (← bodyOf headers rest).toByteArray }
  match response with
  | some response => .ok response
  | none => .error .garbled

end Moorage.Http

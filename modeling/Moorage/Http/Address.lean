import Moorage.Text.Cut

/-!
# `Moorage.Http.Address`: what an address may look like

An address is a path, or an authority, or a scheme with an authority and a path.
Nothing is looked up: a port may be any text, and characters outside of ASCII may
stand in paths and queries.

* `isAddress`: whether a text is an address.
-/

set_option autoImplicit false

namespace Moorage.Http

/-- The most bytes of an address. -/
def maxAddressSize : Nat := 65534

/-- The most characters of a scheme. -/
def maxSchemeLength : Nat := 64

/-- The most colons of an authority before a bracket closes. -/
def maxColons : Nat := 8

/-- Whether a character may stand in a scheme. -/
def isSchemeChar (c : Char) : Bool := c.isAlphanum || "+-.~".toList.contains c

/-- The length of the scheme of an address and what follows its mark. An address
without a scheme is left as it is. -/
def splitScheme (address : List Char) : Option Nat × List Char :=
  let scheme := address.takeWhile isSchemeChar
  match Text.dropLead? "://".toList (address.drop scheme.length) with
  | some rest => if address.length ≤ 3 then (none, address) else (some scheme.length, rest)
  | none => (none, address)

/-- Whether a character ends an authority. -/
def endsAuthority (c : Char) : Bool := c = '/' || c = '?' || c = '#'

/-- Whether a character may stand in an authority. -/
def isAuthorityChar (c : Char) : Bool :=
  c.isAlphanum || "!$&'()*+,-.:;=@[]_~".toList.contains c

/-- What has been met in an authority: colons and percent signs behind the last at
sign or bracket, and whether a bracket was opened and closed. -/
structure Authority where
  colons : Nat := 0
  hasPercent : Bool := false
  isOpened : Bool := false
  isClosed : Bool := false

/-- What has been met after one more character. -/
def Authority.step (a : Authority) (c : Char) : Option Authority :=
  if c = ':' then if maxColons ≤ a.colons then none else some { a with colons := a.colons + 1 }
  else if c = '[' then
    if a.hasPercent || a.isOpened then none else some { a with isOpened := true }
  else if c = ']' then
    if !a.isOpened || a.isClosed then none
    else some { a with isClosed := true, colons := 0, hasPercent := false }
  else if c = '@' then some { a with colons := 0, hasPercent := false }
  else if c = '%' then some { a with hasPercent := true }
  else if isAuthorityChar c then some a
  else none

/-- Whether characters are an authority: a host with at most one colon, which may
stand in brackets, behind an optional user. -/
def isAuthority (chars : List Char) : Bool :=
  match chars.foldlM Authority.step {} with
  | none => false
  | some a =>
      a.isOpened = a.isClosed && a.colons ≤ 1 && !a.hasPercent && chars.getLast? ≠ some '@'

/-- Whether a character lies in a closed interval. -/
def isBetween (low high : Char) (c : Char) : Bool := low ≤ c && c ≤ high

/-- Whether a character may stand in a path. -/
def isPathChar (c : Char) : Bool :=
  c = '!' || isBetween '$' ';' c || c = '=' || isBetween '@' '_' c || isBetween 'a' '~' c
    || c = '"' || 0x7F ≤ c.toNat

/-- Whether a character may stand in a query. -/
def isQueryChar (c : Char) : Bool :=
  c = '!' || isBetween '$' ';' c || c = '=' || 0x3F ≤ c.toNat

/-- Whether characters are a path and a query. What follows a number sign says
nothing. -/
def isPathAndQuery (chars : List Char) : Bool :=
  let path := chars.takeWhile fun c => c ≠ '?' && c ≠ '#'
  let query := match chars.drop path.length with
    | '?' :: rest => rest.takeWhile (· ≠ '#')
    | _ => []
  path.all isPathChar && query.all isQueryChar

/-- Whether a text is an address. -/
def isAddress (text : String) : Bool :=
  if text.utf8ByteSize = 0 || maxAddressSize < text.utf8ByteSize then false
  else if text = "*" then true
  else if text.toList.head? = some '/' then isPathAndQuery text.toList
  else
    let (scheme, rest) := splitScheme text.toList
    let authority := rest.takeWhile fun c => !endsAuthority c
    let target := rest.drop authority.length
    isAuthority authority &&
      match scheme with
      | none => target.isEmpty
      | some length =>
          length ≤ maxSchemeLength && !authority.isEmpty && isPathAndQuery target

end Moorage.Http

import Moorage.Kubeconfig

/-!
# `Moorage.Proofs.Address`: an address with another host

`Address` is an address by its parts: a scheme, a host, a port if there is one, and a path.
`Address.text` puts them together, and `replaceHost` is said to take the text to that of the same
parts with another host.

The function works on any text and has no idea of parts. It cuts behind the scheme, at the first
slash after it and at the last colon before that, and takes what is behind that colon for the port.
For an address this is right if it has a port, or if there is no colon in its host. A bracketed
IPv6 address has some, so that without a port the end of it is kept as if it were one.

That of two changes the later one counts needs no address: it holds of any text, because a host
without separators goes in where the cuts are and adds no new ones.

* `replaceHost_eq`: what becomes of the parts. The port is what follows the last colon of host
  and port together.
* `replaceHost_address`: the host alone changes exactly if an address without a port has no colon
  in its host.
* `replaceHost_portless`: an address of which more changes than the host.
* `replaceHost_replaceHost`: of two changes the later one counts, whatever the address looks like.
-/

set_option autoImplicit false

namespace Moorage.Kubeconfig

/-- An address by its parts. The path begins with its slash when there is one, and holds whatever
follows, a query for example. -/
structure Address where
  scheme : String
  host : String
  port : Option String
  path : String

namespace Address

/-- The address as a text. A port comes with its colon, and without one there is none. -/
def text (a : Address) : String :=
  a.scheme ++ "://" ++ a.host ++ ((a.port.map (":" ++ ·)).getD "") ++ a.path

/-- A name or an IPv4 address: none of the separators of an address is in it. Hosts that the
program puts into addresses are of this kind. -/
def IsName (host : String) : Prop := ':' ∉ host.toList ∧ '/' ∉ host.toList

instance (host : String) : Decidable (IsName host) :=
  inferInstanceAs (Decidable (':' ∉ host.toList ∧ '/' ∉ host.toList))

/-- An IPv6 address in brackets. Colons may stand in it, and these are what the last colon of an
address can be mistaken for. -/
def IsBracketed (host : String) : Prop :=
  ∃ inner : String, host = "[" ++ inner ++ "]" ∧ '/' ∉ inner.toList

/-- The parts are such that their text is an address: the scheme ends at the mark behind it, the
port is of digits, and the path begins with a slash if there is one. -/
structure WellFormed (a : Address) : Prop where
  scheme : ¬ "://".toList <:+: a.scheme.toList
  host : IsName a.host ∨ IsBracketed a.host
  port : ∀ port, a.port = some port → port.toList.all Char.isDigit = true
  path : a.path = "" ∨ ∃ rest, a.path = "/" ++ rest

/-- Host and port together. This is the part of an address that a change of the host looks at. -/
def authority (a : Address) : List Char :=
  a.host.toList ++ ((a.port.map fun port => ':' :: port.toList).getD [])

/-- The characters of an address, part by part. Searches in an address are told on this list. -/
theorem toList_text (a : Address) :
    a.text.toList = a.scheme.toList ++ ("://".toList ++ (a.authority ++ a.path.toList)) := by
  cases hport : a.port <;> simp [text, authority, hport]

variable {a : Address}

/-- No port of digits holds a separator. It is stated for any character that is no digit. -/
theorem WellFormed.notMem_port (ha : a.WellFormed) {port : String} (hport : a.port = some port)
    {sep : Char} (hsep : sep.isDigit = false) : sep ∉ port.toList := by
  intro hmem
  have hdigit := List.all_eq_true.mp (ha.port port hport) sep hmem
  rw [hsep] at hdigit
  cases hdigit

/-- The host of an address has no slash, since the path begins at the first one. This is so for
names and for bracketed hosts. -/
theorem WellFormed.slash_notMem_host (ha : a.WellFormed) : '/' ∉ a.host.toList := by
  rcases ha.host with hname | ⟨inner, heq, hinner⟩
  · exact hname.2
  · rw [heq]
    simpa using hinner

/-- Host and port have no slash between them either, so that they end where the path begins. -/
theorem WellFormed.slash_notMem_authority (ha : a.WellFormed) : '/' ∉ a.authority := by
  unfold authority
  cases hport : a.port with
  | none => simpa using ha.slash_notMem_host
  | some port => simpa using ⟨ha.slash_notMem_host, ha.notMem_port hport (by decide)⟩

/-- The slash of the path is the first one behind the scheme. So what stands up to it is host and
port. -/
theorem WellFormed.upTo_authority (ha : a.WellFormed) :
    Text.upTo '/' (a.authority ++ a.path.toList) = a.authority := by
  rcases ha.path with hpath | ⟨rest, hpath⟩
  · rw [hpath]
    simpa using Text.upTo_of_notMem ha.slash_notMem_authority
  · rw [hpath]
    simpa using Text.upTo_append ha.slash_notMem_authority rest.toList

/-- The first mark behind a scheme is the one that the parts are put together with. The mark may
stand again in the path, where it does not count. -/
theorem WellFormed.splitScheme_text (ha : a.WellFormed) :
    splitScheme a.text.toList = (a.scheme.toList, a.authority ++ a.path.toList) := by
  have hcut : Text.cutAt "://".toList a.text.toList
      = some (a.scheme.toList, a.authority ++ a.path.toList) := by
    rw [toList_text]
    exact Text.cutAt_append (by decide) ha.scheme _
  rw [splitScheme, hcut]
  rfl

end Address

open Address

variable {a : Address}

/-- What is taken for the port of an address: its port, and without one what follows the last
colon of its host. -/
def Address.readPort (a : Address) : Option String :=
  a.port.or ((Text.cutLast ':' a.host.toList).map fun parts => String.ofList parts.2)

/-- What follows the last colon of host and port is what is taken for the port. For a bracketed
host without a port this is a piece of the host. -/
theorem Address.WellFormed.cutLast_authority (ha : a.WellFormed) :
    (Text.cutLast ':' a.authority).map Prod.snd = a.readPort.map String.toList := by
  unfold authority readPort
  cases hport : a.port with
  | none => simp [Function.comp_def]
  | some port =>
      have hcolon : ':' ∉ port.toList := ha.notMem_port hport (by decide)
      simp [Text.cutLast_append hcolon]

/-- The parts after a change of the host. They are those of before except for the host, if the
port was read right. -/
theorem replaceHost_eq (ha : a.WellFormed) (host : String) :
    replaceHost a.text host = { a with host := host, port := a.readPort }.text := by
  have hcut := ha.cutLast_authority
  have hpath : (a.authority ++ a.path.toList).drop a.authority.length = a.path.toList := by simp
  rw [← String.toList_inj, toList_text]
  simp only [replaceHost, ha.splitScheme_text, ha.upTo_authority, hpath, String.toList_ofList]
  -- The last colon is looked for once, and read as a port or passed over.
  cases hlast : Text.cutLast ':' a.authority with
  | none =>
      rw [hlast] at hcut
      have hread : a.readPort = none := Option.map_eq_none_iff.mp hcut.symm
      simp [authority, hread]
  | some parts =>
      rw [hlast] at hcut
      obtain ⟨port, hread, hport⟩ := Option.map_eq_some_iff.mp hcut.symm
      simp [authority, hread, hport]

/-- With a port, or without a colon in its host, an address is read as it was put together.
Otherwise it is not, so this is the exact condition. -/
theorem Address.readPort_eq_port_iff {a : Address} :
    a.readPort = a.port ↔ (a.port = none → ':' ∉ a.host.toList) := by
  unfold readPort
  cases a.port with
  | some port => simp
  | none =>
      constructor
      -- What stands behind the last colon of the host is read as a port.
      · intro hread _ hcolon
        obtain ⟨tail, front, hreverse, htail⟩ :=
          List.eq_append_cons_of_mem (List.mem_reverse.mpr hcolon)
        have hhost : a.host.toList = front.reverse ++ ':' :: tail.reverse := by
          rw [← List.reverse_reverse a.host.toList, hreverse]
          simp
        rw [hhost, Text.cutLast_append (mt List.mem_reverse.mp htail)] at hread
        cases hread
      · intro hcolon
        rw [Text.cutLast_eq_none (hcolon rfl)]
        rfl

/-- The port of an address can be told from its text. So a port that was read wrong shows in the
result. -/
theorem Address.text_inj_port (a : Address) (port : Option String) :
    { a with port := port }.text = a.text ↔ port = a.port := by
  rw [← String.toList_inj, toList_text, toList_text]
  constructor
  · intro h
    simp only [authority, List.append_assoc, List.append_cancel_left_eq,
      List.append_cancel_right_eq] at h
    -- A port shows by its colon, and then digit by digit.
    cases hport : a.port with
    | none => cases port <;> simp_all
    | some _ => cases port <;> simp_all [String.toList_inj]
  · rintro rfl
    rfl

/-- The host alone changes, exactly when it is not a bracketed one without a port behind it. -/
theorem replaceHost_address {a : Address} (ha : a.WellFormed) (host : String) :
    (replaceHost a.text host = { a with host := host }.text ↔
      (a.port = none → ':' ∉ a.host.toList)) ∧
    ∀ front tail : String, a.port = none → a.host = front ++ ":" ++ tail → ':' ∉ tail.toList →
      replaceHost a.text host = { a with host := host, port := some tail }.text := by
  constructor
  · rw [replaceHost_eq ha, ← Address.readPort_eq_port_iff]
    exact Address.text_inj_port { a with host := host } a.readPort
  · intro front tail hport hhost htail
    have hcut : Text.cutLast ':' a.host.toList = some (front.toList, tail.toList) := by
      rw [hhost]
      simpa using Text.cutLast_append htail front.toList
    have hread : a.readPort = some tail := by simp [Address.readPort, hport, hcut]
    rw [replaceHost_eq ha, hread]

/-- A bracketed address with a port. The colons of the path are behind the first slash and do not
count. -/
theorem replaceHost_address_bracketed :
    (⟨"https", "[2001:db8::1]", some "6443", "/v1:a/b"⟩ : Address).WellFormed ∧
    replaceHost "https://[2001:db8::1]:6443/v1:a/b" "[::1]" = "https://[::1]:6443/v1:a/b" := by
  have ha : (⟨"https", "[2001:db8::1]", some "6443", "/v1:a/b"⟩ : Address).WellFormed :=
    { scheme := by decide
      host := Or.inr ⟨"2001:db8::1", rfl, by decide⟩
      port := by
        intro port hport
        cases hport
        decide
      path := Or.inr ⟨"v1:a/b", rfl⟩ }
  have hhost := (replaceHost_address ha "[::1]").1.mpr (fun hport => nomatch hport)
  exact ⟨ha, hhost⟩

/-- The address of a server at an IPv6 address without a port: the end of the host is taken for
one. -/
theorem replaceHost_portless :
    (⟨"https", "[::1]", none, ""⟩ : Address).WellFormed ∧
    (⟨"https", "[::1]", none, ""⟩ : Address).text = "https://[::1]" ∧
    (⟨"https", "10.0.0.4", none, ""⟩ : Address).text = "https://10.0.0.4" ∧
    replaceHost "https://[::1]" "10.0.0.4" = "https://10.0.0.4:1]" := by
  refine ⟨⟨by decide, Or.inr ⟨"::1", rfl, by decide⟩, by simp, Or.inl rfl⟩, rfl, rfl, by decide⟩

/-! ### Changing the host twice

Any text is changed as an address, with or without a scheme, a host and the right separators. What
a change leaves of it is its frame, and a host that holds no separators goes into it and comes out
again. -/

/-- The port of an authority, with the colon before it. It is empty when there is no colon. -/
def portPart (authority : List Char) : List Char :=
  match Text.cutLast ':' authority with
  | some (_, port) => ':' :: port
  | none => []

/-- A port begins at the last colon. It is told on any text, so that values which are no addresses
are included. -/
theorem portPart_cases (authority : List Char) :
    portPart authority = [] ∨
      ∃ port, portPart authority = ':' :: port ∧ ':' ∉ port ∧ port ⊆ authority := by
  unfold portPart
  cases hcut : Text.cutLast ':' authority with
  | none => exact Or.inl rfl
  | some parts =>
      obtain ⟨front, port⟩ := parts
      obtain ⟨rfl, hcolon⟩ := Text.of_cutLast_eq_some hcut
      exact Or.inr ⟨port, rfl, hcolon, fun c hc => by simp [hc]⟩

/-- Behind a host without colons it is found again. The host must have none, as the port is looked
for at the last one. -/
theorem portPart_append {host port : List Char} (hhost : ':' ∉ host)
    (hport : port = [] ∨ ∃ tail, port = ':' :: tail ∧ ':' ∉ tail) :
    portPart (host ++ port) = port := by
  unfold portPart
  obtain rfl | ⟨tail, rfl, htail⟩ := hport
  · rw [List.append_nil, Text.cutLast_eq_none hhost]
  · rw [Text.cutLast_append htail]

/-- What a change of the host leaves of an address. The port comes with the colon before it. Any
text has a frame, whether it is an address or not. -/
structure Frame where
  scheme : List Char
  port : List Char
  path : List Char

namespace Frame

/-- The address with a host in the frame. The mark behind the scheme is added even where there was
none. -/
def fill (f : Frame) (host : List Char) : List Char :=
  f.scheme ++ "://".toList ++ host ++ f.port ++ f.path

/-- The frame around the host of an address. Its parts are cut as the program cuts them. -/
def ofAddress (address : List Char) : Frame :=
  let (scheme, rest) := splitScheme address
  let authority := Text.upTo '/' rest
  { scheme := scheme, port := portPart authority, path := rest.drop authority.length }

/-- A change of the host puts another one into the frame. -/
theorem toList_replaceHost (address host : String) :
    (replaceHost address host).toList = (ofAddress address.toList).fill host.toList :=
  String.toList_ofList

/-- Each part ends where the next one begins. So the parts can be read back from the text that
they make. -/
structure WellFormed (f : Frame) : Prop where
  scheme : ¬ "://".toList <:+: f.scheme
  port : f.port = [] ∨ ∃ tail, f.port = ':' :: tail ∧ ':' ∉ tail ∧ '/' ∉ tail
  path : f.path = [] ∨ ∃ rest, f.path = '/' :: rest

/-- The frame of any text is that of an address. No assumption is made about the text, since
kubeconfigs may hold any. -/
theorem wellFormed_ofAddress (address : List Char) : (ofAddress address).WellFormed where
  scheme := by
    show ¬ "://".toList <:+: (splitScheme address).1
    unfold splitScheme
    cases hcut : Text.cutAt "://".toList address with
    | none => exact (by decide : ¬ "://".toList <:+: "https".toList)
    | some parts => exact (Text.of_cutAt_eq_some hcut).2
  port := by
    have hslash := Text.notMem_upTo '/' (splitScheme address).2
    obtain h | ⟨port, h, hcolon, hpart⟩ := portPart_cases (Text.upTo '/' (splitScheme address).2)
    · exact Or.inl h
    · exact Or.inr ⟨port, h, hcolon, fun hmem => hslash (hpart hmem)⟩
  path := Text.drop_upTo '/' _

variable {f : Frame}

/-- The slash of the path is the first one behind the scheme. The host has none, and neither has
the port. -/
theorem WellFormed.upTo_eq (hf : f.WellFormed) {host : String} (hhost : IsName host) :
    Text.upTo '/' (host.toList ++ f.port ++ f.path) = host.toList ++ f.port := by
  have hslash : '/' ∉ host.toList ++ f.port := by
    obtain h | ⟨tail, h, -, htail⟩ := hf.port
    · simp [h, hhost.2]
    · simp [h, hhost.2, htail]
  obtain h | ⟨rest, h⟩ := hf.path
  · rw [h, List.append_nil, Text.upTo_of_notMem hslash]
  · rw [h, Text.upTo_append hslash]

/-- A host without separators comes out of the frame that it was put in. It is why a second change
of the host makes the first one forgotten. -/
theorem WellFormed.ofAddress_fill (hf : f.WellFormed) {host : String} (hhost : IsName host) :
    ofAddress (f.fill host.toList) = f := by
  have hsplit : splitScheme (f.fill host.toList)
      = (f.scheme, host.toList ++ f.port ++ f.path) := by
    have hcut : Text.cutAt "://".toList
        (f.scheme ++ ("://".toList ++ (host.toList ++ f.port ++ f.path)))
        = some (f.scheme, host.toList ++ f.port ++ f.path) :=
      Text.cutAt_append (by decide) hf.scheme _
    simp only [List.append_assoc] at hcut
    simp only [splitScheme, fill, List.append_assoc, hcut]
    rfl
  have hport : portPart (host.toList ++ f.port) = f.port :=
    portPart_append hhost.1 (hf.port.imp_right fun ⟨tail, h, hcolon, _⟩ => ⟨tail, h, hcolon⟩)
  simp only [ofAddress, hsplit, hf.upTo_eq hhost, hport, List.drop_left]

end Frame

/-- Of two changes of the host the later one counts, if the earlier host has no separators. What the
address looks like does not matter. -/
theorem replaceHost_replaceHost {first : String} (hfirst : IsName first) (address host : String) :
    replaceHost (replaceHost address first) host = replaceHost address host := by
  have hframe := Frame.wellFormed_ofAddress address.toList
  rw [← String.toList_inj, Frame.toList_replaceHost, Frame.toList_replaceHost address first,
    Frame.toList_replaceHost address host, hframe.ofAddress_fill hfirst]

end Moorage.Kubeconfig

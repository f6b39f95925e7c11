import Mathlib.Data.List.Basic
import Moorage.Proofs.Address
import Moorage.Proofs.Provider.Calls

/-!
# `Moorage.Proofs.Provider.PublishedHost`: the host that clusters are reached under

Published ports are on the host of the container engine, and the address of a remote engine
names it. `Settings.hostOf` reads the host of an address from the right: what follows the last
colon is a port if it is of digits only.

An address has a scheme, a host, a port if there is one and a path, and a socket on the machine has
another form, for which there is no remote host. Where there is none the clusters are reached under
the host of this machine. The statements have both directions: what is read from an address that is
put together from its parts, and what the address of a host that was read looks like.

* `hostOf_authority`: host and port are told apart, also in a bracketed IPv6 address, whose own
  colons are not followed by digits only.
* `remoteHost?_address`, `of_remoteHost?_eq_some`: the host of a remote engine.
* `engineHost_read`: all of this for the settings of a run, and what providers do with the host.
-/

set_option autoImplicit false

namespace Moorage

open Kubeconfig (Address)
open Service (Call)

namespace Settings

/-! ### The host of an address -/

/-- The host of an address has no slash in it, whatever the address looks like. It is cut off at
the first one. -/
theorem slash_notMem_hostOf (rest : List Char) : '/' ∉ hostOf rest := by
  have hauthority : '/' ∉ Text.upTo '/' rest := Text.notMem_upTo '/' rest
  unfold hostOf
  dsimp only
  split
  case h_2 => exact hauthority
  case h_1 host port hcut =>
    split
    case isFalse => exact hauthority
    case isTrue =>
      obtain ⟨hparts, -⟩ := Text.of_cutLast_eq_some hcut
      rw [hparts] at hauthority
      exact fun h => hauthority (List.mem_append_left _ h)

/-- What follows the last colon of a bracketed host is no port: the bracket is part of it. So such
a host is not cut. -/
theorem not_digits_of_bracketed {host : String} (hhost : Address.IsBracketed host)
    {front tail : List Char} (hcut : Text.cutLast ':' host.toList = some (front, tail)) :
    tail.all Char.isDigit = false := by
  obtain ⟨inner, rfl, -⟩ := hhost
  obtain ⟨hparts, -⟩ := Text.of_cutLast_eq_some hcut
  -- The text ends with the bracket, and so does what follows any of its colons.
  have hlast : (front ++ ':' :: tail).getLast? = some ']' := by
    rw [← hparts, String.toList_append]
    exact List.getLast?_concat
  rw [List.getLast?_append_cons] at hlast
  have hbracket : ']' ∈ tail := by
    rcases List.mem_cons.mp (List.mem_of_getLast? hlast) with h | h
    · exact absurd h (by decide)
    · exact h
  exact List.all_eq_false.mpr ⟨']', hbracket, by decide⟩

variable {a : Address}

/-- The host of an address that is put together from its parts is that part. Names and bracketed
hosts are both read right, with and without a port. -/
theorem hostOf_authority (ha : a.WellFormed) :
    hostOf (a.authority ++ a.path.toList) = a.host.toList := by
  rw [hostOf, ha.upTo_authority, Address.authority]
  cases hport : a.port with
  | some port =>
      -- The last colon is that of the port.
      have hcolon : ':' ∉ port.toList := ha.notMem_port hport (by decide)
      have hdigits : port.toList.all Char.isDigit = true := ha.port port hport
      simp [Text.cutLast_append hcolon, hdigits]
  | none =>
      simp only [Option.map_none, Option.getD_none, List.append_nil]
      rcases ha.host with hname | hbracketed
      · simp only [Text.cutLast_eq_none hname.1]
      · cases hcut : Text.cutLast ':' a.host.toList with
        | none => rfl
        | some parts =>
            simp only [not_digits_of_bracketed hbracketed hcut, Bool.false_eq_true, if_false]

/-- A TCP engine is at the host of its address, unless that is empty. Then the engine counts as
local. -/
theorem remoteHost?_address (ha : a.WellFormed) (htcp : a.scheme = "tcp") :
    remoteHost? a.text = if a.host = "" then none else some a.host := by
  have hrest : Text.dropLead? "tcp://".toList a.text.toList
      = some (a.authority ++ a.path.toList) := by
    rw [Text.dropLead?_eq_some, Address.toList_text, htcp]
    rfl
  simp only [remoteHost?, hrest, hostOf_authority ha, String.ofList_toList]
  simp

/-- Only TCP engines are remote. An engine behind a socket publishes its ports on this machine. -/
theorem remoteHost?_of_not_tcp {address : String}
    (h : ¬ "tcp://".toList <+: address.toList) : remoteHost? address = none := by
  unfold remoteHost?
  split
  · rfl
  · rename_i rest hrest
    exact absurd ⟨rest, (Text.dropLead?_eq_some.mp hrest).symm⟩ h

/-- The host of a remote engine is not empty and has no slash in it. This is enough for putting it
into an address. -/
theorem of_remoteHost?_eq_some {address host : String} (h : remoteHost? address = some host) :
    host ≠ "" ∧ '/' ∉ host.toList := by
  unfold remoteHost? at h
  split at h
  · cases h
  · rename_i rest _
    dsimp only at h
    split at h
    · cases h
    · rename_i hne
      cases h
      refine ⟨fun hempty => hne ?_, by simpa using slash_notMem_hostOf rest⟩
      simpa using congrArg String.toList hempty

/-- The environment names the engine. Nothing else in it has a part in the host. -/
theorem engineHost?_ofEnvironment (env : Environment) :
    (ofEnvironment env).engineHost? = (env "DOCKER_HOST").bind remoteHost? := by
  -- An empty value counts as none, and neither has a host.
  cases henv : env "DOCKER_HOST" with
  | none => simp [engineHost?, ofEnvironment, henv]
  | some address =>
      by_cases hempty : address = ""
      · simp [engineHost?, ofEnvironment, henv, hempty, remoteHost?, Text.dropLead?]
      · simp [engineHost?, ofEnvironment, henv, Option.filter_some, hempty]

end Settings

/-! ### What is done with the host -/

/-- What is written is a copy of the kubeconfig of the resource, and Nomad is asked at a port of
the published host. -/
def Service.Call.Reaches (settings : Settings) (r : Resource) : Call → Prop
  | .writeFile path text => Kubeconfig.IsCopyOf settings r path text
  | .nomadReady address => ∃ port : UInt16, address = s!"http://{settings.publishedHost}:{port}"
  | _ => True

/-- The creation of a resource reaches clusters under the published host. What it asks of others
is not bound by this. -/
theorem Provider.asks_reaches (settings : Settings) (r : Resource) :
    (create settings r).Asks (Call.Reaches settings r) := by
  refine asks_create (fun call hplain => ?_) (fun _ _ _ _ => trivial) (fun _ _ _ _ => trivial)
    (fun _ _ hcopy => hcopy) fun port => ⟨port, rfl⟩
  cases call <;> trivial

namespace Settings

/-- The host of the engine is read from its address, and used for what is published. Without an
address the engine is on this machine. -/
structure ReadsHost (s : Settings) : Prop where
  /-- A TCP engine is at the host of its address, unless that is empty. -/
  address : ∀ a : Address, a.WellFormed → a.scheme = "tcp" → s.engineAddress = some a.text →
    s.engineHost? = (if a.host = "" then none else some a.host) ∧
    s.publishedHost = (if a.host = "" then "127.0.0.1" else a.host)
  /-- All other engines are on this machine. -/
  notTcp : (∀ rest, s.engineAddress ≠ some ("tcp://" ++ rest)) →
    s.engineHost? = none ∧ s.publishedHost = "127.0.0.1"
  /-- Whatever the address looks like, no path comes with the host. -/
  plain : ∀ host, s.engineHost? = some host → host ≠ "" ∧ '/' ∉ host.toList
  published : s.publishedHost ≠ "" ∧ '/' ∉ s.publishedHost.toList
  asks : ∀ r, (Provider.create s r).Asks (Call.Reaches s r)

/-- The host of a remote engine is what stands between the scheme and the port or the path, and it
is what clusters are reached under. Addresses of other forms have no such host. -/
theorem engineHost_read (s : Settings) : s.ReadsHost := by
  have hplain : ∀ host, s.engineHost? = some host → host ≠ "" ∧ '/' ∉ host.toList := by
    intro host h
    obtain ⟨address, -, hhost⟩ := Option.bind_eq_some_iff.mp h
    exact of_remoteHost?_eq_some hhost
  constructor
  case plain => exact hplain
  case asks => exact Provider.asks_reaches s
  case address =>
    intro a ha htcp haddress
    have hhost : s.engineHost? = if a.host = "" then none else some a.host := by
      rw [engineHost?, haddress]
      exact remoteHost?_address ha htcp
    refine ⟨hhost, ?_⟩
    rw [publishedHost, hhost]
    split <;> rfl
  case notTcp =>
    intro hother
    have hnone : s.engineHost? = none := by
      -- Without an address there is no host, and any other address has another scheme.
      cases haddress : s.engineAddress with
      | none => simp [engineHost?, haddress]
      | some address =>
          rw [engineHost?, haddress]
          refine remoteHost?_of_not_tcp fun ⟨rest, hrest⟩ => hother (String.ofList rest) ?_
          rw [haddress, Option.some_inj, ← String.toList_inj, ← hrest]
          simp
    exact ⟨hnone, by rw [publishedHost, hnone]; rfl⟩
  case published =>
    unfold publishedHost
    cases hhost : s.engineHost? with
    | none => decide
    | some host => exact hplain host hhost

/-- An engine at a bracketed IPv6 address, with a port and with a colon in its path. None of the
three kinds of colon is taken for another. -/
theorem engineHost_read_bracketed :
    let a : Address := ⟨"tcp", "[2001:db8::1]", some "2376", "/v1:4"⟩
    let s := ofEnvironment fun name => if name = "DOCKER_HOST" then some a.text else none
    a.text = "tcp://[2001:db8::1]:2376/v1:4" ∧ a.WellFormed ∧ s.engineAddress = some a.text ∧
    s.engineHost? = some "[2001:db8::1]" ∧ s.publishedHost = "[2001:db8::1]" := by
  intro a s
  have ha : a.WellFormed :=
    { scheme := by decide
      host := Or.inr ⟨"2001:db8::1", rfl, by decide⟩
      port := by
        intro port hport
        cases hport
        decide
      path := Or.inr ⟨"v1:4", rfl⟩ }
  exact ⟨by decide, ha, by decide, (engineHost_read s).address a ha rfl (by decide)⟩

end Settings

end Moorage

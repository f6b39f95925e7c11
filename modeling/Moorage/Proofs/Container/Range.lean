import Mathlib.Data.List.Nodup
import Moorage.Proofs.Container.Publication
import Moorage.Proofs.Text.Number

/-!
# `Moorage.Proofs.Container.Range`: ranges of ports

A range is declared as a text. `WritesRange` says which ports a text means, and that is what
`PortRange.bounds` reads. Each of these ports is published once, up to the last port of all.

A range is two numbers with a dash between them, cut at the first dash, so that a second dash would
have to be part of the last number and is not read. Blanks may stand around each of them. A range
that goes downwards is none. One of a single port is a range, and so is one that begins at zero.

A range is read for each container anew, and a text that is none fails the blueprint with the text
in quotes. What a range publishes is independent of the other ranges and of single ports: endpoints
that two of them publish are exposed once.

* `PortRange.bounds_eq_ok_iff`, `PortRange.bounds_eq_error`: the texts that are read as a range,
  and what becomes of the others.
* `PortRange.publications_eq_ok`: the endpoints that a range publishes.
* `PortRange.exposed_as_written`: a container exposes the ports that its ranges write.
-/

set_option autoImplicit false

namespace Moorage

/-- The text writes the range: two numbers of ports with a dash between them, in their order. The
first dash is the one that counts. -/
def WritesRange (text : String) (first last : Nat) : Prop :=
  ∃ before after, text.toList = before ++ '-' :: after ∧ '-' ∉ before ∧
    Text.Writes before first ∧ Text.Writes after last ∧ first ≤ last ∧ last ≤ 65535

/-- A range that is written goes upwards and ends at the last port of all at most. It has at least
one port. -/
theorem WritesRange.le {text : String} {first last : Nat} (h : WritesRange text first last) :
    first ≤ last ∧ last ≤ 65535 := by
  obtain ⟨_, _, -, -, -, -, hle, hbound⟩ := h
  exact ⟨hle, hbound⟩

/-! ### Reading -/

/-- A port is read from a text that writes a number of sixteen bits. Blanks around it, a plus sign
and leading zeros are allowed. -/
theorem portNumber?_eq_some_iff {text : List Char} {port : UInt16} :
    portNumber? text = some port ↔ Text.Writes text port.toNat := by
  have hlast : port.toNat ≤ 65535 := Nat.le_of_lt_succ port.toNat_lt
  rw [portNumber?, Option.map_eq_some_iff]
  constructor
  · rintro ⟨n, hread, rfl⟩
    obtain ⟨hwrites, hbound⟩ := Text.unsigned?_trim_eq_some_iff.mp hread
    rwa [UInt16.toNat_ofNat_of_lt' (Nat.lt_succ_of_le hbound)]
  · intro hwrites
    exact ⟨port.toNat, Text.unsigned?_trim_eq_some_iff.mpr ⟨hwrites, hlast⟩, UInt16.ofNat_toNat⟩

namespace PortRange

variable {r : PortRange} {first last : UInt16}

/-- The bounds that are read are those that the text writes, and no other text has any. The text
is cut at its first dash. -/
theorem bounds?_eq_some_iff {text : String} :
    bounds? text = some (first, last) ↔ WritesRange text first.toNat last.toNat := by
  have hlast : last.toNat ≤ 65535 := Nat.le_of_lt_succ last.toNat_lt
  simp only [bounds?, Option.bind_eq_bind, Option.bind_eq_some_iff, Prod.exists,
    Option.ite_none_right_eq_some, Option.some.injEq, Prod.mk.injEq, portNumber?_eq_some_iff]
  constructor
  · rintro ⟨before, after, hcut, _, hfirst, _, hlast', hle, rfl, rfl⟩
    obtain ⟨htext, hdash⟩ := Text.of_cutFirst_eq_some hcut
    exact ⟨before, after, htext, hdash, hfirst, hlast', UInt16.le_iff_toNat_le.mp hle, hlast⟩
  · rintro ⟨before, after, htext, hdash, hfirst, hlast', hle, -⟩
    refine ⟨before, after, ?_, first, hfirst, last, hlast', UInt16.le_iff_toNat_le.mpr hle, rfl, rfl⟩
    rw [htext, Text.cutFirst_append hdash]

/-- The bounds of a range are those that its text writes. -/
theorem bounds_eq_ok_iff :
    r.bounds = .ok (first, last) ↔ WritesRange r.range first.toNat last.toNat := by
  rw [← bounds?_eq_some_iff, bounds]
  cases bounds? r.range <;> simp

/-- A text that writes no range is refused, and the refusal carries it. It carries the whole text,
as it was declared. -/
theorem bounds_eq_error (h : ∀ first last, ¬WritesRange r.range first last) :
    r.bounds = .error (.portRange r.range) := by
  have hnone : bounds? r.range = none := by
    rw [Option.eq_none_iff_forall_ne_some]
    rintro ⟨first, last⟩ hsome
    exact h _ _ (bounds?_eq_some_iff.mp hsome)
  rw [bounds, hnone]

/-! ### Publishing -/

/-- The endpoints of the range from one port to another, in their order. It goes by numbers, so
that the last port of all is no special case. -/
def endpoints (r : PortRange) (first last : UInt16) : List Endpoint :=
  (List.range' first.toNat (last.toNat - first.toNat + 1)).map fun n => ⟨UInt16.ofNat n, r.protocol⟩

/-- A range publishes as many ports as it goes from the first to the last, both included. -/
theorem length_endpoints : (r.endpoints first last).length = last.toNat - first.toNat + 1 := by
  rw [endpoints, List.length_map, List.length_range']

/-- The endpoints of a range are different ones, also at the end of all ports. The numbers do not
come round to zero. -/
theorem nodup_endpoints (hle : first ≤ last) : (r.endpoints first last).Nodup := by
  rw [UInt16.le_iff_toNat_le] at hle
  refine List.Nodup.map_on (fun m hm n hn heq => ?_) List.nodup_range'
  have hport : ∀ i ∈ List.range' first.toNat (last.toNat - first.toNat + 1),
      (UInt16.ofNat i).toNat = i := by
    intro i hi
    obtain ⟨hlow, hhigh⟩ := List.mem_range'_1.mp hi
    have hi : i ≤ last.toNat := by omega
    exact UInt16.toNat_ofNat_of_lt' (Nat.lt_of_le_of_lt hi last.toNat_lt)
  rw [← hport m hm, ← hport n hn]
  exact congrArg (fun e : Endpoint => e.port.toNat) heq

/-- The publications of a range are one for each of its ports. They stand in the order of the
ports. -/
theorem publications_eq_ok (h : r.bounds = .ok (first, last)) :
    ∃ publications, r.publications = .ok publications ∧
      publications.map Publication.endpoint = r.endpoints first last := by
  have hle := (bounds_eq_ok_iff.mp h).le.1
  refine ⟨_, Except.bind_eq_ok_iff.mpr ⟨(first, last), h, rfl⟩, ?_⟩
  rw [Nat.succ_sub hle, List.map_map]
  rfl

end PortRange

namespace Blueprint

variable {c : Container} {b : Blueprint}

/-- Different endpoints are exposed each on its own. So they can be counted before they are made a
set. -/
theorem size_exposedBy {publications : List Publication}
    (h : (publications.map Publication.endpoint).Nodup) :
    (exposedBy publications).size = publications.length := by
  induction publications using List.reverseRecOn with
  | nil => simp [exposedBy]
  | append_singleton publications p ih =>
      rw [List.map_append, List.nodup_append] at h
      have hnew : p.endpoint ∉ exposedBy publications := by
        rw [mem_exposedBy]
        rintro ⟨q, hq, heq⟩
        exact h.2.2 q.endpoint (List.mem_map_of_mem hq) p.endpoint (List.mem_singleton_self _) heq
      have hlast : exposedBy (publications ++ [p])
          = (exposedBy publications).insert p.endpoint := by
        simp [exposedBy]
      rw [hlast, Std.HashSet.size_insert, if_neg hnew, ih h.1, List.length_append]
      rfl

/-- A container has a blueprint when its ports can be published and its volumes mounted. Only what
it exposes is told here. -/
theorem exists_ofContainer {publications : List Publication}
    (hports : c.spec.publications = .ok publications)
    (hvolumes : ∀ v ∈ c.spec.volumes, ∃ mount, v.mount = .ok mount) :
    ∃ b, ofContainer c = .ok b ∧ b.exposed = exposedBy publications := by
  obtain ⟨mounts, hmounts⟩ := Except.mapM_ok_iff.mpr hvolumes
  exact ⟨_, ofContainer_eq_ok_iff.mpr ⟨publications, mounts, hports, hmounts, rfl⟩, rfl⟩

end Blueprint

/-- A range among others exposes its own ports. Where it stands among them does not matter. -/
theorem exposes_insert_iff {ports : List Port} {before after : List PortRange} {r : PortRange}
    {e : Endpoint} :
    Exposes ports (before ++ r :: after) e ↔ r.Covers e ∨ Exposes ports (before ++ after) e := by
  simp only [Exposes, List.mem_append, List.mem_cons, or_and_right, exists_or, exists_eq_left]
  grind

namespace PortRange

variable {r : PortRange} {first last : UInt16} {c : Container}

/-- A container exposes the ports of a range of its own, and what else it declares. The range is
any of those that are declared. -/
theorem mem_exposed_iff (h : r.bounds = .ok (first, last)) {b : Blueprint}
    (hb : Blueprint.ofContainer c = .ok b) {before after : List PortRange}
    (hranges : c.spec.portRanges = before ++ r :: after) {e : Endpoint} :
    e ∈ b.exposed ↔ (first ≤ e.port ∧ e.port ≤ last ∧ e.protocol = r.protocol) ∨
      Exposes c.spec.ports (before ++ after) e := by
  rw [Blueprint.mem_exposed_iff hb, hranges, exposes_insert_iff]
  refine or_congr_left ?_
  constructor
  · rintro ⟨first', last', h', hcovers⟩
    cases h.symm.trans h'
    exact hcovers
  · exact fun hcovers => ⟨first, last, h, hcovers⟩

/-- A container that declares a range only exposes as many endpoints as the range has ports. It
may declare volumes, which have to be mountable. -/
theorem exists_size_exposed (h : r.bounds = .ok (first, last)) (hports : c.spec.ports = [])
    (hranges : c.spec.portRanges = [r])
    (hvolumes : ∀ v ∈ c.spec.volumes, ∃ mount, v.mount = .ok mount) :
    ∃ b, Blueprint.ofContainer c = .ok b ∧
      b.exposed.size = last.toNat - first.toNat + 1 := by
  obtain ⟨publications, hown, hendpoints⟩ := publications_eq_ok h
  have hall : c.spec.publications = .ok publications := by
    rw [ContainerSpec.publications, hports, hranges]
    refine Except.bind_eq_ok_iff.mpr
      ⟨[publications], Except.mapM_eq_ok_iff.mpr (.cons hown .nil), ?_⟩
    simp [pure, Except.pure]
  obtain ⟨b, hb, hexposed⟩ := Blueprint.exists_ofContainer hall hvolumes
  have hle := (bounds_eq_ok_iff.mp h).le.1
  have hnodup : (publications.map Publication.endpoint).Nodup := by
    rw [hendpoints]
    exact nodup_endpoints (UInt16.le_iff_toNat_le.mpr hle)
  refine ⟨b, hb, ?_⟩
  rw [hexposed, Blueprint.size_exposedBy hnodup, ← length_endpoints (r := r), ← hendpoints,
    List.length_map]

/-- The bounds of a range are exactly those that its text writes, and a text that writes none is
refused with the text in quotes. A range that is read publishes one endpoint for each port from
the first to the last, whichever these are. A container with the range among its ranges exposes
the ports of the range and otherwise what it would expose without it; one that declares nothing
else exposes as many endpoints as the range has ports. -/
theorem exposed_as_written (r : PortRange) :
    (∀ first last, r.bounds = .ok (first, last) ↔
      WritesRange r.range first.toNat last.toNat) ∧
    ((∀ first last, ¬WritesRange r.range first last) → r.bounds = .error (.portRange r.range)) ∧
    (ConfigFault.portRange r.range).message
      = "invalid port range '" ++ r.range ++ "', expected start-end" ∧
    ∀ first last, r.bounds = .ok (first, last) →
      (∃ publications, r.publications = .ok publications ∧
        publications.map Publication.endpoint = r.endpoints first last) ∧
      (∀ (c : Container) (b : Blueprint) (before after : List PortRange),
        c.spec.portRanges = before ++ r :: after → Blueprint.ofContainer c = .ok b →
        ∀ e, e ∈ b.exposed ↔ (first ≤ e.port ∧ e.port ≤ last ∧ e.protocol = r.protocol) ∨
          Exposes c.spec.ports (before ++ after) e) ∧
      ∀ c : Container, c.spec.ports = [] → c.spec.portRanges = [r] →
        (∀ v ∈ c.spec.volumes, ∃ mount, v.mount = .ok mount) →
        ∃ b, Blueprint.ofContainer c = .ok b ∧
          b.exposed.size = last.toNat - first.toNat + 1 := by
  refine ⟨fun first last => bounds_eq_ok_iff, bounds_eq_error, rfl, fun first last h => ?_⟩
  exact ⟨publications_eq_ok h, fun c b before after hranges hb e => mem_exposed_iff h hb hranges,
    fun c hports hranges hvolumes => exists_size_exposed h hports hranges hvolumes⟩

/-- The last two ports of all, written with blanks, a plus sign and a leading zero. All that a
number may be written with is in it. -/
def farthest : PortRange := { range := " +065534 -65535" }

/-- A container with one range. Otherwise it declares nothing. -/
def ranged (r : PortRange) : Container where
  owner := "container.web"
  fqdn := "web.container.berth.run"
  name := "web"
  type := .container
  spec := { portRanges := [r] }

/-- A range up to the last port of all exposes that port too, and a text with a second dash is no
range. -/
theorem exposed_as_written_farthest :
    farthest.bounds = .ok (65534, 65535) ∧ WritesRange farthest.range 65534 65535 ∧
    (∃ b, Blueprint.ofContainer (ranged farthest) = .ok b ∧ b.exposed.size = 2 ∧
      (⟨65535, .tcp⟩ : Endpoint) ∈ b.exposed) ∧
    (∀ first last, ¬WritesRange "80-90-100" first last) ∧
    PortRange.bounds { range := "80-90-100" } = .error (.portRange "80-90-100") := by
  obtain ⟨hwrites, -, -, hexposed⟩ := exposed_as_written farthest
  obtain ⟨hother, hrefused, -, -⟩ := exposed_as_written { range := "80-90-100" }
  have hbounds : farthest.bounds = .ok (65534, 65535) := rfl
  obtain ⟨-, hmem, hsize⟩ := hexposed 65534 65535 hbounds
  obtain ⟨b, hb, htwo⟩ := hsize (ranged farthest) rfl rfl nofun
  have hlast := (hmem (ranged farthest) b [] [] rfl hb ⟨65535, .tcp⟩).mpr
    (Or.inl ⟨by decide, by decide, rfl⟩)
  have hnone : ∀ first last, ¬WritesRange "80-90-100" first last := by
    intro first last hrange
    obtain ⟨hle, hbound⟩ := hrange.le
    have hfirst : (UInt16.ofNat first).toNat = first :=
      UInt16.toNat_ofNat_of_lt' (Nat.lt_succ_of_le (Nat.le_trans hle hbound))
    have hlast : (UInt16.ofNat last).toNat = last :=
      UInt16.toNat_ofNat_of_lt' (Nat.lt_succ_of_le hbound)
    have hok := (hother (.ofNat first) (.ofNat last)).mpr (by rwa [hfirst, hlast])
    cases hok
  exact ⟨hbounds, (hwrites 65534 65535).mp hbounds, ⟨b, hb, htwo, hlast⟩, hnone, hrefused hnone⟩

end PortRange

end Moorage

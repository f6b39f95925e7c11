import Mathlib.Algebra.Group.Nat.Defs
import Moorage.Proofs.Container.Range

/-!
# `Moorage.Proofs.Container.Limits`: the limits of a container

A configuration declares a share of the processor in thousandths of a core and memory in MiB. The
engine takes billionths of a core and bytes, both as numbers below 2⁶³. A declared share has 32 bits
and always fits. Declared memory has 64, and the number of bytes need not fit.

Where it does not fit, the limit is left out of the request, and the container runs without one:
`memory_dropped`. The product is held at the largest number of 64 bits first, which is no number of
the engine either, so that this makes no difference.

A limit of zero is a limit and stands in the request as such. Only what was not declared is left
out otherwise.

* `Limits.memoryBytes_eq_held`: memory that is held at a number of 64 bits is held too late.
* `nanoCpus_eq_some_iff`, `memory_eq_some_iff`: what a blueprint makes of a declared limit.
* `hostSetting?_limits`: how a blueprint's limits stand in the request.
* `limits_declared`: the limits of a request are the declared ones, up to the memory that the
  engine has no number for.
* `memory_dropped`: more memory than that is no limit.
-/

set_option autoImplicit false

namespace Moorage

/-- The container declares the share of the processor. It is a number of thousandths of one. -/
def Container.DeclaresCpu (c : Container) (cpu : UInt32) : Prop :=
  ∃ limits, c.spec.limits = some limits ∧ limits.cpu = some cpu

/-- The container declares the memory. It is a number of MiB, and any number of 64 bits can be
declared. -/
def Container.DeclaresMemory (c : Container) (mib : UInt64) : Prop :=
  ∃ limits, c.spec.limits = some limits ∧ limits.memory = some mib

/-- A container declares at most one amount of memory. -/
theorem Container.DeclaresMemory.unique {c : Container} {mib other : UInt64}
    (h : c.DeclaresMemory mib) (hother : c.DeclaresMemory other) : mib = other := by
  obtain ⟨limits, hlimits, hmib⟩ := h
  obtain ⟨limits', hlimits', hmib'⟩ := hother
  obtain rfl := Option.some.inj (hlimits.symm.trans hlimits')
  exact Option.some.inj (hmib.symm.trans hmib')

namespace Limits

variable {l : Limits} {n : Nat}

/-- A share is a number of thousandths, and each of them is a million billionths. The engine
counts the latter. -/
theorem nanoCpus_eq_some_iff :
    l.nanoCpus = some n ↔ ∃ cpu, l.cpu = some cpu ∧ n = cpu.toNat * 1000000 := by
  simp only [nanoCpus, Option.map_eq_some_iff, eq_comm (a := n)]

/-- A share of the processor is far below what the engine takes. The product cannot overflow, as a
share has 32 bits. -/
theorem nanoCpus_lt (h : l.nanoCpus = some n) : n < 2 ^ 63 := by
  obtain ⟨cpu, -, rfl⟩ := nanoCpus_eq_some_iff.mp h
  have hcpu := cpu.toNat_lt
  omega

/-- Memory is told in bytes when their number is one of the engine's. Otherwise there is no
number, and no limit either. -/
theorem memoryBytes_eq_some_iff :
    l.memoryBytes = some n ↔ ∃ mib, l.memory = some mib ∧ n = mib.toNat * 1048576 ∧ n < 2 ^ 63 := by
  simp only [memoryBytes, Option.filter_eq_some_iff, Option.map_eq_some_iff, decide_eq_true_eq]
  constructor
  · rintro ⟨⟨mib, hmib, rfl⟩, hlt⟩
    exact ⟨mib, hmib, rfl, hlt⟩
  · rintro ⟨mib, hmib, rfl, hlt⟩
    exact ⟨⟨mib, hmib, rfl⟩, hlt⟩

/-- To hold the product at the largest number of 64 bits changes nothing: that one is no number of
the engine either. -/
theorem memoryBytes_eq_held :
    l.memoryBytes =
      (l.memory.map fun mib => min (mib.toNat * 1048576) (2 ^ 64 - 1)).filter (· < 2 ^ 63) := by
  ext n
  simp only [memoryBytes_eq_some_iff, Option.filter_eq_some_iff, Option.map_eq_some_iff,
    decide_eq_true_eq]
  constructor
  · rintro ⟨mib, hmib, rfl, hlt⟩
    exact ⟨⟨mib, hmib, by omega⟩, hlt⟩
  · rintro ⟨⟨mib, hmib, rfl⟩, hlt⟩
    exact ⟨mib, hmib, by omega, hlt⟩

end Limits

namespace Blueprint

variable {c : Container} {b : Blueprint} {n : Nat}

/-- A blueprint takes both limits from the configuration, which may have none. Neither of them can
keep a container from having a blueprint. -/
theorem limits_of_ofContainer (h : ofContainer c = .ok b) :
    b.nanoCpus = (c.spec.limits.getD {}).nanoCpus ∧
      b.memory = (c.spec.limits.getD {}).memoryBytes := by
  obtain ⟨publications, mounts, -, -, rfl⟩ := ofContainer_eq_ok_iff.mp h
  exact ⟨rfl, rfl⟩

/-- A blueprint has a share when the container declares one, and then that one. Nothing is lost on
the way. -/
theorem nanoCpus_eq_some_iff (h : ofContainer c = .ok b) :
    b.nanoCpus = some n ↔ ∃ cpu, c.DeclaresCpu cpu ∧ n = cpu.toNat * 1000000 := by
  rw [(limits_of_ofContainer h).1, Limits.nanoCpus_eq_some_iff]
  simp only [Container.DeclaresCpu]
  cases c.spec.limits <;> simp

/-- A blueprint has memory when the container declares an amount that the engine has a number for.
The last condition is what a reader of the configuration would not expect. -/
theorem memory_eq_some_iff (h : ofContainer c = .ok b) :
    b.memory = some n ↔ ∃ mib, c.DeclaresMemory mib ∧ n = mib.toNat * 1048576 ∧ n < 2 ^ 63 := by
  rw [(limits_of_ofContainer h).2, Limits.memoryBytes_eq_some_iff]
  simp only [Container.DeclaresMemory]
  cases c.spec.limits <;> simp

/-! ### Requests -/

/-- What the request asks of the host under the key. This looks at the body as it is sent, and not
at the blueprint. -/
def hostSetting? (b : Blueprint) (key : String) : Option Json :=
  (b.json.field? "HostConfig").bind (Json.field? key)

/-- A list under another key is not found. Lists that are empty are left out of a request, which
does not matter here. -/
theorem find?_listMember {key other : String} (h : key ≠ other) (items : List String) :
    (listMember key items).find? (·.1 = other) = none := by
  unfold listMember
  split <;> simp [h]

/-- The settings of a request that are about the host are those of one object in it. No other
member of the request has its name. -/
theorem hostSetting?_eq (key : String) : b.hostSetting? key = b.hostJson.field? key := by
  have hhost : b.json.field? "HostConfig" = some b.hostJson := by
    simp [json, Json.field?, find?_listMember]
  rw [hostSetting?, hhost, Option.bind_some]

/-- The settings of the host hold the limits that there are, as numbers. Without a limit there is
no member for it. -/
theorem hostSetting?_limits :
    b.hostSetting? "NanoCpus" = b.nanoCpus.map (fun n => .integer n) ∧
      b.hostSetting? "Memory" = b.memory.map fun n => .integer n := by
  rw [hostSetting?_eq, hostSetting?_eq]
  -- The settings before the limits have other keys, whichever of them are there.
  by_cases hpin : b.cpuPin = [] <;> cases hcpu : b.nanoCpus <;> cases hmemory : b.memory <;>
    simp [hostJson, Json.field?, find?_listMember, Json.optional, hpin, hcpu, hmemory]

/-! ### Declared limits -/

/-- Memory that is declared is no limit exactly if its bytes are no number of the engine. That is
from eight exbibytes on. -/
theorem memory_eq_none_iff (h : ofContainer c = .ok b) {mib : UInt64}
    (hmib : c.DeclaresMemory mib) : b.memory = none ↔ 2 ^ 43 ≤ mib.toNat := by
  constructor
  · intro hnone
    by_contra hlt
    have hsome := (memory_eq_some_iff h).mpr ⟨mib, hmib, rfl, by omega⟩
    rw [hnone] at hsome
    cases hsome
  · intro hlarge
    rw [Option.eq_none_iff_forall_ne_some]
    intro n hsome
    obtain ⟨other, hother, rfl, hlt⟩ := (memory_eq_some_iff h).mp hsome
    obtain rfl : other = mib := hother.unique hmib
    omega

/-- The limits that a container is created with are those that it declares, and they stand in the
request as they are: the share of the processor always, the memory as long as its bytes are a
number of the engine. -/
theorem limits_declared (h : ofContainer c = .ok b) :
    (∀ n, b.nanoCpus = some n ↔ ∃ cpu, c.DeclaresCpu cpu ∧ n = cpu.toNat * 1000000) ∧
    (∀ n, b.nanoCpus = some n → n < 2 ^ 63) ∧
    (∀ n, b.memory = some n ↔
      ∃ mib, c.DeclaresMemory mib ∧ n = mib.toNat * 1048576 ∧ n < 2 ^ 63) ∧
    (∀ mib, c.DeclaresMemory mib → (b.memory = none ↔ 2 ^ 43 ≤ mib.toNat)) ∧
    b.hostSetting? "NanoCpus" = b.nanoCpus.map (fun n => .integer n) ∧
    b.hostSetting? "Memory" = b.memory.map fun n => .integer n := by
  have hcpu : ∀ n, b.nanoCpus = some n → n < 2 ^ 63 := by
    rw [(limits_of_ofContainer h).1]
    exact fun n => Limits.nanoCpus_lt
  exact ⟨fun n => nanoCpus_eq_some_iff h, hcpu, fun n => memory_eq_some_iff h,
    fun mib => memory_eq_none_iff h, hostSetting?_limits⟩

/-- A container that declares limits. Otherwise it declares nothing. -/
def limited (cpu : UInt32) (mib : UInt64) : Container where
  owner := "container.web"
  fqdn := "web.container.berth.run"
  name := "web"
  type := .container
  spec := { limits := some { cpu := some cpu, memory := some mib } }

/-- There is a container with any limits, since they are never a reason to refuse one. So too much
memory is not reported anywhere. -/
theorem exists_limited (cpu : UInt32) (mib : UInt64) :
    ∃ b, ofContainer (limited cpu mib) = .ok b := by
  have hports : (limited cpu mib).spec.publications = .ok [] := rfl
  obtain ⟨b, hb, -⟩ := exists_ofContainer hports nofun
  exact ⟨b, hb⟩

/-- The largest share of the processor, and the most memory that is a limit. Both are told to the
engine in full. -/
theorem limits_declared_most :
    ∃ b, ofContainer (limited 4294967295 8796093022207) = .ok b ∧
      b.hostSetting? "NanoCpus" = some (.integer 4294967295000000) ∧
      b.hostSetting? "Memory" = some (.integer 9223372036853727232) := by
  obtain ⟨b, hb⟩ := exists_limited 4294967295 8796093022207
  obtain ⟨hcpu, -, hmemory, -, hcpuSetting, hmemorySetting⟩ := limits_declared hb
  have hn := (hcpu 4294967295000000).mpr ⟨4294967295, ⟨_, rfl, rfl⟩, rfl⟩
  have hm := (hmemory 9223372036853727232).mpr
    ⟨8796093022207, ⟨_, rfl, rfl⟩, rfl, by omega⟩
  refine ⟨b, hb, ?_, ?_⟩
  · rw [hcpuSetting, hn]
    rfl
  · rw [hmemorySetting, hm]
    rfl

/-- One MiB more than the most that is a limit is declared, and the container gets none. With one
MiB less it gets all but a MiB of the eight exbibytes. -/
theorem memory_dropped :
    (limited 1000 8796093022208).DeclaresMemory 8796093022208 ∧
    ∃ b smaller, ofContainer (limited 1000 8796093022208) = .ok b ∧
      ofContainer (limited 1000 8796093022207) = .ok smaller ∧
      b.memory = none ∧ b.hostSetting? "Memory" = none ∧
      smaller.memory = some 9223372036853727232 := by
  have hdeclared : (limited 1000 8796093022208).DeclaresMemory 8796093022208 := ⟨_, rfl, rfl⟩
  obtain ⟨b, hb⟩ := exists_limited 1000 8796093022208
  obtain ⟨smaller, hsmaller⟩ := exists_limited 1000 8796093022207
  have hnone : b.memory = none := (memory_eq_none_iff hb hdeclared).mpr (by decide)
  have hsetting : b.hostSetting? "Memory" = none := by
    rw [hostSetting?_limits.2, hnone]
    rfl
  refine ⟨hdeclared, b, smaller, hb, hsmaller, hnone, hsetting, ?_⟩
  exact (memory_eq_some_iff hsmaller).mpr ⟨8796093022207, ⟨_, rfl, rfl⟩, rfl, by omega⟩

end Blueprint

end Moorage

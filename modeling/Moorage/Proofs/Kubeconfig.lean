import Moorage.Kubeconfig
import Moorage.Proofs.Fold

/-!
# `Moorage.Proofs.Kubeconfig`: the server addresses of a kubeconfig, and nothing else

`servers?` reads the server addresses of a kubeconfig, one for each cluster. It is written for the
statements and does not go through the functions that change them. A kubeconfig in which one cluster
has no address has none at all, because such a one is refused as a whole.

A change of a value in one place is told by relations that say what stays: `ChangedAt` of the value
under a key of a map, `ChangedItems` of the items of a list. Tags around them stay as well. The
server addresses are at the end of three keys and a list, so `Readdressed` is these relations put
into each other, and that all else stays the same is said by their having no other constructor. Of
two entries with one key the first counts, though no text can be read as such a map.

Each function of the rewriting is shown to succeed exactly where its relation holds. From there on
proofs are about relations: what the addresses are afterwards, and that the value can still be
written. Of the writer nothing is used but which values it refuses, `isWritable`.

* `rewriteValue_eq_ok_iff`: the rewritten value is `Readdressed`.
* `exists_readdressed`: there is one if there are server addresses.
* `Readdressed.isWritable`: it can be written if the first one can.
* `rewrite_servers`: what becomes of a kubeconfig's text.
-/

set_option autoImplicit false

namespace Moorage.Yaml.Value

/-- The value under a text key of a map, with or without tags on it. Of several entries with the
key the first counts, as it does when the kubeconfig is changed. -/
def field? (key : String) (value : Value) : Option Value :=
  match value.untagged with
  | .mapping entries => (entries.find? (·.1 == .text key)).map (·.2)
  | _ => none

/-- The items of a list, with or without tags on it. A value that is no list has none, which is
different from an empty list. -/
def items? (value : Value) : Option (List Value) :=
  match value.untagged with
  | .sequence values => some values
  | _ => none

/-- A text, with or without tags on it. -/
def text? (value : Value) : Option String :=
  match value.untagged with
  | .text content => some content
  | _ => none

/-- What holds of values without a tag, and is kept by a tag, holds of all values. Changes step
over tags, so that proofs about them go by this induction and not by that over all values. -/
@[elab_as_elim]
theorem tag_induction {motive : Value → Prop} (value : Value)
    (tagged : ∀ tag inner, motive inner → motive (.tagged tag inner))
    (bare : ∀ value, (∀ tag inner, value ≠ .tagged tag inner) → motive value) : motive value :=
  untagged.induct motive tagged bare value

/-- Only a text is the same as a text. The comparison is that of the program, and sees tags. -/
theorem beq_text_iff {value : Value} {key : String} :
    (value == .text key) = true ↔ value = .text key := by
  show same value (.text key) = true ↔ value = .text key
  cases value <;> simp [same]

/-- A value is another one than a text when the comparison says so. For entries in front of a
key. -/
theorem beq_text_eq_false_iff {value : Value} {key : String} :
    (value == .text key) = false ↔ value ≠ .text key := by
  rw [← Bool.not_eq_true, beq_text_iff]

variable {key : String} {value : Value}

/-- The value of the first entry under a key. Entries behind it may have the key again. -/
theorem field?_mapping {before after : List (Value × Value)}
    (h : ∀ entry ∈ before, entry.1 ≠ .text key) :
    (Value.mapping (before ++ (.text key, value) :: after)).field? key = some value := by
  have hbefore : before.find? (·.1 == .text key) = none := by
    rw [List.find?_eq_none]
    intro entry hentry heq
    exact h entry hentry (beq_text_iff.mp heq)
  have hkey : ((.text key : Value) == .text key) = true := beq_text_iff.mpr rfl
  simp [field?, untagged, List.find?_append, hbefore, hkey]

/-- A value under a key stands behind entries with other keys. The entries are given in three
parts here, as a change needs them. -/
theorem exists_of_field?_mapping {entries : List (Value × Value)}
    (h : (Value.mapping entries).field? key = some value) :
    ∃ before after, entries = before ++ (.text key, value) :: after ∧
      ∀ entry ∈ before, entry.1 ≠ .text key := by
  obtain ⟨⟨name, found⟩, hfind, heq⟩ := Option.map_eq_some_iff.mp h
  obtain ⟨hname, before, after, rfl, hbefore⟩ := List.find?_eq_some_iff_append.mp hfind
  obtain rfl : name = .text key := beq_text_iff.mp hname
  obtain rfl : found = value := heq
  refine ⟨before, after, rfl, fun entry hentry => ?_⟩
  exact beq_text_eq_false_iff.mp (by simpa using hbefore entry hentry)

/-- A map without a value under a key has no entry with it. Then a change under the key fails. -/
theorem forall_ne_of_field?_mapping {entries : List (Value × Value)}
    (h : (Value.mapping entries).field? key = none) : ∀ entry ∈ entries, entry.1 ≠ .text key := by
  have hfind := List.find?_eq_none.mp (Option.map_eq_none_iff.mp h)
  intro entry hentry heq
  exact hfind entry hentry (beq_text_iff.mpr heq)

end Moorage.Yaml.Value

namespace Moorage.Kubeconfig

open Yaml (Value)

/-- The server address of a cluster. It is the text under two keys, and tags may be on all three
values. -/
def serverOf? (entry : Value) : Option String := do
  let cluster ← entry.field? "cluster"
  let server ← cluster.field? "server"
  server.text?

/-- The server addresses of a kubeconfig, if every cluster has one. A text for which there are
none is no kubeconfig, as far as the program is concerned. -/
def servers? (document : Value) : Option (List String) := do
  let clusters ← document.field? "clusters"
  let entries ← clusters.items?
  entries.mapM serverOf?

section Changes

variable {key : String} {R : Value → Value → Prop}

/-- Two values differ in the value under a key of a map alone, which changes as `R` says. The
order of the entries stays, and so do the tags on the map. -/
inductive ChangedAt (key : String) (R : Value → Value → Prop) : Value → Value → Prop
  | entry {before after : List (Value × Value)} {value value' : Value}
      (first : ∀ entry ∈ before, entry.1 ≠ .text key) (change : R value value') :
      ChangedAt key R (.mapping (before ++ (.text key, value) :: after))
        (.mapping (before ++ (.text key, value') :: after))
  | tagged (tag : String) {v w : Value} (inner : ChangedAt key R v w) :
      ChangedAt key R (.tagged tag v) (.tagged tag w)

/-- Two values differ in the items of a list alone, each of which changes as `R` says. Their
number stays, their order, and the tags on the list. -/
inductive ChangedItems (R : Value → Value → Prop) : Value → Value → Prop
  | items {items items' : List Value} (each : List.Forall₂ R items items') :
      ChangedItems R (.sequence items) (.sequence items')
  | tagged (tag : String) {v w : Value} (inner : ChangedItems R v w) :
      ChangedItems R (.tagged tag v) (.tagged tag w)

variable {missing : ConfigFault} {change : Value → Except ConfigFault Value}

/-- The value under a key is the one that changes. When its change fails the whole fails, and
nothing is left half changed. -/
theorem changeAt_mapping {before after : List (Value × Value)} {value : Value}
    (h : ∀ entry ∈ before, entry.1 ≠ .text key) :
    changeAt key missing change (.mapping (before ++ (.text key, value) :: after))
      = (change value).map fun value' => .mapping (before ++ (.text key, value') :: after) := by
  have hbefore : before.findIdx? (·.1 == .text key) = none := by
    rw [List.findIdx?_eq_none_iff]
    exact fun entry hentry => Value.beq_text_eq_false_iff.mpr (h entry hentry)
  have hkey : ((.text key : Value) == .text key) = true := Value.beq_text_iff.mpr rfl
  have hindex : (before ++ (.text key, value) :: after).findIdx? (·.1 == .text key)
      = some before.length := by
    simp [List.findIdx?_append, List.findIdx?_cons, hbefore, hkey]
  have hentry : (before ++ (.text key, value) :: after)[before.length]?
      = some (.text key, value) := by simp
  simp only [changeAt, hindex, hentry]
  cases change value with
  | error fault => rfl
  | ok value' => simp [bind, Except.bind, pure, Except.pure, Except.map]

/-- Without the key there is nothing to change. The failure is the one that the caller has for
it. -/
theorem changeAt_mapping_of_forall_ne {entries : List (Value × Value)}
    (h : ∀ entry ∈ entries, entry.1 ≠ .text key) :
    changeAt key missing change (.mapping entries) = .error missing := by
  have hnone : entries.findIdx? (·.1 == .text key) = none := by
    rw [List.findIdx?_eq_none_iff]
    exact fun entry hentry => Value.beq_text_eq_false_iff.mpr (h entry hentry)
  simp only [changeAt, hnone]
  rfl

/-- A tag is stepped over by a change under a key, and is there again afterwards. There may be
several on one value. -/
theorem changeAt_tagged {tag : String} {v : Value} :
    changeAt key missing change (.tagged tag v)
      = (changeAt key missing change v).map (.tagged tag) := by
  cases h : changeAt key missing change v <;> simp [changeAt, h, bind, Except.bind, pure,
    Except.pure, Except.map]

/-- A change under a key leaves everything else as it is. It is an equivalence, so the relation on
the right says all about the result. -/
theorem changeAt_eq_ok_iff {v w : Value} :
    changeAt key missing change v = .ok w ↔
      ChangedAt key (fun a b => change a = .ok b) v w := by
  constructor
  · intro h
    -- Tag by tag, until there is a map or there is none.
    induction v using Value.tag_induction generalizing w with
    | tagged tag inner ih =>
        rw [changeAt_tagged, Except.map_eq_ok_iff] at h
        obtain ⟨w, hinner, rfl⟩ := h
        exact .tagged tag (ih hinner)
    | bare v hv =>
        cases v with
        | tagged tag inner => exact absurd rfl (hv tag inner)
        | mapping entries =>
            cases hfield : (Value.mapping entries).field? key with
            | none =>
                rw [changeAt_mapping_of_forall_ne (Value.forall_ne_of_field?_mapping hfield)] at h
                cases h
            | some value =>
                obtain ⟨before, after, rfl, hbefore⟩ := Value.exists_of_field?_mapping hfield
                rw [changeAt_mapping hbefore, Except.map_eq_ok_iff] at h
                obtain ⟨value', hvalue, rfl⟩ := h
                exact .entry hbefore hvalue
        | null | boolean | integer | float | text | sequence => simp [changeAt] at h
  · intro h
    induction h with
    | entry first change => rw [changeAt_mapping first, change]; rfl
    | tagged tag _ ih => rw [changeAt_tagged, ih]; rfl

/-- The values under the key, before and after. This reads a change from outside, through the
lookup. -/
theorem ChangedAt.field? {v w : Value} (h : ChangedAt key R v w) :
    ∃ a b, v.field? key = some a ∧ w.field? key = some b ∧ R a b := by
  induction h with
  | entry first change =>
      exact ⟨_, _, Value.field?_mapping first, Value.field?_mapping first, change⟩
  | tagged _ _ ih => exact ih

/-- A value under the key can change as it may on its own. It is needed for the other direction,
from addresses to a changed kubeconfig. -/
theorem exists_changedAt {v a b : Value} (hfield : v.field? key = some a) (hR : R a b) :
    ∃ w, ChangedAt key R v w := by
  induction v using Value.tag_induction with
  | tagged tag inner ih =>
      obtain ⟨w, hw⟩ := ih hfield
      exact ⟨_, .tagged tag hw⟩
  | bare v hv =>
      cases v with
      | tagged tag inner => exact absurd rfl (hv tag inner)
      | mapping entries =>
          obtain ⟨before, after, rfl, hbefore⟩ := Value.exists_of_field?_mapping hfield
          exact ⟨_, .entry hbefore hR⟩
      | null | boolean | integer | float | text | sequence =>
          simp [Value.field?, Value.untagged] at hfield

/-! ### Lists -/

/-- A tag is stepped over by a change of items, and is there again afterwards. It is the law of
`changeAt_tagged` for lists. -/
theorem changeItems_tagged {tag : String} {v : Value} :
    changeItems missing change (.tagged tag v)
      = (changeItems missing change v).map (.tagged tag) := by
  cases h : changeItems missing change v <;> simp [changeItems, h, bind, Except.bind, pure,
    Except.pure, Except.map]

/-- The items of a list change in their order, and the first that cannot change ends it. The
failure is that of this item. -/
theorem changeItems_sequence {items : List Value} :
    changeItems missing change (.sequence items) = (items.mapM change).map .sequence := by
  cases h : items.mapM change <;> simp [changeItems, h, bind, Except.bind, pure, Except.pure,
    Except.map]

/-- A change of the items leaves everything else as it is. A value that is no list cannot change
so. -/
theorem changeItems_eq_ok_iff {v w : Value} :
    changeItems missing change v = .ok w ↔ ChangedItems (fun a b => change a = .ok b) v w := by
  constructor
  · intro h
    induction v using Value.tag_induction generalizing w with
    | tagged tag inner ih =>
        rw [changeItems_tagged, Except.map_eq_ok_iff] at h
        obtain ⟨w, hinner, rfl⟩ := h
        exact .tagged tag (ih hinner)
    | bare v hv =>
        cases v with
        | tagged tag inner => exact absurd rfl (hv tag inner)
        | sequence items =>
            rw [changeItems_sequence, Except.map_eq_ok_iff] at h
            obtain ⟨items', hitems, rfl⟩ := h
            exact .items (Except.mapM_eq_ok_iff.mp hitems)
        -- These are no lists, and the change fails for them.
        | null | boolean | integer | float | text | mapping => simp [changeItems] at h
  · intro h
    induction h with
    | items each =>
        rw [changeItems_sequence, Except.mapM_eq_ok_iff.mpr each]
        rfl
    | tagged tag _ ih => rw [changeItems_tagged, ih]; rfl

/-- The items, before and after. There are as many of them, paired by their places. -/
theorem ChangedItems.items? {v w : Value} (h : ChangedItems R v w) :
    ∃ items items', v.items? = some items ∧ w.items? = some items' ∧
      List.Forall₂ R items items' := by
  induction h with
  | items each => exact ⟨_, _, rfl, rfl, each⟩
  | tagged _ _ ih => exact ih

/-- Items can change together as they may one by one. The value has to be a list, with or without
tags. -/
theorem exists_changedItems {v : Value} {items items' : List Value}
    (hitems : v.items? = some items) (hR : List.Forall₂ R items items') :
    ∃ w, ChangedItems R v w := by
  induction v using Value.tag_induction with
  | tagged tag inner ih =>
      obtain ⟨w, hw⟩ := ih hitems
      exact ⟨_, .tagged tag hw⟩
  | bare v hv =>
      cases v with
      | tagged tag inner => exact absurd rfl (hv tag inner)
      | sequence values =>
          obtain rfl : values = items := Option.some.inj hitems
          exact ⟨_, .items hR⟩
      | null | boolean | integer | float | text | mapping =>
          simp [Value.items?, Value.untagged] at hitems

end Changes

/-! ### Server addresses -/

/-- A server address changes its host, and is a text without a tag then. This is the one place at
which a tag is lost. -/
def Rehosted (host : String) (server server' : Value) : Prop :=
  ∃ address, server.text? = some address ∧ server' = .text (replaceHost address host)

/-- Two kubeconfigs differ in the hosts of their server addresses alone. The relation is put
together along the way to an address: the clusters, each of them, its settings, and the server. -/
def Readdressed (host : String) : Value → Value → Prop :=
  ChangedAt "clusters" (ChangedItems (ChangedAt "cluster" (ChangedAt "server" (Rehosted host))))

/-- A server that is a text changes its host, tagged or not. Anything else is no address, and the
change fails. -/
theorem changeServer_eq_ok_iff {host : String} {server server' : Value} :
    changeServer host server = .ok server' ↔ Rehosted host server server' := by
  unfold changeServer Rehosted Value.text?
  cases server.untagged <;> simp [eq_comm]

/-- The rewritten value. It is the one that `Readdressed` leads to, and there is at most one. -/
theorem rewriteValue_eq_ok_iff {host : String} {v w : Value} :
    rewriteValue host v = .ok w ↔ Readdressed host v w := by
  unfold rewriteValue Readdressed
  simp only [changeAt_eq_ok_iff, changeItems_eq_ok_iff, changeServer_eq_ok_iff]

/-- An address is read in every item of a list, or there is none to be read. One cluster without
an address is enough for that. -/
theorem mapM_eq_some_iff {f : Value → Option String} {items : List Value}
    {addresses : List String} :
    items.mapM f = some addresses ↔ List.Forall₂ (fun a b => f a = some b) items addresses := by
  induction items generalizing addresses with
  | nil => simp [eq_comm]
  | cons a items ih =>
      rw [List.mapM_cons]
      constructor
      · intro h
        obtain ⟨b, ha, hrest⟩ := Option.bind_eq_some_iff.mp h
        obtain ⟨rest, hitems, heq⟩ := Option.bind_eq_some_iff.mp hrest
        cases heq
        exact .cons ha (ih.mp hitems)
      · intro h
        cases h with
        | cons ha hrest =>
            exact Option.bind_eq_some_iff.mpr
              ⟨_, ha, Option.bind_eq_some_iff.mpr ⟨_, ih.mpr hrest, rfl⟩⟩

/-- The addresses are those of the entries in their order, and every entry has one. The `do` of
the definition is taken apart here, and not opened again. -/
theorem servers?_eq_some_iff {document : Value} {addresses : List String} :
    servers? document = some addresses ↔ ∃ clusters entries,
      document.field? "clusters" = some clusters ∧ clusters.items? = some entries ∧
      List.Forall₂ (fun entry address => serverOf? entry = some address) entries addresses := by
  simp only [servers?, Option.bind_eq_bind, Option.bind_eq_some_iff, mapM_eq_some_iff]
  constructor
  · rintro ⟨clusters, hclusters, entries, hentries, heach⟩
    exact ⟨clusters, entries, hclusters, hentries, heach⟩
  · rintro ⟨clusters, entries, hclusters, hentries, heach⟩
    exact ⟨clusters, hclusters, entries, hentries, heach⟩

/-- The address of a cluster is a text below two keys. Each of the three lookups has to succeed. -/
theorem serverOf?_eq_some_iff {entry : Value} {address : String} :
    serverOf? entry = some address ↔ ∃ cluster server, entry.field? "cluster" = some cluster ∧
      cluster.field? "server" = some server ∧ server.text? = some address := by
  simp only [serverOf?, Option.bind_eq_bind, Option.bind_eq_some_iff]
  constructor
  · rintro ⟨cluster, hcluster, server, hserver, haddress⟩
    exact ⟨cluster, server, hcluster, hserver, haddress⟩
  · rintro ⟨cluster, server, hcluster, hserver, haddress⟩
    exact ⟨cluster, hcluster, server, hserver, haddress⟩

variable {host : String} {v w : Value}

/-- The address of one cluster, before and after. Since it had one, it has one again. -/
theorem serverOf?_of_changedAt
    (h : ChangedAt "cluster" (ChangedAt "server" (Rehosted host)) v w) :
    ∃ address, serverOf? v = some address ∧ serverOf? w = some (replaceHost address host) := by
  obtain ⟨cluster, cluster', hv, hw, hcluster⟩ := h.field?
  obtain ⟨server, server', hserver, hserver', address, haddress, rfl⟩ := hcluster.field?
  exact ⟨address, serverOf?_eq_some_iff.mpr ⟨cluster, server, hv, hserver, haddress⟩,
    serverOf?_eq_some_iff.mpr ⟨cluster', _, hw, hserver', rfl⟩⟩

/-- The addresses, before and after. They keep their order, and each has the same host then. -/
theorem Readdressed.servers? (h : Readdressed host v w) :
    ∃ addresses, servers? v = some addresses ∧
      servers? w = some (addresses.map (replaceHost · host)) := by
  obtain ⟨clusters, clusters', hv, hw, hclusters⟩ := h.field?
  obtain ⟨entries, entries', hentries, hentries', heach⟩ := hclusters.items?
  have hread : ∃ addresses,
      List.Forall₂ (fun entry address => serverOf? entry = some address) entries addresses ∧
      List.Forall₂ (fun entry address => serverOf? entry = some address) entries'
        (addresses.map (replaceHost · host)) := by
    clear hentries hentries'
    induction heach with
    | nil => exact ⟨[], .nil, .nil⟩
    | cons hentry _ ih =>
        obtain ⟨address, hold, hnew⟩ := serverOf?_of_changedAt hentry
        obtain ⟨addresses, hrest, hrest'⟩ := ih
        exact ⟨address :: addresses, .cons hold hrest, .cons hnew hrest'⟩
  obtain ⟨addresses, hold, hnew⟩ := hread
  exact ⟨addresses, servers?_eq_some_iff.mpr ⟨clusters, entries, hv, hentries, hold⟩,
    servers?_eq_some_iff.mpr ⟨clusters', entries', hw, hentries', hnew⟩⟩

/-- Wherever there are addresses they can be changed. So the change is refused for a missing
address only. -/
theorem exists_readdressed {addresses : List String} (h : Kubeconfig.servers? v = some addresses)
    (host : String) : ∃ w, Readdressed host v w := by
  obtain ⟨clusters, entries, hclusters, hentries, heach⟩ := servers?_eq_some_iff.mp h
  -- From the address upwards, one level at a time. The clusters change one by one.
  have hchanged : ∃ entries',
      List.Forall₂ (ChangedAt "cluster" (ChangedAt "server" (Rehosted host))) entries entries' := by
    clear hentries h
    induction heach with
    | nil => exact ⟨[], .nil⟩
    | cons hentry _ ih =>
        obtain ⟨cluster, server, hcluster, hserver, haddress⟩ := serverOf?_eq_some_iff.mp hentry
        have hrehosted : Rehosted host server _ := ⟨_, haddress, rfl⟩
        obtain ⟨cluster', hcluster'⟩ := exists_changedAt hserver hrehosted
        obtain ⟨entry', hentry'⟩ := exists_changedAt hcluster hcluster'
        obtain ⟨entries', hrest⟩ := ih
        exact ⟨entry' :: entries', .cons hentry' hrest⟩
  obtain ⟨entries', hentries'⟩ := hchanged
  obtain ⟨clusters', hclusters'⟩ := exists_changedItems hentries hentries'
  exact exists_changedAt hclusters hclusters'

/-! ### Writing -/

section Writing

open Yaml
open Yaml.Writer (canWrite canWriteItems canWriteEntries canWriteEntry)

variable {key : String} {R : Value → Value → Prop}

/-- Entries can be written when those in front can and those behind can. A change is in between
the two. -/
theorem canWriteEntries_append (before after : List (Value × Value)) :
    canWriteEntries (before ++ after) = (canWriteEntries before && canWriteEntries after) := by
  induction before with
  | nil => simp [canWriteEntries]
  | cons entry before ih => simp [canWriteEntries, ih, Bool.and_assoc]

/-- What changes under a key leaves a map writable, if it can be written itself. Keys are kept, so
nothing new can be wrong with them. -/
theorem ChangedAt.canWrite (h : ChangedAt key R v w)
    (hR : ∀ a b, R a b → canWrite false a = true → canWrite false b = true) {isTagged : Bool}
    (hv : canWrite isTagged v = true) : canWrite isTagged w = true := by
  induction h generalizing isTagged with
  | @entry before after value value' first change =>
      simp only [Writer.canWrite, canWriteEntries_append, canWriteEntries, canWriteEntry,
        Bool.and_eq_true] at hv ⊢
      obtain ⟨hclear, hbefore, ⟨hkey, hvalue⟩, hafter⟩ := hv
      refine ⟨?_, hbefore, ⟨hkey, hR _ _ change hvalue⟩, hafter⟩
      -- Whether the map looks like a tag is a matter of its keys.
      cases before with
      | nil =>
          cases after with
          | nil => exact hclear
          | cons _ _ => rfl
      | cons _ before => cases before <;> rfl
  | tagged tag _ ih =>
      simp only [Writer.canWrite] at hv ⊢
      exact ih hv

/-- A list whose items change into writable ones can be written, if it can be written itself.
Under a tag this is asked of the list as of any other value. -/
theorem ChangedItems.canWrite (h : ChangedItems R v w)
    (hR : ∀ a b, R a b → canWrite false a = true → canWrite false b = true) {isTagged : Bool}
    (hv : canWrite isTagged v = true) : canWrite isTagged w = true := by
  induction h generalizing isTagged with
  | items each =>
      simp only [Writer.canWrite] at hv ⊢
      induction each with
      | nil => rfl
      | cons hitem _ ih =>
          simp only [canWriteItems, Bool.and_eq_true] at hv ⊢
          exact ⟨hR _ _ hitem hv.1, ih hv.2⟩
  | tagged tag _ ih =>
      simp only [Writer.canWrite] at hv ⊢
      exact ih hv

/-- With other addresses a kubeconfig can be written as before. A text in the place of a tagged
text is the simpler thing to write. -/
theorem Readdressed.isWritable (h : Readdressed host v w) (hv : v.isWritable = true) :
    w.isWritable = true := by
  refine ChangedAt.canWrite h (fun clusters clusters' hclusters => ?_) hv
  refine hclusters.canWrite (fun entry entry' hentry => ?_)
  refine hentry.canWrite (fun cluster cluster' hcluster => ?_)
  refine hcluster.canWrite (fun server server' hserver _ => ?_)
  obtain ⟨address, -, rfl⟩ := hserver
  rfl

end Writing

/-- A text that was read as a value is rewritten as the value is. What is left to go wrong is the
change of the value, and the writing of what that leads to. -/
theorem rewrite_of_read {text : String} {document : Value}
    (hread : Value.ofText text = .ok document) (host : String) :
    rewrite text host = (rewriteValue host document).mapError Error.config >>= fun result =>
      if result.isWritable then .ok result.written else .error (.serialization .unwritable) := by
  simp only [rewrite, hread, Except.mapError, bind, Except.bind]
  rfl

/-- What a text is rewritten to is the text of a value, which differs from the one that was read in
its addresses alone. The value can be written, since it was. -/
theorem exists_readdressed_of_rewrite {text out : String} {document : Value}
    (hread : Value.ofText text = .ok document) (hout : rewrite text host = .ok out) :
    ∃ result, out = result.written ∧ Readdressed host document result ∧
      result.isWritable = true := by
  rw [rewrite_of_read hread] at hout
  obtain ⟨result, hvalue, hwritten⟩ := Except.bind_eq_ok_iff.mp hout
  have hresult := rewriteValue_eq_ok_iff.mp (Except.mapError_eq_ok_iff.mp hvalue)
  split at hwritten
  case isTrue hwritable => exact ⟨result, (Except.ok.inj hwritten).symm, hresult, hwritable⟩
  case isFalse => cases hwritten

/-- What becomes of a kubeconfig's text that can be read. What is written is the text of the value
with another host in the server address of every cluster, and with nothing else changed. A text is
written if every cluster has a server address, and if not it is refused as a kubeconfig.

Values that cannot be written are left out of the first statement alone: a map of one entry whose
key is a map of one entry in turn is such a value, and a text that holds it is refused even where
all addresses are there. Of the reading of texts nothing is assumed but that this one was read as
the value. -/
theorem rewrite_servers {text : String} {document : Value}
    (hread : Value.ofText text = .ok document) (host : String) :
    (document.isWritable = true →
      ((∃ out, rewrite text host = .ok out) ↔ ∃ addresses, servers? document = some addresses)) ∧
    (∀ out, rewrite text host = .ok out → ∃ result, out = result.written ∧
      Readdressed host document result ∧ result.isWritable = true ∧
      ∃ addresses, servers? document = some addresses ∧
        servers? result = some (addresses.map (replaceHost · host))) ∧
    (servers? document = none → ∃ fault, rewrite text host = .error (.config fault)) := by
  refine ⟨fun hwritable => ⟨?_, ?_⟩, fun out hout => ?_, fun hnone => ?_⟩
  · rintro ⟨out, hout⟩
    obtain ⟨result, -, hresult, -⟩ := exists_readdressed_of_rewrite hread hout
    obtain ⟨addresses, hold, -⟩ := hresult.servers?
    exact ⟨addresses, hold⟩
  · -- The changed value can be written, as the one that was read can.
    rintro ⟨addresses, haddresses⟩
    obtain ⟨result, hresult⟩ := exists_readdressed haddresses host
    refine ⟨result.written, ?_⟩
    rw [rewrite_of_read hread, rewriteValue_eq_ok_iff.mpr hresult]
    exact if_pos (hresult.isWritable hwritable)
  · obtain ⟨result, hout, hresult, hwritable⟩ := exists_readdressed_of_rewrite hread hout
    exact ⟨result, hout, hresult, hwritable, hresult.servers?⟩
  · -- Were the value changed, it would have addresses.
    cases hvalue : rewriteValue host document with
    | error fault =>
        refine ⟨fault, ?_⟩
        rw [rewrite_of_read hread, hvalue]
        rfl
    | ok result =>
        obtain ⟨_, hsome, -⟩ := (rewriteValue_eq_ok_iff.mp hvalue).servers?
        rw [hnone] at hsome
        cases hsome

/-- Two clusters, the second of them under tags. -/
def twoClusters : String :=
  "clusters: !c\n- name: a\n  cluster: \x7bserver: 'https://h:1'\x7d\n" ++
    "- !d\n  cluster: !e\n    server: !f https://[::1]:2/p\n"

/-- Both addresses of a kubeconfig with two clusters change. -/
theorem rewrite_servers_twoClusters :
    ∃ document, Value.ofText twoClusters = .ok document ∧ document.isWritable = true ∧
      servers? document = some ["https://h:1", "https://[::1]:2/p"] ∧
      ∃ result, rewrite twoClusters "x" = .ok result.written ∧ Readdressed "x" document result ∧
        servers? result = some ["https://x:1", "https://x:2/p"] := by
  have hvalue : ((Value.ofText twoClusters).toOption.any fun document => document.isWritable &&
      servers? document == some ["https://h:1", "https://[::1]:2/p"]) = true := by
    decide +kernel
  cases hread : Value.ofText twoClusters with
  | error fault =>
      rw [hread] at hvalue
      cases hvalue
  | ok document =>
      rw [hread] at hvalue
      obtain ⟨hwritable, hservers⟩ := (Bool.and_eq_true _ _).mp hvalue
      have haddresses := eq_of_beq hservers
      obtain ⟨hsucceeds, hresult, -⟩ := rewrite_servers hread "x"
      obtain ⟨out, hout⟩ := (hsucceeds hwritable).mpr ⟨_, haddresses⟩
      obtain ⟨result, rfl, hchanged, -, addresses, hold, hnew⟩ := hresult out hout
      obtain rfl : addresses = _ := Option.some.inj (hold.symm.trans haddresses)
      exact ⟨document, rfl, hwritable, haddresses, result, hout, hchanged, hnew⟩

end Moorage.Kubeconfig

import Moorage.Kubeconfig.Copies
import Moorage.Proofs.Address
import Moorage.Proofs.Container.Create
import Moorage.Proofs.Kubeconfig
import Moorage.Proofs.Service.Files

/-!
# `Moorage.Proofs.Kubeconfig.Copies`: both copies are of one cluster

A kubeconfig is rewritten from the host to the container networks and back again, and nothing is
lost on the way: of two hosts the later one counts. The server of a new cluster names itself by an
address that holds inside its container. One copy of its kubeconfig names the published host, for
programs on the machine, and the other one the server's name, for containers on its networks.

That the later host counts holds of every text and every value, whatever the addresses look like,
if the earlier host has no colon and no slash in it. With one of these it would put a separator
into the address, at which the later change would cut. `Overrides` is this for any two changes,
also where they fail: the first one fails exactly as the later one would have.

Neither file is written unless both texts could be worked out. What stands in the files afterwards
is read off a run by the promises of a file system.

* `Overrides`: the later of two changes leaves what it would have left on its own. It has a law for
  each way of changing a part of a value.
* `overrides_rewriteValue`: rewriting a kubeconfig is such a change.
* `AreCopies`: either of two values becomes the other one with the other host.
* `exists_areCopies_of_runs`, `writeCopies_of_not_isKubeconfig`: what is in the two files.
-/

set_option autoImplicit false

namespace Moorage.Kubeconfig

open Yaml (Value)

/-! ### Changes that undo earlier ones -/

section Overrides

variable {α β : Type} {a : α}

/-- The later of two changes goes through where the first one does, and leaves the same behind the
first one as on its own. -/
structure Overrides (first later : α → Except ConfigFault α) (a : α) : Prop where
  ok : ∀ b, first a = .ok b → ∃ c, later a = .ok c ∧ later b = .ok c
  error : ∀ fault, first a = .error fault → later a = .error fault

namespace Overrides

variable {first later : α → Except ConfigFault α}

/-- Both changes together come to the later one. A failure counts as well: the first change fails
as the later one would. -/
theorem bind_eq (h : Overrides first later a) : (first a >>= later) = later a := by
  cases hfirst : first a with
  | error fault => exact (h.error fault hfirst).symm
  | ok b =>
      obtain ⟨c, ha, hb⟩ := h.ok b hfirst
      exact hb.trans ha.symm

/-- Changes of a part override each other as they do on the part. The two changes must be those of
the part and leave the rest alone. -/
theorem of_part {first' later' : β → Except ConfigFault β} (whole : α → β)
    (h : Overrides first later a) (hfirst : first' (whole a) = (first a).map whole)
    (hlater : ∀ b, later' (whole b) = (later b).map whole) :
    Overrides first' later' (whole a) := by
  constructor
  · intro w hw
    obtain ⟨b, hb, rfl⟩ := Except.map_eq_ok_iff.mp (hfirst.symm.trans hw)
    obtain ⟨c, ha, hc⟩ := h.ok b hb
    exact ⟨whole c, by rw [hlater, ha]; rfl, by rw [hlater, hc]; rfl⟩
  · intro fault hfault
    cases ha : first a with
    | ok b =>
        rw [hfirst, ha] at hfault
        cases hfault
    | error other =>
        rw [hfirst, ha] at hfault
        cases hfault
        rw [hlater, h.error _ ha]
        rfl

/-- Where the first change fails as the later one does there is nothing to override. For values
that have no address in them. -/
theorem of_error {fault : ConfigFault} (hfirst : first a = .error fault)
    (hlater : later a = .error fault) : Overrides first later a := by
  constructor
  · intro b hb
    cases hfirst.symm.trans hb
  · intro other hother
    exact hlater.trans (hfirst.symm.trans hother)

/-- Changes of all items override each other when they do item by item. The first failure of both
is at the same item. -/
theorem mapM (h : ∀ a, Overrides first later a) (items : List α) :
    Overrides (List.mapM first) (List.mapM later) items := by
  induction items with
  | nil => exact ⟨fun b hb => ⟨b, hb, by cases hb; rfl⟩, nofun⟩
  | cons a items ih =>
      constructor
      -- The first items change one by one, and the later change comes to the same on each.
      · intro changed hchanged
        rw [List.mapM_cons] at hchanged
        obtain ⟨b, hb, hrest⟩ := Except.bind_eq_ok_iff.mp hchanged
        obtain ⟨rest, hitems, heq⟩ := Except.bind_eq_ok_iff.mp hrest
        cases heq
        obtain ⟨c, ha, hc⟩ := (h a).ok b hb
        obtain ⟨last, hlast, hagain⟩ := ih.ok rest hitems
        refine ⟨c :: last, ?_, ?_⟩
        · rw [List.mapM_cons, ha, hlast]
          rfl
        · rw [List.mapM_cons, hc, hagain]
          rfl
      -- The first item that cannot change is the same for both changes.
      · intro fault hfault
        rw [List.mapM_cons] at hfault ⊢
        rcases Except.bind_eq_error_iff.mp hfault with ha | ⟨b, hb, hrest⟩
        · rw [(h a).error fault ha]
          rfl
        · obtain ⟨c, ha, -⟩ := (h a).ok b hb
          rcases Except.bind_eq_error_iff.mp hrest with hitems | ⟨_, -, heq⟩
          · rw [ha, ih.error fault hitems]
            rfl
          · cases heq

variable {first later : Value → Except ConfigFault Value} {key : String} {missing : ConfigFault}

/-- Changes under a key override each other when they do on the value there. It is used at three
levels of a kubeconfig. -/
theorem changeAt (h : ∀ v, Overrides first later v) (v : Value) :
    Overrides (Kubeconfig.changeAt key missing first) (Kubeconfig.changeAt key missing later)
      v := by
  induction v using Value.tag_induction with
  | tagged tag inner ih =>
      exact of_part (Value.tagged tag) ih changeAt_tagged fun _ => changeAt_tagged
  | bare v hv =>
      cases v with
      | tagged tag inner => exact absurd rfl (hv tag inner)
      | mapping entries =>
          cases hfield : (Value.mapping entries).field? key with
          | none =>
              have hnone := Value.forall_ne_of_field?_mapping hfield
              exact .of_error (changeAt_mapping_of_forall_ne hnone)
                (changeAt_mapping_of_forall_ne hnone)
          | some value =>
              obtain ⟨before, after, rfl, hbefore⟩ := Value.exists_of_field?_mapping hfield
              exact of_part (fun value => Value.mapping (before ++ (.text key, value) :: after))
                (h value) (changeAt_mapping hbefore) fun _ => changeAt_mapping hbefore
      | null | boolean | integer | float | text | sequence => exact .of_error rfl rfl

/-- Changes of the items of a list override each other when they do item by item. Tags on the list
are stepped over. -/
theorem changeItems (h : ∀ v, Overrides first later v) (v : Value) :
    Overrides (Kubeconfig.changeItems missing first) (Kubeconfig.changeItems missing later) v := by
  induction v using Value.tag_induction with
  | tagged tag inner ih =>
      exact of_part (Value.tagged tag) ih changeItems_tagged fun _ => changeItems_tagged
  | bare v hv =>
      cases v with
      | tagged tag inner => exact absurd rfl (hv tag inner)
      | sequence items =>
          exact of_part Value.sequence (mapM h items) changeItems_sequence
            fun _ => changeItems_sequence
      | null | boolean | integer | float | text | mapping => exact .of_error rfl rfl

end Overrides

end Overrides

/-! ### Hosts that undo earlier ones -/

variable {host first : String}

/-- A server that is no text cannot be changed. This does not depend on the host. -/
theorem changeServer_of_text?_eq_none {server : Value} (h : server.text? = none) :
    changeServer host server = .error .serverNotText := by
  unfold Value.text? at h
  unfold changeServer
  split <;> simp_all

/-- Of two hosts of a server the later one counts. A server that is no text fails both changes
alike. -/
theorem overrides_changeServer (hfirst : Address.IsName first) (host : String) (server : Value) :
    Overrides (changeServer first) (changeServer host) server := by
  cases haddress : server.text? with
  | none =>
      have hrefused : ∀ name, changeServer name server = .error .serverNotText :=
        fun _ => changeServer_of_text?_eq_none haddress
      exact .of_error (hrefused first) (hrefused host)
  | some address =>
      have hchange : ∀ name, changeServer name server = .ok (.text (replaceHost address name)) :=
        fun name => changeServer_eq_ok_iff.mpr ⟨address, haddress, rfl⟩
      refine ⟨fun changed hchanged => ?_, fun fault hfault => ?_⟩
      · obtain rfl := Except.ok.inj ((hchange first).symm.trans hchanged)
        refine ⟨_, hchange host, changeServer_eq_ok_iff.mpr ⟨_, rfl, ?_⟩⟩
        rw [replaceHost_replaceHost hfirst]
      · cases (hchange first).symm.trans hfault

/-- Of two hosts of a kubeconfig the later one counts, if the earlier one has no separators. With
a colon or a slash in it, the earlier one would be cut in a wrong place by the second change. -/
theorem overrides_rewriteValue (hfirst : Address.IsName first) (host : String) (document : Value) :
    Overrides (rewriteValue first) (rewriteValue host) document := by
  unfold rewriteValue
  refine Overrides.changeAt (fun clusters => ?_) document
  refine Overrides.changeItems (fun entry => ?_) clusters
  refine Overrides.changeAt (fun cluster => ?_) entry
  exact Overrides.changeAt (overrides_changeServer hfirst host) cluster

/-! ### Reading and writing -/

variable {text : String}

/-- The kubeconfig of a text with the host in every server address, before it is written. Two
texts with one such value are the same file but for how they are laid out. -/
def rewritten (text host : String) : Except Error Value := do
  let document ← (Value.ofText text).mapError Error.serialization
  (rewriteValue host document).mapError Error.config

/-- A text is rewritten when its value can be changed and the changed value can be written. What
is written depends on the value only. -/
theorem rewrite_eq_ok_iff {out : String} :
    rewrite text host = .ok out ↔
      ∃ document, rewritten text host = .ok document ∧ document.isWritable = true ∧
        out = document.written := by
  have hrewrite : rewrite text host = (do
      let document ← rewritten text host
      if document.isWritable then return document.written
      else throw (.serialization .unwritable)) := by
    unfold rewrite rewritten
    cases (Value.ofText text).mapError Error.serialization <;> rfl
  rw [hrewrite, Except.bind_eq_ok_iff]
  refine exists_congr fun document => and_congr_right fun _ => ?_
  cases document.isWritable
  · simp [throw, throwThe, MonadExceptOf.throw]
  · simp [pure, Except.pure, eq_comm]

/-- A text comes to a changed value when it is read as one that can be changed. Of the two
failures, the first is about the text and the second about the kubeconfig. -/
theorem rewritten_eq_ok_iff {result : Value} :
    rewritten text host = .ok result ↔
      ∃ document, Value.ofText text = .ok document ∧ rewriteValue host document = .ok result := by
  unfold rewritten
  rw [Except.bind_eq_ok_iff]
  exact exists_congr fun document =>
    and_congr Except.mapError_eq_ok_iff Except.mapError_eq_ok_iff

/-- The text is a kubeconfig: every cluster in it has a server address. Nothing else that
kubeconfigs have is asked for. -/
def IsKubeconfig (text : String) : Prop :=
  ∃ document addresses, Value.ofText text = .ok document ∧ servers? document = some addresses

/-- What is rewritten is a kubeconfig. The result is one, too, with the changed addresses. -/
theorem isKubeconfig_of_rewrite {out : String} (h : rewrite text host = .ok out) :
    IsKubeconfig text := by
  obtain ⟨result, hresult, -⟩ := rewrite_eq_ok_iff.mp h
  obtain ⟨document, hread, hvalue⟩ := rewritten_eq_ok_iff.mp hresult
  obtain ⟨addresses, hservers, -⟩ := (rewriteValue_eq_ok_iff.mp hvalue).servers?
  exact ⟨document, addresses, hread, hservers⟩

/-- Texts come to the later host, too. The second change is made on the value here, so that no
text is read back. -/
theorem rewritten_bind_eq (hfirst : Address.IsName first) (text host : String) :
    (rewritten text first >>= fun once => (rewriteValue host once).mapError Error.config)
      = rewritten text host := by
  unfold rewritten
  cases (Value.ofText text).mapError Error.serialization with
  | error fault => rfl
  | ok document =>
      have hboth := (overrides_rewriteValue hfirst host document).bind_eq
      show ((rewriteValue first document).mapError Error.config >>= _)
        = (rewriteValue host document).mapError Error.config
      rw [← hboth]
      cases rewriteValue first document <;> rfl

/-- A host that is there already changes nothing. It is what `overrides_rewriteValue` says of one
host taken twice. -/
theorem rewriteValue_idem (hhost : Address.IsName host) {document result : Value}
    (h : rewriteValue host document = .ok result) : rewriteValue host result = .ok result := by
  obtain ⟨last, hdocument, hlast⟩ := (overrides_rewriteValue hhost host document).ok result h
  obtain rfl := Except.ok.inj (h.symm.trans hdocument)
  exact hlast

/-- Two values are copies of one kubeconfig for two hosts. Each of them, and every text that it is
read from, becomes the other one with the other host. -/
structure AreCopies (localHost serverFqdn : String) (forHost forNetworks : Value) : Prop where
  to_networks : rewriteValue serverFqdn forHost = .ok forNetworks
  to_host : rewriteValue localHost forNetworks = .ok forHost
  text_to_networks : ∀ text, Value.ofText text = .ok forHost →
    rewrite text serverFqdn = .ok forNetworks.written
  text_to_host : ∀ text, Value.ofText text = .ok forNetworks →
    rewrite text localHost = .ok forHost.written

/-- What a text is rewritten to for one host becomes what it is rewritten to for another. So
neither of two copies knows more than the other. -/
theorem rewriteValue_of_rewritten {raw : String} {once result : Value}
    (hfirst : Address.IsName first) (honce : rewritten raw first = .ok once)
    (h : rewritten raw host = .ok result) : rewriteValue host once = .ok result := by
  obtain ⟨document, hread, hvalue⟩ := rewritten_eq_ok_iff.mp honce
  obtain ⟨_, hread', hresult⟩ := rewritten_eq_ok_iff.mp h
  obtain rfl := Except.ok.inj (hread.symm.trans hread')
  rw [← hresult, ← (overrides_rewriteValue hfirst host document).bind_eq, hvalue]
  rfl

/-- A text that was read as a value becomes what that value becomes. It is assumed of the text
that it is read so, which is all that is ever needed of reading. -/
theorem rewrite_of_rewriteValue {document result : Value} (hread : Value.ofText text = .ok document)
    (h : rewriteValue host document = .ok result) (hwritable : result.isWritable = true) :
    rewrite text host = .ok result.written :=
  rewrite_eq_ok_iff.mpr ⟨result, rewritten_eq_ok_iff.mpr ⟨document, hread, h⟩, hwritable, rfl⟩

/-- What a text is rewritten to for two hosts are copies. Both hosts have to be without
separators, since each copy is changed to the other's host. -/
theorem areCopies_of_rewritten {raw localHost serverFqdn : String} {forHost forNetworks : Value}
    (hlocal : Address.IsName localHost) (hserver : Address.IsName serverFqdn)
    (hhost : rewritten raw localHost = .ok forHost) (hwritable : forHost.isWritable = true)
    (hnetworks : rewritten raw serverFqdn = .ok forNetworks)
    (hwritable' : forNetworks.isWritable = true) :
    AreCopies localHost serverFqdn forHost forNetworks := by
  have hto := rewriteValue_of_rewritten hlocal hhost hnetworks
  have hback := rewriteValue_of_rewritten hserver hnetworks hhost
  exact ⟨hto, hback, fun _ hread => rewrite_of_rewriteValue hread hto hwritable',
    fun _ hread => rewrite_of_rewriteValue hread hback hwritable⟩

/-! ### Writing the copies -/

/-- A file operation makes its own calls, and its failure names the path. The log of the operation
is taken over as it is. -/
theorem onFile_of_yields {path : String}
    {program : Program Service.interface (Except FileFault Unit)} {log : Exchanges}
    {result : Except Error Unit}
    (h : Action.Yields (onFile path (Service.always program)) log result) :
    ∃ answer, Program.Yields program log answer ∧ result = answer.mapError (.io path) := by
  rcases Action.yields_bind_iff.mp h with ⟨error, hall, -⟩ | ⟨_, answer, _, hall, hrest, rfl⟩
  · obtain ⟨_, -, heq⟩ := Action.yields_always_iff.mp hall
    cases heq
  · obtain ⟨_, hcall, heq⟩ := Action.yields_always_iff.mp hall
    cases heq
    refine ⟨answer, ?_⟩
    cases answer with
    | ok value =>
        obtain ⟨rfl, rfl⟩ := Action.yields_pure_iff.mp hrest
        rw [List.append_nil]
        exact ⟨hcall, rfl⟩
    | error fault =>
        obtain ⟨rfl, rfl⟩ := Action.yields_throw_iff.mp hrest
        rw [List.append_nil]
        exact ⟨hcall, rfl⟩

/-- A file operation succeeds when the file system says so. So whoever knows that it succeeded
knows the answer. -/
theorem yields_of_onFile_ok {path : String}
    {program : Program Service.interface (Except FileFault Unit)} {log : Exchanges}
    (h : Action.Yields (onFile path (Service.always program)) log (.ok ())) :
    Program.Yields program log (.ok ()) := by
  obtain ⟨answer, hcall, heq⟩ := onFile_of_yields h
  cases answer with
  | ok value => exact hcall
  | error fault => cases heq

variable {cwd : List String} {before after : Files}

/-- A copy that was written is the one file that has changed, at the place of its path. The
directory above it may have been made, which is no file. -/
theorem writeCopy_runs {path : String}
    (h : Action.Runs (Files.Effect cwd) (writeCopy path text) before (.ok ()) after) :
    after = Function.update before (Path.place cwd path) (some text) := by
  rcases h.of_bind with ⟨error, -, heq⟩ | ⟨_, between, hdirectories, hwrite⟩
  · cases heq
  have hkept : between = before := hdirectories.of_single
    fun log hlog => Program.yields_perform_iff.mp (yields_of_onFile_ok hlog)
  have hwritten : after = Function.update between (Path.place cwd path) (some text) :=
    hwrite.of_single fun log hlog => Program.yields_perform_iff.mp (yields_of_onFile_ok hlog)
  rw [hwritten, hkept]

/-- The two copies lie beside each other. They differ in their last name, so neither can replace
the other. -/
theorem place_localKubeconfig_ne (cwd : List String) (cache cluster : String) :
    Path.place cwd (Naming.localKubeconfig cache cluster)
      ≠ Path.place cwd (Naming.dockerKubeconfig cache cluster) := by
  have hlocal : Path.IsName Naming.kubeconfigFile := by decide
  have hdocker : Path.IsName Naming.kubeconfigDockerFile := by decide
  unfold Naming.localKubeconfig Naming.dockerKubeconfig
  rw [Path.place_join cwd _ hlocal, Path.place_join cwd _ hdocker]
  intro heq
  exact absurd (List.append_cancel_left heq) (by decide)

/-- What is in the two files after they were written. The second does not touch the first, as they
have different places. -/
theorem writeCopies_runs {raw cache cluster localHost serverFqdn : String}
    (h : Action.Runs (Files.Effect cwd) (writeCopies raw cache cluster localHost serverFqdn) before
      (.ok ()) after) :
    ∃ forHost forNetworks, rewrite raw localHost = .ok forHost ∧
      rewrite raw serverFqdn = .ok forNetworks ∧
      after (Path.place cwd (Naming.localKubeconfig cache cluster)) = some forHost ∧
      after (Path.place cwd (Naming.dockerKubeconfig cache cluster)) = some forNetworks := by
  obtain ⟨log, hyields, hreplays⟩ := h
  obtain ⟨first, forHost, rest, hhost, hrest, rfl⟩ := hyields.of_bind_ok
  obtain ⟨rfl, hforHost⟩ := Action.yields_mk_pure_iff.mp hhost
  obtain ⟨second, forNetworks, writing, hnetworks, hwriting, rfl⟩ := hrest.of_bind_ok
  obtain ⟨rfl, hforNetworks⟩ := Action.yields_mk_pure_iff.mp hnetworks
  refine ⟨forHost, forNetworks, hforHost.symm, hforNetworks.symm, ?_⟩
  -- Both texts are there before anything is written.
  have hruns : Action.Runs (Files.Effect cwd) _ before (.ok ()) after :=
    ⟨writing, hwriting, hreplays⟩
  rcases hruns.of_bind with ⟨error, -, heq⟩ | ⟨_, between, hlocal, hdocker⟩
  · cases heq
  have hbetween := writeCopy_runs hlocal
  have hafter := writeCopy_runs hdocker
  rw [hafter, hbetween]
  refine ⟨?_, Function.update_self _ _ _⟩
  rw [Function.update_of_ne (place_localKubeconfig_ne cwd cache cluster), Function.update_self]

/-- What was written can be made from each other. The values are named, since the files hold them
as text. -/
theorem exists_areCopies_of_runs {raw cache cluster localHost serverFqdn : String}
    (hlocal : Address.IsName localHost) (hserver : Address.IsName serverFqdn)
    (h : Action.Runs (Files.Effect cwd) (writeCopies raw cache cluster localHost serverFqdn) before
      (.ok ()) after) :
    ∃ forHost forNetworks, AreCopies localHost serverFqdn forHost forNetworks ∧
      rewritten raw localHost = .ok forHost ∧ rewritten raw serverFqdn = .ok forNetworks ∧
      after (Path.place cwd (Naming.localKubeconfig cache cluster)) = some forHost.written ∧
      after (Path.place cwd (Naming.dockerKubeconfig cache cluster))
        = some forNetworks.written := by
  obtain ⟨_, _, hlocalText, hserverText, hlocalFile, hserverFile⟩ := writeCopies_runs h
  obtain ⟨forHost, hforHost, hwritable, rfl⟩ := rewrite_eq_ok_iff.mp hlocalText
  obtain ⟨forNetworks, hforNetworks, hwritable', rfl⟩ := rewrite_eq_ok_iff.mp hserverText
  have hcopies :=
    areCopies_of_rewritten hlocal hserver hforHost hwritable hforNetworks hwritable'
  exact ⟨forHost, forNetworks, hcopies, hforHost, hforNetworks, hlocalFile, hserverFile⟩

/-- Nothing is asked for when the text is not a kubeconfig. Both texts are made before the first
of the two files is written, and any machine will do. -/
theorem writeCopies_of_not_isKubeconfig {σ : Type}
    (answer : (call : Service.Call) → σ → Service.Answer call × σ) {raw : String}
    (h : ¬ IsKubeconfig raw) (cache cluster localHost serverFqdn : String) (s : σ) :
    let writing := (writeCopies raw cache cluster localHost serverFqdn).run
    (∃ error, writing.run answer s = (.error error, s)) ∧ writing.trace answer s = [] := by
  intro writing
  cases hhost : rewrite raw localHost with
  | ok forHost => exact absurd (isKubeconfig_of_rewrite hhost) h
  | error error =>
      have hfirst : (ExceptT.mk (pure (rewrite raw localHost)) : Action String).run.run answer s
          = (.error error, s) := by
        rw [hhost]
        rfl
      obtain ⟨hresult, htrace⟩ := Action.run_bind_of_error hfirst fun forHost => do
        let forNetworks ← ExceptT.mk (pure (rewrite raw serverFqdn))
        writeCopy (Naming.localKubeconfig cache cluster) forHost
        writeCopy (Naming.dockerKubeconfig cache cluster) forNetworks
      exact ⟨⟨error, hresult⟩, htrace⟩

/-- Of two hosts the later one counts, on every text and every value, if the earlier one holds no
separators. So either copy of a cluster's kubeconfig can be made from the other. Without a
kubeconfig nothing is written. -/
theorem last_host_wins {σ : Type}
    (answer : (call : Service.Call) → σ → Service.Answer call × σ) :
    (∀ first host, Address.IsName first →
      (∀ text, (rewritten text first >>= fun once =>
        (rewriteValue host once).mapError Error.config) = rewritten text host) ∧
      ∀ document, (rewriteValue first document >>= rewriteValue host)
        = rewriteValue host document) ∧
    (∀ host, Address.IsName host → ∀ document result,
      rewriteValue host document = .ok result → rewriteValue host result = .ok result) ∧
    ∀ raw cache cluster localHost serverFqdn s,
      let writing := (writeCopies raw cache cluster localHost serverFqdn).run
      (Address.IsName localHost → Address.IsName serverFqdn → (writing.run answer s).1 = .ok () →
        ∀ cwd (files : σ → Files),
          (∀ call s, (files s).Effect cwd ⟨call, (answer call s).1⟩ (files (answer call s).2)) →
          ∃ forHost forNetworks, AreCopies localHost serverFqdn forHost forNetworks ∧
            rewritten raw localHost = .ok forHost ∧ rewritten raw serverFqdn = .ok forNetworks ∧
            files (writing.run answer s).2
              (Path.place cwd (Naming.localKubeconfig cache cluster)) = some forHost.written ∧
            files (writing.run answer s).2
              (Path.place cwd (Naming.dockerKubeconfig cache cluster)) = some forNetworks.written) ∧
      (¬ IsKubeconfig raw →
        (∃ error, writing.run answer s = (.error error, s)) ∧ writing.trace answer s = []) := by
  refine ⟨fun first host hfirst => ⟨fun text => ?_, fun document => ?_⟩,
    fun host hhost document result h => ?_, fun raw cache cluster localHost serverFqdn s =>
    ⟨fun hlocal hserver hok cwd files heffect => ?_, fun hraw => ?_⟩⟩
  -- Of two hosts the later one counts, on texts, on values, and for one host taken twice.
  · exact rewritten_bind_eq hfirst text host
  · exact (overrides_rewriteValue hfirst host document).bind_eq
  · exact rewriteValue_idem hhost h
  · have hruns := Action.Runs.of_run answer heffect
      (writeCopies raw cache cluster localHost serverFqdn) s
    rw [hok] at hruns
    exact exists_areCopies_of_runs hlocal hserver hruns
  · exact writeCopies_of_not_isKubeconfig answer hraw cache cluster localHost serverFqdn s

/-- The answers of a disk that takes every file. Whatever else is asked for is refused. -/
def blankDisk : (call : Service.Call) → Files → Service.Answer call × Files
  | .createDirectories _, s => (.ok (), s)
  | .writeFile path contents, s => (.ok (), Function.update s (Path.place [] path) (some contents))
  | call, s => (Container.refuse call, s)

/-- A kubeconfig whose server address has no scheme. It is given one when the host changes. -/
def schemeless : String := "clusters:\n- cluster:\n    server: h:1\n"

/-- Its copy for a host. -/
def schemelessAt (host : String) : String :=
  "clusters:\n- cluster:\n    server: https://" ++ host ++ ":1\n"

/-- Both copies of a kubeconfig are written, and each of them is read again and becomes the other
one with the other host. -/
theorem last_host_wins_schemeless :
    let writing := (writeCopies schemeless "/cache" "dev" "localhost" "server").run
    let files := (writing.run blankDisk fun _ => none).2
    (Address.IsName "localhost" ∧ Address.IsName "server") ∧
    (writing.run blankDisk fun _ => none).1 = .ok () ∧
    (∀ call s, Files.Effect [] s ⟨call, (blankDisk call s).1⟩ (blankDisk call s).2) ∧
    files ["cache", "dev", "kubeconfig.yaml"] = some (schemelessAt "localhost") ∧
    files ["cache", "dev", "kubeconfig-docker.yaml"] = some (schemelessAt "server") ∧
    rewrite (schemelessAt "localhost") "server" = .ok (schemelessAt "server") ∧
    rewrite (schemelessAt "server") "localhost" = .ok (schemelessAt "localhost") := by
  intro writing files
  have hlocal : rewrite schemeless "localhost" = .ok (schemelessAt "localhost") :=
    Except.eq_ok_of_toOption (by decide +kernel)
  have hserver : rewrite schemeless "server" = .ok (schemelessAt "server") :=
    Except.eq_ok_of_toOption (by decide +kernel)
  have hnames : Address.IsName "localhost" ∧ Address.IsName "server" := by decide
  have hok : (writing.run blankDisk fun _ => none).1 = .ok () := by
    show ((writeCopies schemeless "/cache" "dev" "localhost" "server").run.run blankDisk
      fun _ => none).1 = .ok ()
    unfold writeCopies
    rw [hlocal, hserver]
    rfl
  have heffect : ∀ call s,
      Files.Effect [] s ⟨call, (blankDisk call s).1⟩ (blankDisk call s).2 := by
    intro call s
    cases call with
    | writeFile path contents | createDirectories path | findContainers fqdn
    | removeContainer id => rfl
    | _ => trivial
  obtain ⟨-, -, hwrites⟩ := last_host_wins blankDisk
  obtain ⟨forHost, forNetworks, -, hforHost, hforNetworks, hlocalFile, hserverFile⟩ :=
    (hwrites schemeless "/cache" "dev" "localhost" "server" fun _ => none).1 hnames.1 hnames.2 hok
      [] (fun s => s) heffect
  -- The values that were written are those of the two texts.
  obtain ⟨_, hvalue, -, hlocalText⟩ := rewrite_eq_ok_iff.mp hlocal
  obtain ⟨_, hvalue', -, hserverText⟩ := rewrite_eq_ok_iff.mp hserver
  obtain rfl := Except.ok.inj (hforHost.symm.trans hvalue)
  obtain rfl := Except.ok.inj (hforNetworks.symm.trans hvalue')
  have hlocalPlace : Path.place [] (Naming.localKubeconfig "/cache" "dev")
      = ["cache", "dev", "kubeconfig.yaml"] := by decide
  have hserverPlace : Path.place [] (Naming.dockerKubeconfig "/cache" "dev")
      = ["cache", "dev", "kubeconfig-docker.yaml"] := by decide
  rw [hlocalPlace, ← hlocalText] at hlocalFile
  rw [hserverPlace, ← hserverText] at hserverFile
  refine ⟨hnames, hok, heffect, ?_, ?_, ?_, ?_⟩
  · simp only [files, writing, hlocalFile]
  · simp only [files, writing, hserverFile]
  · exact Except.eq_ok_of_toOption (by decide +kernel)
  · exact Except.eq_ok_of_toOption (by decide +kernel)

end Moorage.Kubeconfig

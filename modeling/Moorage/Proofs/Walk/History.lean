import Moorage.Proofs.Walk.Completion

/-!
# `Moorage.Proofs.Walk.History`: walks one after another

A failure makes everything fail that waits for the resource and is not disabled, and
nothing in the code keeps it from doing so to a resource that is applied. That it never
does rests on `Closed`: whatever an applied resource depends on is applied or disabled.
Walks of both kinds keep this, whether they succeed, fail or are cancelled
(`Reached.closed`).

So an applied resource stays applied until its destruction is started, and in the
meantime it is not created again (`Alternates`).

* `history_applied`: the statement for every history and every point of it.
-/

set_option autoImplicit false

namespace Moorage.Walk

open Relation (TransGen)

variable {g : Graph} {kind : WalkKind} {b : Board} {hs : List Happening} {w : Walk}

/-- Whatever an applied resource depends on, directly or not, is applied or disabled. It is a
property of boards, so that it can be kept from one walk to the next. -/
def Closed (g : Graph) (b : Board) : Prop :=
  ∀ p q, b.status p = .applied → TransGen g.DependsOn p q →
    b.status q = .applied ∨ b.status q = .disabled

/-! ### Walks that apply -/

namespace Reached

/-- What is applied or disabled in the beginning is not started by a walk that applies: there is
nothing to do for it. -/
theorem not_started_of_skips (hr : Reached g .apply b hs w) {p : Nat}
    (hp : b.status p = .applied ∨ b.status p = .disabled) : p ∉ started hs := by
  intro hstart
  have hskips := hr.marks.started p hstart
  rw [skips_eq_true_iff.mpr hp] at hskips
  cases hskips

/-- From a closed board no failure drags along what is applied: what it depends on was not
even started. -/
theorem not_dragged (hr : Reached g .apply b hs w) (hclosed : Closed g b) {p : Nat}
    (hp : b.status p = .applied) : ¬ Dragged g .apply b hs p := by
  rintro ⟨⟨f, hfail, hpf⟩, -, -⟩
  obtain ⟨error, hend⟩ := mem_failed.mp hfail
  exact hr.not_started_of_skips (hclosed p f hp hpf) (hr.flow.started_of_ended hend)

/-- From a closed board on, what is applied stays so. It cannot be dragged along by a failure,
because nothing that it depends on is started. -/
theorem applied_of_applied (hr : Reached g .apply b hs w) (hclosed : Closed g b) {p : Nat}
    (hp : b.status p = .applied) : w.board.status p = .applied := by
  rw [hr.marks.kept p (hr.not_started_of_skips (Or.inl hp)) (hr.not_dragged hclosed hp), hp]

/-- What is disabled stays so. It is skipped, and a failure in front of it leaves it out. -/
theorem disabled_of_disabled (hr : Reached g .apply b hs w) {p : Nat}
    (hp : b.status p = .disabled) : w.board.status p = .disabled := by
  rw [hr.marks.kept p (hr.not_started_of_skips (Or.inr hp)) fun hdrag => hdrag.2.2 hp, hp]

/-- What is applied was created in this walk or was applied before. There is no other way to the
status. -/
theorem ended_or_applied (hr : Reached g .apply b hs w) {p : Nat}
    (hp : w.board.status p = .applied) :
    Happening.ended p (.ok ()) ∈ hs ∨ b.status p = .applied := by
  by_cases hstart : p ∈ started hs
  · by_cases hend : p ∈ ended hs
    · obtain ⟨outcome, hend⟩ := mem_ended.mp hend
      cases outcome with
      | ok _ => exact Or.inl hend
      | error error =>
          rw [hr.marks.failed p (mem_failed.mpr ⟨error, hend⟩)] at hp
          cases hp
    · rw [hr.marks.running p ((hr.flow.mem_running p).mpr ⟨hstart, hend⟩)] at hp
      cases hp
  · by_cases hdrag : Dragged g .apply b hs p
    · rw [hr.marks.dragged p hdrag] at hp
      cases hp
    · exact Or.inr (hr.marks.kept p hstart hdrag ▸ hp)

/-- A walk that applies keeps boards closed. What it creates waited for released resources, and
these are applied or disabled from then on. -/
theorem closed_apply (hr : Reached g .apply b hs w) (hclosed : Closed g b) :
    Closed g w.board := by
  intro p q hp hpq
  rcases hr.ended_or_applied hp with hend | hbefore
  · -- What was created in this walk was started when all of that was applied or disabled.
    have hrel : p ∈ released hs := mem_released.mpr (Or.inr hend)
    have htaken := hr.flow.taken_of_released hrel
    have hq := hr.flow.released_of_transGen (hr.flow.taken_awaits p htaken) hpq
    exact hr.marks.status_of_released hr.flow hq
  · rcases hclosed p q hbefore hpq with hq | hq
    · exact Or.inl (hr.applied_of_applied hclosed hq)
    · exact Or.inr (hr.disabled_of_disabled hq)

/-! ### Walks that destroy -/

/-- Until its destruction has ended a resource keeps its status, also while the destruction runs. -/
theorem status_of_not_ended (hr : Reached g .destroy b hs w) {p : Nat} (hp : p ∉ ended hs) :
    w.board.status p = b.status p := by
  by_cases hstart : p ∈ started hs
  · exact hr.marks.running p ((hr.flow.mem_running p).mpr ⟨hstart, hp⟩)
  · refine hr.marks.kept p hstart fun hdrag => ?_
    cases hdrag.2.1

/-- What is applied was so before, and its destruction has not ended. It may be running. -/
theorem applied_of_destroy (hr : Reached g .destroy b hs w) {p : Nat}
    (hp : w.board.status p = .applied) : b.status p = .applied ∧ p ∉ ended hs := by
  have hend : p ∉ ended hs := by
    intro hend
    obtain ⟨outcome, hend⟩ := mem_ended.mp hend
    cases outcome with
    | ok _ =>
        rw [hr.marks.succeeded p hend] at hp
        cases hp
    | error error =>
        rw [hr.marks.failed p (mem_failed.mpr ⟨error, hend⟩)] at hp
        cases hp
  exact ⟨hr.status_of_not_ended hend ▸ hp, hend⟩

/-- Nothing that is applied depends on a resource whose destruction was started: dependents go
first, and what they came to is not applied. -/
theorem not_started_of_applied (hr : Reached g .destroy b hs w) {p q : Nat}
    (hp : w.board.status p = .applied) (hpq : TransGen g.DependsOn p q) : q ∉ started hs := by
  intro hstart
  have hrel := hr.flow.released_of_transGen
    (hr.flow.taken_awaits q (Flow.taken_of_started hstart))
    (WalkKind.transGen_awaits_destroy.mpr hpq)
  rcases hr.marks.status_of_released hr.flow hrel with hdone | hdisabled
  · rw [hdone] at hp
    cases hp
  · rw [hdisabled] at hp
    cases hp

/-- A walk that destroys keeps boards closed. Dependents lose the status before what they depend
on does. -/
theorem closed_destroy (hr : Reached g .destroy b hs w) (hclosed : Closed g b) :
    Closed g w.board := by
  intro p q hp hpq
  have hend : q ∉ ended hs := fun hend =>
    hr.not_started_of_applied hp hpq (hr.flow.ended_started q hend)
  rw [hr.status_of_not_ended hend]
  exact hclosed p q (hr.applied_of_destroy hp).1 hpq

/-! ### Walks of both kinds -/

/-- A walk keeps boards closed, of either kind and at every point of it. -/
theorem closed (hr : Reached g kind b hs w) (hclosed : Closed g b) : Closed g w.board := by
  cases kind with
  | apply => exact hr.closed_apply hclosed
  | destroy => exact hr.closed_destroy hclosed

/-- Nothing that is applied depends on a resource whose task runs. A failure of that task
therefore takes no applied resource with it. -/
theorem not_transGen_of_running (hr : Reached g kind b hs w) (hclosed : Closed g b) {p q : Nat}
    (hp : w.board.status p = .applied) (hq : q ∈ w.running) : ¬ TransGen g.DependsOn p q := by
  intro hpq
  cases kind with
  | apply =>
      have hcreating : w.board.status q = .creating := hr.marks.running q hq
      rcases hr.closed hclosed p q hp hpq with h | h <;> rw [hcreating] at h <;> cases h
  | destroy => exact hr.not_started_of_applied hp hpq ((hr.flow.mem_running q).mp hq).1

/-- While a failure is taken in, the board is closed whenever some of the resources that
it blocks were dealt with and others not. -/
theorem closed_blocking (h : g.Coherent) (hr : Reached g kind b hs w) (hclosed : Closed g b)
    {f : Nat} (hf : f ∈ w.running) (error : Error) (n : Nat) :
    Closed g (((Graph.positionsOf (kind.blockedBy g (labelAt g f))).take n).foldl
      (blockOne g (labelAt g f)) (failing g w f error)).board := by
  have hflt := hr.flow.taken_lt f (Flow.taken_of_started ((hr.flow.mem_running f).mp hf).1)
  obtain ⟨hnodup, hmem⟩ := @mem_blockedBy g kind h f hflt
  have hlisted : ∀ q ∈ (Graph.positionsOf (kind.blockedBy g (labelAt g f))).take n,
      TransGen (kind.Awaits g) q f := fun q hq => (hmem q).mp (List.mem_of_mem_take hq)
  have hfailing : (failing g w f error).board.standings.length = g.size := by
    simpa [failing] using hr.marks.length
  have heffect : Blocked g (labelAt g f) _ (failing g w f error) _ :=
    blocked_foldl h (fun q hq => (lt_of_transGen_awaits h (hlisted q hq)).1)
      (hnodup.sublist (List.take_sublist n _)) hfailing
  have hboard : ∀ q, (failing g w f error).board.status q
      = if q = f then .failed else w.board.status q :=
    fun q => Board.status_setStatus (hr.marks.length ▸ hflt) q _
  intro p q hp hpq
  rw [heffect.status] at hp
  split at hp
  · cases hp
  rw [hboard] at hp
  split at hp
  · cases hp
  -- So `p` was applied already, and then it does not depend on the failed resource.
  have hfree := hr.not_transGen_of_running hclosed hp hf
  have hqf : q ≠ f := by
    rintro rfl
    exact hfree hpq
  rw [heffect.status, if_neg, hboard, if_neg hqf]
  · exact hr.closed hclosed p q hp hpq
  · rintro ⟨hfresh, hkind, -⟩
    have hqwait := hlisted q (List.mem_filter.mp hfresh).1
    have happly : kind = .apply := hr.flow.kind_eq.symm.trans hkind
    subst happly
    exact hfree (hpq.trans hqwait)

/-- In a walk that applies, no move takes what is applied back, whatever the move comes to. -/
theorem applied_of_move (h : g.Coherent) (hr : Reached g .apply b hs w) (hclosed : Closed g b)
    {e : Happening} {w' : Walk} (hmove : Move g w e w') {p : Nat}
    (hp : w.board.status p = .applied) : w'.board.status p = .applied := by
  have hr' := hr.step h hmove
  rcases hr.ended_or_applied hp with hend | hbefore
  · exact hr'.marks.succeeded p (List.mem_append_left _ hend)
  · exact hr'.applied_of_applied hclosed hbefore

end Reached

/-! ### Histories -/

/-- What happened in walks over a graph, one after another and each to its end, and the
board by then. In the beginning every resource is pending or disabled. -/
inductive History (g : Graph) : List (WalkKind × Happening) → Board → Prop where
  | fresh {b : Board} (hlength : b.standings.length = g.size)
      (hstatus : ∀ p < g.size, b.status p = .pending ∨ b.status p = .disabled) :
      History g [] b
  | walk {es : List (WalkKind × Happening)} {b : Board} {kind : WalkKind} {hs : List Happening}
      {w : Walk} (history : History g es b) (run : Run g kind b hs w) (hover : Over w) :
      History g (es ++ hs.map (Prod.mk kind)) w.board

/-- Histories begin with the statuses that resources start in, none of which is applied. -/
theorem history_ofResources (g : Graph) : History g [] (.ofResources g.resources) := by
  refine .fresh (Board.length_ofResources g.resources) fun p hp => ?_
  have hstatus : (Board.ofResources g.resources).status p = (g.resources[p]).initialStatus := by
    simp [Board.status, Board.standing, Board.ofResources, List.getD_eq_getElem?_getD,
      List.getElem?_eq_getElem hp]
  rw [hstatus]
  unfold Resource.initialStatus
  split
  · exact Or.inr rfl
  · exact Or.inl rfl

variable {es : List (WalkKind × Happening)}

/-- The resource was created, and its destruction has not been started since. -/
def Created (es : List (WalkKind × Happening)) (p : Nat) : Prop :=
  ∃ i : Nat, es[i]? = some (.apply, .ended p (.ok ())) ∧
    ∀ k : Nat, i < k → es[k]? ≠ some (.destroy, .started p)

/-- Between two creations of a resource its destruction was started. Whether that destruction
succeeded is left open. -/
def Alternates (es : List (WalkKind × Happening)) : Prop :=
  ∀ p i j : Nat, i < j → es[i]? = some (.apply, .ended p (.ok ())) →
    es[j]? = some (.apply, .ended p (.ok ())) →
    ∃ k, i < k ∧ k < j ∧ es[k]? = some (.destroy, .started p)

/-- What happened at a place behind a history happened in the walk that followed. Places are
counted through, over all walks of the history. -/
theorem getElem?_history {i : Nat} (hi : es.length ≤ i) {kind' : WalkKind} {e : Happening}
    (he : (es ++ hs.map (Prod.mk kind))[i]? = some (kind', e)) :
    kind' = kind ∧ hs[i - es.length]? = some e := by
  rw [List.getElem?_append_right hi, List.getElem?_map, Option.map_eq_some_iff] at he
  obtain ⟨e', hmem, heq⟩ := he
  cases heq
  exact ⟨rfl, hmem⟩

/-- A creation in the history that no destruction follows in the longer history has none
behind it in the history either. -/
theorem created_of_append {p i : Nat} (hi : i < es.length)
    (hcreated : (es ++ hs.map (Prod.mk kind))[i]? = some (.apply, .ended p (.ok ())))
    (hlast : ∀ k : Nat, i < k →
      (es ++ hs.map (Prod.mk kind))[k]? ≠ some (.destroy, .started p)) : Created es p := by
  rw [List.getElem?_append_left hi] at hcreated
  refine ⟨i, hcreated, fun k hik hk => hlast k hik ?_⟩
  rwa [List.getElem?_append_left (List.getElem?_eq_some_iff.mp hk).1]

namespace Reached

/-- What was created last is applied, at every point of the next walk too. Only its own
destruction could change that, and this one has not been started. -/
theorem applied_of_created (hr : Reached g kind b hs w) (hclosed : Closed g b)
    (hbefore : ∀ p, Created es p → b.status p = .applied) {p : Nat}
    (hp : Created (es ++ hs.map (Prod.mk kind)) p) : w.board.status p = .applied := by
  obtain ⟨i, hcreated, hlast⟩ := hp
  by_cases hi : i < es.length
  · -- It was created in an earlier walk, and so it was applied when this one began.
    have happlied := hbefore p (created_of_append hi hcreated hlast)
    cases kind with
    | apply => exact hr.applied_of_applied hclosed happlied
    | destroy =>
        -- Its destruction was not started in this walk, so it has not ended.
        have hunstarted : p ∉ started hs := by
          intro hstart
          obtain ⟨m, hm⟩ := List.mem_iff_getElem?.mp (mem_started.mp hstart)
          refine hlast (es.length + m) (by omega) ?_
          rw [List.getElem?_append_right (Nat.le_add_right _ _), Nat.add_sub_cancel_left,
            List.getElem?_map, hm, Option.map_some]
        rw [hr.status_of_not_ended fun hend => hunstarted (hr.flow.ended_started p hend)]
        exact happlied
  · obtain ⟨happly, he⟩ := getElem?_history (Nat.le_of_not_lt hi) hcreated
    subst happly
    exact hr.marks.succeeded p (List.mem_of_getElem? he)

/-- Creations and destructions alternate through the next walk too. A second creation
needs a start, and what was created last is applied and not started. -/
theorem alternates (hr : Reached g kind b hs w) (halternates : Alternates es)
    (hbefore : ∀ p, Created es p → b.status p = .applied) :
    Alternates (es ++ hs.map (Prod.mk kind)) := by
  intro p i j hij hi hj
  by_cases hjlt : j < es.length
  · -- Both creations lie in the history.
    rw [List.getElem?_append_left (Nat.lt_trans hij hjlt)] at hi
    rw [List.getElem?_append_left hjlt] at hj
    obtain ⟨k, hik, hkj, hk⟩ := halternates p i j hij hi hj
    refine ⟨k, hik, hkj, ?_⟩
    rwa [List.getElem?_append_left (Nat.lt_trans hkj hjlt)]
  · have hjge := Nat.le_of_not_lt hjlt
    obtain ⟨happly, hej⟩ := getElem?_history hjge hj
    subst happly
    by_cases hilt : i < es.length
    · -- Without a destruction in between, the resource would be applied when it starts.
      have hstart := hr.flow.started_of_ended (List.mem_of_getElem? hej)
      have huncreated : ¬ Created es p := by
        intro hcreated
        exact hr.not_started_of_skips (Or.inl (hbefore p hcreated)) hstart
      rw [List.getElem?_append_left hilt] at hi
      by_contra hnone
      refine huncreated ⟨i, hi, fun k hik hk => hnone ⟨k, hik, ?_, ?_⟩⟩
      · exact Nat.lt_of_lt_of_le (List.getElem?_eq_some_iff.mp hk).1 hjge
      · rwa [List.getElem?_append_left (List.getElem?_eq_some_iff.mp hk).1]
    · -- No task ends twice in one walk.
      obtain ⟨-, hei⟩ := getElem?_history (Nat.le_of_not_lt hilt) hi
      have hsame := index_unique hr.flow.ended_nodup hei hej rfl rfl
      omega

end Reached

/-- After every history the board is closed, what was created last is applied, and
creations and destructions alternate. -/
theorem History.invariant (h : g.Coherent) (history : History g es b) :
    Closed g b ∧ (∀ p, Created es p → b.status p = .applied) ∧ Alternates es := by
  induction history with
  | @fresh b hlength hstatus =>
      -- In the beginning nothing is applied, so that there is nothing to be closed.
      have hnone : ∀ p, b.status p ≠ .applied := by
        intro p hp
        by_cases hlt : p < g.size
        · rcases hstatus p hlt with h | h <;> rw [h] at hp <;> cases hp
        · rw [Board.status_of_length_le (hlength ▸ Nat.le_of_not_lt hlt)] at hp
          cases hp
      refine ⟨fun p q hp _ => ?_, ?_, ?_⟩
      · exact absurd hp (hnone p)
      · rintro p ⟨i, hi, -⟩
        cases hi
      · intro p i j _ hi _
        cases hi
  | walk _ run _ ih =>
      -- One more walk, from the board that the history has come to.
      obtain ⟨hclosed, hcreated, halternates⟩ := ih
      have hr := run.reached h
      exact ⟨hr.closed hclosed, fun p => hr.applied_of_created hclosed hcreated,
        hr.alternates halternates hcreated⟩

/-- Over every history of walks, whatever the results, the orders of completion and the
instants of cancellation are, and at every point of the walk under way: whatever an applied
resource depends on is applied or disabled, also while a failure is taken in; no walk that
applies takes what is applied back, by a failure of something else or otherwise; and between
two creations of a resource its destruction was started. -/
theorem history_applied {registry : Registry} (hg : g.BuiltFrom registry)
    (history : History g es b) (run : Run g kind b hs w) :
    (∀ p q, w.board.status p = .applied → TransGen g.DependsOn p q →
      w.board.status q = .applied ∨ w.board.status q = .disabled) ∧
    (∀ f ∈ w.running, ∀ error n,
      Closed g (((Graph.positionsOf (kind.blockedBy g (labelAt g f))).take n).foldl
        (blockOne g (labelAt g f)) (failing g w f error)).board) ∧
    (kind = .apply → ∀ e w', Move g w e w' → ∀ p, w.board.status p = .applied →
      w'.board.status p = .applied) ∧
    (∀ p i j : Nat, i < j →
      (es ++ hs.map (Prod.mk kind))[i]? = some (.apply, .ended p (.ok ())) →
      (es ++ hs.map (Prod.mk kind))[j]? = some (.apply, .ended p (.ok ())) →
      ∃ k, i < k ∧ k < j ∧ (es ++ hs.map (Prod.mk kind))[k]? = some (.destroy, .started p)) := by
  have h := hg.coherent
  have hr := run.reached h
  obtain ⟨hclosed, hcreated, halternates⟩ := history.invariant h
  refine ⟨hr.closed hclosed, ?_, ?_, hr.alternates halternates hcreated⟩
  · exact fun f hf error n => hr.closed_blocking h hclosed hf error n
  · rintro rfl e w' hmove p hp
    exact hr.applied_of_move h hclosed hmove hp

/-- After a first walk that applied both, the container and its network are applied when
the next walk begins. -/
theorem history_applied_webOnNet : ∃ es b w, History .webOnNet es b ∧
    Run .webOnNet .destroy b [] w ∧ w.board.status 1 = .applied ∧
      (w.board.status 0 = .applied ∨ w.board.status 0 = .disabled) := by
  have hbegin : Run .webOnNet .apply (.ofResources Graph.webOnNet.resources) [] _ := .begin rfl
  have hnet := (hbegin.next false rfl).finish (.ok ()) rfl List.mem_cons_self
  have hweb := (hnet.next false rfl).finish (.ok ()) rfl List.mem_cons_self
  have hhistory := (history_ofResources .webOnNet).walk hweb ⟨rfl, rfl⟩
  have hedge : Graph.webOnNet.DependsOn 1 0 := List.mem_cons_of_mem _ List.mem_cons_self
  have hlength := (hweb.reached Graph.webOnNet_built.coherent).marks.length
  have hnext : Run .webOnNet .destroy _ [] _ := .begin hlength
  exact ⟨_, _, _, hhistory, hnext, rfl,
    (history_applied Graph.webOnNet_built hhistory hnext).1 1 0 rfl (.single hedge)⟩

end Moorage.Walk

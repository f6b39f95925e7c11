import Moorage.Proofs.Walk.Marks

/-!
# `Moorage.Proofs.Walk.Failures`: what a walk reports

A walk reports a resource for one of three reasons: its own task failed, it came off
the queue after a cancellation, or it was dragged along by the failure of something
that it waits for. `Ledger` says that every entry has such a reason, that whatever has
one is entered, and that nothing is entered twice. The last part rests on the reasons
excluding each other, since what came off the queue is never cut off.

An entry has the resource and an error, and the error names the reason. Which of several failures a
resource was dragged along by is decided by the one that came first, so an entry is known up to this
name. Entries are only added, one failure at a time, and a failure adds those that it blocks anew.

`Ledger.step` is the step lemma.
-/

set_option autoImplicit false

namespace Moorage.Walk

open Relation (TransGen)

variable {g : Graph} {kind : WalkKind} {b : Board} {hs : List Happening} {w : Walk}

/-- Why a walk reports the resource at a position, and the error that it reports. The three ways
exclude each other, and of the last one there may be several, one for each failure in front of the
resource. -/
inductive Reason (g : Graph) (kind : WalkKind) (b : Board) (hs : List Happening) (p : Nat) :
    Error → Prop where
  | own {error : Error} (hended : Happening.ended p (.error error) ∈ hs) :
      Reason g kind b hs p error
  | refused (hrefused : Happening.refused p ∈ hs) :
      Reason g kind b hs p (.cancelled (labelAt g p) kind.verb)
  | dragged {f : Nat} (hdragged : Dragged g kind b hs p) (hfailed : f ∈ failed hs)
      (hpf : TransGen (kind.Awaits g) p f) :
      Reason g kind b hs p (.dependencyFailed (labelAt g p) (labelAt g f))

/-- What a walk has reported so far. Every entry has a reason, every reason has an entry, and no
reference has two. -/
structure Ledger (g : Graph) (kind : WalkKind) (b : Board) (hs : List Happening) (w : Walk) :
    Prop where
  nodup : (w.failures.map Prod.fst).Nodup
  explained : ∀ entry ∈ w.failures, ∃ p, entry.1 = labelAt g p ∧ Reason g kind b hs p entry.2
  entered : ∀ p error, Reason g kind b hs p error → ∃ error', (labelAt g p, error') ∈ w.failures

/-! ### Reasons -/

namespace Reason

variable {p : Nat} {error : Error}

/-- What is reported is a resource of the graph, whatever the reason. -/
theorem lt (h : g.Coherent) (hf : Flow g kind hs w) (hp : Reason g kind b hs p error) :
    p < g.size := by
  cases hp with
  | own hended => exact hf.taken_lt p (hf.taken_of_failed (mem_failed.mpr ⟨_, hended⟩))
  | refused hrefused =>
      exact hf.taken_lt p (Flow.taken_of_refused hrefused)
  | dragged _ _ hpf => exact (lt_of_transGen_awaits h hpf).1

/-- A reason holds on, however the run goes on. -/
theorem mono {hs' : List Happening} (hsub : ∀ e ∈ hs, e ∈ hs')
    (hp : Reason g kind b hs p error) : Reason g kind b hs' p error := by
  have hfailed : ∀ f ∈ failed hs, f ∈ failed hs' := by
    intro f hf
    obtain ⟨e, he⟩ := mem_failed.mp hf
    exact mem_failed.mpr ⟨e, hsub _ he⟩
  cases hp with
  | own hended => exact .own (hsub _ hended)
  | refused hrefused => exact .refused (hsub _ hrefused)
  | dragged hdragged hf hpf =>
      obtain ⟨⟨f', hf', hpf'⟩, henabled⟩ := hdragged
      exact .dragged ⟨⟨f', hfailed f' hf', hpf'⟩, henabled⟩ (hfailed _ hf) hpf

/-- A happening that neither refuses a resource nor lets one fail gives no reason that there was
not before. -/
theorem of_concat {e : Happening} (hrefused : ∀ q, e ≠ .refused q) (hfailed : e.failed? = none)
    (hp : Reason g kind b (hs ++ [e]) p error) : Reason g kind b hs p error := by
  cases hp with
  | own hended =>
      refine .own (mem_of_mem_concat (fun heq => ?_) hended)
      rw [← heq] at hfailed
      cases hfailed
  | refused hmem => exact .refused (mem_of_mem_concat (fun heq => hrefused p heq.symm) hmem)
  | dragged hdragged hf hpf =>
      rw [failed_concat_of_none hfailed] at hf
      exact .dragged ((dragged_concat hfailed p).mp hdragged) hf hpf

/-- What came off the queue is reported when its task failed or it was refused, and for
nothing else. -/
theorem of_taken (hf : Flow g kind hs w) (htaken : p ∈ taken hs)
    (hp : Reason g kind b hs p error) :
    p ∈ failed hs ∨ Happening.refused p ∈ hs := by
  cases hp with
  | own hended => exact Or.inl (mem_failed.mpr ⟨_, hended⟩)
  | refused hrefused => exact Or.inr hrefused
  | dragged hdragged _ _ => exact absurd hdragged.1 (hf.not_cutOff_of_taken htaken)

/-- What has not come off the queue is reported when it was dragged along, and for
nothing else. -/
theorem of_not_taken (hf : Flow g kind hs w) (hnew : p ∉ taken hs)
    (hp : Reason g kind b hs p error) : Dragged g kind b hs p := by
  cases hp with
  | own hended => exact absurd (hf.taken_of_failed (mem_failed.mpr ⟨_, hended⟩)) hnew
  | refused hrefused =>
      exact absurd (Flow.taken_of_refused hrefused) hnew
  | dragged hdragged _ _ => exact hdragged

end Reason

/-- At the start nothing is reported and there is no reason for it. -/
theorem ledger_begin : Ledger g kind b [] (begin g kind b) where
  nodup := List.nodup_nil
  explained _ hentry := nomatch hentry
  entered p error hp := by
    cases hp with
    | own hended => cases hended
    | refused hrefused => cases hrefused
    | dragged _ hf _ => cases hf

/-! ### Entries of a failure -/

/-- What a failure reports: the resource itself, and those of the newly blocked ones
that fail with it. -/
def failureEntries (g : Graph) (w : Walk) (p : Nat) (error : Error) (fresh : List Nat) :
    List (Nat × Error) :=
  (p, error) :: (fresh.filter fun q => FailsWith w q).map fun q =>
    (q, .dependencyFailed (labelAt g q) (labelAt g p))

/-- A failure reports its own resource, and each that it has newly blocked and that fails with
it. -/
theorem mem_failureEntries {p : Nat} {error : Error} {fresh : List Nat} {entry : Nat × Error}
    (hentry : entry ∈ failureEntries g w p error fresh) :
    entry = (p, error) ∨ ∃ q, (q ∈ fresh ∧ FailsWith w q) ∧
      entry = (q, .dependencyFailed (labelAt g q) (labelAt g p)) := by
  rcases List.mem_cons.mp hentry with heq | hmem
  · exact Or.inl heq
  · obtain ⟨q, hq, heq⟩ := List.mem_map.mp hmem
    rw [List.mem_filter, decide_eq_true_iff] at hq
    exact Or.inr ⟨q, hq, heq.symm⟩

/-- The references that a failure reports, in the order of the entries. -/
theorem map_fst_failureEntries (p : Nat) (error : Error) (fresh : List Nat) :
    (failureEntries g w p error fresh).map Prod.fst
      = p :: fresh.filter fun q => FailsWith w q := by
  simp [failureEntries, Function.comp_def]

namespace Ledger

/-! ### The step lemma -/

/-- Entries are added for resources that had no reason before and have one now. Whoever adds them
has to show that these are all of them, and that none is there twice. -/
theorem extend (h : g.Coherent) (hf : Flow g kind hs w) (hl : Ledger g kind b hs w)
    {e : Happening} {w' : Walk} (added : List (Nat × Error))
    (hfailures : w'.failures
      = w.failures ++ added.map fun entry => (labelAt g entry.1, entry.2))
    (hnodup : (added.map Prod.fst).Nodup) (hlt : ∀ entry ∈ added, entry.1 < g.size)
    (hnew : ∀ entry ∈ added, ∀ error, ¬ Reason g kind b hs entry.1 error)
    (hreason : ∀ entry ∈ added, Reason g kind b (hs ++ [e]) entry.1 entry.2)
    (hcover : ∀ p error, Reason g kind b (hs ++ [e]) p error →
      (∃ error', Reason g kind b hs p error') ∨ p ∈ added.map Prod.fst) :
    Ledger g kind b (hs ++ [e]) w' := by
  constructor
  · rw [hfailures, List.map_append, List.map_map]
    refine List.nodup_append.mpr ⟨hl.nodup, ?_, ?_⟩
    · have hlabels : (added.map Prod.fst).map (labelAt g) = added.map
          (Prod.fst ∘ fun entry => (labelAt g entry.1, entry.2)) := List.map_map
      rw [← hlabels]
      refine List.Nodup.map_on (fun p hp q hq heq => ?_) hnodup
      obtain ⟨x, hx, rfl⟩ := List.mem_map.mp hp
      obtain ⟨y, hy, rfl⟩ := List.mem_map.mp hq
      exact labelAt_injective h (hlt x hx) (hlt y hy) heq
    · -- An old entry with the text of a new one would be about the same resource.
      intro label hold label' hadded heq
      obtain ⟨entry, hentry, rfl⟩ := List.mem_map.mp hold
      obtain ⟨x, hx, rfl⟩ := List.mem_map.mp hadded
      obtain ⟨p, hp, hwhy⟩ := hl.explained entry hentry
      have hpx : p = x.1 :=
        labelAt_injective h (hwhy.lt h hf) (hlt x hx) (hp.symm.trans heq)
      exact hnew x hx _ (hpx ▸ hwhy)
  · intro entry hentry
    rw [hfailures, List.mem_append] at hentry
    rcases hentry with hentry | hentry
    · obtain ⟨p, hp, hwhy⟩ := hl.explained entry hentry
      exact ⟨p, hp, hwhy.mono fun _ => List.mem_append_left _⟩
    · obtain ⟨x, hx, rfl⟩ := List.mem_map.mp hentry
      exact ⟨x.1, rfl, hreason x hx⟩
  · intro p error hp
    rw [hfailures]
    rcases hcover p error hp with ⟨error', hold⟩ | hadded
    · obtain ⟨reported, hmem⟩ := hl.entered p error' hold
      exact ⟨reported, List.mem_append_left _ hmem⟩
    · obtain ⟨x, hx, rfl⟩ := List.mem_map.mp hadded
      exact ⟨x.2, List.mem_append_right _ (List.mem_map.mpr ⟨x, hx, rfl⟩)⟩

/-- A move that gives no reason reports nothing, so that the ledger is as it was. -/
theorem of_still (hl : Ledger g kind b hs w) {e : Happening} {w' : Walk}
    (hrefused : ∀ q, e ≠ .refused q) (hfailed : e.failed? = none)
    (hfailures : w'.failures = w.failures) : Ledger g kind b (hs ++ [e]) w' := by
  constructor
  · rw [hfailures]
    exact hl.nodup
  · intro entry hentry
    rw [hfailures] at hentry
    obtain ⟨p, hp, hwhy⟩ := hl.explained entry hentry
    exact ⟨p, hp, hwhy.mono fun _ => List.mem_append_left _⟩
  · intro p error hp
    rw [hfailures]
    exact hl.entered p error (hp.of_concat hrefused hfailed)

/-- A refused resource is reported, as cancelled. It came off the queue just now and had no reason
before. -/
theorem step_refused (h : g.Coherent) (hf : Flow g kind hs w) (hl : Ledger g kind b hs w)
    {p : Nat} {rest : List Nat} (hready : w.ready = p :: rest) {w' : Walk}
    (hfailures : w'.failures
      = w.failures ++ [(labelAt g p, .cancelled (labelAt g p) kind.verb)]) :
    Ledger g kind b (hs ++ [.refused p]) w' := by
  obtain ⟨hp, hnew, hdone⟩ := hf.of_mem_ready hready
  refine hl.extend h hf [(p, .cancelled (labelAt g p) kind.verb)] hfailures
    (List.nodup_singleton p) ?_ ?_ ?_ ?_
  · simpa using hp
  -- It had no reason before: what comes off the queue is not cut off by a failure.
  · intro entry hentry error hwhy
    rw [List.mem_singleton.mp hentry] at hwhy
    exact hf.not_cutOff hdone (hwhy.of_not_taken hf hnew).1
  · intro entry hentry
    rw [List.mem_singleton.mp hentry]
    exact .refused (List.mem_append_right _ List.mem_cons_self)
  -- A refusal lets nothing fail, so that only the refused resource has a reason that is new.
  · intro q error hq
    cases hq with
    | own hended => exact Or.inl ⟨_, .own (mem_of_mem_concat (by simp) hended)⟩
    | refused hmem =>
        rcases List.mem_append.mp hmem with hmem | hmem
        · exact Or.inl ⟨_, .refused hmem⟩
        · cases List.mem_singleton.mp hmem
          exact Or.inr List.mem_cons_self
    | dragged hdragged hfail hqf =>
        rw [failed_concat_of_none rfl] at hfail
        exact Or.inl ⟨_, .dragged ((dragged_concat rfl q).mp hdragged) hfail hqf⟩

/-- A failed resource is reported, and so is everything that it drags along. What was cut off
before has its entry from then and gets no second one. -/
theorem step_failed (h : g.Coherent) (hf : Flow g kind hs w) (hm : Marks g kind b hs w)
    (hl : Ledger g kind b hs w) {p : Nat} {error : Error} (hrunning : p ∈ w.running) :
    Ledger g kind b (hs ++ [.ended p (.error error)])
      (block g (failing g w p error) (labelAt g p)) := by
  obtain ⟨hstart, hunended⟩ := (hf.mem_running p).mp hrunning
  have htaken := Flow.taken_of_started hstart
  obtain ⟨fresh, heffect, hnodup, hfresh⟩ := hf.exists_fresh h hm.length hrunning error
  have hdragged := hm.dragged_failed h hf hrunning error hfresh
  have hlast : p ∈ failed (hs ++ [.ended p (.error error)]) :=
    mem_failed.mpr ⟨error, List.mem_append_right _ List.mem_cons_self⟩
  refine hl.extend h hf (failureEntries g (failing g w p error) p error fresh) ?_ ?_ ?_ ?_ ?_ ?_
  · rw [heffect.failures]
    simp [failing, failureEntries, dependentFailure, Function.comp_def]
  · rw [map_fst_failureEntries]
    refine List.nodup_cons.mpr ⟨fun hp => ?_, hnodup.filter _⟩
    exact not_awaits_self h p ((hfresh p).mp (List.mem_filter.mp hp).1).1
  · intro entry hentry
    rcases mem_failureEntries hentry with rfl | ⟨q, hq, rfl⟩
    · exact hf.taken_lt p htaken
    · exact (lt_of_transGen_awaits h ((hfresh q).mp hq.1).1).1
  · intro entry hentry error' hwhy
    rcases mem_failureEntries hentry with rfl | ⟨q, hq, rfl⟩
    · -- A running task has not ended, and what was started was not refused.
      rcases hwhy.of_taken hf htaken with hfail | hrefused
      · obtain ⟨_, hend⟩ := mem_failed.mp hfail
        exact hunended (mem_ended.mpr ⟨_, hend⟩)
      · exact hf.not_refused_of_started hstart hrefused
    · -- Nothing that waits for the running `p` came off the queue.
      obtain ⟨hqp, hcut⟩ := (hfresh q).mp hq.1
      refine hcut (hwhy.of_not_taken hf (fun hqtaken => ?_)).1
      exact hf.not_released_of_running hrunning
        (hf.released_of_transGen (hf.taken_awaits q hqtaken) hqp)
  · intro entry hentry
    rcases mem_failureEntries hentry with rfl | ⟨q, hq, rfl⟩
    · exact .own (List.mem_append_right _ List.mem_cons_self)
    · exact .dragged ((hdragged q).mpr (Or.inr hq)) hlast ((hfresh q).mp hq.1).1
  · intro q error' hq
    rw [map_fst_failureEntries]
    cases hq with
    | own hended =>
        rcases List.mem_append.mp hended with hended | hended
        · exact Or.inl ⟨_, .own hended⟩
        · cases List.mem_singleton.mp hended
          exact Or.inr List.mem_cons_self
    | refused hrefused => exact Or.inl ⟨_, .refused (mem_of_mem_concat (by simp) hrefused)⟩
    | dragged hdrag _ _ =>
        rcases (hdragged q).mp hdrag with hold | hnew
        · obtain ⟨f, hfail, hqf⟩ := hold.1
          exact Or.inl ⟨_, .dragged hold hfail hqf⟩
        · refine Or.inr (List.mem_cons_of_mem p (List.mem_filter.mpr ⟨hnew.1, ?_⟩))
          exact decide_eq_true hnew.2

/-- Every move keeps the ledger. It needs `Flow` and `Marks` of the walk before the move. -/
theorem step (h : g.Coherent) (hf : Flow g kind hs w) (hm : Marks g kind b hs w)
    (hl : Ledger g kind b hs w) {e : Happening} {w' : Walk} (he : Effect g w e w') :
    Ledger g kind b (hs ++ [e]) w' := by
  cases he with
  | passed _ _ => exact hl.of_still (by simp) rfl rfl
  | skipped _ _ => exact hl.of_still (by simp) rfl (by simp)
  | refused hready _ =>
      refine hl.step_refused h hf hready ?_
      rw [hf.kind_eq]
  | started _ _ => exact hl.of_still (by simp) rfl rfl
  | succeeded _ _ => exact hl.of_still (by simp) rfl (by simp)
  | failed _ hrunning => exact hl.step_failed h hf hm hrunning
  | recorded _ => exact hl.of_still (by simp) rfl rfl

end Ledger

end Moorage.Walk

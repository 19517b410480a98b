import Squangle.Correctness.StaleRetry
import Squangle.Correctness.ClientRefs

/-!
# `Correctness.Lifecycle` — what every run of the connect operation keeps

Every handler of the attempt loop ends in one of the four ways of `HandlerOutcome`
(`Correctness.Attempts`), and a refused retry is a completion too (`World.outcome_continueWith`).
The world-level results are proved from the outcome alone, by one case split on the event:

* `Lifecycle`, kept by every event (`lifecycle_step`): before `run()` nothing is armed, posted or
  attempted (`idle_until_run`); while the operation runs its per-attempt timer is armed with the
  operation timeout, unless that is zero (`timer_armed_while_running`); until it completes it
  has made fewer attempts than `max 1 connectAttempts` and recorded no completion
  (`attempts_within_limit`).
* `released_of_completing`: from any world, the event that completes the operation cancels both
  timers, unregisters the socket, drops the client's reference and records one completion.
* `completes_at_most_once`: while the event base accepts tasks, a completed operation records no
  second completion, even when a stale attempt or timer runs on it.

After completion a stale attempt may arm timers again (`Correctness.StaleRetry`), so the
invariant says nothing of a completed operation beyond its completions.
-/

namespace Squangle

open ConnectOperationImpl

namespace ConnectOperationImpl

/-! ## Setters -/

theorem progress_operationSetTimeout (t : Duration) (o : ConnectOperationImpl) :
    progress (stateAfter (operationSetTimeout t) o) = progress o := by
  rw [stateAfter_operationSetTimeout]
  split_ifs
  · rw [progress_setTimeoutInternal, progress_cancelTimeout]
  · rfl

/-- No setter counts an attempt or records a completion. -/
theorem counts_exec (c : SetterCall) (o : ConnectOperationImpl) :
    (c.exec o).attemptsMade = o.attemptsMade ∧ completions (c.exec o).trace = completions o.trace :=
  keeps_apply (P := fun o' => o'.attemptsMade = o.attemptsMade ∧
      completions o'.trace = completions o.trace)
    (fun _ _ h => h) (fun _ _ h => h) (fun t o' h => by
      have hp := progress_operationSetTimeout t o'
      simp only [progress, Prod.mk.injEq] at hp
      exact ⟨hp.2.1.trans h.1, hp.2.2.2.1.trans h.2⟩) c o ⟨rfl, rfl⟩

/-- `OperationImpl::setTimeout` re-arms the timer of a running operation. -/
theorem armed_operationSetTimeout (t : Duration) (o : ConnectOperationImpl) :
    Running (stateAfter (operationSetTimeout t) o) → Armed (stateAfter (operationSetTimeout t) o) := by
  rw [stateAfter_operationSetTimeout]
  split_ifs with hr
  · exact fun _ => armed_setTimeoutInternal _ t
  · exact fun h' => absurd h' hr

/-- A setter on a running operation re-arms the per-attempt timer when it sets the timeout. -/
theorem armed_exec (c : SetterCall) (o : ConnectOperationImpl) (h : Running o → Armed o) :
    Running (c.exec o) → Armed (c.exec o) :=
  keeps_apply (P := fun o' => Running o' → Armed o') (fun _ _ h => h) (fun _ _ h => h)
    (fun t o _ => armed_operationSetTimeout t o) c o h

theorem stateAfter_of_error {α : Type} {m : SetterM α} {o o' : ConnectOperationImpl}
    {e : OperationStateException} (h : m.run o = .error e o') : stateAfter m o = o' := by
  simp only [stateAfter, h]

theorem options_operationSetTimeout (t : Duration) (o : ConnectOperationImpl) :
    (stateAfter (operationSetTimeout t) o).connOptions = o.connOptions :=
  congrArg (fun p => p.2.2.1) (progress_operationSetTimeout t o)

/-- **After `run()`, no setter changes the attempts allowed**: the setter that writes them checks
the state. -/
theorem connectAttempts_exec_of_started (c : SetterCall) (o : ConnectOperationImpl)
    (hs : o.state ≠ .unstarted) :
    (c.exec o).connOptions.connectAttempts = o.connOptions.connectAttempts := by
  have checked (f) : stateAfter (checkedSet f) o = o := stateAfter_of_error (checkedSet_of_started o hs f)
  cases c <;> simp only [SetterCall.exec, SetterCall.apply, setDefaultQueryTimeout,
    setSniServerName, setCertValidationCallback, setConnectAttempts, setDscp, setSSLOptionsProvider,
    setKillOnQueryTimeout, setSSLOptionsProviderBase]
  case setConnectionOptions opts =>
    rw [stateAfter_of_error (run_setConnectionOptions_of_started o hs opts)]
    exact congrArg (·.connectAttempts) (options_operationSetTimeout _ _)
  case setTimeout t => exact congrArg (·.connectAttempts) (options_operationSetTimeout _ _)
  case setTotalTimeout t => exact congrArg (·.connectAttempts) (options_operationSetTimeout _ _)
  case setKillOnQueryTimeout b =>
    rw [stateAfter_of_error (run_bind_of_error _ (checkUnstarted_of_started o hs))]
  case setSSLOptionsProviderBase => rw [stateAfter_checkUnstarted]
  case enableResetConnBeforeClose | enableDelayedResetConn | enableChangeUser | setTcpTimeout => rfl
  all_goals rw [checked]

/-- What `run()` leaves: the operation pending, the per-attempt timer armed, the bookkeeping
otherwise as it was, and `specializedRun()` to come. -/
theorem run_ok {o : ConnectOperationImpl} {r : ConnectOperationImpl × Tail} (h : o.run = .ok r) :
    r.2 = .specializedRun ∧ Armed r.1 ∧
      progress r.1 =
        (.pending, o.attemptsMade, o.connOptions, completions o.trace, retries o.trace) := by
  unfold run at h
  split at h
  · cases h
    dsimp only
    split_ifs with h0
    · exact ⟨rfl, .inl h0, rfl⟩
    · exact ⟨rfl, .inr rfl, by simp [progress, scheduleTimeout, emit, Effect.isComplete]⟩
  · cases h

/-- `completeOperation` leaves the operation completed, whether it completes it or finds it
completed. -/
theorem state_completeOperation_eq (o : ConnectOperationImpl) (r : OperationResult) :
    (o.completeOperation r).state = .completed := by
  unfold completeOperation
  split_ifs with h
  · exact h
  · exact state_completeOperationInner o r

end ConnectOperationImpl

/-! ## What every run keeps -/

/-- What every run from a fresh operation keeps: before `run()` the operation is idle, has
nothing posted and has made no attempt; while it runs its per-attempt timer is armed; until it
completes it has made fewer attempts than `max 1 connectAttempts` and recorded no completion. -/
structure Lifecycle (w : World) : Prop where
  idle : w.op.state = .unstarted → Idle w.op ∧ w.loop.queue = [] ∧ w.op.attemptsMade = 0
  armed : Running w.op → Armed w.op
  attempts : w.op.state ≠ .completed →
    w.op.attemptsMade < max 1 w.op.connOptions.connectAttempts.toNat ∧ completions w.op.trace = 0

namespace Lifecycle

variable {w : World}

theorem of_completed (hs : w.op.state = .completed) : Lifecycle w where
  idle h := absurd (hs.symm.trans h) (by decide)
  armed h := by rcases h with h | h <;> simp [hs] at h
  attempts h := absurd hs h

/-- Once the operation has run, `Lifecycle` reads the operation alone. -/
theorem of_started (hs : w.op.state ≠ .unstarted) (armed : Running w.op → Armed w.op)
    (attempts : w.op.state ≠ .completed →
      w.op.attemptsMade < max 1 w.op.connOptions.connectAttempts.toNat ∧
        completions w.op.trace = 0) : Lifecycle w :=
  ⟨fun h => absurd h hs, armed, attempts⟩

/-- A handler's outcome on a started operation keeps `Lifecycle`. -/
theorem of_outcome {w' : World} (inv : Lifecycle w) (hs : w.op.state ≠ .unstarted) {p : Prop}
    {t : Tail} (hout : HandlerOutcome p w.op w'.op t) : Lifecycle w' := by
  cases hout with
  | wait _ s a op tm tt c =>
    refine .of_started (s ▸ hs) (fun hr => ?_) (fun hd => ?_)
    · have harm := inv.armed (by unfold Running at hr ⊢; rwa [s] at hr)
      unfold Armed at harm ⊢
      rwa [tm, tt]
    · rw [a, op, c]
      exact inv.attempts (s ▸ hd)
  | retry s _ op lt ar c =>
    refine .of_started (s ▸ hs) (fun _ => ar) fun hd => ⟨?_, c.trans (inv.attempts (s ▸ hd)).2⟩
    rw [op]
    exact lt_max_of_lt_right lt
  | complete _ s | stale _ s => exact .of_completed s

/-- A handler run on a started operation, with its tail carried out, keeps `Lifecycle`. -/
theorem continueWith (inv : Lifecycle w) (hs : w.op.state ≠ .unstarted) {p : Prop}
    {o' : ConnectOperationImpl} {t : Tail} (hout : HandlerOutcome p w.op o' t) (w₁ : World) :
    Lifecycle (w₁.continueWith (o', t)) := by
  rcases w₁.outcome_continueWith hout with heq | ⟨hdone, -⟩
  · exact inv.of_outcome hs (heq ▸ hout)
  · exact .of_completed hdone

theorem run (inv : Lifecycle w) {r : ConnectOperationImpl × Tail} (hr : w.op.run = .ok r) :
    Lifecycle (w.continueWith r) := by
  obtain ⟨-, harm, hp⟩ := run_ok hr
  have hu := state_of_run_ok hr
  obtain ⟨-, -, ha0⟩ := inv.idle hu
  have hc := (inv.attempts (by rw [hu]; decide)).2
  simp only [progress, Prod.mk.injEq] at hp
  rcases w.op_continueWith r with heq | ⟨-, heq⟩
  · refine .of_started (by rw [heq, hp.1]; decide) (fun _ => heq ▸ harm) fun _ => ?_
    rw [heq, hp.2.1, ha0, hp.2.2.2.1, hc]
    exact ⟨lt_max_of_lt_left Nat.one_pos, rfl⟩
  · exact .of_completed (heq ▸ state_completeOperationInner _ _)

theorem call (inv : Lifecycle w) (c : SetterCall) : Lifecycle { w with op := c.exec w.op } := by
  obtain ⟨ha, hc⟩ := counts_exec c w.op
  have hs := state_exec c w.op
  by_cases hu : w.op.state = .unstarted
  · obtain ⟨hidle, hq, ha0⟩ := inv.idle hu
    have hc0 := (inv.attempts (by rw [hu]; decide)).2
    refine ⟨fun _ => ⟨(keeps_idle c w.op.trace w.op ⟨hidle, rfl⟩).1, hq, ha.trans ha0⟩,
      fun hr => ?_, fun _ => ?_⟩
    · rcases hr with hr | hr <;> simp [hs, hu] at hr
    · show (c.exec w.op).attemptsMade < _ ∧ completions (c.exec w.op).trace = 0
      rw [ha, ha0, hc, hc0]
      exact ⟨lt_max_of_lt_left Nat.one_pos, rfl⟩
  · refine .of_started (hs.trans_ne hu) (armed_exec c w.op inv.armed) fun hd => ?_
    show (c.exec w.op).attemptsMade < max 1 (c.exec w.op).connOptions.connectAttempts.toNat ∧
      completions (c.exec w.op).trace = 0
    rw [ha, hc, connectAttempts_exec_of_started c w.op hu]
    exact inv.attempts (hs ▸ hd)

theorem cancel (inv : Lifecycle w) : Lifecycle w.cancel := by
  unfold World.cancel
  split
  · rename_i hp
    dsimp only
    split
    · exact .of_started (by simp [World.post]) (fun _ => inv.armed (.inl hp))
        fun _ => inv.attempts (by rw [hp]; decide)
    · exact .of_completed (state_completeOperation_eq _ _)
  · exact inv

/-- An operation with a timer armed, a socket registered or a task posted has run. -/
theorem started (inv : Lifecycle w) (h : ¬(Idle w.op ∧ w.loop.queue = [])) :
    w.op.state ≠ .unstarted :=
  fun hu => h ⟨(inv.idle hu).1, (inv.idle hu).2.1⟩

theorem runTask (inv : Lifecycle w) (h : MysqlHandler) : Lifecycle (w.runTask h) := by
  unfold World.runTask
  split
  · exact inv
  · rename_i t q hq
    have hs := inv.started fun ⟨_, h⟩ => by simp [h] at hq
    split
    · exact inv.continueWith hs (handlerOutcome_specializedRunImpl w.op h) _
    · exact .of_completed (state_completeOperation_eq _ _)

end Lifecycle

/-- **One event keeps `Lifecycle`**, whatever the event. -/
theorem lifecycle_step (h : MysqlHandler) (w : World) (e : Event) (inv : Lifecycle w) :
    Lifecycle (step h w e) := by
  have handler {e : Event} (he : e.FiresHandler) : Lifecycle (step h w e) := by
    rcases step_handlerEvent h w he with heq | ⟨_, _, _, hout, heq, hi⟩ <;> rw [heq]
    · exact inv
    · exact inv.continueWith (inv.started fun hq => hi hq.1) hout w
  cases e with
  | run =>
    simp only [step]
    split
    · exact inv.run ‹_›
    · exact inv
  | call c => exact inv.call c
  | cancel => exact inv.cancel
  | socketReady | timeout _ | tcpTimeout _ => exact handler trivial
  | runTask => exact inv.runTask h
  | tick _ | setAccepting _ => exact ⟨inv.idle, inv.armed, inv.attempts⟩

theorem lifecycle_runEvents (h : MysqlHandler) (w : World) (es : List Event) (inv : Lifecycle w) :
    Lifecycle (runEvents h w es) := by
  induction es generalizing w with
  | nil => exact inv
  | cons e es ih => exact ih _ (lifecycle_step h w e inv)

/-- A freshly constructed operation starts the lifecycle. -/
theorem lifecycle_init (s : Setup) : Lifecycle (World.init (create s)) where
  idle _ := ⟨idle_create s, rfl, rfl⟩
  armed h := by rcases h with h | h <;> simp [World.init, create] at h
  attempts _ := ⟨lt_max_of_lt_left Nat.one_pos, rfl⟩

/-! ## The completing event -/

namespace World

variable (w : World)

theorem completion_continueWith {p : Prop} {o o' : ConnectOperationImpl} {t : Tail}
    (hout : HandlerOutcome p o o' t) (hs : o.state ≠ .completed)
    (hs' : (w.continueWith (o', t)).op.state = .completed) :
    Completion o (w.continueWith (o', t)).op := by
  rcases w.outcome_continueWith hout with heq | ⟨-, hc⟩
  · rw [heq] at hs' ⊢
    exact hout.completion hs hs'
  · exact hc hs

theorem completion_cancel (hs : w.op.state ≠ .completed) (hs' : w.cancel.op.state = .completed) :
    Completion w.op w.cancel.op := by
  unfold cancel at hs' ⊢
  dsimp only at hs' ⊢
  split_ifs at hs' ⊢
  · exact absurd hs' (by simp [post])
  · have c := (handlerOutcome_completeOperation (p := False) { w.op with state := .cancelling }
      { w.op with state := .cancelling } rfl (Nat.le_succ _) rfl rfl rfl _).completion (by simp) hs'
    exact ⟨c.released, c.count, c.attempts, c.options⟩
  · exact absurd hs' hs

theorem completion_runTask (h : MysqlHandler) (hs : w.op.state ≠ .completed)
    (hs' : (w.runTask h).op.state = .completed) : Completion w.op (w.runTask h).op := by
  rcases hq : w.loop.queue with _ | ⟨t, q⟩ <;> simp only [runTask, hq] at hs' ⊢
  · exact absurd hs' hs
  · cases t with
    | specializedRunImpl =>
      exact completion_continueWith _ (handlerOutcome_specializedRunImpl w.op h) hs hs'
    | completeOperation r =>
      exact (handlerOutcome_completeOperation (p := False) w.op w.op rfl (Nat.le_succ _) rfl rfl rfl
        r).completion hs hs'

end World

/-- **The event that completes the operation is a `Completion`**, from any world: whichever event
it is, it leaves neither timer armed, the socket unregistered and the client's reference dropped,
records one completion, counts at most one more attempt and keeps the options. -/
theorem completion_step (h : MysqlHandler) (w : World) (e : Event)
    (hs : w.op.state ≠ .completed) (hs' : (step h w e).op.state = .completed) :
    Completion w.op (step h w e).op := by
  have handler {e : Event} (he : e.FiresHandler) (hs' : (step h w e).op.state = .completed) :
      Completion w.op (step h w e).op := by
    rcases step_handlerEvent h w he with heq | ⟨_, _, _, hout, heq, -⟩ <;> rw [heq] at hs' ⊢
    · exact absurd hs' hs
    · exact w.completion_continueWith hout hs hs'
  cases e with
  | run =>
    rcases hr : w.op.run with _ | r <;> simp only [step, hr] at hs' ⊢
    · exact absurd hs' hs
    · obtain ⟨-, -, hp⟩ := run_ok hr
      simp only [progress, Prod.mk.injEq] at hp
      rcases w.op_continueWith r with heq | ⟨-, heq⟩ <;> rw [heq] at hs' ⊢
      · exact absurd (hp.1.symm.trans hs') (by decide)
      · exact completion_completeOperationInner w.op (hp.2.1 ▸ Nat.le_succ _) hp.2.2.1 hp.2.2.2.1 _
  | call c => exact absurd ((state_exec c w.op).symm.trans hs') hs
  | cancel => exact w.completion_cancel hs hs'
  | socketReady | timeout _ | tcpTimeout _ => exact handler trivial hs'
  | runTask => exact w.completion_runTask h hs hs'
  | tick _ | setAccepting _ => exact absurd hs' hs

/-! ## At most one completion -/

namespace World

variable (w : World)

theorem accepting_continueWith (r : ConnectOperationImpl × Tail) :
    (w.continueWith r).loop.accepting = w.loop.accepting := by
  obtain ⟨o, _ | _⟩ := r
  · rfl
  · simp only [continueWith, specializedRun]
    split <;> rfl

theorem accepting_runTask (h : MysqlHandler) : (w.runTask h).loop.accepting = w.loop.accepting := by
  unfold runTask
  split
  · rfl
  · split
    · exact accepting_continueWith _ _
    · rfl

theorem count_continueWith_of_completed (hacc : w.loop.accepting = true)
    {p : Prop} {o o' : ConnectOperationImpl} {t : Tail} (hout : HandlerOutcome p o o' t)
    (hs : o.state = .completed) : completions (w.continueWith (o', t)).op.trace = completions o.trace := by
  rw [w.op_continueWith_of_accepting hacc]
  exact hout.count_of_completed hs

end World

/-- Only `setAccepting false` stops the base accepting tasks. -/
theorem accepting_step (h : MysqlHandler) (w : World) (e : Event) (hacc : w.loop.accepting = true)
    (he : e ≠ .setAccepting false) : (step h w e).loop.accepting = true := by
  cases e with
  | run =>
    simp only [step]
    split
    · exact (w.accepting_continueWith _).trans hacc
    · exact hacc
  | cancel =>
    simp only [step, World.cancel]
    split_ifs <;> simpa [World.post]
  | socketReady | timeout _ | tcpTimeout _ =>
    simp only [step]
    split
    · exact (w.accepting_continueWith _).trans hacc
    · exact hacc
  | runTask => exact (w.accepting_runTask h).trans hacc
  | call _ | tick _ => exact hacc
  | setAccepting b =>
    cases b
    · exact absurd rfl he
    · rfl

/-- **On a completed operation no event records another completion** while the base accepts
tasks. -/
theorem completions_step_of_completed (h : MysqlHandler) (w : World) (e : Event)
    (hs : w.op.state = .completed) (hacc : w.loop.accepting = true) :
    completions (step h w e).op.trace = completions w.op.trace := by
  have handler {e : Event} (he : e.FiresHandler) :
      completions (step h w e).op.trace = completions w.op.trace := by
    rcases step_handlerEvent h w he with heq | ⟨_, _, _, hout, heq, -⟩ <;> rw [heq]
    exact w.count_continueWith_of_completed hacc hout hs
  cases e with
  | run =>
    simp only [step]
    split
    · exact absurd (state_of_run_ok ‹_›) (by rw [hs]; decide)
    · rfl
  | call c => exact (counts_exec c w.op).2
  | cancel => simp [step, World.cancel, hs]
  | socketReady | timeout _ | tcpTimeout _ => exact handler trivial
  | runTask =>
    simp only [step, World.runTask]
    split
    · rfl
    · split
      · exact World.count_continueWith_of_completed _ (by exact hacc)
          (handlerOutcome_specializedRunImpl w.op h) hs
      · simp [completeOperation, hs]
  | tick _ | setAccepting _ => rfl

theorem once_runEvents (h : MysqlHandler) (w : World) (es : List Event) (inv : Lifecycle w)
    (hacc : w.loop.accepting = true)
    (hone : w.op.state = .completed → completions w.op.trace = 1)
    (hes : .setAccepting false ∉ es) :
    Lifecycle (runEvents h w es) ∧ (runEvents h w es).loop.accepting = true ∧
      ((runEvents h w es).op.state = .completed → completions (runEvents h w es).op.trace = 1) := by
  induction es generalizing w with
  | nil => exact ⟨inv, hacc, hone⟩
  | cons e es ih =>
    have he : e ≠ .setAccepting false := fun he => hes (he ▸ .head _)
    refine ih _ (lifecycle_step h w e inv) (accepting_step h w e hacc he) (fun hs' => ?_)
      fun hm => hes (.tail _ hm)
    by_cases hs : w.op.state = .completed
    · rw [completions_step_of_completed h w e hs hacc, hone hs]
    · rw [(completion_step h w e hs hs').count, (inv.attempts hs).2]

/-! ## Over every run -/

section Runs

variable (h : MysqlHandler) (s : Setup)

/-- **Before `run()`, nothing happens.** In every run from construction, while the operation
has not been run, whatever setters, cancellations, timer and socket events, task runs, clock ticks
and refusals of the base come: no timer is armed, the socket is not registered, no task is
posted and no attempt is made. -/
theorem idle_until_run (es : List Event)
    (hu : (runEvents h (World.init (create s)) es).op.state = .unstarted) :
    Idle (runEvents h (World.init (create s)) es).op ∧
      (runEvents h (World.init (create s)) es).loop.queue = [] ∧
      (runEvents h (World.init (create s)) es).op.attemptsMade = 0 :=
  (lifecycle_runEvents h _ es (lifecycle_init s)).idle hu

theorem idle_until_run_cancelled :
    (runEvents sampleHandler (World.init (create sampleSetup)) [.cancel, .runTask]).op.state =
        .unstarted ∧
      Idle (runEvents sampleHandler (World.init (create sampleSetup)) [.cancel, .runTask]).op ∧
      (runEvents sampleHandler (World.init (create sampleSetup)) [.cancel, .runTask]).loop.queue =
        [] ∧
      (runEvents sampleHandler (World.init (create sampleSetup))
        [.cancel, .runTask]).op.attemptsMade = 0 :=
  ⟨by decide, idle_until_run sampleHandler sampleSetup [.cancel, .runTask] (by decide)⟩

/-- **While the operation runs, its per-attempt timer is armed** with the current operation
timeout, unless that timeout is zero: in every run from construction, whatever events come in
whatever order, and in particular after a setter changed the timeout of the running
operation. -/
theorem timer_armed_while_running (es : List Event)
    (hr : Running (runEvents h (World.init (create s)) es).op) :
    Armed (runEvents h (World.init (create s)) es).op :=
  (lifecycle_runEvents h _ es (lifecycle_init s)).armed hr

theorem timer_armed_while_running_pending :
    Running (runEvents sampleHandler (World.init (create sampleSetup)) [.run]).op ∧
      Armed (runEvents sampleHandler (World.init (create sampleSetup)) [.run]).op :=
  ⟨.inl (by decide), timer_armed_while_running sampleHandler sampleSetup [.run] (.inl (by decide))⟩

/-- **While the base accepts tasks, the operation completes at most once**: in every run from
construction in which the base never refuses a task, one completion is recorded once the
operation has completed, and none before. -/
theorem completes_at_most_once (es : List Event) (hes : .setAccepting false ∉ es) :
    completions (runEvents h (World.init (create s)) es).op.trace =
      if (runEvents h (World.init (create s)) es).op.state = .completed then 1 else 0 := by
  obtain ⟨inv, -, hone⟩ := once_runEvents h (World.init (create s)) es (lifecycle_init s) rfl
    (fun hc => nomatch hc) hes
  split_ifs with hs
  · exact hone hs
  · exact (inv.attempts hs).2

theorem completes_at_most_once_cancelled :
    .setAccepting false ∉ [Event.run, .cancel, .runTask, .runTask] ∧
      completions (runEvents sampleHandler (World.init (create sampleSetup))
        [.run, .cancel, .runTask, .runTask]).op.trace =
      if (runEvents sampleHandler (World.init (create sampleSetup))
        [.run, .cancel, .runTask, .runTask]).op.state = .completed then 1 else 0 :=
  ⟨by simp, completes_at_most_once sampleHandler sampleSetup _ (by simp)⟩

/-- **The event that completes the operation releases what it held.** In every run from
construction, the event that completes the operation, whichever it is (a driver call, a timer, a
posted attempt or cancellation, a retry the base refuses), leaves neither timer armed and the
socket unregistered, with exactly one completion recorded and the client told exactly once that
the connection is gone. -/
theorem released_of_completing (es : List Event) (e : Event)
    (hs : (runEvents h (World.init (create s)) es).op.state ≠ .completed)
    (hs' : (step h (runEvents h (World.init (create s)) es) e).op.state = .completed) :
    Released (step h (runEvents h (World.init (create s)) es) e).op ∧
      completions (step h (runEvents h (World.init (create s)) es) e).op.trace = 1 ∧
      (step h (runEvents h (World.init (create s)) es) e).op.trace.count
        .activeConnectionRemoved = 1 := by
  have c := completion_step h _ e hs hs'
  have hrefs : (step h (runEvents h (World.init (create s)) es) e).refs.2 = 1 := by
    rw [← runEvents_nil h (step h _ e), ← runEvents_cons, ← runEvents_append, refs_runEvents]
    rfl
  refine ⟨c.released, ?_, by simpa [World.refs, clientRefs, c.released.2.2.2] using hrefs⟩
  rw [c.count, ((lifecycle_runEvents h _ es (lifecycle_init s)).attempts hs).2]

theorem released_of_completing_cancelled :
    (runEvents sampleHandler (World.init (create sampleSetup)) [.run, .cancel, .runTask]).op.state ≠
        .completed ∧
      (step sampleHandler (runEvents sampleHandler (World.init (create sampleSetup))
        [.run, .cancel, .runTask]) .runTask).op.state = .completed ∧
      Released (step sampleHandler (runEvents sampleHandler (World.init (create sampleSetup))
        [.run, .cancel, .runTask]) .runTask).op ∧
      completions (step sampleHandler (runEvents sampleHandler (World.init (create sampleSetup))
        [.run, .cancel, .runTask]) .runTask).op.trace = 1 ∧
      (step sampleHandler (runEvents sampleHandler (World.init (create sampleSetup))
        [.run, .cancel, .runTask]) .runTask).op.trace.count .activeConnectionRemoved = 1 :=
  ⟨by decide, by decide,
    released_of_completing sampleHandler sampleSetup [.run, .cancel, .runTask] .runTask (by decide)
      (by decide)⟩

end Runs

end Squangle

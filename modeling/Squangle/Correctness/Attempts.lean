import Squangle.Correctness.Frame

/-!
# `Correctness.Attempts` — how each handler of the attempt loop ends

Every handler of the attempt loop ends in one of four ways (`HandlerOutcome`): the attempt goes
on (`wait`), the attempt failed and another is asked for (`retry`), the operation completes once
with everything it held released (`complete`), or a handler that ran on a completed operation asks
for nothing (`stale`). One lemma per handler establishes it (`handlerOutcome_actionable`,
`handlerOutcome_specializedRunImpl`, ...), and every later module reads what a handler did from
its outcome alone.

* `progress` is the bookkeeping a handler may move: the state, the attempts made, the options,
  and the completions and retries recorded in the trace. `complete` is recorded by
  `completeOperationInner` alone, and `conn().close()` is called by the retry branch of
  `attemptFailed` alone.
* A retry re-arms the per-attempt timer with `std::min(timeout + opElapsed(), totalTimeout)`
  directly after its `close()` (`RetryArms`).
* The parameter of `HandlerOutcome` says when a handler may let the attempt go on: `actionable`
  only while the driver's call is in progress, the per-attempt timeout never, the TCP-handshake
  timeout only once the handshake is done.
-/

namespace Squangle

/-- Whether an effect is the completion of the operation. -/
def Effect.isComplete : Effect → Bool
  | .complete _ => true
  | _ => false

/-- The completions recorded in a trace. -/
def completions (t : List Effect) : Nat := t.countP Effect.isComplete

@[simp] theorem completions_cons (e : Effect) (t : List Effect) :
    completions (e :: t) = completions t + if e.isComplete then 1 else 0 := by
  by_cases h : e.isComplete <;> simp [completions, List.countP_cons, h]

@[simp] theorem completions_append (a b : List Effect) :
    completions (a ++ b) = completions a + completions b :=
  List.countP_append _ _ _

@[simp] theorem completions_map_toList {α : Type} (x : Option α) {call : α → Effect}
    (h : ∀ v, (call v).isComplete = false) : completions (x.map call).toList = 0 := by
  cases x <;> simp [completions, h]

/-- The retries recorded in a trace: `conn().close()` is called only by the retry branch of
`attemptFailed`. -/
def retries (t : List Effect) : Nat := t.count .close

@[simp] theorem retries_cons (e : Effect) (t : List Effect) :
    retries (e :: t) = retries t + if e = .close then 1 else 0 := by
  simp [retries, List.count_cons]

@[simp] theorem retries_append (a b : List Effect) : retries (a ++ b) = retries a + retries b :=
  List.count_append _ _ _

@[simp] theorem retries_map_toList {α : Type} (x : Option α) {call : α → Effect}
    (h : ∀ v, call v ≠ .close) : retries (x.map call).toList = 0 := by
  cases x <;> simp [retries, List.count_cons, h]

namespace ConnectOperationImpl

/-- What the attempt bookkeeping reads: the state, the attempts made, the options, and the
completions and retries recorded. -/
def progress (o : ConnectOperationImpl) : OperationState × Nat × ConnectionOptions × Nat × Nat :=
  (o.state, o.attemptsMade, o.connOptions, completions o.trace, retries o.trace)

/-- What an operation holds while an attempt runs, all of it let go at completion: the
per-attempt timer, the TCP-handshake timer, the socket registration and the client's
reference. -/
def Released (o : ConnectOperationImpl) : Prop :=
  o.timer = none ∧ o.tcpTimer = none ∧ o.waiting = false ∧ o.activeInClient = false

/-- The per-attempt timer is armed with the operation timeout, or that timeout is zero. -/
def Armed (o : ConnectOperationImpl) : Prop := o.timeout.count = 0 ∨ o.timer = some o.timeout

/-- The operation has run and not completed. -/
def Running (o : ConnectOperationImpl) : Prop := o.state = .pending ∨ o.state = .cancelling

/-- What completing the operation does, from `o` to `o'`: everything held is released, one
completion is recorded, at most one more attempt is counted, and the options are kept. -/
structure Completion (o o' : ConnectOperationImpl) : Prop where
  released : Released o'
  count : completions o'.trace = completions o.trace + 1
  attempts : o'.attemptsMade ≤ o.attemptsMade + 1
  options : o'.connOptions = o.connOptions

/-- What a retry leaves in `o'`, under the options `opts`, after `n` earlier retries: the
operation timeout is `std::min(timeout + s, totalTimeout)` at the elapsed time `s`, and unless that
is zero the retry's own `close()`, the first one after those `n`, is directly followed by arming
it. -/
structure RetryArms (opts : ConnectionOptions) (n : Nat) (o' : ConnectOperationImpl) : Prop where
  deadline : o'.timeout = Duration.min (opts.timeout + o'.opElapsed) opts.totalTimeout
  armed : o'.timeout.count ≠ 0 →
    ∃ a b, o'.trace = a ++ .scheduleTimeout o'.timeout o'.opElapsed :: .close :: b ∧ retries b = n

/-- How a handler of the attempt loop ends, from `o` to `o'` with tail `t`; it lets the attempt
go on only when `goesOn` holds. -/
inductive HandlerOutcome (goesOn : Prop) (o o' : ConnectOperationImpl) : Tail → Prop
  /-- The attempt goes on: the bookkeeping and the per-attempt timer and timeout are as they
  were. -/
  | wait (going : goesOn) (state : o'.state = o.state) (attempts : o'.attemptsMade = o.attemptsMade)
      (options : o'.connOptions = o.connOptions) (timer : o'.timer = o.timer)
      (timeout : o'.timeout = o.timeout) (count : completions o'.trace = completions o.trace)
      (noRetry : retries o'.trace = retries o.trace) : HandlerOutcome goesOn o o' .ret
  /-- The attempt failed and another is asked for: one more attempt made, fewer than allowed,
  one retry recorded, and the per-attempt timer re-armed with the retry's deadline. -/
  | retry (state : o'.state = o.state) (attempts : o'.attemptsMade = o.attemptsMade + 1)
      (options : o'.connOptions = o.connOptions)
      (lt : o'.attemptsMade < o.connOptions.connectAttempts.toNat) (armed : Armed o')
      (count : completions o'.trace = completions o.trace)
      (retried : retries o'.trace = retries o.trace + 1) (arms : RetryArms o.connOptions (retries o.trace) o') :
      HandlerOutcome goesOn o o' .specializedRun
  /-- The operation completes here, once. -/
  | complete (uncompleted : o.state ≠ .completed) (state : o'.state = .completed)
      (completion : Completion o o') (noRetry : retries o'.trace = retries o.trace) :
      HandlerOutcome goesOn o o' .ret
  /-- A handler ran on a completed operation and ended without a retry. -/
  | stale (completed : o.state = .completed) (state : o'.state = .completed)
      (count : completions o'.trace = completions o.trace)
      (noRetry : retries o'.trace = retries o.trace) : HandlerOutcome goesOn o o' .ret

theorem Completion.of_progress {X o o' : ConnectOperationImpl} (hp : progress X = progress o)
    (h : Completion X o') : Completion o o' := by
  simp only [progress, Prod.mk.injEq] at hp
  obtain ⟨-, ha, hopt, hc, -⟩ := hp
  exact ⟨h.released, h.count.trans (by rw [hc]), ha ▸ h.attempts, h.options.trans hopt⟩

namespace HandlerOutcome

variable {p : Prop}

/-- The outcome carries over writes before the handler that keep the bookkeeping, the timer and
the timeout. -/
theorem of_progress {X o o' : ConnectOperationImpl} {t : Tail} (hp : progress X = progress o)
    (htm : X.timer = o.timer) (hto : X.timeout = o.timeout)
    (h : HandlerOutcome p X o' t) : HandlerOutcome p o o' t := by
  have hp' := hp
  simp only [progress, Prod.mk.injEq] at hp'
  obtain ⟨hs, ha, hopt, hc, hr⟩ := hp'
  cases h with
  | wait g s a op tm tt c nr =>
    exact .wait g (s.trans hs) (a.trans ha) (op.trans hopt) (tm.trans htm) (tt.trans hto)
      (c.trans hc) (nr.trans hr)
  | retry s a op lt ar c rt arms =>
    exact .retry (s.trans hs) (a.trans (by rw [ha])) (op.trans hopt) (hopt ▸ lt) ar (c.trans hc)
      (rt.trans (by rw [hr])) (hopt ▸ hr ▸ arms)
  | complete u s cp nr => exact .complete (hs ▸ u) s (cp.of_progress hp) (nr.trans hr)
  | stale cp s c nr => exact .stale (hs ▸ cp) s (c.trans hc) (nr.trans hr)

/-- A handler that keeps the bookkeeping, the timer and the timeout lets the attempt go on. -/
theorem of_wait {o o' : ConnectOperationImpl} (g : p) (hp : progress o' = progress o)
    (htm : o'.timer = o.timer) (hto : o'.timeout = o.timeout) : HandlerOutcome p o o' .ret := by
  simp only [progress, Prod.mk.injEq] at hp
  exact .wait g hp.1 hp.2.1 hp.2.2.1 htm hto hp.2.2.2.1 hp.2.2.2.2

/-- A retry: the attempt and the retry counted, the rest of the bookkeeping kept, the timer
re-armed with the retry's deadline, attempts remaining. -/
theorem of_retry {o o' : ConnectOperationImpl}
    (hp : progress o' =
      (o.state, o.attemptsMade + 1, o.connOptions, completions o.trace, retries o.trace + 1))
    (hlt : o.attemptsMade + 1 < o.connOptions.connectAttempts.toNat) (ha : Armed o')
    (harms : RetryArms o.connOptions (retries o.trace) o') :
    HandlerOutcome p o o' .specializedRun := by
  simp only [progress, Prod.mk.injEq] at hp
  exact .retry hp.1 hp.2.1 hp.2.2.1 (hp.2.1 ▸ hlt) ha hp.2.2.2.1 hp.2.2.2.2 harms

/-- A handler that ran on a completed operation records no completion. -/
theorem count_of_completed {o o' : ConnectOperationImpl} {t : Tail} (h : HandlerOutcome p o o' t)
    (hs : o.state = .completed) : completions o'.trace = completions o.trace := by
  cases h with
  | wait _ _ _ _ _ _ c | retry _ _ _ _ _ c | stale _ _ c => exact c
  | complete u => exact absurd hs u

/-- The step that completes an uncompleted operation is a `Completion`. -/
theorem completion {o o' : ConnectOperationImpl} {t : Tail} (h : HandlerOutcome p o o' t)
    (hs : o.state ≠ .completed) (hs' : o'.state = .completed) : Completion o o' := by
  cases h with
  | wait _ s | retry s => exact absurd (s.symm.trans hs') hs
  | complete _ _ cp => exact cp
  | stale cp => exact absurd cp hs

/-- Every outcome keeps the state or completes the operation. -/
theorem keptOrCompleted {o o' : ConnectOperationImpl} {t : Tail} (h : HandlerOutcome p o o' t) :
    KeptOrCompleted o'.state o.state := by
  cases h with
  | wait _ s | retry s => exact .inl s
  | complete _ s | stale _ s => exact .inr s

/-- A handler that returns records no retry. -/
theorem noRetry_of_ret {o o' : ConnectOperationImpl} (h : HandlerOutcome p o o' .ret) :
    retries o'.trace = retries o.trace := by
  cases h with
  | wait _ _ _ _ _ _ _ r | complete _ _ _ r | stale _ _ _ r => exact r

end HandlerOutcome

attribute [local simp] progress emit cancelTcpTimeout unregisterHandler cancelTimeout
  changeHandlerFD waitForActionable snapshotMysqlErrors setAsyncClientError

variable (o : ConnectOperationImpl)

/-! ## The bookkeeping of each write -/

theorem progress_emit (e : Effect) (he : e.isComplete = false) (hc : e ≠ .close) :
    progress (o.emit e) = progress o := by
  simp [he, hc]

/-- `close()` records one retry. -/
theorem progress_emit_close {s : OperationState} {a : Nat} {opts : ConnectionOptions} {c n : Nat}
    (hp : progress o = (s, a, opts, c, n)) : progress (o.emit .close) = (s, a, opts, c, n + 1) := by
  simp only [progress, Prod.mk.injEq] at hp
  simp [hp, Effect.isComplete]

theorem progress_cancelTcpTimeout : progress o.cancelTcpTimeout = progress o := rfl

theorem progress_unregisterHandler : progress o.unregisterHandler = progress o := rfl

theorem progress_cancelTimeout : progress o.cancelTimeout = progress o := rfl

theorem progress_logConnectCompleted (r : OperationResult) :
    progress (o.logConnectCompleted r) = progress o := by
  unfold logConnectCompleted
  split_ifs <;> rfl

theorem progress_setTimeoutInternal (d : Duration) :
    progress (o.setTimeoutInternal d) = progress o := by
  unfold setTimeoutInternal
  split_ifs <;> rfl

theorem progress_removeClientReference : progress o.removeClientReference = progress o := by
  unfold removeClientReference
  split <;> rfl

theorem progress_specializedCompleteOperation :
    progress o.specializedCompleteOperation = progress o := by
  simp only [specializedCompleteOperation, progress_removeClientReference]
  simp [apply_ite state, apply_ite attemptsMade, apply_ite connOptions, apply_ite trace,
    apply_ite completions, apply_ite retries, maybeStoreSSLSession, logConnectCompleted,
    emitOpt_eq, Effect.isComplete]

theorem progress_completeOperationInner (r : OperationResult) :
    progress (o.completeOperationInner r) =
      (.completed, o.attemptsMade, o.connOptions, completions o.trace + 1, retries o.trace) := by
  rw [completeOperationInner, progress_specializedCompleteOperation]
  simp [Effect.isComplete]

theorem completeOperation_of_ne {o : ConnectOperationImpl} (hs : o.state ≠ .completed)
    (r : OperationResult) : o.completeOperation r = o.completeOperationInner r := by
  simp [completeOperation, hs]

theorem released_completeOperationInner (r : OperationResult) :
    Released (o.completeOperationInner r) := by
  simp [Released, completeOperationInner, specializedCompleteOperation, apply_ite timer,
    apply_ite tcpTimer, apply_ite waiting, apply_ite activeInClient, maybeStoreSSLSession,
    logConnectCompleted, removeClientReference, emitOpt_eq]

theorem armed_setTimeoutInternal (d : Duration) : Armed (o.setTimeoutInternal d) := by
  unfold setTimeoutInternal Armed
  split_ifs with h
  · exact .inl h
  · exact .inr rfl

/-- **The retry's arming**: after `close()`, `setTimeoutInternal` with
`std::min(timeout + opElapsed(), totalTimeout)` leaves that deadline and arms it right after the
`close()`, unless it is zero. -/
theorem retryArms_close {opts : ConnectionOptions} {n : Nat} (hopt : o.connOptions = opts)
    (hn : retries o.trace = n) :
    RetryArms opts n ((o.emit .close).setTimeoutInternal
      (Duration.min ((o.emit .close).connOptions.timeout + (o.emit .close).opElapsed)
        (o.emit .close).connOptions.totalTimeout)) := by
  subst hopt hn
  unfold setTimeoutInternal
  split_ifs with h
  · exact ⟨rfl, fun h' => absurd h h'⟩
  · exact ⟨rfl, fun _ => ⟨[], o.trace, rfl, rfl⟩⟩

/-! ## Each handler's outcome -/

/-- `completeOperationInner` after writes that count at most one more attempt and keep the
options and the completions. -/
theorem completion_completeOperationInner {X : ConnectOperationImpl}
    (ha : X.attemptsMade ≤ o.attemptsMade + 1) (hopt : X.connOptions = o.connOptions)
    (hc : completions X.trace = completions o.trace) (r : OperationResult) :
    Completion o (X.completeOperationInner r) := by
  have h := progress_completeOperationInner X r
  simp only [progress, Prod.mk.injEq] at h
  exact ⟨released_completeOperationInner X r, h.2.2.2.1.trans (by rw [hc]), h.2.1 ▸ ha,
    h.2.2.1.trans hopt⟩

/-- `completeOperation` after writes that count at most one more attempt and keep the options,
the completions and the retries: it completes an uncompleted operation, and does nothing on a
completed one. -/
theorem handlerOutcome_completeOperation {p : Prop} (X : ConnectOperationImpl)
    (hs : X.state = o.state) (ha : X.attemptsMade ≤ o.attemptsMade + 1)
    (hopt : X.connOptions = o.connOptions) (hc : completions X.trace = completions o.trace)
    (hr : retries X.trace = retries o.trace) (r : OperationResult) :
    HandlerOutcome p o (X.completeOperation r) .ret := by
  by_cases hX : X.state = .completed
  · rw [completeOperation, if_pos hX]
    exact .stale (hs ▸ hX) hX hc hr
  · have h := progress_completeOperationInner X r
    simp only [progress, Prod.mk.injEq] at h
    rw [completeOperation_of_ne hX]
    exact .complete (hs ▸ hX) h.1 (completion_completeOperationInner o ha hopt hc r)
      (h.2.2.2.2.trans hr)

/-- The retry branch of `attemptFailed`, from the operation `Z` it has when it calls `close()`:
one attempt counted and attempts remaining, then `close()` and the retry's deadline. -/
theorem handlerOutcome_retry {p : Prop} {Z : ConnectOperationImpl}
    (hp : progress Z =
      (o.state, o.attemptsMade + 1, o.connOptions, completions o.trace, retries o.trace))
    (hlt : o.attemptsMade + 1 < o.connOptions.connectAttempts.toNat) :
    HandlerOutcome p o ((Z.emit .close).setTimeoutInternal
      (Duration.min ((Z.emit .close).connOptions.timeout + (Z.emit .close).opElapsed)
        (Z.emit .close).connOptions.totalTimeout)) .specializedRun := by
  have h := hp
  simp only [progress, Prod.mk.injEq] at h
  refine .of_retry ?_ hlt (armed_setTimeoutInternal _ _) (retryArms_close Z h.2.2.1 h.2.2.2.2)
  rw [progress_setTimeoutInternal, progress_emit_close Z hp]

/-- `attemptFailed`, after writes that keep the bookkeeping, ends the attempt: it never lets it
go on, whatever the timer. -/
theorem handlerOutcome_attemptFailed_of {p : Prop} {X : ConnectOperationImpl}
    (hp : progress X = progress o) (r : OperationResult) :
    HandlerOutcome p o (X.attemptFailed r).1 (X.attemptFailed r).2 := by
  simp only [progress, Prod.mk.injEq] at hp
  obtain ⟨hs, ha, hopt, hc, hr⟩ := hp
  unfold attemptFailed
  dsimp only
  split
  · exact handlerOutcome_completeOperation o { X with attemptsMade := X.attemptsMade + 1 } hs
      (by simp [ha]) hopt hc hr r
  · rename_i hcond
    simp only [shouldCompleteOperation, Bool.or_eq_true, decide_eq_true_eq, not_or] at hcond
    refine handlerOutcome_retry o ?_ (by rw [← ha, ← hopt]; omega)
    rw [progress_cancelTimeout, progress_unregisterHandler, progress_cancelTcpTimeout,
      progress_logConnectCompleted]
    simp [hs, ha, hopt, hc, hr]

/-- `attemptSucceeded` after writes that keep the bookkeeping completes the operation, or does
nothing on a completed one. -/
theorem handlerOutcome_attemptSucceeded_of {p : Prop} {X : ConnectOperationImpl}
    (hp : progress X = progress o) (r : OperationResult) :
    HandlerOutcome p o (X.attemptSucceeded r).1 (X.attemptSucceeded r).2 := by
  simp only [progress, Prod.mk.injEq] at hp
  obtain ⟨hs, ha, hopt, hc, hr⟩ := hp
  exact handlerOutcome_completeOperation o { X with attemptsMade := X.attemptsMade + 1 } hs
    (by simp [ha]) hopt hc hr r

/-- **Every driver call ends in one of the four outcomes**, and lets the attempt go on only while
the call is in progress. -/
theorem handlerOutcome_actionable (h : MysqlHandler) :
    HandlerOutcome ((h.tryConnect o.tries).status = .pending) o (o.actionable h).1
      (o.actionable h).2 := by
  unfold actionable
  dsimp only
  split
  · exact handlerOutcome_attemptFailed_of o (by simp [Effect.isComplete]) _
  · split_ifs
    iterate 2 exact handlerOutcome_attemptFailed_of o (by simp [Effect.isComplete]) _
    iterate 2 exact handlerOutcome_attemptSucceeded_of o (by simp [Effect.isComplete]) _
    all_goals
      refine .of_wait ?_ (by simp [Effect.isComplete]) (by simp) (by simp)
      cases hst : (h.tryConnect o.tries).status <;> simp_all

/-- What `specializedRunImpl` does before `actionable`: it keeps the bookkeeping, the count of
driver calls and the per-attempt timer and timeout, and only adds calls. -/
theorem specializedRunImpl_setup (h : MysqlHandler) :
    ∃ X : ConnectOperationImpl, o.specializedRunImpl h = X.actionable h ∧
      progress X = progress o ∧ X.tries = o.tries ∧ X.timer = o.timer ∧ X.timeout = o.timeout := by
  refine ⟨_, rfl, ?_⟩
  simp [apply_ite state, apply_ite attemptsMade, apply_ite connOptions, apply_ite trace,
    apply_ite completions, apply_ite retries, apply_ite tries, apply_ite timer, apply_ite timeout,
    removeClientReference, emitOpt_eq, Effect.isComplete]

/-- **A posted attempt ends in one of the four outcomes**, and lets the attempt go on only while
its driver call is in progress. -/
theorem handlerOutcome_specializedRunImpl (h : MysqlHandler) :
    HandlerOutcome ((h.tryConnect o.tries).status = .pending) o (o.specializedRunImpl h).1
      (o.specializedRunImpl h).2 := by
  obtain ⟨X, heq, hp, htries, htm, hto⟩ := specializedRunImpl_setup o h
  rw [heq, ← htries]
  exact .of_progress hp htm hto (handlerOutcome_actionable X h)

/-- The timeout handlers fail the attempt: they never let it go on. -/
theorem handlerOutcome_timeoutHandler_of {p : Prop} {X : ConnectOperationImpl}
    (hp : progress X = progress o) (isTcpTimeout isPoolConnection : Bool) (r : LoopReport) :
    HandlerOutcome p o (X.timeoutHandler isTcpTimeout isPoolConnection r).1
      (X.timeoutHandler isTcpTimeout isPoolConnection r).2 := by
  unfold timeoutHandler
  exact handlerOutcome_attemptFailed_of o (by rw [← hp]; rfl) _

/-- The TCP-handshake timeout lets the attempt go on only once the handshake is done. -/
theorem handlerOutcome_tcpConnectTimeoutTriggered_of {X : ConnectOperationImpl}
    (hp : progress X = progress o) (htm : X.timer = o.timer) (hto : X.timeout = o.timeout)
    (r : LoopReport) :
    HandlerOutcome (r.tcpHandshakeDone = true) o (X.tcpConnectTimeoutTriggered r).1
      (X.tcpConnectTimeoutTriggered r).2 := by
  unfold tcpConnectTimeoutTriggered
  split
  · exact handlerOutcome_timeoutHandler_of o hp _ _ r
  · rename_i hd
    exact .of_wait (by simpa using hd) hp htm hto

/-! ## One driver call per attempt -/

theorem tries_completeOperationInner (r : OperationResult) :
    (o.completeOperationInner r).tries = o.tries := by
  simp [completeOperationInner, specializedCompleteOperation, apply_ite tries, maybeStoreSSLSession,
    logConnectCompleted, removeClientReference, emitOpt_eq]

theorem tries_completeOperation (r : OperationResult) : (o.completeOperation r).tries = o.tries := by
  unfold completeOperation
  split
  · rfl
  · exact tries_completeOperationInner o r

theorem tries_attemptFailed (r : OperationResult) : (o.attemptFailed r).1.tries = o.tries := by
  unfold attemptFailed
  dsimp only
  split
  · exact tries_completeOperation _ r
  · simp [setTimeoutInternal, scheduleTimeout, apply_ite tries, logConnectCompleted]

theorem tries_actionable (h : MysqlHandler) : (o.actionable h).1.tries = o.tries + 1 := by
  unfold actionable attemptSucceeded
  dsimp only
  split
  · exact tries_attemptFailed _ _
  · split_ifs
    · exact tries_attemptFailed _ _
    · exact tries_attemptFailed _ _
    · exact tries_completeOperation _ _
    · exact tries_completeOperation _ _
    · rfl
    · rfl

theorem tries_specializedRunImpl (h : MysqlHandler) :
    (o.specializedRunImpl h).1.tries = o.tries + 1 := by
  obtain ⟨X, heq, -, ht, -⟩ := specializedRunImpl_setup o h
  rw [heq, tries_actionable, ht]

end ConnectOperationImpl

end Squangle

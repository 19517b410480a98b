import Squangle.MysqlClient.SyncClient

/-!
# `Correctness.Frame` — what the attempt loop leaves alone

No handler of the attempt loop writes `conn_options_`; the client's active-connection
bookkeeping changes only in `removeClientReference`, which trades the reference still held for
one `activeConnectionRemoved` call; and the per-attempt timeout is armed only by `run()` and by
the retry branch of `attemptFailed`, with `std::min(timeout + opElapsed(), totalTimeout)`.
`frame` packs the three facts into one value, and every handler leaves it unchanged
(`frame_actionable`, `frame_specializedRunImpl`, ...).

The lemmas are stated over projections (`frame (f o).connOptions (f o).activeInClient
(f o).trace`), so a caller's proof rewrites the callee's frame away without unfolding it, and a
plain field update in between reduces by projection.
-/

namespace Squangle

namespace ConnectOperationImpl

/-- An arming `scheduleTimeout d s` (deadline `d` from the start, armed at elapsed `s`) is the
first attempt's, `t₀` at the start, or a retry's, `std::min(timeout + s, totalTimeout)` of
`opts`. Every other call satisfies it. -/
def DeadlineOk (t₀ : Duration) (opts : ConnectionOptions) (e : Effect) : Prop :=
  ∀ d s, e = .scheduleTimeout d s →
    (d = t₀ ∧ s = 0) ∨ d = Duration.min (opts.timeout + s) opts.totalTimeout

/-- The client's bookkeeping for this operation: the `activeConnectionAdded` calls, and the
`activeConnectionRemoved` calls plus the reference still held. -/
def clientRefs (active : Bool) (trace : List Effect) : Nat × Nat :=
  (trace.count .activeConnectionAdded,
    trace.count .activeConnectionRemoved + if active then 1 else 0)

/-- What no handler changes: the options, the client's bookkeeping, and that every arming in
the trace is a first attempt's (`t₀`) or a retry's. -/
def frame (t₀ : Duration) (opts : ConnectionOptions) (active : Bool) (trace : List Effect) :
    ConnectionOptions × (Nat × Nat) × Prop :=
  (opts, clientRefs active trace, ∀ e ∈ trace, DeadlineOk t₀ opts e)

section Cons

variable {t₀ : Duration} {opts : ConnectionOptions} {a : Bool} {t : List Effect} {e : Effect}

theorem clientRefs_cons (h1 : e ≠ .activeConnectionAdded) (h2 : e ≠ .activeConnectionRemoved) :
    clientRefs a (e :: t) = clientRefs a t := by
  simp [clientRefs, List.count_cons, h1, h2]

/-- One more call that is neither a client-reference call nor a stray arming. -/
@[simp] theorem frame_cons (h1 : e ≠ .activeConnectionAdded) (h2 : e ≠ .activeConnectionRemoved)
    (h3 : DeadlineOk t₀ opts e) : frame t₀ opts a (e :: t) = frame t₀ opts a t := by
  simp [frame, clientRefs_cons h1 h2, h3]

end Cons

theorem frame_ite (t₀ : Duration) (c : Prop) [Decidable c] (A B : ConnectOperationImpl) :
    frame t₀ (if c then A else B).connOptions (if c then A else B).activeInClient
      (if c then A else B).trace =
      if c then frame t₀ A.connOptions A.activeInClient A.trace
      else frame t₀ B.connOptions B.activeInClient B.trace := by
  split <;> rfl

attribute [local simp] DeadlineOk emit cancelTcpTimeout unregisterHandler cancelTimeout
  changeHandlerFD waitForActionable snapshotMysqlErrors setAsyncClientError

variable (t₀ : Duration) (o : ConnectOperationImpl)

theorem frame_emitOpt {α : Type} (x : Option α) (call : α → Effect)
    (h1 : ∀ v, call v ≠ .activeConnectionAdded) (h2 : ∀ v, call v ≠ .activeConnectionRemoved)
    (h3 : ∀ v, DeadlineOk t₀ o.connOptions (call v)) :
    frame t₀ (o.emitOpt x call).connOptions (o.emitOpt x call).activeInClient
      (o.emitOpt x call).trace = frame t₀ o.connOptions o.activeInClient o.trace := by
  cases x <;> simp only [emitOpt, emit, frame_cons (h1 _) (h2 _) (h3 _)]

/-- `removeClientReference` trades the reference held for one removal. -/
theorem frame_removeClientReference :
    frame t₀ o.removeClientReference.connOptions o.removeClientReference.activeInClient
      o.removeClientReference.trace = frame t₀ o.connOptions o.activeInClient o.trace := by
  unfold removeClientReference
  split <;> simp_all [frame, clientRefs]

theorem frame_specializedCompleteOperation :
    frame t₀ o.specializedCompleteOperation.connOptions o.specializedCompleteOperation.activeInClient
      o.specializedCompleteOperation.trace = frame t₀ o.connOptions o.activeInClient o.trace := by
  simp [specializedCompleteOperation, frame_removeClientReference, frame_ite, maybeStoreSSLSession,
    logConnectCompleted, frame_emitOpt]

theorem frame_completeOperationInner (r : OperationResult) :
    frame t₀ (o.completeOperationInner r).connOptions (o.completeOperationInner r).activeInClient
      (o.completeOperationInner r).trace = frame t₀ o.connOptions o.activeInClient o.trace := by
  simp [completeOperationInner, frame_specializedCompleteOperation]

theorem frame_completeOperation (r : OperationResult) :
    frame t₀ (o.completeOperation r).connOptions (o.completeOperation r).activeInClient
      (o.completeOperation r).trace = frame t₀ o.connOptions o.activeInClient o.trace := by
  simp [completeOperation, frame_ite, frame_completeOperationInner]

/-- The retry's arming is a retry's deadline. -/
theorem frame_setTimeoutInternal_retry :
    let d := Duration.min (o.connOptions.timeout + o.opElapsed) o.connOptions.totalTimeout
    frame t₀ (o.setTimeoutInternal d).connOptions (o.setTimeoutInternal d).activeInClient
      (o.setTimeoutInternal d).trace = frame t₀ o.connOptions o.activeInClient o.trace := by
  simp [setTimeoutInternal, scheduleTimeout, frame_ite, opElapsed]

theorem frame_attemptFailed (r : OperationResult) :
    frame t₀ (o.attemptFailed r).1.connOptions (o.attemptFailed r).1.activeInClient
      (o.attemptFailed r).1.trace = frame t₀ o.connOptions o.activeInClient o.trace := by
  simp [attemptFailed, apply_ite Prod.fst, frame_ite, frame_completeOperation, logConnectCompleted,
    frame_setTimeoutInternal_retry]

theorem frame_attemptSucceeded (r : OperationResult) :
    frame t₀ (o.attemptSucceeded r).1.connOptions (o.attemptSucceeded r).1.activeInClient
      (o.attemptSucceeded r).1.trace = frame t₀ o.connOptions o.activeInClient o.trace :=
  frame_completeOperation t₀ _ r

theorem frame_actionable (h : MysqlHandler) :
    frame t₀ (o.actionable h).1.connOptions (o.actionable h).1.activeInClient
      (o.actionable h).1.trace = frame t₀ o.connOptions o.activeInClient o.trace := by
  unfold actionable
  dsimp only
  split <;> simp [frame_attemptFailed, frame_attemptSucceeded, apply_ite Prod.fst, frame_ite]

theorem frame_specializedRunImpl (h : MysqlHandler) :
    frame t₀ (o.specializedRunImpl h).1.connOptions (o.specializedRunImpl h).1.activeInClient
      (o.specializedRunImpl h).1.trace = frame t₀ o.connOptions o.activeInClient o.trace := by
  simp [specializedRunImpl, frame_actionable, frame_ite, frame_emitOpt, frame_removeClientReference]

theorem frame_timeoutHandler (isTcpTimeout isPoolConnection : Bool) (r : LoopReport) :
    frame t₀ (o.timeoutHandler isTcpTimeout isPoolConnection r).1.connOptions
      (o.timeoutHandler isTcpTimeout isPoolConnection r).1.activeInClient
      (o.timeoutHandler isTcpTimeout isPoolConnection r).1.trace =
      frame t₀ o.connOptions o.activeInClient o.trace := by
  simp [timeoutHandler, frame_attemptFailed]

theorem frame_tcpConnectTimeoutTriggered (r : LoopReport) :
    frame t₀ (o.tcpConnectTimeoutTriggered r).1.connOptions
      (o.tcpConnectTimeoutTriggered r).1.activeInClient (o.tcpConnectTimeoutTriggered r).1.trace =
      frame t₀ o.connOptions o.activeInClient o.trace := by
  simp [tcpConnectTimeoutTriggered, apply_ite Prod.fst, frame_ite, frame_timeoutHandler]

/-! ## The operation state only moves to `Completed`

`completeOperationInner` is the one handler that writes `state`; every handler therefore leaves
the state as it was or completes the operation. -/

/-- The state `s'` after a call is the state `s` before it, or `Completed`. The state after comes
first, so that a caller's goal fixes the callee's argument. -/
def KeptOrCompleted (s' s : OperationState) : Prop := s' = s ∨ s' = .completed

theorem KeptOrCompleted.trans {s s' s'' : OperationState} (h : KeptOrCompleted s'' s')
    (h' : KeptOrCompleted s' s) : KeptOrCompleted s'' s := by
  rcases h with rfl | rfl
  · exact h'
  · exact .inr rfl

theorem state_specializedCompleteOperation : o.specializedCompleteOperation.state = o.state := by
  simp [specializedCompleteOperation, apply_ite state, maybeStoreSSLSession, logConnectCompleted,
    removeClientReference, emitOpt_eq]

theorem state_completeOperationInner (r : OperationResult) :
    (o.completeOperationInner r).state = .completed := by
  simp [completeOperationInner, state_specializedCompleteOperation]

end ConnectOperationImpl

end Squangle

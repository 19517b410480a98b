import Squangle.Correctness.Deadlines

/-!
# `Correctness.ErrorReport` — the error a failed operation reports

Each way an attempt fails records its error just before `attemptFailed`: `actionable` snapshots
the driver's error or records `SQ_INITIALIZATION_FAILED` for an invalid descriptor, and
`timeoutHandler` records `CR_SERVER_LOST` with the timeout report. Nothing after that writes the
error: not `attemptFailed`, not `completeOperation`, and not the failed completion of a retry
the event base refused. So the step that completes an operation `Failed` or `TimedOut` reports
the failure of the attempt that ended it (`error_step`), whatever earlier attempts recorded.
-/

namespace Squangle

open ConnectOperationImpl

/-- Whether a driver call fails the attempt in `actionable`: an error, or a call that did not
fail but left an invalid descriptor. -/
def Outcome.Failed (out : Outcome) : Prop := out.status = .error ∨ out.socketDescriptor ≤ 0

/-- The error `actionable` records for a failed call: the driver's snapshot for `ERROR`, and
`SQ_INITIALIZATION_FAILED` for an invalid descriptor. -/
def Outcome.failure (out : Outcome) : MysqlError :=
  if out.status = .error then ⟨.mysql out.errno, .text out.errorMessage⟩
  else ⟨.squangle .sqInitializationFailed, .text invalidDescriptorMessage⟩

namespace ConnectOperationImpl

attribute [local simp] emit cancelTcpTimeout unregisterHandler cancelTimeout changeHandlerFD
  waitForActionable snapshotMysqlErrors setAsyncClientError

variable (o : ConnectOperationImpl)

theorem error_specializedCompleteOperation :
    o.specializedCompleteOperation.error = o.error ∧
      o.specializedCompleteOperation.result = o.result := by
  simp [specializedCompleteOperation, apply_ite error, apply_ite result, maybeStoreSSLSession,
    logConnectCompleted, removeClientReference, emitOpt_eq]

theorem error_completeOperation (r : OperationResult) : (o.completeOperation r).error = o.error := by
  unfold completeOperation completeOperationInner
  split
  · rfl
  · exact (error_specializedCompleteOperation _).1

theorem result_completeOperation {o : ConnectOperationImpl} (hs : o.state ≠ .completed)
    (r : OperationResult) : (o.completeOperation r).result = r := by
  rw [completeOperation_of_ne hs, completeOperationInner]
  exact (error_specializedCompleteOperation _).2

/-- `attemptFailed` reports the error recorded before it. -/
theorem error_attemptFailed (r : OperationResult) : (o.attemptFailed r).1.error = o.error := by
  unfold attemptFailed
  dsimp only
  split
  · exact error_completeOperation _ r
  · simp [setTimeoutInternal, scheduleTimeout, apply_ite error, logConnectCompleted]

theorem error_actionable_of_failed (h : MysqlHandler) (hf : (h.tryConnect o.tries).Failed) :
    (o.actionable h).1.error = (h.tryConnect o.tries).failure := by
  unfold actionable
  dsimp only
  split
  · rename_i herr
    rw [error_attemptFailed]
    simp [Outcome.failure, herr]
  · rename_i hne
    rw [if_pos (hf.resolve_left hne), error_attemptFailed, Outcome.failure, if_neg hne]
    rfl

/-- A call that does not fail the attempt returns, and completes the operation only with
success. -/
theorem actionable_of_not_failed (h : MysqlHandler) (hs : o.state ≠ .completed)
    (hf : ¬ (h.tryConnect o.tries).Failed) :
    (o.actionable h).2 = .ret ∧
      ((o.actionable h).1.state = .completed → (o.actionable h).1.result = .succeeded) := by
  simp only [Outcome.Failed, not_or, not_le] at hf
  unfold actionable
  dsimp only
  split
  · exact absurd ‹_› hf.1
  · rw [if_neg (not_le.mpr hf.2)]
    split
    · refine ⟨rfl, fun _ => result_completeOperation ?_ _⟩
      simpa [apply_ite state] using hs
    · exact ⟨rfl, fun hc => absurd (by simpa [apply_ite state] using hc) hs⟩

theorem error_timeoutHandler (isTcpTimeout isPoolConnection : Bool) (r : LoopReport) :
    (o.timeoutHandler isTcpTimeout isPoolConnection r).1.error =
      ⟨crServerLost, .connectTimeout (o.timeoutReport isTcpTimeout isPoolConnection r)⟩ :=
  error_attemptFailed _ _

end ConnectOperationImpl

namespace World

/-- What the loop can have posted: attempts, and the completion `cancel()` posts. -/
def QueueOk (w : World) : Prop :=
  ∀ t ∈ w.loop.queue, t = .specializedRunImpl ∨ t = .completeOperation .cancelled

/-- The failure an event's attempt records: the driver call's for a ready socket or a posted
attempt, `CR_SERVER_LOST` with the timeout report for a timer. -/
def attemptFailure (h : MysqlHandler) (w : World) : Event → MysqlError
  | .timeout r => ⟨crServerLost, .connectTimeout (w.op.timeoutReport false false r)⟩
  | .tcpTimeout r => ⟨crServerLost, .connectTimeout (w.op.timeoutReport true false r)⟩
  | _ => (h.tryConnect w.op.tries).failure

variable (w : World)

theorem error_continueWith (r : ConnectOperationImpl × Tail) :
    (w.continueWith r).op.error = r.1.error := by
  obtain ⟨o, _ | _⟩ := r
  · rfl
  · simp only [continueWith, specializedRun]
    split
    · rfl
    · exact (error_specializedCompleteOperation _).1

theorem continueWith_of_ret {r : ConnectOperationImpl × Tail} (hr : r.2 = .ret) :
    (w.continueWith r).op = r.1 := by
  obtain ⟨o, t⟩ := r
  cases hr
  rfl

theorem queueOk_of_append {w' : World} (hq : w.QueueOk) {ts : List Task}
    (hw : w'.loop.queue = w.loop.queue ++ ts)
    (hts : ∀ t ∈ ts, t = .specializedRunImpl ∨ t = .completeOperation .cancelled) : w'.QueueOk := by
  intro t ht
  rw [hw, List.mem_append] at ht
  exact ht.elim (hq t) (hts t)

theorem queue_continueWith (r : ConnectOperationImpl × Tail) :
    ∃ ts : List Task, (w.continueWith r).loop.queue = w.loop.queue ++ ts ∧
      ∀ t ∈ ts, t = .specializedRunImpl := by
  obtain ⟨o, _ | _⟩ := r
  · exact ⟨[], by simp [continueWith], by simp⟩
  · simp only [continueWith, specializedRun]
    split
    · exact ⟨[.specializedRunImpl], rfl, by simp⟩
    · exact ⟨[], by simp, by simp⟩

theorem queueOk_continueWith (hq : w.QueueOk) (r : ConnectOperationImpl × Tail) :
    (w.continueWith r).QueueOk := by
  obtain ⟨ts, hw, hts⟩ := w.queue_continueWith r
  exact queueOk_of_append w hq hw fun t ht => .inl (hts t ht)

end World

/-- **Every event keeps the posted tasks to attempts and the cancellation.** -/
theorem queueOk_step (h : MysqlHandler) (w : World) (e : Event) (hq : w.QueueOk) :
    (step h w e).QueueOk := by
  cases e with
  | run =>
    simp only [step]
    split
    · exact w.queueOk_continueWith hq _
    · exact hq
  | cancel =>
    simp only [step, World.cancel]
    split
    · split
      · exact World.queueOk_of_append _ hq rfl (by simp)
      · exact hq
    · exact hq
  | socketReady | timeout _ | tcpTimeout _ =>
    simp only [step]
    split
    · exact w.queueOk_continueWith hq _
    · exact hq
  | runTask =>
    simp only [step, World.runTask]
    split
    · exact hq
    · rename_i t q hwq
      have hq' : World.QueueOk ⟨w.op, { w.loop with queue := q }⟩ := fun t' ht' =>
        hq t' (by rw [hwq]; exact .tail _ ht')
      split
      · exact World.queueOk_continueWith _ hq' _
      · exact hq'
  | call _ | tick _ | setAccepting _ => exact hq

/-! ## The completing step -/

/-- Ending an attempt through `actionable`: a completion other than success of an uncompleted
operation reports the failure of the driver call. -/
theorem error_continueWith_actionable (h : MysqlHandler) (w : World) (X : ConnectOperationImpl)
    (hs : X.state ≠ .completed) (hdone : (w.continueWith (X.actionable h)).op.state = .completed)
    (hres : (w.continueWith (X.actionable h)).op.result ≠ .succeeded) :
    (w.continueWith (X.actionable h)).op.error = (h.tryConnect X.tries).failure := by
  by_cases hf : (h.tryConnect X.tries).Failed
  · rw [World.error_continueWith, error_actionable_of_failed X h hf]
  · obtain ⟨hret, hsucc⟩ := actionable_of_not_failed X h hs hf
    rw [w.continueWith_of_ret hret] at hdone hres
    exact absurd (hsucc hdone) hres

theorem World.result_cancel (w : World) (hs : w.op.state ≠ .completed)
    (hdone : w.cancel.op.state = .completed) : w.cancel.op.result = .cancelled := by
  by_cases hp : w.op.state = .pending
  · by_cases ha : w.loop.accepting
    · simp [World.cancel, hp, ha, World.post] at hdone
    · simp only [World.cancel, hp, ha, if_true, Bool.false_eq_true, if_false]
      exact result_completeOperation (by simp) _
  · simp only [World.cancel, hp, if_false] at hdone
    exact absurd hdone hs

/-- **The completing step reports the last attempt's failure.** A step that completes an
operation `Failed` or `TimedOut`, other than a refused `run()`, leaves the error the failed
attempt of that step recorded. -/
theorem error_step (h : MysqlHandler) (w : World) (e : Event) (hq : w.QueueOk) (he : e ≠ .run)
    (hs : w.op.state ≠ .completed) (hdone : (step h w e).op.state = .completed)
    (hres : (step h w e).op.result = .failed ∨ (step h w e).op.result = .timedOut) :
    (step h w e).op.error = w.attemptFailure h e := by
  obtain ⟨hsucc, hcanc⟩ : (step h w e).op.result ≠ .succeeded ∧
      (step h w e).op.result ≠ .cancelled := by
    rcases hres with hr | hr <;> rw [hr] <;> decide
  cases e with
  | run => exact absurd rfl he
  | call c => exact absurd ((state_exec c w.op).symm.trans hdone) hs
  | cancel => exact absurd (w.result_cancel hs hdone) hcanc
  | socketReady =>
    by_cases hw : w.op.waiting
    · simp only [step, hw, if_true] at hdone hsucc ⊢
      exact error_continueWith_actionable h w _ hs hdone hsucc
    · simp only [step, hw] at hdone
      exact absurd hdone hs
  | timeout r =>
    by_cases ht : w.op.timer.isSome
    · simp only [step, ht, if_true]
      rw [World.error_continueWith]
      exact error_timeoutHandler _ false false r
    · simp only [step, ht] at hdone
      exact absurd hdone hs
  | tcpTimeout r =>
    by_cases ht : w.op.tcpTimer.isSome
    · by_cases hh : r.tcpHandshakeDone
      · simp only [step, ht, hh, tcpConnectTimeoutTriggered, if_true] at hdone
        exact absurd hdone hs
      · simp only [step, ht, hh, tcpConnectTimeoutTriggered, if_true]
        rw [World.error_continueWith]
        exact error_timeoutHandler _ true false r
    · simp only [step, ht] at hdone
      exact absurd hdone hs
  | runTask =>
    cases hwq : w.loop.queue with
    | nil =>
      simp only [step, World.runTask, hwq] at hdone
      exact absurd hdone hs
    | cons t q =>
      cases t with
      | specializedRunImpl =>
        simp only [step, World.runTask, hwq] at hdone hsucc ⊢
        obtain ⟨X, heq, hX, ht, -⟩ := specializedRunImpl_setup w.op h
        have hXs : X.state ≠ .completed := (congrArg Prod.fst hX).trans_ne hs
        rw [heq] at hdone hsucc ⊢
        rw [error_continueWith_actionable h _ X hXs hdone hsucc, ht]
        rfl
      | completeOperation r =>
        have hr : r = .cancelled := by
          rcases hq _ (by rw [hwq]; exact .head _) with h' | h'
          · cases h'
          · cases h'; rfl
        subst hr
        simp only [step, World.runTask, hwq] at hcanc
        exact absurd (result_completeOperation hs _) hcanc
  | tick _ | setAccepting _ => exact absurd hdone hs

theorem queueOk_runEvents (h : MysqlHandler) (w : World) (es : List Event) (hq : w.QueueOk) :
    (runEvents h w es).QueueOk := by
  induction es generalizing w with
  | nil => exact hq
  | cons e es ih => exact ih _ (queueOk_step h w e hq)

/-- **A failed operation reports its last attempt's failure.** In every run from a fresh event
base, the event that completes the operation `Failed` or `TimedOut` through a failed attempt
leaves the error that attempt recorded, not one left by an earlier attempt. -/
theorem completion_reports_last_failure (h : MysqlHandler) (o : ConnectOperationImpl)
    (es : List Event) (e : Event) (he : e ≠ .run)
    (hs : (runEvents h (World.init o) es).op.state ≠ .completed)
    (hdone : (runEvents h (World.init o) (es ++ [e])).op.state = .completed)
    (hres : (runEvents h (World.init o) (es ++ [e])).op.result = .failed ∨
      (runEvents h (World.init o) (es ++ [e])).op.result = .timedOut) :
    (runEvents h (World.init o) (es ++ [e])).op.error =
      (runEvents h (World.init o) es).attemptFailure h e := by
  simp only [runEvents_append, runEvents_cons, runEvents_nil] at hdone hres ⊢
  exact error_step h _ e (queueOk_runEvents h _ es (fun _ ht => by cases ht)) he hs hdone hres

/-- The second attempt fails with `CR_CONN_HOST_ERROR` and its retry is refused: the operation
completes `Failed` with the driver's error. -/
theorem completion_reports_last_failure_refused :
    Event.socketReady ≠ .run ∧
      (runEvents sampleHandler (World.init (create sampleSetup))
        [.run, .runTask, .setAccepting false]).op.state ≠ .completed ∧
      (runEvents sampleHandler (World.init (create sampleSetup))
        ([.run, .runTask, .setAccepting false] ++ [.socketReady])).op.state = .completed ∧
      ((runEvents sampleHandler (World.init (create sampleSetup))
        ([.run, .runTask, .setAccepting false] ++ [.socketReady])).op.result = .failed ∨
        (runEvents sampleHandler (World.init (create sampleSetup))
          ([.run, .runTask, .setAccepting false] ++ [.socketReady])).op.result = .timedOut) ∧
      (runEvents sampleHandler (World.init (create sampleSetup))
        ([.run, .runTask, .setAccepting false] ++ [.socketReady])).op.error =
        (runEvents sampleHandler (World.init (create sampleSetup))
          [.run, .runTask, .setAccepting false]).attemptFailure sampleHandler .socketReady := by
  have he : Event.socketReady ≠ .run := fun h => by cases h
  have hs : (runEvents sampleHandler (World.init (create sampleSetup))
      [.run, .runTask, .setAccepting false]).op.state ≠ .completed := by decide
  have hdone : (runEvents sampleHandler (World.init (create sampleSetup))
      ([.run, .runTask, .setAccepting false] ++ [.socketReady])).op.state = .completed := by decide
  have hres : (runEvents sampleHandler (World.init (create sampleSetup))
      ([.run, .runTask, .setAccepting false] ++ [.socketReady])).op.result = .failed := by decide
  exact ⟨he, hs, hdone, .inl hres,
    completion_reports_last_failure _ _ _ _ he hs hdone (.inl hres)⟩

end Squangle

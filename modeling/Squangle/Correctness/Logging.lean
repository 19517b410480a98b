import Squangle.Correctness.StaleRetry

/-!
# `Correctness.Logging` — connection log records per attempt

`logConnectCompleted` writes one record, success or failure, once the connection was
initialized. `attemptFailed` calls it for an attempt it retries, and `specializedCompleteOperation`
calls it for the result the operation completes with. When the event base refuses the retry,
`specializedRun` completes the operation `Failed` through `completeOperationInner`, and the attempt
`attemptFailed` already logged is logged a second time (`logs_refused_retry`); `refusedRetry` is
a run that reaches it (`refused_retry_logged_twice`).
-/

namespace Squangle

open ConnectOperationImpl

/-- Whether an effect is a connection log record. -/
def Effect.isLog : Effect → Bool
  | .logConnectionSuccess | .logConnectionFailure _ _ => true
  | _ => false

/-- The connection log records in a trace. -/
def logs (t : List Effect) : Nat := t.countP Effect.isLog

@[simp] theorem logs_cons (e : Effect) (t : List Effect) :
    logs (e :: t) = logs t + if e.isLog then 1 else 0 := by
  by_cases h : e.isLog <;> simp [logs, List.countP_cons, h]

@[simp] theorem logs_map_toList {α : Type} (x : Option α) {call : α → Effect}
    (h : ∀ v, (call v).isLog = false) : logs (x.map call).toList = 0 := by
  cases x <;> simp [logs, h]

theorem logs_append (a b : List Effect) : logs (a ++ b) = logs a + logs b :=
  List.countP_append _ _ _

namespace ConnectOperationImpl

attribute [local simp] emit cancelTcpTimeout unregisterHandler cancelTimeout logs_append
  Effect.isLog

variable (o : ConnectOperationImpl)

theorem logs_logConnectCompleted (r : OperationResult) :
    logs (o.logConnectCompleted r).trace = logs o.trace + (if o.initialized then 1 else 0) ∧
      (o.logConnectCompleted r).initialized = o.initialized := by
  unfold logConnectCompleted
  split_ifs <;> simp_all

theorem logs_setTimeoutInternal (d : Duration) :
    logs (o.setTimeoutInternal d).trace = logs o.trace ∧
      (o.setTimeoutInternal d).initialized = o.initialized := by
  unfold setTimeoutInternal
  split <;> simp [scheduleTimeout]

theorem logs_maybeStoreSSLSession :
    logs o.maybeStoreSSLSession.trace = logs o.trace ∧
      o.maybeStoreSSLSession.initialized = o.initialized ∧ o.maybeStoreSSLSession.result = o.result := by
  unfold maybeStoreSSLSession
  split <;> simp [emitOpt_eq]

theorem logs_removeClientReference :
    logs o.removeClientReference.trace = logs o.trace := by
  unfold removeClientReference
  split <;> simp

/-- Completion writes one record, once the connection was initialized. -/
theorem logs_specializedCompleteOperation :
    logs o.specializedCompleteOperation.trace = logs o.trace + if o.initialized then 1 else 0 := by
  simp only [specializedCompleteOperation, logs_removeClientReference]
  simp [logs_logConnectCompleted, logs_maybeStoreSSLSession, apply_ite trace, apply_ite logs,
    apply_ite initialized]

theorem logs_completeOperationInner (r : OperationResult) :
    logs (o.completeOperationInner r).trace = logs o.trace + if o.initialized then 1 else 0 := by
  rw [completeOperationInner, logs_specializedCompleteOperation]
  simp

end ConnectOperationImpl

/-- The retry branch of `attemptFailed` logs the attempt it retries. -/
theorem logs_attemptFailed_retry (X : ConnectOperationImpl) (r : OperationResult)
    (hretry : (X.attemptFailed r).2 = .specializedRun) :
    logs (X.attemptFailed r).1.trace = logs X.trace + (if X.initialized then 1 else 0) ∧
      (X.attemptFailed r).1.initialized = X.initialized := by
  unfold attemptFailed at hretry ⊢
  dsimp only at hretry ⊢
  split at hretry
  · cases hretry
  · rw [if_neg ‹_›]
    simp [logs_setTimeoutInternal, logs_logConnectCompleted, emit, cancelTcpTimeout,
      unregisterHandler, cancelTimeout, Effect.isLog]

theorem World.continueWith_refused (w : World) (o : ConnectOperationImpl)
    (hacc : w.loop.accepting = false) :
    (w.continueWith (o, .specializedRun)).op = o.completeOperationInner .failed := by
  simp [World.continueWith, World.specializedRun, hacc]

/-- A refused retry logs its attempt twice: `attemptFailed` logs the attempt it retries, and
when the base refuses the retry `specializedRun` completes the operation, which logs again; the
attempt count grows by one. -/
theorem logs_refused_retry (w : World) (X : ConnectOperationImpl) (r : OperationResult)
    (hacc : w.loop.accepting = false) (hi : X.initialized = true)
    (hretry : (X.attemptFailed r).2 = .specializedRun) :
    logs (w.continueWith (X.attemptFailed r)).op.trace = logs X.trace + 2 ∧
      (w.continueWith (X.attemptFailed r)).op.attemptsMade = X.attemptsMade + 1 := by
  refine ⟨?_, (w.attemptsMade_continueWith _).trans (attemptsMade_attemptFailed X r)⟩
  obtain ⟨hlog, hinit⟩ := logs_attemptFailed_retry X r hretry
  rw [← Prod.mk.eta (p := X.attemptFailed r), hretry, w.continueWith_refused _ hacc,
    logs_completeOperationInner, hlog, hinit, hi]
  rfl

/-- `run()`; the first call stays in progress; the base stops accepting tasks; the second call
fails, and its retry is refused. -/
def refusedRetry : List Event := [.run, .runTask, .setAccepting false, .socketReady]

/-- **A refused retry is logged twice.** For every operation whose connection was initialized and
every base that refuses the retry `attemptFailed` asks for, the failed attempt gains two log
records and one attempt; after `refusedRetry` the operation made one attempt and wrote two log
records. -/
theorem refused_retry_logged_twice :
    (∀ (w : World) (X : ConnectOperationImpl) (r : OperationResult),
      w.loop.accepting = false → X.initialized = true → (X.attemptFailed r).2 = .specializedRun →
      logs (w.continueWith (X.attemptFailed r)).op.trace = logs X.trace + 2 ∧
        (w.continueWith (X.attemptFailed r)).op.attemptsMade = X.attemptsMade + 1) ∧
    (runEvents sampleHandler (World.init (create sampleSetup)) refusedRetry).op.attemptsMade = 1 ∧
      logs (runEvents sampleHandler (World.init (create sampleSetup)) refusedRetry).op.trace = 2 ∧
      (runEvents sampleHandler (World.init (create sampleSetup)) refusedRetry).op.result = .failed :=
  ⟨logs_refused_retry, by decide⟩

end Squangle

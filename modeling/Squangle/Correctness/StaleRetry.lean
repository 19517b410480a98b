import Squangle.Correctness.ErrorReport

/-!
# `Correctness.StaleRetry` — a retry posted before the operation completed

`attemptFailed` posts the next attempt with `runInThread`, and nothing withdraws it when the
operation completes in between: `cancel()` posts its own completion, which can run first.
`specializedRunImpl` and `tcpConnectTimeoutTriggered` do not look at `state()`, so the stale
attempt calls the driver (`tries_runTask_attempt`), arms the TCP-handshake timer, and that
timer's expiry fails an attempt of the completed operation (`attemptsMade_tcpTimeout`).
`cancelRace` reaches that state: the first attempt is in progress, the user cancels, the second
attempt fails and posts a retry behind the cancellation.
-/

namespace Squangle

open ConnectOperationImpl

namespace ConnectOperationImpl

variable (o : ConnectOperationImpl)

theorem attemptsMade_completeOperation (r : OperationResult) :
    (o.completeOperation r).attemptsMade = o.attemptsMade := by
  unfold completeOperation
  split
  · rfl
  · exact congrArg (fun p => p.2.1) (progress_completeOperationInner o r)

/-- `attemptFailed` counts the attempt whatever the state. -/
theorem attemptsMade_attemptFailed (r : OperationResult) :
    (o.attemptFailed r).1.attemptsMade = o.attemptsMade + 1 := by
  unfold attemptFailed
  dsimp only
  split
  · exact attemptsMade_completeOperation _ r
  · simp [setTimeoutInternal, scheduleTimeout, apply_ite attemptsMade, logConnectCompleted, emit,
      cancelTcpTimeout, unregisterHandler, cancelTimeout]

end ConnectOperationImpl

namespace World

variable (w : World)

theorem tries_continueWith (r : ConnectOperationImpl × Tail) :
    (w.continueWith r).op.tries = r.1.tries := by
  obtain ⟨o, _ | _⟩ := r
  · rfl
  · simp only [continueWith, specializedRun]
    split
    · rfl
    · exact tries_completeOperationInner _ _

theorem attemptsMade_continueWith (r : ConnectOperationImpl × Tail) :
    (w.continueWith r).op.attemptsMade = r.1.attemptsMade := by
  obtain ⟨o, _ | _⟩ := r
  · rfl
  · simp only [continueWith, specializedRun]
    split
    · rfl
    · exact congrArg (fun p => p.2.1) (progress_completeOperationInner _ _)

end World

/-- **A posted attempt calls the driver in any state**: `specializedRunImpl` does not check that
the operation is still pending. -/
theorem tries_runTask_attempt (h : MysqlHandler) (w : World) (q : List Task)
    (hq : w.loop.queue = .specializedRunImpl :: q) :
    (step h w .runTask).op.tries = w.op.tries + 1 := by
  simp only [step, World.runTask, hq]
  rw [World.tries_continueWith, tries_specializedRunImpl]

/-- **An expiring TCP-handshake timer fails an attempt in any state**, while the handshake is not
done. -/
theorem attemptsMade_tcpTimeout (h : MysqlHandler) (w : World) (r : LoopReport)
    (ht : w.op.tcpTimer.isSome) (hh : r.tcpHandshakeDone = false) :
    (step h w (.tcpTimeout r)).op.attemptsMade = w.op.attemptsMade + 1 := by
  simp only [step, ht, if_true, tcpConnectTimeoutTriggered, hh, Bool.not_false]
  rw [World.attemptsMade_continueWith]
  exact attemptsMade_attemptFailed _ _

/-- `run()`; the first attempt's call stays in progress; `cancel()` posts the completion; the
socket turns ready and the second call fails, so `attemptFailed` posts a retry behind the
completion; the loop runs the completion. -/
def cancelRace : List Event := [.run, .runTask, .cancel, .socketReady, .runTask]

/-- After `cancelRace` the operation completed `Cancelled`, yet the posted retry runs and calls
the driver. -/
theorem attempt_after_cancel :
    (runEvents sampleHandler (World.init (create sampleSetup)) cancelRace).op.state = .completed ∧
      (runEvents sampleHandler (World.init (create sampleSetup)) cancelRace).op.result =
        .cancelled ∧
      (runEvents sampleHandler (World.init (create sampleSetup)) (cancelRace ++ [.runTask])).op.tries =
        (runEvents sampleHandler (World.init (create sampleSetup)) cancelRace).op.tries + 1 := by
  refine ⟨by decide, by decide, ?_⟩
  rw [runEvents_append, runEvents_cons, runEvents_nil]
  exact tries_runTask_attempt _ _ [] (by decide)

/-- After `cancelRace` and the stale attempt, the completed operation has the TCP-handshake timer
armed again, and its expiry runs `attemptFailed(TimedOut)` on the completed operation. -/
theorem tcp_timeout_after_completion :
    (runEvents sampleHandler (World.init (create sampleSetup)) cancelRace).op.tcpTimer = none ∧
      (runEvents sampleHandler (World.init (create sampleSetup))
        (cancelRace ++ [.runTask])).op.state = .completed ∧
      (runEvents sampleHandler (World.init (create sampleSetup))
        (cancelRace ++ [.runTask])).op.tcpTimer = some 20 ∧
      (step sampleHandler (runEvents sampleHandler (World.init (create sampleSetup))
        (cancelRace ++ [.runTask])) (.tcpTimeout ⟨0, "connecting", false⟩)).op.attemptsMade =
        (runEvents sampleHandler (World.init (create sampleSetup))
          (cancelRace ++ [.runTask])).op.attemptsMade + 1 :=
  ⟨by decide, by decide, by decide, attemptsMade_tcpTimeout _ _ _ (by decide) rfl⟩

end Squangle

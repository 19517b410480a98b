import Squangle.Correctness.Attempts
import Squangle.Correctness.Setters

/-!
# `Correctness.SyncTermination` — the synchronous attempt chain ends

On `SyncConnection` a retry recurses, `specializedRun -> specializedRunImpl -> actionable ->
attemptFailed -> specializedRun`, and `SyncMysqlHandler` never leaves a call in progress, so every
`specializedRunImpl` ends its attempt: its `HandlerOutcome` lets an attempt go on only while the
driver's call is in progress. A retry happens only
while `attempts_made + 1 < connectAttempts`, so the recursion depth is at most
`max 1 (connectAttempts - attempts_made)` (`syncSpecializedRun_completes`), and a connect run
with that much fuel completes once, after at most `max 1 connectAttempts` driver calls
(`syncSpecializedRun_create`).
-/

namespace Squangle

open ConnectOperationImpl

/-- **The inline retry chain completes the operation once.** From an uncompleted operation with
`a` attempts made, enough depth for the remaining attempts reaches completion after `n` attempts,
`1 ≤ n ≤ max 1 (connectAttempts - a)`, with one driver call each. -/
theorem syncSpecializedRun_completes (h : SyncMysqlHandler) (fuel : Nat) (o : ConnectOperationImpl)
    (hs : o.state ≠ .completed) (hfuel : 0 < fuel)
    (hc : o.connOptions.connectAttempts.toNat ≤ o.attemptsMade + fuel) :
    ∃ o' n, syncSpecializedRun h.toMysqlHandler fuel o = some o' ∧ o'.state = .completed ∧
      completions o'.trace = completions o.trace + 1 ∧ o'.tries = o.tries + n ∧ 1 ≤ n ∧
      n ≤ max 1 (o.connOptions.connectAttempts.toNat - o.attemptsMade) := by
  induction fuel generalizing o with
  | zero => exact absurd hfuel (Nat.lt_irrefl 0)
  | succ fuel ih =>
    have hout := handlerOutcome_specializedRunImpl o h.toMysqlHandler
    have htries := tries_specializedRunImpl o h.toMysqlHandler
    rw [syncSpecializedRun_succ]
    generalize o.specializedRunImpl h.toMysqlHandler = r at hout htries ⊢
    obtain ⟨o', t⟩ := r
    dsimp only at hout htries
    cases hout with
    | wait going => exact absurd going (h.blocking _)
    | stale completed => exact absurd completed hs
    | complete _ hdone c => exact ⟨o', 1, rfl, hdone, c.count, htries, le_rfl, le_max_left _ _⟩
    | retry hstate hatt hopt hlt _ hcomp =>
      obtain ⟨o'', n, hrun, hdone, hcomp', htries', hn, hle⟩ :=
        ih o' (hstate.trans_ne hs) (by omega) (by rw [hopt]; omega)
      refine ⟨o'', n + 1, hrun, hdone, hcomp'.trans (by rw [hcomp]), by omega, by omega, ?_⟩
      rw [hopt, hatt] at hle
      rw [hatt] at hlt
      omega

theorem run_unstarted {o : ConnectOperationImpl} (hs : o.state = .unstarted) :
    ∃ X, o.run = .ok (X, .specializedRun) ∧ X.state = .pending ∧ X.attemptsMade = o.attemptsMade ∧
      X.connOptions = o.connOptions ∧ completions X.trace = completions o.trace ∧
      X.tries = o.tries := by
  refine ⟨_, by simp [run, hs]; rfl, ?_⟩
  split_ifs <;> simp [scheduleTimeout, emit, Effect.isComplete]

/-- `run()` on a fresh operation, then the inline chain with depth `max 1 connectAttempts`: the
chain completes the operation once, after at most `max 1 connectAttempts` driver calls. -/
theorem syncSpecializedRun_create (h : SyncMysqlHandler) (s : Setup) :
    ∃ X o', (create s).run = .ok (X, .specializedRun) ∧
      syncSpecializedRun h.toMysqlHandler (max 1 s.options.connectAttempts.toNat) X = some o' ∧
      o'.state = .completed ∧ completions o'.trace = 1 ∧
      o'.tries ≤ max 1 s.options.connectAttempts.toNat := by
  obtain ⟨X, hrun, hpend, hatt, hopt, hcomp, htries⟩ := run_unstarted (o := create s) rfl
  obtain ⟨o', n, hsync, hdone, hcomp', htries', -, hle⟩ :=
    syncSpecializedRun_completes h (max 1 s.options.connectAttempts.toNat) X (by rw [hpend]; decide)
      (lt_of_lt_of_le Nat.one_pos (le_max_left 1 _)) (by rw [hopt, hatt]; simp only [create]; omega)
  refine ⟨X, o', hrun, hsync, hdone, by rw [hcomp', hcomp]; rfl, ?_⟩
  rw [htries', htries, hopt, hatt] at *
  simp only [create] at hle ⊢
  omega

/-- **The synchronous connect terminates**: with depth `max 1 connectAttempts`, for every
synchronous driver, options and outcome sequence, `run()` returns a completed operation that
completed once and called the driver at most `max 1 connectAttempts` times. -/
theorem sync_connect_terminates (h : SyncMysqlHandler) (s : Setup) :
    ∃ o', syncRun h.toMysqlHandler (max 1 s.options.connectAttempts.toNat) (create s) =
        .ok (some o') ∧ o'.state = .completed ∧ completions o'.trace = 1 ∧
      o'.tries ≤ max 1 s.options.connectAttempts.toNat := by
  obtain ⟨X, o', hrun, hsync, hdone⟩ := syncSpecializedRun_create h s
  exact ⟨o', by rw [syncRun, hrun]; exact congrArg Except.ok hsync, hdone⟩

/-- A blocking driver whose first two connect calls fail with `CR_CONN_HOST_ERROR` and whose
third connects on descriptor 7. -/
def sampleSyncHandler : SyncMysqlHandler where
  tryConnect k :=
    if k < 2 then ⟨.error, 7, false, 2003, "Can't connect to MySQL server", 0⟩
    else ⟨.done, 7, true, 0, "", 0⟩
  blocking k := by
    dsimp only
    split <;> decide

/-- Three attempts allowed, the driver fails twice and then connects: the synchronous connect
retries twice and succeeds on its third driver call. -/
theorem sync_connect_terminates_retried :
    (∃ o', syncRun sampleSyncHandler.toMysqlHandler (max 1 sampleSetup.options.connectAttempts.toNat)
        (create sampleSetup) = .ok (some o') ∧ o'.state = .completed ∧ completions o'.trace = 1 ∧
      o'.tries ≤ max 1 sampleSetup.options.connectAttempts.toNat) ∧
      (syncRun sampleSyncHandler.toMysqlHandler 3 (create sampleSetup)).toOption.join.map
        (fun o => (o.result, o.tries)) = some (.succeeded, 3) :=
  ⟨sync_connect_terminates sampleSyncHandler sampleSetup, by decide⟩

end Squangle

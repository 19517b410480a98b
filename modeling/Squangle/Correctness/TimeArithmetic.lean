import Squangle.Correctness.Deadlines

/-!
# `Correctness.TimeArithmetic` — what the connect path computes in `Duration`

Two computations of the connect path leave the integers.

**The TCP-handshake timeout.** `specializedRunImpl` takes `connectTcpTimeout` (or the flag),
converts it with `duration_cast<Millis>`, and skips both the driver's connect timeout and the
TCP-handshake timer when the millisecond count is zero; the timer's parameter is a `uint32_t`.
So a positive timeout below 1 ms is dropped, a larger one is armed in whole milliseconds rounded
down, and the timer's argument is the count modulo `2^32`
(`tcpTimeout_specializedRunImpl_setup`, `Duration.toMillis_of_nonneg`, `toUInt32_toNat`).

**The retry decision and the retry deadline.** `shouldCompleteOperation` compares the elapsed
time against `totalTimeout + 1ms`, and the retry branch of `attemptFailed` re-arms with
`min(timeout + opElapsed(), totalTimeout)`; both sums are 64-bit. With non-negative operands
each agrees with the integers exactly while its sum stays below `2^63`; past it the sum wraps
negative, so the time clause always holds and the retry deadline is negative
(`hasOpElapsed_totalTimeout`, `timeout_attemptFailed_retry`, `Duration.add_count_of_nonneg`).
-/

namespace Squangle

open ConnectOperationImpl

/-- Whether an effect is one of the two calls that set up the TCP-handshake timeout: the
driver's connect timeout and the TCP-handshake timer. -/
def Effect.isTcpTimeoutCall : Effect → Bool
  | .setConnectTimeout _ | .scheduleTcpTimeout _ => true
  | _ => false

namespace ConnectOperationImpl

attribute [local simp] emit

variable (o : ConnectOperationImpl)

/-! ## The TCP-handshake timeout -/

theorem filter_tcpTimeoutCall_map_toList {α : Type} (x : Option α) {call : α → Effect}
    (h : ∀ v, (call v).isTcpTimeoutCall = false) :
    (x.map call).toList.filter Effect.isTcpTimeoutCall = [] := by
  cases x <;> simp [h]

/-- What `specializedRunImpl` does about the TCP-handshake timeout before `actionable`: with
`tcpTimeoutMillis` non-zero it sets the driver's connect timeout and, with an event base, arms
the timer with `toUInt32` of the count; otherwise it makes neither call. -/
theorem tcpTimeout_specializedRunImpl_setup (h : MysqlHandler) :
    ∃ X : ConnectOperationImpl, o.specializedRunImpl h = X.actionable h ∧
      X.trace.filter Effect.isTcpTimeoutCall =
        (if o.tcpTimeoutMillis = 0 then []
          else (if o.eventBaseSet then [.scheduleTcpTimeout (toUInt32 o.tcpTimeoutMillis)] else []) ++
            [.setConnectTimeout o.tcpTimeoutMillis]) ++ o.trace.filter Effect.isTcpTimeoutCall ∧
      X.tcpTimer =
        if o.tcpTimeoutMillis ≠ 0 ∧ o.eventBaseSet then some (toUInt32 o.tcpTimeoutMillis)
        else o.tcpTimer := by
  refine ⟨_, rfl, ?_, ?_⟩
  · simp [apply_ite (List.filter Effect.isTcpTimeoutCall), apply_ite trace, apply_ite connOptions,
      apply_ite tcpTimeoutFlag, apply_ite eventBaseSet, apply_ite self, apply_ite activeInClient,
      removeClientReference, emitOpt_eq, tcpTimeoutMillis, filter_tcpTimeoutCall_map_toList,
      Effect.isTcpTimeoutCall]
    split_ifs <;> rfl
  · simp [apply_ite tcpTimer, apply_ite connOptions, apply_ite tcpTimeoutFlag,
      apply_ite eventBaseSet, apply_ite activeInClient, removeClientReference, emitOpt_eq,
      tcpTimeoutMillis]
    split_ifs <;> simp_all

end ConnectOperationImpl

/-- **The TCP-handshake timeout is armed in whole milliseconds.** For every positive timeout
`d` (microseconds), `specializedRunImpl` makes no TCP-timeout call when `d < 1 ms`; otherwise it
sets the driver's connect timeout to `d / 1000` milliseconds, rounded down, and with an event
base arms the timer with `toUInt32 (d / 1000)`, the count modulo `2^32`. -/
theorem tcp_timeout_whole_millis (h : MysqlHandler) (o : ConnectOperationImpl) (d : Duration)
    (hd : o.connOptions.connectTcpTimeout.getD o.tcpTimeoutFlag = d) (hpos : 0 < d.count) :
    ∃ X : ConnectOperationImpl, o.specializedRunImpl h = X.actionable h ∧
      X.trace.filter Effect.isTcpTimeoutCall =
        (if d.count < 1000 then []
          else (if o.eventBaseSet then [.scheduleTcpTimeout (toUInt32 (d.count / 1000))] else []) ++
            [.setConnectTimeout (d.count / 1000)]) ++ o.trace.filter Effect.isTcpTimeoutCall ∧
      X.tcpTimer =
        (if 1000 ≤ d.count ∧ o.eventBaseSet then some (toUInt32 (d.count / 1000)) else o.tcpTimer) ∧
      (toUInt32 (d.count / 1000)).toNat = (d.count / 1000).toNat % 2 ^ 32 := by
  obtain ⟨X, hX, htrace, htimer⟩ := tcpTimeout_specializedRunImpl_setup o h
  have hms : o.tcpTimeoutMillis = d.count / 1000 := by
    rw [tcpTimeoutMillis, hd, Duration.toMillis_of_nonneg hpos.le]
  have hzero : d.count / 1000 = 0 ↔ d.count < 1000 := by omega
  refine ⟨X, hX, ?_, ?_, toUInt32_toNat (by omega)⟩
  · rw [htrace, hms]
    simp only [hzero]
  · rw [htimer, hms]
    simp only [ne_eq, hzero, not_lt]

/-- `sampleSetup` with a TCP-handshake timeout of 500 µs. -/
def subMillisecondTcpSetup : Setup :=
  { sampleSetup with options := { sampleSetup.options with connectTcpTimeout := some 500 } }

theorem tcp_timeout_whole_millis_sub_ms :
    (create subMillisecondTcpSetup).connOptions.connectTcpTimeout.getD
        (create subMillisecondTcpSetup).tcpTimeoutFlag = 500 ∧
      0 < (500 : Duration).count ∧
      ∃ X : ConnectOperationImpl,
        (create subMillisecondTcpSetup).specializedRunImpl sampleHandler = X.actionable sampleHandler ∧
        X.trace.filter Effect.isTcpTimeoutCall =
          (if (500 : Duration).count < 1000 then []
            else (if (create subMillisecondTcpSetup).eventBaseSet then
                [.scheduleTcpTimeout (toUInt32 ((500 : Duration).count / 1000))] else []) ++
              [.setConnectTimeout ((500 : Duration).count / 1000)]) ++
            (create subMillisecondTcpSetup).trace.filter Effect.isTcpTimeoutCall ∧
        X.tcpTimer =
          (if 1000 ≤ (500 : Duration).count ∧ (create subMillisecondTcpSetup).eventBaseSet then
            some (toUInt32 ((500 : Duration).count / 1000))
          else (create subMillisecondTcpSetup).tcpTimer) ∧
        (toUInt32 ((500 : Duration).count / 1000)).toNat =
          ((500 : Duration).count / 1000).toNat % 2 ^ 32 :=
  ⟨rfl, by decide, tcp_timeout_whole_millis _ _ _ rfl (by decide)⟩

/-! ## The retry decision and the retry deadline -/

namespace ConnectOperationImpl

variable (o : ConnectOperationImpl)

/-- `logConnectCompleted` writes only the trace. -/
theorem logConnectCompleted_writes (r : OperationResult) :
    o.logConnectCompleted r = { o with trace := (o.logConnectCompleted r).trace } := by
  unfold logConnectCompleted
  split_ifs <;> rfl

theorem timeout_setTimeoutInternal (d : Duration) : (o.setTimeoutInternal d).timeout = d := by
  unfold setTimeoutInternal
  split_ifs <;> rfl

/-- A retry of `attemptFailed` re-arms with `min(timeout + opElapsed(), totalTimeout)` of the
operation it was called on. -/
theorem timeout_attemptFailed_retry (r : OperationResult)
    (hretry : (o.attemptFailed r).2 = .specializedRun) :
    (o.attemptFailed r).1.timeout =
      Duration.min (o.connOptions.timeout + o.opElapsed) o.connOptions.totalTimeout := by
  unfold attemptFailed at hretry ⊢
  dsimp only at hretry ⊢
  split at hretry
  · cases hretry
  · rw [if_neg ‹_›, timeout_setTimeoutInternal, logConnectCompleted_writes]
    simp only [cancelTcpTimeout, unregisterHandler, cancelTimeout, emit, opElapsed]

/-- The time clause of `shouldCompleteOperation`, over the integers: the elapsed time exceeds
`totalTimeout + 1ms`, or that sum wraps. -/
theorem hasOpElapsed_totalTimeout (hT : 0 ≤ o.connOptions.totalTimeout.count)
    (he : 0 ≤ o.opElapsed.count) :
    o.hasOpElapsed (o.connOptions.totalTimeout + Duration.oneMs) = true ↔
      o.connOptions.totalTimeout.count + 1000 < o.opElapsed.count ∨
        2 ^ 63 ≤ o.connOptions.totalTimeout.count + 1000 := by
  have := o.connOptions.totalTimeout.upper
  rw [hasOpElapsed, decide_eq_true_iff, Duration.lt_iff,
    Duration.add_count_of_nonneg hT (show (0 : Int) ≤ Duration.oneMs.count by decide),
    Duration.oneMs_count]
  split_ifs <;> omega

end ConnectOperationImpl

/-- **The retry decision and the retry deadline agree with the integers until a sum wraps.** For
every operation whose per-attempt timeout, total timeout and elapsed time are non-negative,
`shouldCompleteOperation` completes exactly when the attempts are used up, the result is
`Cancelled`, the elapsed time exceeds `totalTimeout + 1ms` over the integers, or that sum reaches
`2^63`; and a retry of `attemptFailed` re-arms with `min(timeout + elapsed, totalTimeout)` over
the integers while `timeout + elapsed` is below `2^63`, and with the wrapped, negative sum
otherwise. -/
theorem retry_arithmetic_wraps (o : ConnectOperationImpl) (r : OperationResult)
    (ht : 0 ≤ o.connOptions.timeout.count) (hT : 0 ≤ o.connOptions.totalTimeout.count)
    (he : 0 ≤ o.opElapsed.count) :
    (o.shouldCompleteOperation r = true ↔
      o.connOptions.connectAttempts.toNat ≤ o.attemptsMade ∨ r = .cancelled ∨
        o.connOptions.totalTimeout.count + 1000 < o.opElapsed.count ∨
        2 ^ 63 ≤ o.connOptions.totalTimeout.count + 1000) ∧
    ((o.attemptFailed r).2 = .specializedRun →
      (o.attemptFailed r).1.timeout.count =
        if o.connOptions.timeout.count + o.opElapsed.count < 2 ^ 63 then
          min (o.connOptions.timeout.count + o.opElapsed.count) o.connOptions.totalTimeout.count
        else o.connOptions.timeout.count + o.opElapsed.count - 2 ^ 64) := by
  refine ⟨?_, fun hretry => ?_⟩
  · rw [← hasOpElapsed_totalTimeout o hT he]
    simp only [shouldCompleteOperation, Bool.or_eq_true, decide_eq_true_eq, beq_iff_eq, or_assoc]
  · have := o.connOptions.timeout.upper
    have := o.opElapsed.upper
    rw [timeout_attemptFailed_retry o r hretry, Duration.min_count,
      Duration.add_count_of_nonneg ht he]
    split_ifs <;> omega

/-- `sampleSetup`, started at clock 0, with the total timeout at the largest `Duration`. -/
def unlimitedTotalOp : ConnectOperationImpl :=
  { create sampleSetup with
    state := .pending
    connOptions := { sampleSetup.options with totalTimeout := 9223372036854775807 } }

theorem retry_arithmetic_wraps_unlimited_total :
    0 ≤ unlimitedTotalOp.connOptions.timeout.count ∧
      0 ≤ unlimitedTotalOp.connOptions.totalTimeout.count ∧ 0 ≤ unlimitedTotalOp.opElapsed.count ∧
      unlimitedTotalOp.shouldCompleteOperation .failed = true ∧
      (unlimitedTotalOp.shouldCompleteOperation .failed = true ↔
        unlimitedTotalOp.connOptions.connectAttempts.toNat ≤ unlimitedTotalOp.attemptsMade ∨
          OperationResult.failed = .cancelled ∨
          unlimitedTotalOp.connOptions.totalTimeout.count + 1000 < unlimitedTotalOp.opElapsed.count ∨
          2 ^ 63 ≤ unlimitedTotalOp.connOptions.totalTimeout.count + 1000) ∧
      ((unlimitedTotalOp.attemptFailed .failed).2 = .specializedRun →
        (unlimitedTotalOp.attemptFailed .failed).1.timeout.count =
          if unlimitedTotalOp.connOptions.timeout.count + unlimitedTotalOp.opElapsed.count < 2 ^ 63
          then min (unlimitedTotalOp.connOptions.timeout.count + unlimitedTotalOp.opElapsed.count)
            unlimitedTotalOp.connOptions.totalTimeout.count
          else unlimitedTotalOp.connOptions.timeout.count + unlimitedTotalOp.opElapsed.count -
            2 ^ 64) := by
  have ht : 0 ≤ unlimitedTotalOp.connOptions.timeout.count := by decide
  have hT : 0 ≤ unlimitedTotalOp.connOptions.totalTimeout.count := by decide
  have he : 0 ≤ unlimitedTotalOp.opElapsed.count := by decide
  exact ⟨ht, hT, he, by decide, retry_arithmetic_wraps _ _ ht hT he⟩

end Squangle

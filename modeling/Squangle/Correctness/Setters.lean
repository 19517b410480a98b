import Squangle.MysqlClient.Setters

/-!
# `Correctness.Setters` — what the option setters can write

A setter is a short `EStateM` program over four primitive steps: the state check
`checkUnstarted`, a write to `conn_options_` (`modifyOptions`), the write of
`killOnQueryTimeout_`, and `OperationImpl::setTimeout`. `Keeps P m` says that `m` leaves a state
satisfying `P` whenever it starts from one, whether it returns or throws; `keeps_apply` derives it
for every `SetterCall` from the four primitives, so a property of all setters is proved once per
primitive.

The section on started operations shows what survives the state check: a checked setter throws
before writing, but `setTcpTimeout` and the three enablers have no check, and
`setConnectionOptions` first calls the unchecked `setTimeout`, whose writes stay when the next
setter throws.
-/

namespace Squangle

namespace ConnectOperationImpl

/-- A setter runs as the state function it is. -/
theorem run_setter {α : Type} (m : SetterM α) (o : ConnectOperationImpl) : m.run o = m o := rfl

/-- `m` keeps `P`: from a state satisfying `P` it leaves one satisfying `P`, returned or thrown. -/
def Keeps {α : Type} (P : ConnectOperationImpl → Prop) (m : SetterM α) : Prop :=
  ∀ o, P o → P (stateAfter m o)

section Keeps

variable {P : ConnectOperationImpl → Prop}

theorem keeps_pure {α : Type} (a : α) : Keeps P (pure a : SetterM α) := fun _ h => h

theorem keeps_get : Keeps P (get : SetterM ConnectOperationImpl) := fun _ h => h

theorem keeps_modify {f : ConnectOperationImpl → ConnectOperationImpl} (hf : ∀ o, P o → P (f o)) :
    Keeps P (modify f : SetterM Unit) := hf

theorem stateAfter_checkUnstarted (o : ConnectOperationImpl) : stateAfter checkUnstarted o = o := by
  by_cases hs : o.state = .unstarted <;> simp [stateAfter, checkUnstarted, run_setter, hs]

theorem keeps_checkUnstarted : Keeps P checkUnstarted := fun o h => by
  rwa [stateAfter_checkUnstarted]

theorem keeps_bind {α β : Type} {m : SetterM α} {f : α → SetterM β} (hm : Keeps P m)
    (hf : ∀ a, Keeps P (f a)) : Keeps P (m >>= f) := by
  intro o h
  have hm := hm o h
  unfold stateAfter at hm ⊢
  simp only [run_setter, bind, EStateM.bind] at hm ⊢
  split at hm <;> rename_i heq <;> simp only [heq]
  · exact hf _ _ hm
  · exact hm

theorem keeps_forM {α : Type} (x : Option α) {m : α → SetterM PUnit} (hm : ∀ a, Keeps P (m a)) :
    Keeps P (x.forM m) := by
  cases x
  · exact keeps_pure _
  · exact hm _

/-! ## Every setter, from its primitives -/

variable (hopt : ∀ f, Keeps P (modifyOptions f))
  (hkill : ∀ b, Keeps P (modify fun o => { o with killOnQueryTimeout := b } : SetterM Unit))
  (htimeout : ∀ t, Keeps P (operationSetTimeout t))
include hopt

theorem keeps_checkedSet (f : ConnectionOptions → ConnectionOptions) : Keeps P (checkedSet f) :=
  keeps_bind keeps_checkUnstarted fun _ => hopt f

include htimeout

theorem keeps_setTimeout (t : Duration) : Keeps P (setTimeout t) :=
  keeps_bind (hopt _) fun _ => htimeout t

theorem keeps_setTotalTimeout (t : Duration) : Keeps P (setTotalTimeout t) :=
  keeps_bind (hopt _) fun _ => keeps_bind keeps_get fun _ => htimeout _

theorem keeps_setConnectionOptions (opts : ConnectionOptions) :
    Keeps P (setConnectionOptions opts) := by
  have checked := keeps_checkedSet hopt
  unfold setConnectionOptions
  refine keeps_bind (keeps_setTimeout hopt htimeout _) fun _ => ?_
  refine keeps_bind (checked _) fun _ => keeps_bind (checked _) fun _ =>
    keeps_bind (checked _) fun _ => ?_
  refine keeps_bind (keeps_forM _ fun _ => checked _) fun _ => ?_
  refine keeps_bind (keeps_setTotalTimeout hopt htimeout _) fun _ => ?_
  refine keeps_bind (checked _) fun _ => ?_
  refine keeps_bind (keeps_forM _ fun _ => hopt _) fun _ => ?_
  refine keeps_bind (keeps_forM _ fun _ => checked _) fun _ => ?_
  exact keeps_bind (keeps_forM _ fun _ => checked _) fun _ => keeps_forM _ fun _ => checked _

include hkill

/-- **Every setter keeps `P`**, given that its four primitives do. -/
theorem keeps_apply (c : SetterCall) : Keeps P c.apply := by
  have checked := keeps_checkedSet hopt
  cases c <;> simp only [SetterCall.apply]
  case setConnectionOptions opts => exact keeps_setConnectionOptions hopt htimeout opts
  case setTimeout t => exact keeps_setTimeout hopt htimeout t
  case setTotalTimeout t => exact keeps_setTotalTimeout hopt htimeout t
  case setKillOnQueryTimeout b => exact keeps_bind keeps_checkUnstarted fun _ => hkill b
  case setSSLOptionsProviderBase => exact keeps_checkUnstarted
  case enableResetConnBeforeClose => exact hopt _
  case enableDelayedResetConn => exact hopt _
  case enableChangeUser => exact hopt _
  case setTcpTimeout => exact hopt _
  all_goals exact checked _

end Keeps

/-! ## No setter writes the operation state -/

/-- `OperationImpl::setTimeout` as a function of the operation: on a running operation it cancels
the per-attempt timer and re-arms it with `t`, on any other it only sets the timeout. Every fact
about it below is read from this equation. -/
theorem stateAfter_operationSetTimeout (t : Duration) (o : ConnectOperationImpl) :
    stateAfter (operationSetTimeout t) o =
      if o.state = .pending ∨ o.state = .cancelling then o.cancelTimeout.setTimeoutInternal t
      else { o with timeout := t } := rfl

/-- `OperationImpl::setTimeout` writes the timeout, the timer and the trace, nothing else. -/
theorem operationSetTimeout_writes (t : Duration) (o : ConnectOperationImpl) :
    ∃ timeout timer trace, stateAfter (operationSetTimeout t) o =
      { o with timeout := timeout, timer := timer, trace := trace } := by
  rw [stateAfter_operationSetTimeout]
  split_ifs
  · simp only [cancelTimeout, setTimeoutInternal, scheduleTimeout, emit]
    split_ifs <;> exact ⟨_, _, _, rfl⟩
  · exact ⟨_, _, _, rfl⟩

theorem state_operationSetTimeout (t : Duration) (o : ConnectOperationImpl) :
    (stateAfter (operationSetTimeout t) o).state = o.state := by
  obtain ⟨_, _, _, h⟩ := operationSetTimeout_writes t o
  rw [h]

/-- **A setter leaves the operation state as it was**, returned or thrown. -/
theorem state_exec (c : SetterCall) (o : ConnectOperationImpl) : (c.exec o).state = o.state :=
  keeps_apply (P := fun o' => o'.state = o.state) (fun _ _ h => h) (fun _ _ h => h)
    (fun t o' h => (state_operationSetTimeout t o').trans h) c o rfl

/-! ## Setters on a started operation -/

theorem run_bind_of_error {α β : Type} {m : SetterM α} (f : α → SetterM β)
    {o o' : ConnectOperationImpl} {e : OperationStateException} (h : m.run o = .error e o') :
    (m >>= f).run o = .error e o' := by
  simp only [run_setter, bind, EStateM.bind] at h ⊢
  rw [h]

section Started

variable (o : ConnectOperationImpl) (started : o.state ≠ .unstarted)
include started

theorem checkUnstarted_of_started : checkUnstarted.run o = .error ⟨⟩ o := by
  simp [checkUnstarted, run_setter, started]

/-- A checked setter throws on a started operation before it writes. -/
theorem checkedSet_of_started (f : ConnectionOptions → ConnectionOptions) :
    (checkedSet f).run o = .error ⟨⟩ o := by
  simp only [checkedSet, run_setter, bind, EStateM.bind]
  rw [show checkUnstarted o = .error ⟨⟩ o from checkUnstarted_of_started o started]

/-- `setConnectionOptions` on a started operation throws at `setDefaultQueryTimeout`, after the
unchecked `setTimeout` has written. -/
theorem run_setConnectionOptions_of_started (opts : ConnectionOptions) :
    (setConnectionOptions opts).run o = .error ⟨⟩ (stateAfter (setTimeout opts.timeout) o) := by
  have hst : (stateAfter (setTimeout opts.timeout) o).state ≠ .unstarted :=
    (state_exec (.setTimeout opts.timeout) o).trans_ne started
  have h1 : (setTimeout opts.timeout).run o = .ok () (stateAfter (setTimeout opts.timeout) o) := rfl
  simp only [setConnectionOptions, run_setter, bind, EStateM.bind] at h1 ⊢
  rw [h1]
  exact run_bind_of_error _ (checkedSet_of_started _ hst _)

/-- **After `run()`, setters still write the options.** On a started operation `setTcpTimeout`
returns without throwing and sets `connectTcpTimeout`, and `setConnectionOptions` throws only
after `setTimeout` has written the per-attempt timeout. -/
theorem setters_write_after_run (t : Duration) (opts : ConnectionOptions) :
    (SetterCall.setTcpTimeout t).throws o = false ∧
      ((SetterCall.setTcpTimeout t).exec o).connOptions.connectTcpTimeout = some t ∧
      (SetterCall.setConnectionOptions opts).throws o = true ∧
      ((SetterCall.setConnectionOptions opts).exec o).connOptions.timeout = opts.timeout := by
  have h := run_setConnectionOptions_of_started o started opts
  obtain ⟨_, _, _, hw⟩ := operationSetTimeout_writes opts.timeout
    { o with connOptions := { o.connOptions with timeout := opts.timeout } }
  refine ⟨rfl, rfl, ?_, ?_⟩
  · simp only [SetterCall.throws, SetterCall.apply, h]
  · simp only [SetterCall.exec, SetterCall.apply, stateAfter, h]
    exact congrArg (·.connOptions.timeout) hw

end Started

/-- An operation configured with a 1 s attempt timeout, a 5 s total timeout, a 20 ms
TCP-handshake timeout and three attempts, on a client with an event base. -/
def sampleSetup : Setup where
  key := ⟨"db.example", 3306, ""⟩
  self := 1
  options :=
    { timeout := 1000000
      queryTimeout := 0
      totalTimeout := 5000000
      connectTcpTimeout := some 20000
      connectAttempts := 3
      attributes := []
      compression := none
      sslOptionsProvider := none
      sniServerName := none
      dscp := none
      certValidationCallback := none
      certValidationContext := 0
      opPtrAsValidationContext := false
      resetConnBeforeClose := false
      delayedResetConn := false
      changeUserMode := false }
  timeout := 1000000
  operationType := .connect
  eventBaseSet := true
  tcpTimeoutFlag := 0
  connectCallback := true
  killOnQueryTimeout := false
  clock := 0

/-- On the operation `run()` leaves, with a 20 ms TCP-handshake timeout and a 1 s attempt timeout:
`setTcpTimeout(5 ms)` returns and writes 5 ms, and `setConnectionOptions` with a 2 s timeout
throws after writing 2 s. -/
theorem setters_write_after_run_pending :
    ∃ o, (create sampleSetup).run = .ok (o, .specializedRun) ∧ o.state ≠ .unstarted ∧
      o.connOptions.connectTcpTimeout = some 20000 ∧ o.connOptions.timeout = 1000000 ∧
      (SetterCall.setTcpTimeout 5000).throws o = false ∧
      ((SetterCall.setTcpTimeout 5000).exec o).connOptions.connectTcpTimeout = some 5000 ∧
      (SetterCall.setConnectionOptions { sampleSetup.options with timeout := 2000000 }).throws o =
        true ∧
      ((SetterCall.setConnectionOptions { sampleSetup.options with timeout := 2000000 }).exec
        o).connOptions.timeout = 2000000 :=
  ⟨_, rfl, by decide, rfl, rfl, setters_write_after_run _ (by decide) _ _⟩

end ConnectOperationImpl

end Squangle

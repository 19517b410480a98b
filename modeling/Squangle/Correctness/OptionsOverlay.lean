import Squangle.Correctness.Setters

/-!
# `Correctness.OptionsOverlay` — what `setConnectionOptions` does before `run()`

`setConnectionOptions(opts)` is eleven setter calls. On an unstarted operation none of them
throws, so the chain never stops part way, and together they lay `opts` over the options already
set (`ConnectionOptions.overlay`): every value `opts` carries is taken, an optional one only when
present, the certificate callback's context and flag only with a callback, and the three enable
flags (`resetConnBeforeClose`, `delayedResetConn`, `changeUserMode`) never. The operation timeout
becomes `min(timeout, totalTimeout)` of `opts`, and nothing else of the operation changes: no
timer is armed and no effect is recorded (`setConnectionOptions_overlays`).

Each step is a simp lemma that runs one setter at the head of a `>>=` chain on an unstarted
operation; the chain is then run by `simp only`.
-/

namespace Squangle

/-- What `setConnectionOptions(opts)` is for: `opts` laid over the options `c` already set. Every
value of `opts` is taken, an optional one only when present, the certificate callback's context
and flag only together with a callback; the enable flags stay as they were. -/
def ConnectionOptions.overlay (c opts : ConnectionOptions) : ConnectionOptions where
  timeout := opts.timeout
  queryTimeout := opts.queryTimeout
  totalTimeout := opts.totalTimeout
  connectTcpTimeout := opts.connectTcpTimeout <|> c.connectTcpTimeout
  connectAttempts := opts.connectAttempts
  attributes := opts.attributes
  compression := opts.compression
  sslOptionsProvider := opts.sslOptionsProvider <|> c.sslOptionsProvider
  sniServerName := opts.sniServerName <|> c.sniServerName
  dscp := opts.dscp <|> c.dscp
  certValidationCallback := opts.certValidationCallback <|> c.certValidationCallback
  certValidationContext :=
    if opts.certValidationCallback.isSome then opts.certValidationContext
    else c.certValidationContext
  opPtrAsValidationContext :=
    if opts.certValidationCallback.isSome then opts.opPtrAsValidationContext
    else c.opPtrAsValidationContext
  resetConnBeforeClose := c.resetConnBeforeClose
  delayedResetConn := c.delayedResetConn
  changeUserMode := c.changeUserMode

namespace ConnectOperationImpl

/-- An optional unchecked setter call: a write when the value is present, nothing otherwise. -/
theorem run_forM_modifyOptions_bind {o : ConnectOperationImpl} {α β : Type} (x : Option α)
    (f : α → ConnectionOptions → ConnectionOptions) (g : Unit → SetterM β) :
    ((x.forM fun a => modifyOptions (f a)) >>= g).run o =
      (g ()).run { o with connOptions := x.elim o.connOptions fun a => f a o.connOptions } := by
  cases x <;> rfl

section Unstarted

variable {o : ConnectOperationImpl} (hu : o.state = .unstarted)
include hu

theorem run_checkedSet_bind {β : Type} (f : ConnectionOptions → ConnectionOptions)
    (g : Unit → SetterM β) :
    (checkedSet f >>= g).run o = (g ()).run { o with connOptions := f o.connOptions } := by
  simp [checkedSet, checkUnstarted, modifyOptions, run_setter, bind, EStateM.bind, modify,
    modifyGet, MonadStateOf.modifyGet, EStateM.modifyGet, hu]

theorem run_setTimeout_bind {β : Type} (t : Duration) (g : Unit → SetterM β) :
    (setTimeout t >>= g).run o =
      (g ()).run { o with connOptions := { o.connOptions with timeout := t }, timeout := t } := by
  simp [setTimeout, operationSetTimeout, modifyOptions, run_setter, bind, EStateM.bind, modify,
    modifyGet, MonadStateOf.modifyGet, EStateM.modifyGet, hu]

theorem run_setTotalTimeout_bind {β : Type} (t : Duration) (g : Unit → SetterM β) :
    (setTotalTimeout t >>= g).run o =
      (g ()).run { o with
        connOptions := { o.connOptions with totalTimeout := t }
        timeout := Duration.min o.timeout t } := by
  simp [setTotalTimeout, operationSetTimeout, modifyOptions, run_setter, bind, EStateM.bind,
    modify, modifyGet, MonadStateOf.modifyGet, EStateM.modifyGet, get, getThe,
    MonadStateOf.get, EStateM.get, hu]

/-- An optional checked setter call: a write when the value is present, nothing otherwise. -/
theorem run_forM_checkedSet_bind {α β : Type} (x : Option α)
    (f : α → ConnectionOptions → ConnectionOptions) (g : Unit → SetterM β) :
    ((x.forM fun a => checkedSet (f a)) >>= g).run o =
      (g ()).run { o with connOptions := x.elim o.connOptions fun a => f a o.connOptions } := by
  cases x with
  | none => rfl
  | some a => exact run_checkedSet_bind hu (f a) g

theorem run_forM_checkedSet {α : Type} (x : Option α)
    (f : α → ConnectionOptions → ConnectionOptions) :
    (x.forM fun a => checkedSet (f a)).run o =
      .ok () { o with connOptions := x.elim o.connOptions fun a => f a o.connOptions } := by
  simpa using run_forM_checkedSet_bind hu x f pure

/-- **`setConnectionOptions` on an unstarted operation lays `opts` over the options**: it does
not throw, it leaves `overlay` of the options and `opts`, the operation timeout
`min(timeout, totalTimeout)` of `opts`, and every other part of the operation as it was. -/
theorem setConnectionOptions_overlays (opts : ConnectionOptions) :
    (setConnectionOptions opts).run o =
      .ok () { o with
        connOptions := o.connOptions.overlay opts
        timeout := Duration.min opts.timeout opts.totalTimeout } := by
  unfold setConnectionOptions
  delta setDscp setTcpTimeout setSniServerName
  simp only [setDefaultQueryTimeout, setAttributes, setConnectAttempts,
    setCompression, setSSLOptionsProvider,
    setCertValidationCallback, run_setTimeout_bind, run_checkedSet_bind, run_forM_checkedSet_bind,
    run_setTotalTimeout_bind, run_forM_modifyOptions_bind, run_forM_checkedSet, hu]
  obtain ⟨_, _, _, tcp, _, _, _, ssl, sni, dscp, cb, _, _, _, _, _⟩ := opts
  cases tcp <;> cases ssl <;> cases sni <;> cases dscp <;> cases cb <;> rfl

end Unstarted

theorem setConnectionOptions_overlays_create :
    (create sampleSetup).state = .unstarted ∧
      (setConnectionOptions sampleSetup.options).run (create sampleSetup) =
        .ok () { create sampleSetup with
          connOptions := (create sampleSetup).connOptions.overlay sampleSetup.options
          timeout := Duration.min sampleSetup.options.timeout sampleSetup.options.totalTimeout } :=
  ⟨rfl, setConnectionOptions_overlays (by rfl) sampleSetup.options⟩

end ConnectOperationImpl

end Squangle

import Squangle.MysqlClient.ConnectOperation

/-!
# `MysqlClient.Setters` — the option setters of `ConnectOperationImpl`

A setter may throw `OperationStateException` part way, after some of its writes took effect, so
setters run in `EStateM`: an error result still carries the state the writes left.

Most setters are one family, `checkedSet`: `CHECK_THROW(state() == Unstarted)`, then one write
to `conn_options_`. `setTcpTimeout` and the three enablers write without the check, and
`setTimeout` / `setTotalTimeout` also reach `OperationImpl::setTimeout`; those keep their own
bodies. `setAttributes`, `setCompression` and `OperationImpl::setTimeout` are not in the
repository's files and follow the spec (§3 and §4.2).
-/

namespace Squangle

/-- A member function of `ConnectOperationImpl` that may throw `OperationStateException`. -/
abbrev SetterM := EStateM OperationStateException ConnectOperationImpl

namespace ConnectOperationImpl

/-- The state a member function leaves, whether it returned or threw. -/
def stateAfter {α : Type} (m : SetterM α) (o : ConnectOperationImpl) : ConnectOperationImpl :=
  match m.run o with
  | .ok _ o' => o'
  | .error _ o' => o'

/-- `CHECK_THROW(state() == OperationState::Unstarted, db::OperationStateException)`. -/
def checkUnstarted : SetterM Unit := fun o =>
  if o.state = .unstarted then .ok () o else .error ⟨⟩ o

/-- One write to `conn_options_`. -/
def modifyOptions (f : ConnectionOptions → ConnectionOptions) : SetterM Unit :=
  modify fun o => { o with connOptions := f o.connOptions }

/-- The checked setter family: the state check, then one write to `conn_options_`. -/
def checkedSet (f : ConnectionOptions → ConnectionOptions) : SetterM Unit := do
  checkUnstarted
  modifyOptions f

/-- `setDefaultQueryTimeout(t)`. -/
def setDefaultQueryTimeout (t : Duration) : SetterM Unit :=
  checkedSet fun c => { c with queryTimeout := t }

/-- `setSniServerName(sni_servername)`. -/
def setSniServerName (name : String) : SetterM Unit :=
  checkedSet fun c => { c with sniServerName := some name }

/-- `setCertValidationCallback(callback, context, opPtrAsContext)`. -/
def setCertValidationCallback (callback : Option CertValidatorCallback) (context : Ptr)
    (opPtrAsContext : Bool) : SetterM Unit :=
  checkedSet fun c =>
    { c with
      certValidationCallback := callback
      certValidationContext := context
      opPtrAsValidationContext := opPtrAsContext }

/-- `setConnectAttempts(max_attempts)`. -/
def setConnectAttempts (maxAttempts : UInt32) : SetterM Unit :=
  checkedSet fun c => { c with connectAttempts := maxAttempts }

/-- `setDscp(dscp)`. -/
def setDscp (dscp : UInt8) : SetterM Unit :=
  checkedSet fun c => { c with dscp := some dscp }

/-- `setSSLOptionsProvider(ssl_options_provider)`. -/
def setSSLOptionsProvider (provider : Option Ptr) : SetterM Unit :=
  checkedSet fun c => { c with sslOptionsProvider := provider }

/-- Modelled from the spec: `setAttributes(attributes)` is a checked setter (§3). -/
def setAttributes (attributes : List (String × String)) : SetterM Unit :=
  checkedSet fun c => { c with attributes := attributes }

/-- Modelled from the spec: `setCompression(lib)` is a checked setter (§3). -/
def setCompression (lib : Option String) : SetterM Unit :=
  checkedSet fun c => { c with compression := lib }

/-- `setKillOnQueryTimeout(killOnQueryTimeout)`: checked, writes the operation's own flag. -/
def setKillOnQueryTimeout (killOnQueryTimeout : Bool) : SetterM Unit := do
  checkUnstarted
  modify fun o => { o with killOnQueryTimeout := killOnQueryTimeout }

/-- `setSSLOptionsProviderBase(...)`: the deprecated setter checks, logs and drops its
argument. -/
def setSSLOptionsProviderBase : SetterM Unit := checkUnstarted

/-- `enableResetConnBeforeClose()`: no state check. -/
def enableResetConnBeforeClose : SetterM Unit :=
  modifyOptions fun c => { c with resetConnBeforeClose := true }

/-- `enableDelayedResetConn()`: no state check. -/
def enableDelayedResetConn : SetterM Unit :=
  modifyOptions fun c => { c with delayedResetConn := true }

/-- `enableChangeUser()`: no state check. -/
def enableChangeUser : SetterM Unit :=
  modifyOptions fun c => { c with changeUserMode := true }

/-- `setTcpTimeout(timeout)`: no state check. -/
def setTcpTimeout (timeout : Duration) : SetterM Unit :=
  modifyOptions fun c => { c with connectTcpTimeout := some timeout }

/-- Modelled from the spec: `OperationImpl::setTimeout(t)` sets the operation timeout, and on a
started operation that has not completed it recomputes the current attempt's deadline (§4.2:
`setTimeout` may be called after `run()`). -/
def operationSetTimeout (t : Duration) : SetterM Unit :=
  modify fun o => if o.state = .pending ∨ o.state = .cancelling then
    o.cancelTimeout.setTimeoutInternal t else { o with timeout := t }

/-- `setTimeout(timeout)`. -/
def setTimeout (timeout : Duration) : SetterM Unit := do
  modifyOptions fun c => { c with timeout := timeout }
  operationSetTimeout timeout

/-- `setTotalTimeout(total_timeout)`: the operation timeout drops to `min(getTimeout(), total)`. -/
def setTotalTimeout (totalTimeout : Duration) : SetterM Unit := do
  modifyOptions fun c => { c with totalTimeout := totalTimeout }
  let o ← get
  operationSetTimeout (Duration.min o.timeout totalTimeout)

/-- `setConnectionOptions(conn_opts)`, in the order of the source; an optional field is set only
when present. -/
def setConnectionOptions (opts : ConnectionOptions) : SetterM Unit := do
  setTimeout opts.timeout
  setDefaultQueryTimeout opts.queryTimeout
  setAttributes opts.attributes
  setConnectAttempts opts.connectAttempts
  opts.dscp.forM setDscp
  setTotalTimeout opts.totalTimeout
  setCompression opts.compression
  opts.connectTcpTimeout.forM setTcpTimeout
  opts.sniServerName.forM setSniServerName
  opts.sslOptionsProvider.forM fun _ => setSSLOptionsProvider opts.sslOptionsProvider
  opts.certValidationCallback.forM fun _ =>
    setCertValidationCallback opts.certValidationCallback opts.certValidationContext
      opts.opPtrAsValidationContext

end ConnectOperationImpl

/-- A call of one of the option setters, with its arguments. -/
inductive SetterCall
  | setConnectionOptions (opts : ConnectionOptions)
  | setDefaultQueryTimeout (t : Duration)
  | setSniServerName (name : String)
  | enableResetConnBeforeClose
  | enableDelayedResetConn
  | enableChangeUser
  | setCertValidationCallback (callback : Option CertValidatorCallback) (context : Ptr)
      (opPtrAsContext : Bool)
  | setTimeout (t : Duration)
  | setTcpTimeout (t : Duration)
  | setTotalTimeout (t : Duration)
  | setConnectAttempts (maxAttempts : UInt32)
  | setDscp (dscp : UInt8)
  | setKillOnQueryTimeout (killOnQueryTimeout : Bool)
  | setSSLOptionsProviderBase
  | setSSLOptionsProvider (provider : Option Ptr)

namespace SetterCall

/-- The member function a call runs. -/
def apply : SetterCall → SetterM Unit
  | .setConnectionOptions opts => ConnectOperationImpl.setConnectionOptions opts
  | .setDefaultQueryTimeout t => ConnectOperationImpl.setDefaultQueryTimeout t
  | .setSniServerName name => ConnectOperationImpl.setSniServerName name
  | .enableResetConnBeforeClose => ConnectOperationImpl.enableResetConnBeforeClose
  | .enableDelayedResetConn => ConnectOperationImpl.enableDelayedResetConn
  | .enableChangeUser => ConnectOperationImpl.enableChangeUser
  | .setCertValidationCallback callback context opPtrAsContext =>
    ConnectOperationImpl.setCertValidationCallback callback context opPtrAsContext
  | .setTimeout t => ConnectOperationImpl.setTimeout t
  | .setTcpTimeout t => ConnectOperationImpl.setTcpTimeout t
  | .setTotalTimeout t => ConnectOperationImpl.setTotalTimeout t
  | .setConnectAttempts n => ConnectOperationImpl.setConnectAttempts n
  | .setDscp dscp => ConnectOperationImpl.setDscp dscp
  | .setKillOnQueryTimeout b => ConnectOperationImpl.setKillOnQueryTimeout b
  | .setSSLOptionsProviderBase => ConnectOperationImpl.setSSLOptionsProviderBase
  | .setSSLOptionsProvider provider => ConnectOperationImpl.setSSLOptionsProvider provider

/-- The state a call leaves, whether it returned or threw. -/
def exec (c : SetterCall) (o : ConnectOperationImpl) : ConnectOperationImpl :=
  ConnectOperationImpl.stateAfter c.apply o

/-- Whether the call threw `OperationStateException`. -/
def throws (c : SetterCall) (o : ConnectOperationImpl) : Bool :=
  match c.apply.run o with
  | .ok _ _ => false
  | .error _ _ => true

end SetterCall

end Squangle

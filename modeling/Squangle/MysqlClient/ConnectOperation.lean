import Squangle.MysqlClient.Operation

/-!
# `MysqlClient.ConnectOperation` — the attempt loop of `ConnectOperation.cpp`

The member functions of `ConnectOperationImpl` as the code computes them. A handler that can end
by starting the next attempt returns its `Tail`: the code calls `specializedRun()` as the last
act of `attemptFailed`, and reaches `attemptFailed` only as the last act of `actionable`,
`timeoutHandler` and `specializedRunImpl`. What `specializedRun()` then does depends on the
connection (`conn().runInThread`), so the two drivers, `EventLoop` and `SyncClient`, interpret
the tail.

`OperationImpl::run` and `completeOperation[Inner]` are not in the repository's files; they
follow the spec's §4.1.
-/

namespace Squangle

/-- `db::OperationStateException`, thrown by `CHECK_THROW` on a call made in the wrong state. -/
structure OperationStateException where
  deriving DecidableEq, Repr

/-- What the constructor and the client fix for an operation: the key, the front object's
address, the default-constructed options and timeout, the operation type, whether the client has
an event base, the flag `async_mysql_connect_tcp_timeout_micros`, whether a connect callback was
given, the initial `killOnQueryTimeout_`, and the clock at construction. -/
structure Setup where
  key : ConnectionKey
  self : Ptr
  options : ConnectionOptions
  timeout : Duration
  operationType : OperationType
  eventBaseSet : Bool
  tcpTimeoutFlag : Duration
  connectCallback : Bool
  killOnQueryTimeout : Bool
  clock : Nat

/-- Modelled from the spec: `kCallbackDelayStallThresholdUs`, the stall threshold (§4.2,
default 50 ms). -/
def kCallbackDelayStallThresholdUs : Nat := 50000

/-- What the event loop knows when a timer fires: the client's average callback delay
(`callbackDelayMicrosAvg()`), the stage the connection reached (`getConnectStageName()`) and
whether its TCP handshake is done (`isDoneWithTcpHandShake()`). -/
structure LoopReport where
  cbDelayUs : Nat
  stage : String
  tcpHandshakeDone : Bool
  deriving DecidableEq, Repr

namespace ConnectOperationImpl

/-- `ConnectOperationImpl(mysql_client, conn_key)`: `flags_`, `active_in_client_ = true`, and
`mysql_client->activeConnectionAdded(conn_key_)`. -/
def create (s : Setup) : ConnectOperationImpl where
  state := .unstarted
  result := .unknown
  timeout := s.timeout
  timer := none
  startTime := s.clock
  clock := s.clock
  waiting := false
  error := .none
  operationType := s.operationType
  eventBaseSet := s.eventBaseSet
  connKey := s.key
  activeInClient := true
  tcpTimer := none
  connOptions := s.options
  killOnQueryTimeout := s.killOnQueryTimeout
  attemptsMade := 0
  connectCallback := s.connectCallback
  self := s.self
  tcpTimeoutFlag := s.tcpTimeoutFlag
  initialized := false
  tries := 0
  trace := [.activeConnectionAdded]

variable (o : ConnectOperationImpl)

/-! ## Completion -/

/-- `removeClientReference()`: drop the client's active-connection count once. -/
def removeClientReference : ConnectOperationImpl :=
  if o.activeInClient then { o.emit .activeConnectionRemoved with activeInClient := false }
  else o

/-- `~ConnectOperationImpl()`. -/
def destroy : ConnectOperationImpl := o.removeClientReference

/-- `tcp_timeout_handler_.cancelTimeout()`. -/
def cancelTcpTimeout : ConnectOperationImpl :=
  { o.emit .cancelTcpTimeout with tcpTimer := none }

/-- The `db::FailureReason` `logConnectCompleted` reports for a result other than success. -/
def failureReason : OperationResult → FailureReason
  | .timedOut => .timeout
  | .cancelled => .cancelled
  | _ => .databaseError

/-- `logConnectCompleted(result)`: nothing before the connection was initialized; otherwise one
success or one failure record. -/
def logConnectCompleted (result : OperationResult) : ConnectOperationImpl :=
  if !o.initialized then o
  else if result = .succeeded then o.emit .logConnectionSuccess
  else o.emit (.logConnectionFailure (failureReason result) o.error)

/-- `maybeStoreSSLSession()`. -/
def maybeStoreSSLSession : ConnectOperationImpl :=
  if o.result != .succeeded || !o.initialized then o
  else o.emitOpt o.connOptions.sslOptionsProvider .storeSession

/-- `specializedCompleteOperation()`. -/
def specializedCompleteOperation : ConnectOperationImpl :=
  let o := if o.operationType = .connect then o.maybeStoreSSLSession else o
  let o := o.cancelTcpTimeout
  let o := o.logConnectCompleted o.result
  let o := (o.emit (.setConnectionOptions o.killOnQueryTimeout)).emit .notify
  let o := if o.connectCallback then { o.emit .connectCallback with connectCallback := false }
    else o
  o.removeClientReference

/-- Modelled from the spec: `completeOperationInner(result)` (§4.1 step 5) enters `Completed`
with `result`, unregisters the socket, cancels the per-attempt timeout and runs
`specializedCompleteOperation`. -/
def completeOperationInner (r : OperationResult) : ConnectOperationImpl :=
  (({ o with state := .completed, result := r }.emit (.complete r)).unregisterHandler.cancelTimeout
    ).specializedCompleteOperation

/-- Modelled from the spec: `completeOperation(result)` does nothing on a completed operation. -/
def completeOperation (r : OperationResult) : ConnectOperationImpl :=
  if o.state = .completed then o else o.completeOperationInner r

/-! ## The attempt loop -/

/-- `shouldCompleteOperation(result)`. -/
def shouldCompleteOperation (result : OperationResult) : Bool :=
  decide (o.connOptions.connectAttempts.toNat ≤ o.attemptsMade) || result == .cancelled ||
    o.hasOpElapsed (o.connOptions.totalTimeout + Duration.oneMs)

/-- `attemptFailed(result)`. -/
def attemptFailed (result : OperationResult) : ConnectOperationImpl × Tail :=
  let o := { o with attemptsMade := o.attemptsMade + 1 }
  if o.shouldCompleteOperation result then (o.completeOperation result, .ret)
  else
    let o := (o.logConnectCompleted result).cancelTcpTimeout.unregisterHandler.cancelTimeout.emit
      .close
    (o.setTimeoutInternal
      (Duration.min (o.connOptions.timeout + o.opElapsed) o.connOptions.totalTimeout),
      .specializedRun)

/-- `attemptSucceeded(result)`. -/
def attemptSucceeded (result : OperationResult) : ConnectOperationImpl × Tail :=
  ({ o with attemptsMade := o.attemptsMade + 1 }.completeOperation result, .ret)

/-- The message `actionable` records for an invalid socket descriptor. -/
def invalidDescriptorMessage : String :=
  "mysql_get_socket_descriptor returned an invalid descriptor"

/-- `actionable()`: one `tryConnect` call and what its outcome leads to. -/
def actionable (h : MysqlHandler) : ConnectOperationImpl × Tail :=
  let out := h.tryConnect o.tries
  let usingUnixSocket := !o.connKey.unixSocketPath.isEmpty
  let o := { o.emit .tryConnect with tries := o.tries + 1, clock := o.clock + out.took }
  match out.status with
  | .error => (o.snapshotMysqlErrors out.errno out.errorMessage).attemptFailed .failed
  | status =>
    let o := if (out.tcpHandshakeDone || usingUnixSocket) && o.tcpTimer.isSome then
        o.cancelTcpTimeout else o
    if out.socketDescriptor ≤ 0 then
      (o.setAsyncClientError (.squangle .sqInitializationFailed)
        (.text invalidDescriptorMessage)).attemptFailed .failed
    else if status = .done then
      ((o.changeHandlerFD out.socketDescriptor).emit .connectionOpened).attemptSucceeded
        .succeeded
    else ((o.changeHandlerFD out.socketDescriptor).waitForActionable, .ret)

/-- The TCP-handshake timeout `specializedRunImpl` computes: `duration_cast<Millis>` of
`connectTcpTimeout`, or of the flag when it is unset. -/
def tcpTimeoutMillis : Int := (o.connOptions.connectTcpTimeout.getD o.tcpTimeoutFlag).toMillis

/-- `specializedRunImpl()`: set up one attempt, then `actionable()`. -/
def specializedRunImpl (h : MysqlHandler) : ConnectOperationImpl × Tail :=
  let o := if o.attemptsMade = 0 then { o.emit .initializeConn with initialized := true }
    else o.emit .initMysqlOnly
  let o := o.removeClientReference
  let o := o.emit (.setConnectAttributes o.connOptions.attributes)
  let o := o.emitOpt o.connOptions.compression .setCompression
  let o := o.emitOpt o.connOptions.sslOptionsProvider .setSSLOptionsProvider
  let o := o.emitOpt o.connOptions.sniServerName .setSniServerName
  let o := o.emitOpt o.connOptions.dscp .setDscp
  let o := if o.connOptions.certValidationCallback.isSome then
      o.emit (.setCertValidatorCallback o.self) else o
  let timeout := o.tcpTimeoutMillis
  let o := if timeout ≠ 0 then
      let o := o.emit (.setConnectTimeout timeout)
      if o.eventBaseSet then
        { o.emit (.scheduleTcpTimeout (toUInt32 timeout)) with tcpTimer := some (toUInt32 timeout) }
      else o
    else o
  o.actionable h

/-- The report `timeoutHandler` formats: the errno picked by the stall check, the key, the stage
(not for a pool connection), the elapsed and nominal times, the callback delay when stalled, and
which timer fired. -/
def timeoutReport (isTcpTimeout isPoolConnection : Bool) (r : LoopReport) : TimeoutReport :=
  let stalled := decide (kCallbackDelayStallThresholdUs ≤ r.cbDelayUs)
  { errno := if stalled then .sqErrnoConnTimeoutLoopStalled else .sqErrnoConnTimeout
    isPoolConnection := isPoolConnection
    host := o.connKey.host
    port := o.connKey.port
    stage := if isPoolConnection then none else some r.stage
    tookMs := o.opElapsed.toMillis
    timeoutMs := o.timeout.toMillis
    cbDelayUs := if stalled then some r.cbDelayUs else none
    isTcpTimeout := isTcpTimeout }

/-- `timeoutHandler(isTcpTimeout, isPoolConnection)`: record `CR_SERVER_LOST` with the timeout
report, then `attemptFailed(TimedOut)`. -/
def timeoutHandler (isTcpTimeout isPoolConnection : Bool) (r : LoopReport) :
    ConnectOperationImpl × Tail :=
  (o.setAsyncClientError crServerLost
    (.connectTimeout (o.timeoutReport isTcpTimeout isPoolConnection r))).attemptFailed .timedOut

/-- `specializedTimeoutTriggered()`: the per-attempt timeout fired. -/
def specializedTimeoutTriggered (r : LoopReport) : ConnectOperationImpl × Tail :=
  o.timeoutHandler false false r

/-- `tcpConnectTimeoutTriggered()`: the TCP-handshake timeout fired; it fails the attempt only
while the handshake is not done. -/
def tcpConnectTimeoutTriggered (r : LoopReport) : ConnectOperationImpl × Tail :=
  if !r.tcpHandshakeDone then o.timeoutHandler true false r else (o, .ret)

/-- Modelled from the spec: `run()` (§4.1) moves an unstarted operation to `Pending`, notes the
start, arms the per-attempt timeout when it is non-zero and calls `specializedRun()`; on any
other state it throws. -/
def run : Except OperationStateException (ConnectOperationImpl × Tail) :=
  if o.state = .unstarted then
    let o := { o with state := .pending, startTime := o.clock }
    .ok (if o.timeout.count = 0 then o else o.scheduleTimeout o.timeout, .specializedRun)
  else .error ⟨⟩

end ConnectOperationImpl

end Squangle

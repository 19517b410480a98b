import Squangle.MysqlClient.ConnectionOptions

/-!
# `MysqlClient.Operation` — the state of one connect operation

`ConnectOperationImpl` holds, in one flat record, the fields of `ConnectOperationImpl` the code in
`ConnectOperation.cpp` reads and writes, the fields of its base `OperationImpl` it reaches
through `state()`, `getTimeout()`, `opElapsed()` and the error snapshot, and the one flag of its
`Connection` it tests (`hasInitialized`). Every call the operation makes on something outside
itself (the driver, the client, the event base, the connection) is pushed onto `trace`, the
observable record (newest call first) every later module states its theorems over.

The base class is not in the repository's files. The primitives of it used here
(`scheduleTimeout`, `cancelTimeout`, `setTimeoutInternal`, `unregisterHandler`,
`waitForActionable`, the error snapshot, `opElapsed`, `hasOpElapsed`) follow the spec's §4.1
and §4.2.
-/

namespace Squangle

/-- `OperationState`. -/
inductive OperationState
  | unstarted
  | pending
  | cancelling
  | completed
  deriving DecidableEq, Repr

/-- `OperationResult`; `unknown` until the operation completes. -/
inductive OperationResult
  | unknown
  | succeeded
  | failed
  | timedOut
  | cancelled
  deriving DecidableEq, Repr

/-- `db::FailureReason`, as `logConnectCompleted` picks it. -/
inductive FailureReason
  | databaseError
  | timeout
  | cancelled
  deriving DecidableEq, Repr

/-- `db::OperationType` of the front object (`getOp().getOperationType()`). -/
inductive OperationType
  | connect
  | poolConnect
  deriving DecidableEq, Repr

/-- `SquangleErrno`, the client-side error numbers of the connect path. Their numeric values
are declared outside the repository's files, so they are kept by name. -/
inductive SquangleErrno
  | sqInitializationFailed
  | sqErrnoConnTimeout
  | sqErrnoConnTimeoutLoopStalled
  deriving DecidableEq, Repr

/-- An error number: the driver's (`conn().getErrno()`, `CR_SERVER_LOST`) or squangle's. -/
inductive Errno
  | mysql (code : Nat)
  | squangle (e : SquangleErrno)
  deriving DecidableEq, Repr

/-- `CR_SERVER_LOST` of the MySQL client library. -/
def crServerLost : Errno := .mysql 2013

/-- The parts `timeoutHandler` joins into its message:
`[<errno>](Mysql Client) Connect[Pool] to <host>:<port> timed out [at stage <stage>]
(took Nms, timeout was Nms) [(CLIENT_OVERLOADED: cb delay Nms, ...)] (TcpTimeout:0|1)`. -/
structure TimeoutReport where
  errno : SquangleErrno
  isPoolConnection : Bool
  host : String
  port : Nat
  stage : Option String
  tookMs : Int
  timeoutMs : Int
  cbDelayUs : Option Nat
  isTcpTimeout : Bool
  deriving DecidableEq, Repr

/-- The message half of an error snapshot. -/
inductive ErrorMessage
  | text (s : String)
  | connectTimeout (r : TimeoutReport)
  deriving DecidableEq, Repr

/-- The `(errno, message)` pair an operation reports (`mysql_errno()`, `mysql_error()`). -/
structure MysqlError where
  errno : Errno
  message : ErrorMessage
  deriving DecidableEq, Repr

/-- The snapshot of an operation that recorded no error. -/
def MysqlError.none : MysqlError := ⟨.mysql 0, .text ""⟩

/-- `MysqlHandler::Status`. -/
inductive Status
  | pending
  | done
  | error
  deriving DecidableEq, Repr

/-- What one `handler.tryConnect(...)` call leaves behind: its status, what the connection then
reports (`getSocketDescriptor`, `isDoneWithTcpHandShake`, `getErrno`, `getErrorMessage`), and how
long the call took on the steady clock, in microseconds. -/
structure Outcome where
  status : Status
  socketDescriptor : Int
  tcpHandshakeDone : Bool
  errno : Nat
  errorMessage : String
  took : Nat
  deriving DecidableEq, Repr

/-- `MysqlHandler`, as far as the connect path uses it: the outcome of its `k`-th `tryConnect`
call, for every `k`. -/
structure MysqlHandler where
  tryConnect : Nat → Outcome

/-- One call the operation makes on the outside world. -/
inductive Effect
  | activeConnectionAdded
  | activeConnectionRemoved
  | initializeConn
  | initMysqlOnly
  | setConnectAttributes (attributes : List (String × String))
  | setCompression (lib : String)
  | setSSLOptionsProvider (provider : Ptr)
  | setSniServerName (name : String)
  | setDscp (dscp : UInt8)
  | setCertValidatorCallback (context : Ptr)
  | setConnectTimeout (ms : Int)
  | scheduleTcpTimeout (ms : UInt32)
  | cancelTcpTimeout
  | tryConnect
  | changeHandlerFD (fd : Int)
  | connectionOpened
  | waitForActionable
  | unregisterHandler
  | scheduleTimeout (deadline : Duration) (elapsed : Duration)
  | cancelTimeout
  | close
  | logConnectionSuccess
  | logConnectionFailure (reason : FailureReason) (error : MysqlError)
  | storeSession (provider : Ptr)
  | setConnectionOptions (killOnQueryTimeout : Bool)
  | notify
  | connectCallback
  | complete (result : OperationResult)
  deriving DecidableEq

/-- How a handler of the operation ends: it returns, or its last act is the call
`specializedRun()`, which starts the next attempt through `conn().runInThread`. -/
inductive Tail
  | ret
  | specializedRun
  deriving DecidableEq, Repr

/-- One connect operation: `ConnectOperationImpl` with the parts of `OperationImpl` and of its
`Connection` the connect path uses, and the `trace` of its calls. `clock` is the steady clock
(microseconds), `startTime` its reading at `run()`; `timer` is the armed per-attempt timeout
(its deadline from the start) and `tcpTimer` the armed TCP-handshake timeout (milliseconds);
`waiting` says the socket is registered for readiness; `tries` counts `tryConnect` calls;
`trace` lists the calls made so far, newest first. -/
structure ConnectOperationImpl where
  state : OperationState
  result : OperationResult
  timeout : Duration
  timer : Option Duration
  startTime : Nat
  clock : Nat
  waiting : Bool
  error : MysqlError
  operationType : OperationType
  eventBaseSet : Bool
  connKey : ConnectionKey
  activeInClient : Bool
  tcpTimer : Option UInt32
  connOptions : ConnectionOptions
  killOnQueryTimeout : Bool
  attemptsMade : Nat
  connectCallback : Bool
  self : Ptr
  tcpTimeoutFlag : Duration
  initialized : Bool
  tries : Nat
  trace : List Effect

namespace ConnectOperationImpl

variable (o : ConnectOperationImpl)

/-- Record one outside call. -/
def emit (e : Effect) : ConnectOperationImpl := { o with trace := e :: o.trace }

/-- `if (const auto& v = opt) { call(*v); }`: one call when the option holds a value. -/
def emitOpt {α : Type} (x : Option α) (call : α → Effect) : ConnectOperationImpl :=
  match x with
  | some v => o.emit (call v)
  | none => o

/-- `emitOpt` touches only the trace. -/
theorem emitOpt_eq {α : Type} (x : Option α) (call : α → Effect) :
    o.emitOpt x call = { o with trace := (x.map call).toList ++ o.trace } := by
  cases x <;> rfl

/-! ## `OperationImpl` primitives (modelled from the spec) -/

/-- `opElapsed()`: the time since `run()`. -/
def opElapsed : Duration := Duration.ofInt (o.clock - o.startTime : Nat)

/-- `hasOpElapsed(d)`: more than `d` has passed since `run()`. -/
def hasOpElapsed (d : Duration) : Bool := decide (d < o.opElapsed)

/-- Arm the per-attempt timeout to fire `deadline` after the start. -/
def scheduleTimeout (deadline : Duration) : ConnectOperationImpl :=
  { o.emit (.scheduleTimeout deadline o.opElapsed) with timer := some deadline }

/-- `cancelTimeout()`: disarm the per-attempt timeout. -/
def cancelTimeout : ConnectOperationImpl := { o.emit .cancelTimeout with timer := none }

/-- Modelled from the spec: `setTimeoutInternal(d)` makes `d` the operation timeout and re-arms
the per-attempt timeout with it (§4.2, "recompute remaining deadline ..., rearm"); a zero
timeout arms nothing, as in `run()`. -/
def setTimeoutInternal (d : Duration) : ConnectOperationImpl :=
  let o := { o with timeout := d }
  if d.count = 0 then o else o.scheduleTimeout d

/-- `unregisterHandler()`: stop watching the socket. -/
def unregisterHandler : ConnectOperationImpl :=
  { o.emit .unregisterHandler with waiting := false }

/-- `changeHandlerFD(fd)`. -/
def changeHandlerFD (fd : Int) : ConnectOperationImpl := o.emit (.changeHandlerFD fd)

/-- `waitForActionable()`: watch the socket for the readiness the driver asked for. -/
def waitForActionable : ConnectOperationImpl :=
  { o.emit .waitForActionable with waiting := true }

/-- `snapshotMysqlErrors(errno, message)`. -/
def snapshotMysqlErrors (errno : Nat) (message : String) : ConnectOperationImpl :=
  { o with error := ⟨.mysql errno, .text message⟩ }

/-- `setAsyncClientError(errno, message)`. -/
def setAsyncClientError (errno : Errno) (message : ErrorMessage) : ConnectOperationImpl :=
  { o with error := ⟨errno, message⟩ }

end ConnectOperationImpl

end Squangle

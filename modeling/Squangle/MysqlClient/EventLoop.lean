import Squangle.MysqlClient.Setters

/-!
# `MysqlClient.EventLoop` — a connect operation on an asynchronous connection

On an asynchronous connection `conn().runInThread(fn)` posts `fn` to the client's event base and
reports whether the base accepted it; the loop later runs posted tasks in order, delivers socket
readiness and timer expiries, and the user thread calls `run()`, `cancel()` and the setters. A
`World` is the operation with its event base, and `step` applies one `Event` to it.

The model leaves the environment free: the loop may run a task, deliver an armed timer's expiry
or a registered socket's readiness in any order, the clock advances by any amount, and the base
may accept or refuse any later task. Every invariant proved over `runEvents` therefore holds for
every interleaving.

`cancel()` is not in the repository's files; it follows the spec (§4.1, §5): on a pending
operation it moves to `Cancelling` and posts `completeOperation(Cancelled)`.
-/

namespace Squangle

/-- A task posted with `runInThread`. -/
inductive Task
  | specializedRunImpl
  | completeOperation (r : OperationResult)
  deriving DecidableEq, Repr

/-- The client's event base as the operation sees it: the tasks posted and not yet run, oldest
first, and whether `runInThread` currently accepts a task. -/
structure EventLoop where
  queue : List Task
  accepting : Bool
  deriving DecidableEq, Repr

/-- A connect operation on an asynchronous connection. -/
structure World where
  op : ConnectOperationImpl
  loop : EventLoop

/-- What can happen next. -/
inductive Event
  | run
  | call (c : SetterCall)
  | cancel
  | socketReady
  | timeout (r : LoopReport)
  | tcpTimeout (r : LoopReport)
  | runTask
  | tick (micros : Nat)
  | setAccepting (accepting : Bool)

namespace World

/-- A fresh operation on an event base that accepts tasks. -/
def init (o : ConnectOperationImpl) : World := ⟨o, ⟨[], true⟩⟩

/-- Post a task. -/
def post (w : World) (t : Task) : World := { w with loop := { w.loop with queue := w.loop.queue ++ [t] } }

/-- `specializedRun()` on an asynchronous connection: `runInThread` posts
`specializedRunImpl`; when the base refuses it the operation completes `Failed`
(`completeOperationInner`). -/
def specializedRun (w : World) : World :=
  if w.loop.accepting then w.post .specializedRunImpl
  else { w with op := w.op.completeOperationInner .failed }

/-- Carry out a handler's tail on this connection. -/
def continueWith (w : World) : ConnectOperationImpl × Tail → World
  | (o, .ret) => { w with op := o }
  | (o, .specializedRun) => ({ w with op := o } : World).specializedRun

/-- Modelled from the spec: `cancel()` on a pending operation moves it to `Cancelling` and posts
`completeOperation(Cancelled)` to the I/O thread, completing inline when the base refuses the
task; in any other state it does nothing. -/
def cancel (w : World) : World :=
  if w.op.state = .pending then
    let w := { w with op := { w.op with state := .cancelling } }
    if w.loop.accepting then w.post (.completeOperation .cancelled)
    else { w with op := w.op.completeOperation .cancelled }
  else w

/-- The loop runs the oldest posted task. -/
def runTask (h : MysqlHandler) (w : World) : World :=
  match w.loop.queue with
  | [] => w
  | t :: q =>
    let w := { w with loop := { w.loop with queue := q } }
    match t with
    | .specializedRunImpl => w.continueWith (w.op.specializedRunImpl h)
    | .completeOperation r => { w with op := w.op.completeOperation r }

end World

/-- One event. The user's `run()` throws on a started operation and changes nothing; a setter
keeps whatever it wrote before it threw. An expiring timer or a ready socket is disarmed as it is
delivered (`AsyncTimeout`, a one-shot socket registration). -/
def step (h : MysqlHandler) (w : World) : Event → World
  | .run => match w.op.run with
    | .ok r => w.continueWith r
    | .error _ => w
  | .call c => { w with op := c.exec w.op }
  | .cancel => w.cancel
  | .socketReady =>
    if w.op.waiting then w.continueWith ({ w.op with waiting := false }.actionable h) else w
  | .timeout r =>
    if w.op.timer.isSome then
      w.continueWith ({ w.op with timer := none }.specializedTimeoutTriggered r)
    else w
  | .tcpTimeout r =>
    if w.op.tcpTimer.isSome then
      w.continueWith ({ w.op with tcpTimer := none }.tcpConnectTimeoutTriggered r)
    else w
  | .runTask => w.runTask h
  | .tick micros => { w with op := { w.op with clock := w.op.clock + micros } }
  | .setAccepting b => { w with loop := { w.loop with accepting := b } }

/-- The world after a sequence of events. -/
def runEvents (h : MysqlHandler) (w : World) (es : List Event) : World := es.foldl (step h) w

@[simp] theorem runEvents_nil (h : MysqlHandler) (w : World) : runEvents h w [] = w := rfl

@[simp] theorem runEvents_cons (h : MysqlHandler) (w : World) (e : Event) (es : List Event) :
    runEvents h w (e :: es) = runEvents h (step h w e) es := rfl

theorem runEvents_append (h : MysqlHandler) (w : World) (es fs : List Event) :
    runEvents h w (es ++ fs) = runEvents h (runEvents h w es) fs := List.foldl_append _ _ _ _

end Squangle

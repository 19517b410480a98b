import Squangle.MysqlClient.EventLoop

/-!
# `MysqlClient.SyncClient` — a connect operation on `SyncConnection`

`SyncConnection::runInThread(fn)` (and `SyncMysqlClient::runInThread`) call `fn()` inline and
return `true`, and `SyncMysqlHandler` blocks, so its `tryConnect` never returns `PENDING`. A
retry therefore runs the next attempt as a nested call inside `attemptFailed`:
`specializedRun -> specializedRunImpl -> actionable -> attemptFailed -> specializedRun`.
`syncSpecializedRun` follows that recursion with an explicit depth bound `fuel`, returning
`none` when the bound is reached; `SyncTermination` proves the bound `max 1 connectAttempts` is
never reached.

`ConnectOperation::mustSucceed()` is `run().wait()` and a check of `ok()`; on a `SyncConnection`
`wait()` does nothing, since the attempts already ran inline.
-/

namespace Squangle

/-- `SyncMysqlHandler`: a handler whose `tryConnect` blocks until it is done or failed. -/
structure SyncMysqlHandler extends MysqlHandler where
  blocking : ∀ k, (tryConnect k).status ≠ .pending

/-- `specializedRun()` on a `SyncConnection`: `runInThread` runs `specializedRunImpl` inline, so
a retry recurses; at most `fuel` attempts are run. -/
def syncSpecializedRun (h : MysqlHandler) : Nat → ConnectOperationImpl → Option ConnectOperationImpl
  | 0, _ => none
  | fuel + 1, o =>
    match o.specializedRunImpl h with
    | (o', .ret) => some o'
    | (o', .specializedRun) => syncSpecializedRun h fuel o'

/-- `run()` on a `SyncConnection`: `OperationImpl::run` and then the inline `specializedRun()`. -/
def syncRun (h : MysqlHandler) (fuel : Nat) (o : ConnectOperationImpl) :
    Except OperationStateException (Option ConnectOperationImpl) :=
  o.run.map fun
    | (o', .ret) => some o'
    | (o', .specializedRun) => syncSpecializedRun h fuel o'

/-- `db::RequiredOperationFailedException` as `mustSucceed` builds it: the text
`"Connect failed: "`, then `mysql_error()`. -/
structure RequiredOperationFailedException where
  lead : String
  mysqlError : ErrorMessage

/-- What `ConnectOperation::mustSucceed()` throws. -/
inductive MustSucceedException
  /-- `run()` on an operation that was already run. -/
  | operationState (e : OperationStateException)
  /-- The operation completed with a result other than `Succeeded`. -/
  | requiredOperationFailed (e : RequiredOperationFailedException)

/-- `ConnectOperation::mustSucceed()` on a `SyncConnection`: `run()` with the inline attempts (at
most `fuel` deep, `none` past that), then `if (!ok())` throw with `"Connect failed: " +
mysql_error()`. -/
def mustSucceed (h : MysqlHandler) (fuel : Nat) (o : ConnectOperationImpl) :
    Option (Except MustSucceedException ConnectOperationImpl) :=
  match syncRun h fuel o with
  | .error e => some (.error (.operationState e))
  | .ok none => none
  | .ok (some o') =>
    some (if o'.result = .succeeded then .ok o'
      else .error (.requiredOperationFailed ⟨"Connect failed: ", o'.error.message⟩))

@[simp] theorem syncSpecializedRun_zero (h : MysqlHandler) (o : ConnectOperationImpl) :
    syncSpecializedRun h 0 o = none := rfl

theorem syncSpecializedRun_succ (h : MysqlHandler) (fuel : Nat) (o : ConnectOperationImpl) :
    syncSpecializedRun h (fuel + 1) o =
      match o.specializedRunImpl h with
      | (o', .ret) => some o'
      | (o', .specializedRun) => syncSpecializedRun h fuel o' := rfl

end Squangle

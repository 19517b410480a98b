import Squangle.Correctness.Setters
import Squangle.MysqlClient.CertValidator

/-!
# `Correctness.CertValidation` — what the certificate callback decides

`setCertValidationCallback` on an unstarted operation stores the callback, its context and the
flag (`setCertValidationCallback_configures`). While the operation lives, `mysqlCertValidator`
returns `0` exactly when the callback accepts, called with the operation's address or with the
stored context as the flag says (`mysqlCertValidator_alive`). Once the operation is destroyed the
weak reference no longer locks, and the validator returns `0` as well: the driver reads it as a
valid certificate (`mysqlCertValidator_destroyed` states both cases).
-/

namespace Squangle

open ConnectOperationImpl

theorem stateAfter_checkedSet {o : ConnectOperationImpl} (hs : o.state = .unstarted)
    (f : ConnectionOptions → ConnectionOptions) :
    stateAfter (checkedSet f) o = { o with connOptions := f o.connOptions } := by
  simp [stateAfter, checkedSet, checkUnstarted, modifyOptions, run_setter, bind, EStateM.bind,
    modify, modifyGet, MonadStateOf.modifyGet, EStateM.modifyGet, hs]

/-- On an unstarted operation the setter stores the callback, its context and the flag. -/
theorem setCertValidationCallback_configures {o : ConnectOperationImpl} (hs : o.state = .unstarted)
    (callback : Option CertValidatorCallback) (context : Ptr) (opPtrAsContext : Bool) :
    ((SetterCall.setCertValidationCallback callback context opPtrAsContext).exec o).connOptions =
      { o.connOptions with
        certValidationCallback := callback
        certValidationContext := context
        opPtrAsValidationContext := opPtrAsContext } := by
  simp only [SetterCall.exec, SetterCall.apply, setCertValidationCallback, stateAfter_checkedSet hs]

/-- **A live operation's callback decides.** The validator returns `0` exactly when the callback
accepts the certificate, called with the operation's address when `opPtrAsContext` is set and with
the stored context otherwise. -/
theorem mysqlCertValidator_alive (live : Liveness) (cert : X509) (context : Ptr)
    (o : ConnectOperationImpl) (callback : CertValidatorCallback) (hctx : context ≠ 0)
    (hlive : live context = some o) (hcb : o.connOptions.certValidationCallback = some callback) :
    (mysqlCertValidator live cert context).map Prod.fst =
      some (if (callback cert (if o.connOptions.opPtrAsValidationContext then context
        else o.connOptions.certValidationContext)).1 then 0 else 1) := by
  simp only [mysqlCertValidator, hctx, if_false, hlive, hcb]
  split <;> rfl

/-- **A live operation's callback decides; a destroyed operation's certificate is accepted.** For
the configuration `setCertValidationCallback(callback, context, opPtrAsContext)` sets on an
unstarted operation, the validator called with the front object's non-null `address` returns `0`
for a live operation with those options exactly when the callback accepts, called with `address`
when `opPtrAsContext` is set and with `context` otherwise. When the weak reference no longer
locks, it returns `0`, the driver's value for a valid certificate, without asking the
callback. -/
theorem mysqlCertValidator_destroyed (live : Liveness) (cert : X509) (address : Ptr)
    (haddr : address ≠ 0) (o : ConnectOperationImpl) (hs : o.state = .unstarted)
    (callback : CertValidatorCallback) (context : Ptr) (opPtrAsContext : Bool) :
    (∀ self, live address = some self →
      self.connOptions = ((SetterCall.setCertValidationCallback (some callback) context
        opPtrAsContext).exec o).connOptions →
      ((mysqlCertValidator live cert address).map Prod.fst = some 0 ↔
        (callback cert (if opPtrAsContext then address else context)).1 = true)) ∧
    (live address = none → mysqlCertValidator live cert address = some (0, none)) := by
  refine ⟨fun self hlive hopt => ?_, fun hdead => by simp [mysqlCertValidator, haddr, hdead]⟩
  rw [setCertValidationCallback_configures hs] at hopt
  rw [mysqlCertValidator_alive live cert address self callback haddr hlive (by rw [hopt]), hopt]
  cases (callback cert (if opPtrAsContext then address else context)).1 <;> simp

/-- The front object at address 1 with a callback that rejects every certificate: while it lives
the validator rejects, and once it is destroyed the validator returns `0`. -/
theorem mysqlCertValidator_destroyed_front :
    (1 : Ptr) ≠ 0 ∧ (create sampleSetup).state = .unstarted ∧
      ((mysqlCertValidator (fun _ => some ((SetterCall.setCertValidationCallback
          (some fun _ _ => (false, "rejected")) 0 false).exec (create sampleSetup)))
          ⟨"server certificate"⟩ 1).map Prod.fst = some 0 ↔ false = true) ∧
      mysqlCertValidator (fun _ => none) ⟨"server certificate"⟩ 1 = some (0, none) :=
  ⟨by decide, rfl,
    (mysqlCertValidator_destroyed _ ⟨"server certificate"⟩ 1 (by decide) (create sampleSetup) rfl
      (fun _ _ => (false, "rejected")) 0 false).1 _ rfl rfl,
    (mysqlCertValidator_destroyed (fun _ => none) ⟨"server certificate"⟩ 1 (by decide)
      (create sampleSetup) rfl (fun _ _ => (false, "rejected")) 0 false).2 rfl⟩

end Squangle

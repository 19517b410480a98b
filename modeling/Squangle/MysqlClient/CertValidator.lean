import Squangle.MysqlClient.ConnectOperation

/-!
# `MysqlClient.CertValidator` — the driver's certificate callback

`specializedRunImpl` registers the static `mysqlCertValidator` with the address of the front
`ConnectOperation` as its context. The driver calls it during the TLS handshake; it locks the
operation through `weak_from_this()`, reads the callback and its context from the options, and
translates the callback's `bool` into the driver's convention, `0` for a valid certificate.
-/

namespace Squangle

/-- What an address holds when the driver calls back: the live operation whose front object is
there, or `none` once it was destroyed (`weak_from_this().lock()` returns null). -/
abbrev Liveness := Ptr → Option ConnectOperationImpl

/-- `mysqlCertValidator(server_cert, context, errptr)`: `none` when a `CHECK` aborts (a null
context, or no callback set); otherwise the value returned and the message stored in `*errptr`,
if the callback gave one. -/
def mysqlCertValidator (live : Liveness) (serverCert : X509) (context : Ptr) :
    Option (Int × Option String) :=
  if context = 0 then none
  else
    match live context with
    | none => some (0, none)
    | some self =>
      match self.connOptions.certValidationCallback with
      | none => none
      | some callback =>
        let callbackContext :=
          if self.connOptions.opPtrAsValidationContext then context
          else self.connOptions.certValidationContext
        let (valid, errorMessage) := callback serverCert callbackContext
        some (if valid then 0 else 1, if errorMessage.isEmpty then none else some errorMessage)

end Squangle

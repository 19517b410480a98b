import Squangle.Base.Duration

/-!
# `MysqlClient.ConnectionOptions` — what a connect operation is configured with

The connection key (`MysqlConnectionKey`), the server certificate and the certificate callback
as the connect path passes them around, and `ConnectionOptions`, the record every setter of
`ConnectOperationImpl` writes and `specializedRunImpl` reads. Pointers (`const void*`,
`ConnectOperation*`) are addresses.

Only the key fields the connect path reads are kept (`host`, `port`, `unixSocketPath`); the
options record keeps every field the modelled setters and `specializedRunImpl` touch.
-/

namespace Squangle

/-- A raw pointer (`const void*`, `ConnectOperation*`), as an address; `0` is `nullptr`. -/
abbrev Ptr := Nat

/-- `X509*`: the server certificate the driver hands to the validator, which passes it to the
user callback untouched. -/
structure X509 where
  pem : String
  deriving DecidableEq

/-- `CertValidatorCallback`: `(cert, context, errorMessage&) -> bool`. The second component is
what the callback wrote into `errorMessage` (empty when it wrote nothing). -/
abbrev CertValidatorCallback := X509 → Ptr → Bool × String

/-- The fields of `MysqlConnectionKey` the connect path reads. -/
structure ConnectionKey where
  host : String
  port : Nat
  unixSocketPath : String
  deriving DecidableEq

/-- `ConnectionOptions`. `certValidationCallback = none` is an empty `std::function`. -/
structure ConnectionOptions where
  timeout : Duration
  queryTimeout : Duration
  totalTimeout : Duration
  connectTcpTimeout : Option Duration
  connectAttempts : UInt32
  attributes : List (String × String)
  compression : Option String
  sslOptionsProvider : Option Ptr
  sniServerName : Option String
  dscp : Option UInt8
  certValidationCallback : Option CertValidatorCallback
  certValidationContext : Ptr
  opPtrAsValidationContext : Bool
  resetConnBeforeClose : Bool
  delayedResetConn : Bool
  changeUserMode : Bool

end Squangle

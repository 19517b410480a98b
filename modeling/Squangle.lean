import Squangle.Base.Duration
import Squangle.MysqlClient.ConnectionOptions
import Squangle.MysqlClient.Operation
import Squangle.MysqlClient.ConnectOperation
import Squangle.MysqlClient.Setters
import Squangle.MysqlClient.EventLoop
import Squangle.MysqlClient.SyncClient
import Squangle.MysqlClient.CertValidator
import Squangle.Correctness.Frame
import Squangle.Correctness.Attempts
import Squangle.Correctness.Setters
import Squangle.Correctness.WorldFrame
import Squangle.Correctness.ClientRefs
import Squangle.Correctness.Deadlines
import Squangle.Correctness.SyncTermination
import Squangle.Correctness.SyncAsync
import Squangle.Correctness.ErrorReport
import Squangle.Correctness.StaleRetry
import Squangle.Correctness.Logging
import Squangle.Correctness.CertValidation
import Squangle.Correctness.TimeArithmetic
import Squangle.Correctness.Lifecycle
import Squangle.Correctness.MustSucceed
import Squangle.Correctness.OptionsOverlay

import SecureEcho.Main
import SecureEcho.Proofs.Connection.Handover
import SecureEcho.Proofs.Registry.Accounting
import SecureEcho.Proofs.Registry.Custody
import SecureEcho.Proofs.Registry.Occupancy
import SecureEcho.Proofs.Registry.Privacy
import SecureEcho.Proofs.Registry.Wakeup
import SecureEcho.Proofs.Ring.Queue
import SecureEcho.Proofs.Connection.Settling
import SecureEcho.Proofs.Channel.Script
import SecureEcho.Proofs.Connection.Relay
import SecureEcho.Proofs.Channel.Waiting
import SecureEcho.Proofs.Channel.Reception
import SecureEcho.Proofs.Settings.Precedence
import SecureEcho.Proofs.Registry.Alone
import SecureEcho.Proofs.EventLoop.Listening
import SecureEcho.Proofs.EventLoop.Token
import SecureEcho.Proofs.Registry.Pending
import SecureEcho.Proofs.Connection.Exhaustion
import SecureEcho.Proofs.Registry.Alternation
import SecureEcho.Proofs.Registry.Live
import SecureEcho.Proofs.Registry.Quiescence
import SecureEcho.Proofs.Ring.Mark
import SecureEcho.Proofs.Ring.Guarded
import SecureEcho.Proofs.Connection.Retry
import SecureEcho.Proofs.Connection.Drained
import SecureEcho.Proofs.Registry.Visit
import SecureEcho.Proofs.Channel.Sealing
import SecureEcho.Proofs.Connection.Shutdown
import SecureEcho.Proofs.Credentials.Complaints
import SecureEcho.Proofs.Credentials.Verification
import SecureEcho.Proofs.Toml.Distinct
import SecureEcho.Proofs.Toml.Reading
import SecureEcho.Proofs.Settings.Overlay

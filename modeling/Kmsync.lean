import Kmsync.Core.EncoderAgreement
import Kmsync.Core.LengthChecks
import Kmsync.Receive.Reconnect
import Kmsync.Receive.Waiting
import Kmsync.Receive.StoppedLoop
import Kmsync.DataPlane.Lanes
import Kmsync.DataPlane.Nonces
import Kmsync.DataPlane.Opening
import Kmsync.DataPlane.Connection
import Kmsync.DataPlane.Transfer
import Kmsync.Capture.Pairing
import Kmsync.Capture.Escape
import Kmsync.Capture.EdgeHistory
import Kmsync.Transmit.Delivery
import Kmsync.Transmit.LatestMove
import Kmsync.Transmit.QueueAccounting
import Kmsync.Keyboard.Strokes
import Kmsync.Clipboard.Sync
import Kmsync.Clipboard.FileTransfer
import Kmsync.Server.FailedSaves
import Kmsync.Server.ProfileSync
import Kmsync.Server.Versions
import Kmsync.Server.Tombstones
import Kmsync.Server.Reactivation
import Kmsync.Server.Tenants
import Kmsync.Server.RelayIsolation
import Kmsync.Server.SignalHistory
import Kmsync.Server.Accounts
import Kmsync.Server.PresenceVersions
import Kmsync.Server.RelayAcks
import Kmsync.Desktop.Layouts
import Kmsync.Client.LanReconnect
import Kmsync.Client.MdnsSound
import Kmsync.Desktop.PeerOrder
import Kmsync.Desktop.PeerDeletion
import Kmsync.Client.IdentityStable
import Kmsync.Desktop.EndpointSurvival
import Kmsync.Platform.MacosModifiers
import Kmsync.Platform.WindowsSafe
import Kmsync.Platform.X11Modifiers
import Kmsync.Platform.X11Sums
import Kmsync.ProofKit.SharedFlags
import Kmsync.Desktop.ConfigHistory
import Kmsync.Server.Durability
import Kmsync.Server.EventStreams

import Rctl.Api.SecurityEpoch
import Rctl.Api.RefreshRotation
import Rctl.Api.NonceWindow
import Rctl.Api.Lockout
import Rctl.Api.StepUpDevices
import Rctl.Relay.Replays
import Rctl.Relay.Pairing
import Rctl.Signal.Ownership
import Rctl.Signal.Presence
import Rctl.Ffi.Gating
import Rctl.Ffi.Destroy
import Rctl.Ffi.Drain
import Rctl.Desktop.StableStates
import Rctl.Ios.ProbedPeer
import Rctl.Ios.StaleDisconnects
import Rctl.Core.FileTransfer
import Rctl.Core.ResumeToken
import Rctl.Core.MediaNegotiator
import Rctl.Ios.EventRouter
import Rctl.Ios.PacketGroups
import Rctl.Crypto.ReplayExact
import Rctl.Core.Forgery
import Rctl.Transport.TlsFallback
import Rctl.Api.FailureCount
import Rctl.Protocol.UniqueJson
import Rctl.Ios.RequestTarget
import Rctl.Ios.CanonicalBytes
import Rctl.Desktop.P2pTransport
import Rctl.Transport.RelayOpens
import Rctl.Transport.ProbeReplay
import Rctl.Transport.Scheduler
import Rctl.Api.SessionExpiry
import Rctl.Api.RecoveryDelivery
import Rctl.Api.StepUpFrame
import Rctl.Api.Provenance

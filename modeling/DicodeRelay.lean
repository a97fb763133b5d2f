import DicodeRelay.Broker.AuthBinding
import DicodeRelay.Broker.Completion
import DicodeRelay.Broker.FlowTokens
import DicodeRelay.Broker.ProviderBinding
import DicodeRelay.Broker.Replays
import DicodeRelay.Broker.SingleUse
import DicodeRelay.Client.Abort
import DicodeRelay.Client.Answers
import DicodeRelay.Client.Auth
import DicodeRelay.Client.BackoffLaw
import DicodeRelay.Client.BodyReads
import DicodeRelay.Client.Confinement
import DicodeRelay.Client.ConnectedReports
import DicodeRelay.Client.DerSignature
import DicodeRelay.Client.Envelope
import DicodeRelay.Client.ErrorListeners
import DicodeRelay.Client.Progress
import DicodeRelay.Client.Reconnects
import DicodeRelay.Relay.Admission
import DicodeRelay.Relay.Correlation
import DicodeRelay.Relay.Deadlines
import DicodeRelay.Relay.LiveWork
import DicodeRelay.Relay.Overlap
import DicodeRelay.Relay.Shutdown
import DicodeRelay.Shared.Preimages
import DicodeRelay.Shared.TagLength
import DicodeRelay.Startup.DryRun
import DicodeRelay.Status.Peaks
import DicodeRelay.Status.Traffic
import DicodeRelay.Status.Wiring
import DicodeRelay.Tunnel.Agreement
import DicodeRelay.Tunnel.Bodies
import DicodeRelay.Tunnel.FanOut
import DicodeRelay.Tunnel.Target
import DicodeRelay.Tunnel.Transparency
import DicodeRelay.Config.Interpolation
import DicodeRelay.Config.Guards
import DicodeRelay.Config.Providers

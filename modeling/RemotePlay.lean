import RemotePlay.Lib.Bytes
import RemotePlay.Lib.Runs
import RemotePlay.Lib.Script
import RemotePlay.Lib.SlotWindow
import RemotePlay.Lib.SlotBuffer
import RemotePlay.Lib.OrderedMap
import RemotePlay.Lib.ExactReads
import RemotePlay.Lib.KeyedList
import RemotePlay.Lib.Dict
import RemotePlay.Lib.Streaks
import RemotePlay.Lib.Faults
import RemotePlay.Lib.MovingAverage
import RemotePlay.Lib.LastByKey
import RemotePlay.Lib.Utf8
import RemotePlay.Lib.Decimal
import RemotePlay.Common.Types
import RemotePlay.Common.Json
import RemotePlay.Common.Config
import RemotePlay.Common.ConfigFile
import RemotePlay.Security.SessionCodes
import RemotePlay.Security.CodeNormalization
import RemotePlay.Security.Crypto
import RemotePlay.Security.Hkdf
import RemotePlay.Security.SecureChannel
import RemotePlay.Security.KeySchedule
import RemotePlay.Security.KeyAgreement
import RemotePlay.Security.ReplayWindow
import RemotePlay.Security.SealOpen
import RemotePlay.Security.NonceUse
import RemotePlay.Networking.UdpProtocol
import RemotePlay.Networking.HeaderCodec
import RemotePlay.Networking.HeaderImage
import RemotePlay.Networking.HeaderBinding
import RemotePlay.Networking.Reassembly
import RemotePlay.Networking.FragmentSafety
import RemotePlay.Networking.SequenceTracking
import RemotePlay.Networking.ReassemblyAccounting
import RemotePlay.Networking.SelfEviction
import RemotePlay.Networking.JitterOrder
import RemotePlay.Networking.HoldTime
import RemotePlay.Networking.UdpTransport
import RemotePlay.Networking.SealedTransport
import RemotePlay.Networking.RejectedDatagrams
import RemotePlay.Networking.PeerSafety
import RemotePlay.Networking.Submissions
import RemotePlay.Networking.PlaintextRefusal
import RemotePlay.Networking.DeliveryOrder
import RemotePlay.Networking.FrameTransfer
import RemotePlay.Networking.FrameDelivery
import RemotePlay.Networking.FrameRoundTrip
import RemotePlay.Networking.SendFrame
import RemotePlay.Networking.LinkStatistics
import RemotePlay.Networking.InputWire
import RemotePlay.Networking.Packet
import RemotePlay.Networking.Protocol
import RemotePlay.Networking.ProtocolCodec
import RemotePlay.Networking.ControlFrames
import RemotePlay.Networking.PayloadExtent
import RemotePlay.Networking.HostileInput
import RemotePlay.Networking.TcpTransport
import RemotePlay.Networking.WriteQueue
import RemotePlay.Networking.ConnectionEnd
import RemotePlay.Networking.FrameStream
import RemotePlay.Networking.RelayAdoption
import RemotePlay.Networking.ConnectAttempt
import RemotePlay.Host.HostSession
import RemotePlay.Host.HostApp
import RemotePlay.Host.Confinement
import RemotePlay.Host.Records
import RemotePlay.Host.Lifecycle
import RemotePlay.Host.Reports
import RemotePlay.Host.PublishedTable
import RemotePlay.Host.Isolation
import RemotePlay.Host.PlayerCap
import RemotePlay.Host.Approval
import RemotePlay.Host.Deadlines
import RemotePlay.Host.ServerFull
import RemotePlay.Host.SessionRuns
import RemotePlay.Host.Restart
import RemotePlay.Adapt.AdaptiveBitrate
import RemotePlay.Adapt.Hysteresis
import RemotePlay.Adapt.DeadZone
import RemotePlay.Client.ClientSession
import RemotePlay.Client.Watchdog
import RemotePlay.Client.SessionRuns
import RemotePlay.Client.Restart
import RemotePlay.Input.InputInjector
import RemotePlay.Input.InjectorRuns
import RemotePlay.Input.PadRuns
import RemotePlay.Input.InputSender
import RemotePlay.Input.SenderRuns
import RemotePlay.Input.HeldKeys
import RemotePlay.Input.DeskState
import RemotePlay.Server.Registry
import RemotePlay.Server.TcpRelay
import RemotePlay.Server.RelaySteps
import RemotePlay.Server.RelayPipe
import RemotePlay.Server.UdpRelay
import RemotePlay.Server.Signaling
import RemotePlay.Server.Coherence
import RemotePlay.Server.Steps
import RemotePlay.Server.Slots
import RemotePlay.Server.Departure
import RemotePlay.Server.RelayTokens
import RemotePlay.Server.MediaAudience
import RemotePlay.App.Hosting
import RemotePlay.App.HostCoordinator
import RemotePlay.App.Invocations
import RemotePlay.App.ClientCoordinator
import RemotePlay.App.SecureStart
import RemotePlay.App.ConnectedPair
import RemotePlay.App.PlayerSeats
import RemotePlay.App.HostSystem
import RemotePlay.App.LivePermissions
import RemotePlay.App.SeatCapacity
import RemotePlay.App.RttSmoothing
import RemotePlay.App.StreamCodec
import RemotePlay.App.StreamerLifecycle
import RemotePlay.App.Rumble
import RemotePlay.App.MediaIntegrity
import RemotePlay.App.BitrateCap
import RemotePlay.App.QuietExchange
import RemotePlay.App.HonestExchange
import RemotePlay.App.RelayBinding
import RemotePlay.App.InputOrder
import RemotePlay.App.Restart
import RemotePlay.App.ThreadReaping
import RemotePlay.Signaling.ReplyOrder
import RemotePlay.Encoding.AudioFifo
import RemotePlay.Encoding.Letterbox
import RemotePlay.Encoding.ScalerCache
import RemotePlay.App.AudioPlayback
import RemotePlay.Capture.ScreenCapture
import RemotePlay.Host.HostStreamer
import RemotePlay.Host.CaptureRuns
import RemotePlay.Host.EncoderRuns
import RemotePlay.Host.CaptureSafety
import RemotePlay.Host.Teardown
import RemotePlay.Decoding.VideoDecoder
import RemotePlay.Client.ClientStreamer
import RemotePlay.Client.StreamRuns
import RemotePlay.App.StreamIntegrity
import RemotePlay.App.InputForwarding
import RemotePlay.Input.Arrivals
import RemotePlay.Input.SenderDelivery
import RemotePlay.App.DesktopInput
import RemotePlay.Input.ControllerReader
import RemotePlay.Input.PadMirror
import RemotePlay.Adapt.Settling
import RemotePlay.Adapt.Overflow

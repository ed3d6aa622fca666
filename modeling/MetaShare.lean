import MetaShare.Foundation.Octets
import MetaShare.Foundation.Decimal
import MetaShare.Foundation.Json
import MetaShare.Foundation.Lines
import MetaShare.Foundation.ReorderBuffer
import MetaShare.Foundation.RingBuffer
import MetaShare.Foundation.TokenBucket
import MetaShare.Foundation.Transitions
import MetaShare.Foundation.Ownership
import MetaShare.Foundation.DependencyChain
import MetaShare.Rtp.Splitting
import MetaShare.Server.State
import MetaShare.Server.Sessions
import MetaShare.Server.Wire
import MetaShare.Server.SendPath
import MetaShare.Server.Gate
import MetaShare.Server.Accounting
import MetaShare.Server.Window
import MetaShare.Server.Transmission
import MetaShare.Server.Repairs
import MetaShare.Server.LineReader
import MetaShare.Server.RtcpThread
import MetaShare.Server.ReadyPort
import MetaShare.Receiver.Endpoint
import MetaShare.Receiver.RepairBudget
import MetaShare.Server.Consume
import MetaShare.Server.Deadlines
import MetaShare.Server.Pacing
import MetaShare.Receiver.Survival
import MetaShare.Receiver.Untrusted
import MetaShare.Capture.PortalPipeWireSource
import MetaShare.Capture.Encoder
import MetaShare.Capture.EncoderOwnership
import MetaShare.Capture.BitrateAdaptation
import MetaShare.Capture.Cadence
import MetaShare.Capture.PipeWireAudioSource
import MetaShare.Capture.AudioEncoder
import MetaShare.Session.RoundTrip
import MetaShare.Session.Feedback
import MetaShare.Session.JitterBuffer
import MetaShare.Session.Outage
import MetaShare.Session.FirstFrame
import MetaShare.Session.Recovery
import MetaShare.Session.Timestamps
import MetaShare.Session.Reports
import MetaShare.Session.Audio
import MetaShare.Session.MonitorPipeline
import MetaShare.Session.Handshake
import MetaShare.Session.Discovery
import MetaShare.Client.RemoteInput
import MetaShare.Server.InputEvents
import MetaShare.Server.NackLoop
import MetaShare.Capture.RemoteDesktop
import MetaShare.Capture.AudioCapture
import MetaShare.Client.SessionInputForwarder
import MetaShare.Client.RemoteInputController
import MetaShare.Client.Attempts
import MetaShare.Client.Screens
import MetaShare.Decoder.AudioDecoder
import MetaShare.Decoder.InputChain
import MetaShare.Decoder.KeyframeRequests
import MetaShare.Decoder.RenderSchedule
import MetaShare.Panel.MainWindow
import MetaShare.Panel.Launch
import MetaShare.Capture.EncoderResources

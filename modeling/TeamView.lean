import TeamView.Lib.BTree
import TeamView.Lib.MachineInt
import TeamView.Lib.Bytes
import TeamView.Lib.Runs
import TeamView.Lib.Channel
import TeamView.Protocol.Control
import TeamView.Protocol.Packet
import TeamView.Relay.Session
import TeamView.Relay.Metrics
import TeamView.Relay.Names
import TeamView.Relay.Room
import TeamView.Relay.ControlState
import TeamView.Relay.Handlers
import TeamView.Relay.Leaving
import TeamView.Relay.Updates
import TeamView.Relay.RoomInvariant
import TeamView.Relay.Lookups
import TeamView.Relay.Control
import TeamView.Relay.Media
import TeamView.Relay.Fanout
import TeamView.Relay.MediaIsolation
import TeamView.Relay.Runtime
import TeamView.Relay.Identity
import TeamView.Relay.AccessGate
import TeamView.Relay.Confidentiality
import TeamView.Relay.ViewerReports
import TeamView.Relay.Targets
import TeamView.Relay.EgressBudget
import TeamView.Relay.FrameBudget
import TeamView.Relay.Departure
import TeamView.Relay.Connection
import TeamView.Lib.Sorted
import TeamView.Protocol.Frame
import TeamView.Client.Reassembly
import TeamView.Client.FrameDelivery
import TeamView.Client.AnnexB
import TeamView.Client.H264Decoder
import TeamView.Client.H264Encoder
import TeamView.Client.SyntheticRoundTrip
import TeamView.Protocol.PacketCodec
import TeamView.Relay.EgressLedger
import TeamView.Relay.EgressTasks
import TeamView.Relay.ViewerIsolation
import TeamView.Relay.EgressExact
import TeamView.Relay.Transparency
import TeamView.Relay.Adaptation
import TeamView.Relay.Polling
import TeamView.Client.Publishing
import TeamView.Client.Broadcaster
import TeamView.Relay.KeyframeRequests
import TeamView.Client.ViewerRecovery
import TeamView.Relay.FailedRequests
import TeamView.Lib.DropQueue
import TeamView.Relay.RemoteInput
import TeamView.Relay.IngressMetrics
import TeamView.Protocol.CompleteFrames
import TeamView.Client.FrameAccounting
import TeamView.Relay.PlainNames
import TeamView.Relay.RoomChanges
import TeamView.Relay.RoomCreation
import TeamView.Client.Channels
import TeamView.Client.UiServer
import TeamView.Relay.Membership
import TeamView.Client.UiFlows
import TeamView.Client.ChannelSwitch
import TeamView.Relay.Screens
import TeamView.Client.ScreenShare
import TeamView.Client.Eviction
import TeamView.Client.LossCount
import TeamView.Client.Audio
import TeamView.Client.ClockSync
import TeamView.Client.DecodeBounds
import TeamView.Client.AudioRoundTrip
import TeamView.Client.AudioSafety
import TeamView.Lib.Blocks
import TeamView.Relay.NameNormalForm
import TeamView.Client.Stats
import TeamView.Client.NalFraming
import TeamView.Client.UiHttp
import TeamView.Relay.Router
import TeamView.Lib.Counting
import TeamView.Relay.Discovery
import TeamView.Client.Capture
import TeamView.Client.ScreenMedia
import TeamView.Client.Integrity
import TeamView.Client.VoiceMedia
import TeamView.Client.DualViewer
import TeamView.Client.VoiceHeard
import TeamView.Client.KeyframeResponse
import TeamView.Client.RemoteControl

import NetworkSim.Tcp.FastRetransmit
import NetworkSim.Tcp.Rounds
import NetworkSim.Tcp.Backlog
import NetworkSim.Tcp.Messages
import NetworkSim.Tcp.Exit
import NetworkSim.Tcp.Peers
import NetworkSim.Tcp.Deadlines
import NetworkSim.Tcp.SendRing
import NetworkSim.Tcp.Diagnostics
import NetworkSim.Tcp.SanityChecks
import NetworkSim.Tcp.IncomingAcks
import NetworkSim.Router.Sha1Spec
import NetworkSim.Router.Sessions
import NetworkSim.Router.Topology
import NetworkSim.Router.Serving
import NetworkSim.Router.Networks
import NetworkSim.Tcp.Transcript
import NetworkSim.Router.RtSpec
import NetworkSim.Router.Bounds
import NetworkSim.Router.Consistency
import NetworkSim.Router.Fates
import NetworkSim.Router.EmittedSums
import NetworkSim.Router.SlowPath
import NetworkSim.Router.Sweep
import NetworkSim.Router.EchoReplies
import NetworkSim.Router.LastReply
import NetworkSim.Router.GivingUp

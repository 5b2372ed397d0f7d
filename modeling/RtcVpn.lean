import RtcVpn.Mux.Transparency
import RtcVpn.Socket.TcpSocket
import RtcVpn.Socket.TcpStep
import RtcVpn.Socket.TcpWrite
import RtcVpn.Socket.TcpClose
import RtcVpn.Library.Reader
import RtcVpn.Socket.UdpSocket
import RtcVpn.Socket.UdpSend
import RtcVpn.Socket.SingleRead
import RtcVpn.Signaling.Json
import RtcVpn.Signaling.SessionController
import RtcVpn.Signaling.PasswordGate
import RtcVpn.Server.Tunnel
import RtcVpn.Mux.Decoding
import RtcVpn.Server.Robustness
import RtcVpn.Http.HttpParser
import RtcVpn.Client.Socks5Session
import RtcVpn.Client.Phases
import RtcVpn.Client.PointerSafety
import RtcVpn.Client.TunnelBytes
import RtcVpn.Client.Upstream
import RtcVpn.Client.Handshake
import RtcVpn.Protocol.UdpPayload
import RtcVpn.Client.UdpRequests
import RtcVpn.Client.SourcePinning
import RtcVpn.Library.Registry
import RtcVpn.Sessions.LiveIds
import RtcVpn.Server.Teardown
import RtcVpn.Server.Ownership
import RtcVpn.Client.Targets
import RtcVpn.Client.Streams
import RtcVpn.Client.Association
import RtcVpn.Library.Duplex
import RtcVpn.Server.Closing
import RtcVpn.Server.Targets
import RtcVpn.Server.Replies
import RtcVpn.Client.AppSteps
import RtcVpn.Client.AppRuns
import RtcVpn.Tunnel.Link
import RtcVpn.Tunnel.CloseProtocol
import RtcVpn.Tunnel.BackPressure
import RtcVpn.Server.TargetSocket
import RtcVpn.Client.Requests
import RtcVpn.Client.Authority
import RtcVpn.Client.RelayStart
import RtcVpn.Socket.Hysteresis
import RtcVpn.Socket.UdpDelivery
import RtcVpn.Http.Relay
import RtcVpn.Http.RelayRuns
import RtcVpn.Server.HttpSession
import RtcVpn.Client.Responses
import RtcVpn.Tunnel.Segmentation
import RtcVpn.Http.Messages
import RtcVpn.Tunnel.Preservation
import RtcVpn.Tunnel.HeadResponses
import RtcVpn.Tunnel.Upgrade
import RtcVpn.Client.Leaks
import RtcVpn.Tunnel.Heads
import RtcVpn.Tunnel.Routing
import RtcVpn.Library.Format
import RtcVpn.Protocol.Decoders
import RtcVpn.Http.Forwarding
import RtcVpn.Server.OriginForm
import RtcVpn.Tunnel.Chunks
import RtcVpn.Server.UdpClient
import RtcVpn.Tunnel.UdpReplies
import RtcVpn.Client.StaleBytes
import RtcVpn.Client.Handover
import RtcVpn.Tunnel.Arrivals
import RtcVpn.Tunnel.Downstream
import RtcVpn.Tunnel.TargetSockets
import RtcVpn.Client.ClientHost
import RtcVpn.Client.HostSteps
import RtcVpn.Library.Projection
import RtcVpn.Client.Isolation
import RtcVpn.Client.HostRuns
import RtcVpn.Client.SessionAlone
import RtcVpn.Library.Selection
import RtcVpn.Server.TunnelsAlone
import RtcVpn.Tunnel.Channel
import RtcVpn.Client.HeldSessions
import RtcVpn.Client.Acceptor
import RtcVpn.Signaling.SignalingPeer
import RtcVpn.Signaling.Login

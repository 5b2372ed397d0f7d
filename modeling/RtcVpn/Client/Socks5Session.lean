import RtcVpn.Http.HttpParser

/-!
# The client's sessions

The client-side `Socks5Session` of `tcp_session`, one for each connection of a
browser. Its events are the callbacks of the browser's `TcpSocket` and those of
the multiplexer's session it creates for its `SYN`, which the multiplexer keeps
until the object is destroyed. What the browser's socket, the multiplexer and
the UDP relay do in turn are actions. The handlers of the handshake index the
receive buffer of the socket, which keeps what earlier reads left in it. The
callback for `DATA_CTRL` frames is never set.
-/

namespace RtcVpn

/-- What a session waits for. -/
inductive Phase where
  | waitGreetingVersion
  | waitSocksMethods
  | waitSocksTCP
  | waitSocksUDP
  | waitSocksIpv4
  | waitSocksDomain
  | waitSocksUdpAddr
  | waitHttpRequestHeaders
  | connecting
  | connected
  | closed
  deriving DecidableEq, Repr

/-- An IPv4 address. -/
structure AddressV4 where
  a : UInt8
  b : UInt8
  c : UInt8
  d : UInt8
  deriving DecidableEq, Repr

/-- `to_bytes`. -/
def AddressV4.toBytes (ip : AddressV4) : Bytes := [ip.a, ip.b, ip.c, ip.d]

/-- An address printed with `%d.%d.%d.%d`. -/
def AddressV4.dottedQuad (ip : AddressV4) : Bytes :=
  decimal ip.a.toNat ++ text "." ++ decimal ip.b.toNat ++ text "." ++ decimal ip.c.toNat ++
    text "." ++ decimal ip.d.toNat

/-- The printed form of an address has at most 255 bytes. -/
theorem AddressV4.dotted_quad_length (ip : AddressV4) : ip.dottedQuad.length ≤ 255 := by
  have hdot : (text ".").length = 1 := by decide
  have hoctet : ∀ b : UInt8, (decimal b.toNat).length ≤ 3 := fun b =>
    decimal_length (by decide) (by have := b.toNat_lt; omega)
  have ha := hoctet ip.a
  have hb := hoctet ip.b
  have hc := hoctet ip.c
  have hd := hoctet ip.d
  simp only [AddressV4.dottedQuad, List.length_append, hdot]
  omega

/-- What a buffer holds once bytes have been read into its front. -/
def overlay (data : Bytes) (buf : Nat → UInt8) : Nat → UInt8 := fun i => data[i]?.getD (buf i)

/-- `Socks5Session`: its members, with `tcp_socket_` and `udp_session_` by whether they are empty
and `session_` by its stream id. `readBuf` is the receive buffer of the browser's socket and
`reading` tells that it has a read in flight or delivered; `created` counts the calls of
`gen_stream_id`, whose answers are `genStreamId`. -/
structure Socks5Session (L : Llhttp) where
  sessionId : UInt32
  genStreamId : Nat → UInt32
  readBuf : Nat → UInt8
  created : Nat := 0
  reading : Bool := true
  tcpSocket : Bool := true
  targetHost : Bytes := []
  targetPort : UInt16 := 0
  session : Option UInt32 := none
  udpSession : Bool := false
  onClose : Bool := true
  httpResponseParser : HttpParser L := .make L .response
  httpRequestParser : HttpParser L := .make L .request
  pendingBuf : List Bytes := []
  phase : Phase := .waitGreetingVersion
  protocol : Protocol := .unknown
  isClosed : Bool := false
  isP2pClosed : Bool := false

/-- The callbacks of the browser's socket, the frames for the session's streams, and
`SocksServer::stop`. With a `SYNACK` comes what the operating system answers when a UDP relay is
opened: the local address and port, or an error, which is thrown. -/
inductive ClientEvent where
  | browserData (data : Bytes)
  | browserClosed
  | browserQueue (status : WriteQueueStatus)
  | synack (ok : Bool) (protocol : Protocol) (relay : Option (AddressV4 × UInt16))
  | data (payload : Bytes) (protocol : Protocol)
  | fin (protocol : Protocol)
  | stop
  deriving DecidableEq, Repr

/-- What a session has the browser's socket, the multiplexer, the relay and its owner do. -/
inductive ClientAction where
  | tcpSend (data : Bytes)
  | tcpClose
  | createSession (streamId : UInt32)
  | sendSyn (streamId : UInt32) (host : Bytes) (port : UInt16) (protocol : Protocol)
  | sendData (streamId : UInt32) (data : Bytes) (protocol : Protocol)
  | sendFin (streamId : UInt32) (protocol : Protocol)
  | sendDataCtrl (streamId : UInt32) (ctrl : CtrlType) (protocol : Protocol)
  | startRelay
  | revP2pData (data : Bytes)
  | onClose (sessionId : UInt32)
  deriving DecidableEq, Repr

/-- An empty pointer is dereferenced, or an exception leaves the handler. -/
inductive ClientFault where
  | nullTcpSocket
  | nullUdpSession
  | nullSession
  | exception
  deriving DecidableEq, Repr

namespace Socks5Session

open Effect

variable {L : Llhttp} {β : Type}

/-- A handler of the session. -/
abbrev Handler (L : Llhttp) (β : Type) : Type := Effect (Socks5Session L) ClientAction ClientFault β

/-! ## Members -/

/-- `tcp_socket_->send`. -/
def tcpSend (data : Bytes) : Handler L Unit := do
  let s ← get
  if s.tcpSocket then emit (.tcpSend data) else fail .nullTcpSocket

/-- `tcp_socket_->close`. -/
def tcpClose : Handler L Unit := do
  let s ← get
  if s.tcpSocket then emit .tcpClose else fail .nullTcpSocket

/-- `session_->stream_id`. -/
def streamId : Handler L UInt32 := do
  let s ← get
  match s.session with
  | some id => pure id
  | none => fail .nullSession

/-- `mux_.send_data` on the session's stream. -/
def muxSendData (data : Bytes) : Handler L Unit := do
  let id ← streamId
  let s ← get
  emit (.sendData id data s.protocol)

/-- `send_socks_reply`. -/
def sendSocksReply (repCode : UInt8) : Handler L Unit :=
  tcpSend [0x05, repCode, 0x00, 0x01, 0, 0, 0, 0, 0, 0]

/-- `send_udp_reply`. -/
def sendUdpReply (host : AddressV4) (port : UInt16) : Handler L Unit :=
  tcpSend ([0x05, 0x00, 0x00, 0x01] ++ host.toBytes ++ [highByte port, lowByte port])

/-- `request_remote_connect`. -/
def requestRemoteConnect : Handler L Unit := do
  let s ← get
  let id := s.genStreamId s.created
  emit (.createSession id)
  emit (.sendSyn id s.targetHost s.targetPort s.protocol)
  modify fun s => { s with
    created := s.created + 1
    session := some id
    phase := .connecting }

/-- The session once it has asked for its target. -/
def requested (s : Socks5Session L) : Socks5Session L :=
  { s with
    created := s.created + 1
    session := some (s.genStreamId s.created)
    phase := .connecting }

/-- `request_remote_connect` sends one `SYN`, for the session's target. -/
theorem run_request_remote_connect (s : Socks5Session L) :
    requestRemoteConnect.run s =
      ⟨s.requested, [.createSession (s.genStreamId s.created),
        .sendSyn (s.genStreamId s.created) s.targetHost s.targetPort s.protocol], .ok ()⟩ := rfl

/-! ## The browser's side of the handshake -/

/-- `handle_greeting_version`; like the other handlers it returns how much it has consumed. -/
def handleGreetingVersion : Handler L Nat := do
  let s ← get
  if s.readBuf 0 = 0x05 then do
    modify fun s => { s with phase := .waitSocksMethods }
    tcpSend [0x05, 0x00]
    pure 2
  else do
    modify fun s => { s with phase := .waitHttpRequestHeaders }
    pure 2

/-- `handle_socks_methods`. -/
def handleSocksMethods : Handler L Nat := do
  let s ← get
  if s.readBuf 1 = 0x01 then do
    modify fun s => { s with phase := .waitSocksTCP, protocol := .socks5Connect }
    pure 2
  else if s.readBuf 1 = 0x03 then do
    modify fun s => { s with phase := .waitSocksUDP, protocol := .udpAssociate }
    pure 2
  else do
    modify fun s => { s with phase := .closed }
    sendSocksReply 0x07
    pure 1

/-- `handle_socks_tcp_udp`. -/
def handleSocksTcpUdp : Handler L Nat := do
  let s ← get
  if s.readBuf 3 = 0x01 then do
    modify fun s => { s with phase := .waitSocksIpv4 }
    pure 2
  else if s.readBuf 3 = 0x03 then do
    modify fun s => { s with phase := .waitSocksDomain }
    pure 2
  else do
    sendSocksReply 0x08
    modify fun s => { s with phase := .closed }
    pure 2

/-- `handle_socks_ipv4`. -/
def handleSocksIpv4 : Handler L Nat := do
  modify fun s => { s with
    targetHost := AddressV4.dottedQuad ⟨s.readBuf 4, s.readBuf 5, s.readBuf 6, s.readBuf 7⟩
    targetPort := join16 (s.readBuf 8) (s.readBuf 9) }
  requestRemoteConnect
  pure 6

/-- `handle_socks_domain`. -/
def handleSocksDomain : Handler L Nat := do
  let s ← get
  let domainLen := (s.readBuf 4).toNat
  modify fun s => { s with
    targetHost := (List.range domainLen).map fun i => s.readBuf (5 + i)
    targetPort := join16 (s.readBuf (domainLen + 5)) (s.readBuf (domainLen + 6)) }
  requestRemoteConnect
  pure (3 + domainLen)

/-- The `switch` of `consume_pending`; `none` is a phase that is not in it, whether it ends the
loop or is left to `default`. -/
def handlerOf : Phase → Option (Handler L Nat)
  | .waitGreetingVersion => some handleGreetingVersion
  | .waitSocksMethods => some handleSocksMethods
  | .waitSocksTCP | .waitSocksUDP => some handleSocksTcpUdp
  | .waitSocksIpv4 => some handleSocksIpv4
  | .waitSocksDomain => some handleSocksDomain
  | _ => none

/-- The loop of `consume_pending`, for a number of turns. -/
def consumeLoop (len : Nat) : Nat → Nat → Handler L Unit
  | 0, _ => pure ()
  | turns + 1, consumed => do
      let s ← get
      match handlerOf s.phase with
      | none => pure ()
      | some handler =>
          if consumed ≥ len then pure ()
          else do
            let n ← handler
            let s ← get
            if s.phase = .closed then tcpClose
            else consumeLoop len turns (consumed + n)

/-! ## The HTTP parsers' callbacks -/

/-- The end of the request parser's callback for headers, once the target is known. -/
def requestTarget (msg : Message) : Handler L Unit := do
  let s ← get
  if s.targetHost.isEmpty then tcpClose
  else do
    modify fun s => { s with
      protocol := if msg.method = text "CONNECT" then .httpsConnect else .httpPlain }
    requestRemoteConnect

/-- The request parser's callback for headers. A port that is no number throws. -/
def onRequestHeaders (msg : Message) : Handler L Unit := do
  let authority := if msg.method = text "CONNECT" then msg.target else msg.getHeader (text "Host")
  modify fun s => { s with targetHost := authority }
  match splitAtFirst 0x3A authority with
  | some (host, port) =>
      match stoi port with
      | some n => do
          modify fun s => { s with targetPort := UInt16.ofInt n, targetHost := host }
          requestTarget msg
      | none => fail .exception
  | none => do
      modify fun s => { s with targetPort := 80 }
      requestTarget msg

/-- The callbacks set on `http_request_parser_`. -/
def requestCallbacks : HttpCallbacks (Socks5Session L) ClientAction ClientFault where
  onHeadersComplete := some onRequestHeaders
  onError := some fun _ _ => tcpClose

/-- The response parser's callback for a piece of the body. -/
def onResponseBody (data : Bytes) : Handler L Unit := do
  let s ← get
  if s.httpResponseParser.isChunked then
    tcpSend (hexadecimal data.length ++ [0x0D, 0x0A] ++ data ++ [0x0D, 0x0A])
  else tcpSend data

/-- The response parser's callback for the end of a message. -/
def onResponseComplete : Handler L Unit := do
  let s ← get
  if s.httpResponseParser.isChunked then tcpSend [0x30, 0x0D, 0x0A, 0x0D, 0x0A] else pure ()

/-- The callbacks set on `http_response_parser_`. -/
def responseCallbacks : HttpCallbacks (Socks5Session L) ClientAction ClientFault where
  onHeadersComplete := some fun msg => tcpSend (msg.serializeHeadersOnly false none)
  onBody := some onResponseBody
  onMessageComplete := some onResponseComplete
  onError := some fun _ _ => tcpClose

/-- Where `http_request_parser_` is. -/
def requestSlot : HttpSlot L (Socks5Session L) where
  read := httpRequestParser
  write p s := { s with httpRequestParser := p }

/-- Where `http_response_parser_` is. -/
def responseSlot : HttpSlot L (Socks5Session L) where
  read := httpResponseParser
  write p s := { s with httpResponseParser := p }

/-! ## Callbacks of the browser's socket -/

/-- `consume_pending`. A turn of the loop consumes at least one byte, so the length of the read
bounds their number. -/
def consumePending (data : Bytes) : Handler L Unit := do
  consumeLoop data.length data.length 0
  let s ← get
  if s.phase = .waitHttpRequestHeaders then do
    let _ ← requestSlot.feed requestCallbacks data
    modify fun s => { s with pendingBuf := s.pendingBuf ++ [data] }
  else pure ()

/-- `process_data`. -/
def processData (data : Bytes) : Handler L Unit := do
  let s ← get
  match s.phase with
  | .connected =>
      match s.protocol with
      | .socks5Connect | .httpPlain | .httpsConnect => muxSendData data
      | _ => pure ()
  | .closed => if s.tcpSocket then tcpClose else pure ()
  | _ => consumePending data

/-- `close_session`. -/
def closeSession : Handler L Unit := do
  let s ← get
  match s.session with
  | some id => if s.isP2pClosed then pure () else emit (.sendFin id s.protocol)
  | none => pure ()
  if s.isClosed then pure ()
  else do
    modify fun s => { s with isClosed := true }
    if s.onClose then emit (.onClose s.sessionId) else pure ()

/-- The write queue callback. -/
def onWriteQueue (status : WriteQueueStatus) : Handler L Unit := do
  let id ← streamId
  let s ← get
  emit (.sendDataCtrl id (if status = .danger then .pause else .receive) s.protocol)

/-! ## Callbacks of the multiplexer's session -/

/-- `reply`: the tunnel of a `CONNECT` request is there. -/
def reply : Bytes := text "HTTP/1.1 200 Connection Established\r\n\r\n"

/-- `fail_reply`. -/
def failReply : Bytes := text "HTTP/1.1 502 Bad Gateway\r\n\r\n"

/-- `http_connected`. -/
def httpConnected (ok : Bool) : Handler L Unit := do
  let s ← get
  if ok then do
    forEach s.pendingBuf muxSendData
    modify fun s => { s with pendingBuf := [] }
  else tcpSend failReply

/-- `https_connected`. -/
def httpsConnected (ok : Bool) : Handler L Unit := tcpSend (if ok then reply else failReply)

/-- `udp_session_` is made and started if it is empty. `UdpSession::start` returns `true` unless
it throws. -/
def startRelay : Handler L Unit := do
  let s ← get
  if s.udpSession then pure ()
  else do
    modify fun s => { s with udpSession := true }
    emit .startRelay

/-- `udp_connected`. -/
def udpConnected (ok : Bool) (relay : Option (AddressV4 × UInt16)) : Handler L Unit :=
  if !ok then sendSocksReply 0x07
  else do
    startRelay
    match relay with
    | some (ip, port) => sendUdpReply ip port
    | none => fail .exception

/-- The reply to the browser in `p2p_synack`. -/
def replyToBrowser (ok : Bool) (protocol : Protocol) (relay : Option (AddressV4 × UInt16)) :
    Handler L Unit :=
  match protocol with
  | .udpAssociate => udpConnected ok relay
  | .httpPlain => httpConnected ok
  | .socks5Connect => sendSocksReply (if ok then 0x00 else 0x05)
  | .httpsConnect => httpsConnected ok
  | _ => pure ()

/-- `p2p_synack`. -/
def p2pSynack (ok : Bool) (protocol : Protocol) (relay : Option (AddressV4 × UInt16)) :
    Handler L Unit := do
  replyToBrowser ok protocol relay
  if !ok then do
    modify fun s => { s with phase := .closed }
    tcpClose
  else modify fun s => { s with phase := .connected }

/-- `p2p_data`. -/
def p2pData (payload : Bytes) (protocol : Protocol) : Handler L Unit :=
  match protocol with
  | .udpAssociate => do
      let s ← get
      if s.udpSession then emit (.revP2pData payload) else fail .nullUdpSession
  | .httpPlain => do
      let _ ← responseSlot.feed responseCallbacks payload
      pure ()
  | .socks5Connect | .httpsConnect => tcpSend payload
  | _ => pure ()

/-- `close`: the pointer is checked. -/
def close : Handler L Unit := do
  let s ← get
  if s.tcpSocket then tcpClose else pure ()

/-- `p2p_close`. -/
def p2pClose : Handler L Unit := do
  modify fun s => { s with isP2pClosed := true }
  close

/-! ## The machine -/

/-- The handler of each event. The next read of the browser's socket is begun when the data
callback has returned. The threads that run the handlers catch what is thrown. -/
def handle : ClientEvent → Handler L Unit
  | .browserData data => do
      modify fun s => { s with readBuf := overlay data s.readBuf, reading := false }
      swallow (· == .exception) do
        processData data
        modify fun s => { s with reading := true }
  | .browserClosed => do
      closeSession
      modify fun s => { s with tcpSocket := false }
  | .browserQueue status => onWriteQueue status
  | .synack ok protocol relay => swallow (· == .exception) (p2pSynack ok protocol relay)
  | .data payload protocol => swallow (· == .exception) (p2pData payload protocol)
  | .fin _ => p2pClose
  | .stop => do
      modify fun s => { s with onClose := false }
      close

/-- A read is not empty and fits into the receive buffer. The close callback runs once. Frames are
delivered once there is a session. -/
def enabled (s : Socks5Session L) : ClientEvent → Bool
  | .browserData data => s.reading && !data.isEmpty && decide (data.length ≤ 8192)
  | .browserClosed => s.tcpSocket
  | .synack _ _ _ => s.session.isSome
  | .data _ _ => s.session.isSome
  | .fin _ => s.session.isSome
  | _ => true

/-- A session after `start`, with whatever the receive buffer holds before the first read. -/
def started (L : Llhttp) (sessionId : UInt32) (genStreamId : Nat → UInt32)
    (readBuf : Nat → UInt8) : Socks5Session L where
  sessionId := sessionId
  genStreamId := genStreamId
  readBuf := readBuf

end Socks5Session

/-- The session as a machine. -/
def socks5Session (L : Llhttp) :
    Machine (Except ClientFault (Socks5Session L)) ClientEvent ClientAction :=
  Effect.machine Socks5Session.enabled Socks5Session.handle

end RtcVpn

import RtcVpn.Client.Responses
import RtcVpn.Server.HttpSession

/-!
# Chunks in both directions

Both ends of a plain HTTP tunnel write the body of a message in chunks if it
came in chunks: the client what comes back from the target, the server what the
browser sends. The client prints the size of a chunk into an array of 24
characters, the server into a stream.
-/

namespace RtcVpn

open HttpWire Effect

/-! ## The encoders -/

/-- `snprintf` of a size with `"%zx\r\n"` into an array of as many characters: what it holds then,
with the null character at the end, and the number returned, which is that of all the characters
there are to print. -/
def snprintfSize (size n : Nat) : Bytes × Nat :=
  let line := hexadecimal n ++ [0x0D, 0x0A]
  (line.take (size - 1) ++ [0x00], line.length)

/-- What the client puts together of a piece: `hlen` characters of `hexbuf`, the data and the end
of a line. -/
def clientChunk (data : Bytes) : Except AccessFault Bytes := do
  let (hexbuf, hlen) := snprintfSize 24 data.length
  let header ← slice hexbuf 0 hlen
  pure (header ++ data ++ [0x0D] ++ [0x0A])

/-- What the server puts together of a piece: what the stream holds, the data and the end of a
line. -/
def serverChunk (data : Bytes) : Bytes :=
  hexadecimal data.length ++ [0x0D, 0x0A] ++ data ++ [0x0D] ++ [0x0A]

/-- A number of 64 bits has at most 16 digits. -/
theorem hexadecimal_length {n : Nat} (h : n < 2 ^ 64) : (hexadecimal n).length ≤ 16 := by
  rw [hexadecimal, List.length_map]
  exact Nat.toDigits_length 16 n 16 (by decide) (by simpa using h)

/-- The array is long enough for every size. -/
theorem client_chunk_eq {data : Bytes} (h : data.length < 2 ^ 64) :
    clientChunk data = .ok (serverChunk data) := by
  have hdigits := hexadecimal_length h
  have hlength : (hexadecimal data.length ++ [0x0D, 0x0A]).length ≤ 18 := by
    rw [List.length_append]
    simp only [List.length_cons, List.length_nil]
    omega
  have htake : (hexadecimal data.length ++ [0x0D, 0x0A]).take (24 - 1) =
      hexadecimal data.length ++ [0x0D, 0x0A] := List.take_of_length_le (by omega)
  have hslice : slice (hexadecimal data.length ++ [0x0D, 0x0A] ++ [0x00]) 0
      (hexadecimal data.length ++ [0x0D, 0x0A]).length =
        .ok (hexadecimal data.length ++ [0x0D, 0x0A]) := by
    exact @slice_append [] _ [0x00] 0 _ rfl rfl
  simp only [clientChunk, snprintfSize, htake, hslice, except_ok_bind]
  rfl

/-! ## The callbacks -/

/-- The callbacks for the pieces of a body and for the end of its message. -/
def bodyEvents (pieces : List Bytes) : List LlhttpEvent :=
  pieces.map .body ++ [.messageComplete]

/-- What is sent for them. -/
def chunksOf (pieces : List Bytes) : List Bytes := pieces.map Relay.chunk ++ [Relay.lastChunk]

/-- Callbacks that write a chunk for a piece and the last chunk at the end. -/
theorem HttpSlot.run_body_events {L : Llhttp} {σ α φ : Type} {slot : HttpSlot L σ}
    {callbacks : HttpCallbacks σ α φ} {send : Bytes → α} {s t : σ}
    (hbody : ∀ p, (slot.onEvent callbacks (.body p)).run s = ⟨s, [send (Relay.chunk p)], .ok ()⟩)
    (hend : (slot.onEvent callbacks .messageComplete).run s =
      ⟨t, [send Relay.lastChunk], .ok ()⟩) (pieces : List Bytes) :
    (forEach (bodyEvents pieces) (slot.onEvent callbacks)).run s =
      ⟨t, (chunksOf pieces).map send, .ok ()⟩ := by
  induction pieces with
  | nil =>
      show (forEach [LlhttpEvent.messageComplete] _).run s = _
      rw [forEach_cons, run_bind, hend]
      rfl
  | cons p pieces ih =>
      show (forEach (.body p :: bodyEvents pieces) _).run s = _
      rw [forEach_cons, run_bind, hbody, andThen_ok, ih]
      rfl

/-- The client's callbacks for the body of a response in chunks. -/
theorem Socks5Session.run_body_events {L : Llhttp} {s : Socks5Session L}
    (hsocket : s.tcpSocket = true) (hchunked : s.httpResponseParser.isChunked = true)
    (pieces : List Bytes) :
    ∃ t, (forEach (bodyEvents pieces) (responseSlot.onEvent responseCallbacks)).run s =
      ⟨t, (chunksOf pieces).map .tcpSend, .ok ()⟩ := by
  have hbody : ∀ p, (responseSlot.onEvent responseCallbacks (.body p)).run s =
      ⟨s, [.tcpSend (Relay.chunk p)], .ok ()⟩ := by
    intro p
    show (onResponseBody p).run s = _
    simp [onResponseBody, tcpSend, hchunked, hsocket, Relay.chunk]
  have hend : (responseSlot.onEvent responseCallbacks .messageComplete).run s =
      ⟨responseSlot.write { responseSlot.read s with messageComplete := true } s,
        [.tcpSend Relay.lastChunk], .ok ()⟩ := by
    show onResponseComplete.run (responseSlot.write _ s) = _
    simp [onResponseComplete, tcpSend, responseSlot, hchunked, hsocket, Relay.lastChunk]
  exact ⟨_, HttpSlot.run_body_events hbody hend pieces⟩

/-- The server's callbacks for the body of a request in chunks. -/
theorem HttpSession.run_body_events {L : Llhttp} {s : HttpSession L}
    (hsocket : s.targetSocket = true) (hchunked : s.httpParseRequest.message.chunked = true)
    (pieces : List Bytes) :
    ∃ t, (forEach (bodyEvents pieces) (requestSlot.onEvent requestCallbacks)).run s =
      ⟨t, (chunksOf pieces).map .targetSend, .ok ()⟩ := by
  have hbody : ∀ p, (requestSlot.onEvent requestCallbacks (.body p)).run s =
      ⟨s, [.targetSend (Relay.chunk p)], .ok ()⟩ := by
    intro p
    show (onRequestBody p).run s = _
    simp [onRequestBody, targetSend, onTarget, hchunked, hsocket, Relay.chunk]
  have hend : (requestSlot.onEvent requestCallbacks .messageComplete).run s =
      ⟨requestSlot.write { requestSlot.read s with messageComplete := true } s,
        [.targetSend Relay.lastChunk], .ok ()⟩ := by
    show onRequestComplete.run (requestSlot.write _ s) = _
    simp [onRequestComplete, targetSend, onTarget, requestSlot, hchunked, hsocket,
      Relay.lastChunk]
  exact ⟨_, HttpSlot.run_body_events hbody hend pieces⟩

/-! ## The body that is sent -/

/-- What is sent for the pieces of a body, one after the other, is a body in chunks of them. -/
theorem chunked_body_of_pieces {pieces : List Bytes} (h : ∀ p ∈ pieces, p ≠ []) :
    ChunkedBody pieces (chunksOf pieces).flatten := by
  have hbytes : (chunksOf pieces).flatten = pieces.flatMap chunk ++ (lastChunk ++ crlf) := by
    rw [chunksOf, List.flatten_append, ← List.flatMap_def]
    rfl
  rw [hbytes]
  exact chunked_body_chunks h

/-- The callbacks of both ends write the same bytes for a body in chunks: a valid body in chunks
with the same pieces, which reads back as all of them, and whose last chunk is the one that is
empty. Both ways to put a chunk together give what is written, for every size of 64 bits. -/
theorem chunks_lossless {L : Llhttp} {pieces : List Bytes} (hpieces : ∀ p ∈ pieces, p ≠ []) :
    (∀ s : Socks5Session L, s.tcpSocket = true → s.httpResponseParser.isChunked = true →
      ∃ t, (forEach (bodyEvents pieces) (Socks5Session.responseSlot.onEvent
        Socks5Session.responseCallbacks)).run s = ⟨t, (chunksOf pieces).map .tcpSend, .ok ()⟩) ∧
    (∀ s : HttpSession L, s.targetSocket = true → s.httpParseRequest.message.chunked = true →
      ∃ t, (forEach (bodyEvents pieces) (HttpSession.requestSlot.onEvent
        HttpSession.requestCallbacks)).run s = ⟨t, (chunksOf pieces).map .targetSend, .ok ()⟩) ∧
    ChunkedBody pieces (chunksOf pieces).flatten ∧
    readBody .chunked (chunksOf pieces).flatten = some (pieces.flatten, [], true, []) ∧
    ∀ data : Bytes, data.length < 2 ^ 64 →
      clientChunk data = .ok (Relay.chunk data) ∧ serverChunk data = Relay.chunk data := by
  have hbody := chunked_body_of_pieces hpieces
  have hserver : ∀ data, serverChunk data = Relay.chunk data := by
    intro data
    simp [serverChunk, Relay.chunk]
  refine ⟨fun s hsocket hchunked => ?_, fun s hsocket hchunked => ?_, hbody, hbody.read_body,
    fun data hlength => ⟨?_, hserver data⟩⟩
  · exact Socks5Session.run_body_events hsocket hchunked pieces
  · exact HttpSession.run_body_events hsocket hchunked pieces
  · rw [client_chunk_eq hlength, hserver]

/-- Two pieces, of which the second looks like the end of the body. -/
def twoPieces : List Bytes := [text "a", text "0\r\n\r\n"]

/-- Both ends in the middle of a message in chunks. -/
def chunkedResponse : Socks5Session .idle :=
  { Socks5Session.started .idle 1 (fun _ => 5) (fun _ => 0) with
    httpResponseParser := { HttpParser.make .idle .response with isChunked := true } }

def chunkedRequest : HttpSession .idle :=
  { httpParseRequest :=
      { HttpParser.make .idle .request with message := { type := .request, chunked := true } } }

theorem chunks_lossless_two :
    (∃ t, (forEach (bodyEvents twoPieces) (Socks5Session.responseSlot.onEvent
      Socks5Session.responseCallbacks)).run chunkedResponse =
        ⟨t, [.tcpSend (text "1\r\na\r\n"), .tcpSend (text "5\r\n0\r\n\r\n\r\n"),
          .tcpSend (text "0\r\n\r\n")], .ok ()⟩) ∧
    (∃ t, (forEach (bodyEvents twoPieces) (HttpSession.requestSlot.onEvent
      HttpSession.requestCallbacks)).run chunkedRequest =
        ⟨t, [.targetSend (text "1\r\na\r\n"), .targetSend (text "5\r\n0\r\n\r\n\r\n"),
          .targetSend (text "0\r\n\r\n")], .ok ()⟩) ∧
    readBody .chunked (text "1\r\na\r\n5\r\n0\r\n\r\n\r\n0\r\n\r\n") =
      some (text "a0\r\n\r\n", [], true, []) ∧
    clientChunk (text "a") = .ok (text "1\r\na\r\n") ∧
    serverChunk (text "a") = text "1\r\na\r\n" := by
  have hchunks : chunksOf twoPieces = [text "1\r\na\r\n", text "5\r\n0\r\n\r\n\r\n",
      text "0\r\n\r\n"] := by decide
  have hbytes : (chunksOf twoPieces).flatten =
      text "1\r\na\r\n5\r\n0\r\n\r\n\r\n0\r\n\r\n" := by decide
  have hone : Relay.chunk (text "a") = text "1\r\na\r\n" := by decide
  have hpieces : ∀ p ∈ twoPieces, p ≠ [] := by decide
  obtain ⟨hclient, hserver, -, hread, hencoders⟩ := @chunks_lossless .idle twoPieces hpieces
  obtain ⟨t, ht⟩ := hclient chunkedResponse rfl rfl
  obtain ⟨u, hu⟩ := hserver chunkedRequest rfl rfl
  obtain ⟨hsnprintf, hstream⟩ := hencoders (text "a") (by decide)
  rw [hchunks] at ht hu
  rw [hbytes] at hread
  rw [hone] at hsnprintf hstream
  exact ⟨⟨t, ht⟩, ⟨u, hu⟩, hread, hsnprintf, hstream⟩

end RtcVpn

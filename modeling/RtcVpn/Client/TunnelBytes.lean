import RtcVpn.Client.Socks5Session

/-!
# Tunnel bytes

What a tunnel carries upstream, told from the browser's bytes alone: everything
for plain HTTP, what stands behind the header block of the `CONNECT` request
for HTTPS, and what stands behind the request for SOCKS5. The header block ends
where the HTTP parser says it does. More bytes from the browser extend the
tunnel bytes and change none of them.
-/

namespace RtcVpn

/-! ## SOCKS5 -/

/-- How long an address of a SOCKS5 request is, by its type and first byte. -/
def addressLength (atyp : UInt8) (first : UInt8) : Option Nat :=
  if atyp = 0x01 then some 4
  else if atyp = 0x03 then some (1 + first.toNat)
  else if atyp = 0x04 then some 16
  else none

/-- The bytes behind a SOCKS5 request, once it is complete. -/
def behindRequest : Bytes → Option Bytes
  | _ :: _ :: _ :: atyp :: first :: rest =>
      match addressLength atyp first with
      | some n =>
          if n + 2 ≤ (first :: rest).length then some ((first :: rest).drop (n + 2)) else none
      | none => none
  | _ => none

/-- The bytes behind a SOCKS5 greeting and request, once both are complete. -/
def socksTail : Bytes → Option Bytes
  | _ :: nmethods :: rest =>
      if nmethods.toNat ≤ rest.length then behindRequest (rest.drop nmethods.toNat) else none
  | _ => none

theorem behind_request_append {bytes tail : Bytes} (h : behindRequest bytes = some tail)
    (more : Bytes) : behindRequest (bytes ++ more) = some (tail ++ more) := by
  match bytes, h with
  | v :: c :: z :: atyp :: first :: rest, h =>
      show behindRequest (v :: c :: z :: atyp :: first :: (rest ++ more)) = _
      simp only [behindRequest] at h ⊢
      cases haddress : addressLength atyp first with
      | none => simp [haddress] at h
      | some n =>
          simp only [haddress] at h ⊢
          split at h
          · next hlen =>
              cases h
              have hmore : n + 2 ≤ (first :: (rest ++ more)).length := by simp at hlen ⊢; omega
              rw [if_pos hmore, ← List.cons_append, List.drop_append_of_le_length hlen]
          · cases h

theorem socks_tail_append {bytes tail : Bytes} (h : socksTail bytes = some tail)
    (more : Bytes) : socksTail (bytes ++ more) = some (tail ++ more) := by
  match bytes, h with
  | v :: nmethods :: rest, h =>
      show socksTail (v :: nmethods :: (rest ++ more)) = _
      simp only [socksTail] at h ⊢
      split at h
      · next hlen =>
          rw [if_pos (by simp; omega), List.drop_append_of_le_length hlen]
          exact behind_request_append h more
      · cases h

/-! ## HTTP -/

/-- The callback reports the headers of a `CONNECT` request. -/
def LlhttpEvent.isConnect : LlhttpEvent → Bool
  | .headersComplete info => info.methodName == text "CONNECT"
  | _ => false

/-- The bytes behind the header block of the first `CONNECT` request, once the parser has paused
behind it. -/
def connectTail (L : Llhttp) : L.State → List Bytes → Option Bytes
  | _, [] => none
  | s, read :: reads =>
      match L.execute s read with
      | (t, events, .pausedUpgrade consumed) =>
          if events.any LlhttpEvent.isConnect then
            consumed.map fun n => read.drop n ++ reads.flatten
          else connectTail L (L.resumeAfterUpgrade t) reads
      | (t, _, .ok) => connectTail L t reads
      | (_, _, .error _ _) => none

theorem connect_tail_append {L : Llhttp} {s : L.State} {reads : List Bytes} {tail : Bytes}
    (h : connectTail L s reads = some tail) (more : List Bytes) :
    connectTail L s (reads ++ more) = some (tail ++ more.flatten) := by
  induction reads generalizing s with
  | nil => cases h
  | cons read reads ih =>
      rw [List.cons_append]
      rcases hexecute : L.execute s read with ⟨t, events, errno⟩
      simp only [connectTail, hexecute] at h ⊢
      cases errno with
      | ok => exact ih h
      | error code reason => cases h
      | pausedUpgrade consumed =>
          dsimp only at h ⊢
          split at h
          · next hconnect =>
              obtain ⟨n, rfl, rfl⟩ := Option.map_eq_some_iff.mp h
              simp [hconnect]
          · next hother =>
              rw [if_neg hother]
              exact ih h

/-! ## Every protocol -/

/-- The protocols of a tunnel that carries a stream of bytes. -/
def Tunnelled (p : Protocol) : Prop :=
  p = .httpPlain ∨ p = .httpsConnect ∨ p = .socks5Connect

/-- What the tunnel has to carry of what the browser has sent so far. -/
def tunnelBytes (L : Llhttp) (protocol : Protocol) (reads : List Bytes) : Option Bytes :=
  match protocol with
  | .httpPlain => some reads.flatten
  | .httpsConnect => connectTail L (L.init .request) reads
  | .socks5Connect => socksTail reads.flatten
  | _ => none

/-- What the browser sends later stands behind what it has sent so far. -/
theorem tunnel_bytes_append {L : Llhttp} {protocol : Protocol} {reads : List Bytes}
    {tunnel : Bytes} (h : tunnelBytes L protocol reads = some tunnel) (more : List Bytes) :
    tunnelBytes L protocol (reads ++ more) = some (tunnel ++ more.flatten) := by
  cases protocol with
  | httpPlain =>
      cases h
      simp [tunnelBytes]
  | httpsConnect => exact connect_tail_append h more
  | socks5Connect =>
      rw [tunnelBytes, List.flatten_append]
      exact socks_tail_append h more.flatten
  | unknown | udpAssociate | other => cases h

end RtcVpn

import RtcVpn.Tunnel.Preservation

/-!
# Responses to HEAD requests

A response to a `HEAD` request has no body, whatever its headers announce. Llhttp
frames a response from its status and headers alone unless `on_headers_complete`
returns 1, which tells it to skip the body. The callback of `HttpParser` never
does, so that the responses of a tunnel are found if and only if no response to
a `HEAD` request announces a body.
-/

namespace RtcVpn

open HttpWire

/-- A request by its method, and the response to it with the bytes the target sends for it. -/
structure Exchange where
  method : Bytes
  response : WireMessage
  wire : Bytes

/-- Requests and their responses, in order. For `HEAD` the bytes are those of a head; for any other
method they are those of a message, the last of which may end with the connection. -/
inductive Exchanges : List Exchange → Prop where
  | nil : Exchanges []
  | head {x : Exchange} {xs : List Exchange} (hmethod : x.method = text "HEAD")
      (hempty : x.response.body = [] ∧ x.response.trailers = [] ∧ x.response.ended = true)
      (hread : ∀ rest, readHead .response (x.wire ++ rest) =
        some (x.response.start, x.response.fields, rest))
      (hframing : (framing x.response.start x.response.fields).isSome) (hrest : Exchanges xs) :
      Exchanges (x :: xs)
  | other {x : Exchange} {xs : List Exchange} (hmethod : x.method ≠ text "HEAD")
      (hread : ∀ rest, (x.response.ended = false → rest = []) →
        readMessage .response (x.wire ++ rest) = some (x.response, rest))
      (hended : x.response.ended = false → xs = []) (hrest : Exchanges xs) : Exchanges (x :: xs)

/-- The bytes of responses are empty or begin with a status line. -/
theorem Exchanges.first {xs : List Exchange} (h : Exchanges xs) :
    (xs.map Exchange.wire).flatten = [] ∨ ∃ t, (xs.map Exchange.wire).flatten = 0x48 :: t := by
  cases h with
  | nil => exact .inl rfl
  | @head x xs _ _ hread _ _ =>
      obtain ⟨t, ht⟩ := readHead_first (hread (xs.map Exchange.wire).flatten)
      exact .inr ⟨t, by rw [List.map_cons, List.flatten_cons, ht]⟩
  | @other x xs _ hread hended _ =>
      have hnil : x.response.ended = false → (xs.map Exchange.wire).flatten = [] := by
        intro hlast
        rw [hended hlast]
        rfl
      obtain ⟨t, ht⟩ := readMessage_first (hread _ hnil)
      exact .inr ⟨t, by rw [List.map_cons, List.flatten_cons, ht]⟩

section

variable {L : Llhttp} {sessionId : UInt32} {genStreamId : Nat → UInt32} {readBuf : Nat → UInt8}

end

end RtcVpn

import RtcVpn.Client.Requests

/-!
# The authority of a request

Which host and port the text of a `Host` header or the target of a `CONNECT`
request designates, as the grammar of authorities has it, and what the callback
for headers makes of the text. The callback splits it at the first colon and
reads a number behind it as `std::stoi` does, so it gets names and IPv4 literals
right and every bracketed literal wrong.
-/

namespace RtcVpn

/-! ## Hosts and authorities -/

/-- A letter, a digit, or one of `-._~%!$&'()*+,;=`. -/
def isNameByte (b : UInt8) : Bool :=
  (0x61 ≤ toLower b && toLower b ≤ 0x7A) || isDigit b ||
    [0x2D, 0x2E, 0x5F, 0x7E, 0x25, 0x21, 0x24, 0x26, 0x27, 0x28, 0x29, 0x2A, 0x2B, 0x2C, 0x3B,
      0x3D].contains b

/-- A name or an IPv4 literal, which has the form of one. -/
def HostName (host : Bytes) : Prop := host ≠ [] ∧ ∀ b ∈ host, isNameByte b = true

/-- A group of an IPv6 address: up to four hexadecimal digits. -/
def HexGroup (group : Bytes) : Prop :=
  0 < group.length ∧ group.length ≤ 4 ∧ ∀ b ∈ group, (hexDigit b).isSome

/-- An IPv4 address in place of the last two groups. -/
def DottedGroup (group : Bytes) : Prop := ∃ address : AddressV4, group = address.dottedQuad

/-- Groups between colons, with the number of 16-bit pieces they stand for. -/
inductive Groups : Bytes → Nat → Prop where
  | hex {group : Bytes} (h : HexGroup group) : Groups group 1
  | dotted {group : Bytes} (h : DottedGroup group) : Groups group 2
  | cons {group rest : Bytes} {n : Nat} (h : HexGroup group) (hrest : Groups rest n) :
      Groups (group ++ 0x3A :: rest) (n + 1)

/-- The groups before or behind a double colon, of which there may be none. -/
def OptionalGroups (groups : Bytes) (n : Nat) : Prop := (groups = [] ∧ n = 0) ∨ Groups groups n

/-- An IPv6 address: eight pieces, or fewer around a double colon. -/
def Ipv6Address (address : Bytes) : Prop :=
  Groups address 8 ∨ ∃ before after m n, address = before ++ 0x3A :: 0x3A :: after ∧
    OptionalGroups before m ∧ OptionalGroups after n ∧ m + n ≤ 7

/-- A host: a name, an IPv4 literal, or an IPv6 literal in brackets. -/
def ValidHost (host : Bytes) : Prop :=
  HostName host ∨ ∃ address, Ipv6Address address ∧ host = 0x5B :: address ++ [0x5D]

/-- A port in decimal. -/
def PortText (digits : Bytes) (port : Nat) : Prop :=
  digits ≠ [] ∧ (∀ d ∈ digits, isDigit d = true) ∧ digitsValue digits = port ∧
    1 ≤ port ∧ port ≤ 65535

/-- An authority designates its host and its port, which is 80 when it has none. -/
def Designates (authority host : Bytes) (port : Nat) : Prop :=
  ValidHost host ∧ ((authority = host ∧ port = 80) ∨
    ∃ digits, authority = host ++ 0x3A :: digits ∧ PortText digits port)

theorem HostName.not_mem {host : Bytes} (h : HostName host) : 0x3A ∉ host := by
  intro hmem
  exact absurd (h.2 _ hmem) (by decide)

theorem HexGroup.not_mem {group : Bytes} (h : HexGroup group) : 0x3A ∉ group := by
  intro hmem
  exact absurd (h.2.2 _ hmem) (by decide)

theorem PortText.not_mem {digits : Bytes} {port : Nat} (h : PortText digits port) :
    0x3A ∉ digits := by
  intro hmem
  exact absurd (h.2.1 _ hmem) (by decide)

/-- Eight pieces need a colon between them. -/
theorem Groups.colon {groups : Bytes} {n : Nat} (h : Groups groups n) (hn : 3 ≤ n) :
    0x3A ∈ groups := by
  cases h with
  | hex h => omega
  | dotted h => omega
  | cons h hrest => simp

/-- A bracketed literal has a colon in it. -/
theorem Ipv6Address.colon {address : Bytes} (h : Ipv6Address address) : 0x3A ∈ address := by
  rcases h with h | ⟨before, after, m, n, rfl, -, -, -⟩
  · exact h.colon (by omega)
  · simp

/-- A valid host without a colon is a name or an IPv4 literal. -/
theorem ValidHost.name {host : Bytes} (h : ValidHost host) (hcolon : 0x3A ∉ host) :
    HostName host := by
  rcases h with h | ⟨address, h, rfl⟩
  · exact h
  · exact absurd h.colon (fun hmem => hcolon (by simp [hmem]))

/-- No valid host begins with a colon. -/
theorem ValidHost.head {host : Bytes} (h : ValidHost host) :
    ∃ b rest, host = b :: rest ∧ b ≠ 0x3A := by
  rcases h with h | ⟨address, -, rfl⟩
  · cases host with
    | nil => exact absurd rfl h.1
    | cons b rest =>
        refine ⟨b, rest, rfl, ?_⟩
        rintro rfl
        exact h.not_mem List.mem_cons_self
  · exact ⟨0x5B, address ++ [0x5D], rfl, by decide⟩

namespace Socks5Session

open Effect

variable {L : Llhttp}

end Socks5Session

open Socks5Session

end RtcVpn

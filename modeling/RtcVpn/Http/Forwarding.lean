import RtcVpn.Http.HttpParser
import RtcVpn.Library.HttpWire

/-!
# Headers that go no further than one hop

`prepare_for_forwarding` of `http_parse` removes the headers that a proxy must
not pass on: some that it names itself, those that the `Connection` headers of
the message list, and those that frame the body. A list is cut at its commas
and what is between them is compared as it stands, with the space around it.
-/

namespace RtcVpn

open HttpWire

/-! ## The function -/

/-- The loop over a value of `Connection` from `start` on, for a number of turns. -/
def partsFrom : Nat → Bytes → List Bytes
  | 0, _ => []
  | turns + 1, rest =>
      if rest.isEmpty then []
      else
        match splitAtFirst 0x2C rest with
        | none => [rest]
        | some (part, rest) => part :: partsFrom turns rest

/-- The parts of a value that are collected. A turn of the loop goes on by one byte at least, so
the length of the value bounds their number. -/
def connectionParts (value : Bytes) : List Bytes := partsFrom value.length value

/-- The names that are removed from every message. -/
def fixedHopByHop : List Bytes :=
  [text "Proxy-Authenticate", text "Proxy-Authorization", text "TE", text "Trailer",
    text "Proxy-Connection"]

namespace Message

/-- The values of the `Connection` headers. -/
def connectionValues (m : Message) : List Bytes :=
  (m.headers.filter fun h => iequals h.name (text "Connection")).map Header.value

/-- The parts of all of them. -/
def listedParts (m : Message) : List Bytes := m.connectionValues.flatMap connectionParts

/-- `hop_by_hop` once the `Connection` headers have been read. -/
def hopByHop (m : Message) : List Bytes := fixedHopByHop ++ m.listedParts

/-- A header that frames the body. -/
def isFraming (h : Header) : Bool :=
  iequals h.name (text "Content-Length") || iequals h.name (text "Transfer-Encoding")

end Message

/-- The headers that the proxy adds. -/
def forwardingHeaders (type : HttpType) (proxyViaName clientIp : Bytes) : List Header :=
  ⟨text "Via", proxyViaName⟩ ::
    if type = .request then [⟨text "X-Forwarded-For", clientIp⟩] else []

/-- `prepare_for_forwarding`. -/
def prepareForForwarding (msg : Message) (proxyViaName clientIp : Bytes) : Message :=
  let headers := msg.headers.filter fun h => !msg.hopByHop.any (Message.iequals h.name)
  let headers := headers.filter fun h => !Message.isFraming h
  { msg with headers := headers ++ forwardingHeaders msg.type proxyViaName clientIp }

/-! ## What it is for -/

/-- What is left of a string without the space around it. -/
def trim (s : Bytes) : Bytes := strip isBlank s

namespace Message

/-- The tokens that the `Connection` headers list. -/
def connectionTokens (m : Message) : List Bytes :=
  (m.connectionValues.flatMap fun value => (value.splitOn 0x2C).map trim).filter (· ≠ [])

/-- The header frames the body or is always removed. -/
def AlwaysRemoved (h : Header) : Prop :=
  (∃ name ∈ fixedHopByHop, iequals h.name name) ∨ isFraming h

/-- The header goes no further than one hop. -/
def Removed (m : Message) (h : Header) : Prop :=
  AlwaysRemoved h ∨ ∃ token ∈ m.connectionTokens, iequals h.name token

instance (h : Header) : Decidable (AlwaysRemoved h) := inferInstanceAs (Decidable (_ ∨ _))

instance (m : Message) (h : Header) : Decidable (m.Removed h) :=
  inferInstanceAs (Decidable (_ ∨ _))

/-- The message as it is passed on. -/
def forwarded (m : Message) (proxyViaName clientIp : Bytes) : Message :=
  { m with headers := (m.headers.filter fun h => ¬ m.Removed h) ++
      forwardingHeaders m.type proxyViaName clientIp }

/-- A header that a part with space around it names is named by a part without as well, unless it
is removed anyway, and no other part names a header, space and all. -/
structure NamesPlainly (m : Message) : Prop where
  padded : ∀ h ∈ m.headers, ¬ AlwaysRemoved h → ∀ part ∈ m.listedParts, trim part ≠ part →
    trim part ≠ [] → iequals h.name (trim part) →
    ∃ plain ∈ m.listedParts, trim plain = plain ∧ iequals h.name plain
  spaced : ∀ h ∈ m.headers, ¬ AlwaysRemoved h → ∀ part ∈ m.listedParts, iequals h.name part →
    h.name ≠ [] ∧ trim h.name = h.name

end Message

/-! ## Space -/

/-- Changing the case of letters leaves the space where it is. -/
theorem is_blank_lower (c : UInt8) : isBlank (toLower c) = isBlank c := by
  unfold toLower
  split
  · next hletter =>
      -- a letter is no space, and neither is its lower case
      simp only [UInt8.le_iff_toNat_le] at hletter
      have hlow : 65 ≤ c.toNat := hletter.1
      have hhigh : c.toNat ≤ 90 := hletter.2
      have hsum : (c + 0x20).toNat = c.toNat + 32 := by
        rw [UInt8.toNat_add]
        exact Nat.mod_eq_of_lt (show c.toNat + 32 < 256 by omega)
      have hblank : ∀ d : UInt8, 65 ≤ d.toNat → isBlank d = false := by
        intro d hd
        simp only [isBlank, Bool.or_eq_false_iff, beq_eq_false_iff_ne, ne_eq, ← UInt8.toNat_inj]
        exact ⟨fun h => by simp [h] at hd, fun h => by simp [h] at hd⟩
      rw [hblank c hlow, hblank _ (by omega)]
  · rfl

theorem iequals_iff {a b : Bytes} : Message.iequals a b = true ↔ a.map toLower = b.map toLower := by
  rw [Message.iequals, beq_iff_eq]

/-- Names that are equal but for their case have the same space around them. -/
theorem trim_of_iequals {a b : Bytes} (h : Message.iequals a b = true) :
    trim a = a ↔ trim b = b := by
  rw [iequals_iff] at h
  have hlength := congrArg List.length h
  have htrim := congrArg (fun s => (trim s).length) h
  simp only [trim, strip_map is_blank_lower, List.length_map] at hlength htrim
  rw [trim, trim, strip_eq_self_iff, strip_eq_self_iff, hlength, htrim]

theorem ne_nil_of_iequals {a b : Bytes} (h : Message.iequals a b = true) (ha : a ≠ []) :
    b ≠ [] := by
  rintro rfl
  rw [iequals_iff] at h
  exact ha (List.map_eq_nil_iff.mp h)

/-! ## Lists -/

/-- The parts of a value are what is between its commas, without the end of a value that has
nothing behind its last comma. -/
theorem split_on_parts (value : Bytes) :
    ∃ last, value.splitOn 0x2C = connectionParts value ++ last ∧ ∀ part ∈ last, part = [] := by
  have hloop : ∀ turns rest, rest.length ≤ turns →
      ∃ last, rest.splitOn 0x2C = partsFrom turns rest ++ last ∧ ∀ part ∈ last, part = [] := by
    intro turns
    induction turns with
    | zero =>
        intro rest hrest
        obtain rfl := List.length_eq_zero_iff.mp (Nat.le_zero.mp hrest)
        exact ⟨[[]], rfl, by simp⟩
    | succ turns ih =>
        intro rest hrest
        by_cases hempty : rest = []
        · subst hempty
          exact ⟨[[]], rfl, by simp⟩
        · rw [partsFrom, if_neg (by simpa using hempty)]
          cases hsplit : splitAtFirst 0x2C rest with
          | none =>
              rw [List.splitOn_eq_singleton (splitAtFirst_eq_none.mp hsplit)]
              exact ⟨[], rfl, by simp⟩
          | some parts =>
              obtain ⟨part, rest'⟩ := parts
              obtain ⟨rfl, hpart⟩ := splitAtFirst_eq_some hsplit
              have hshorter : rest'.length ≤ turns := by
                simp only [List.length_append, List.length_cons] at hrest
                omega
              obtain ⟨last, hlast, hnil⟩ := ih rest' hshorter
              refine ⟨last, ?_, hnil⟩
              rw [List.splitOn_append_cons_self, hlast, List.splitOn_eq_singleton hpart]
              rfl
  exact hloop value.length value (Nat.le_refl _)

namespace Message

/-- The tokens are the parts without the space around them, but for those with nothing else. -/
theorem mem_connection_tokens (m : Message) {token : Bytes} :
    token ∈ m.connectionTokens ↔ token ≠ [] ∧ ∃ part ∈ m.listedParts, trim part = token := by
  have htrim : ∀ part : Bytes, part = [] → trim part = [] := by
    rintro _ rfl
    rfl
  simp only [connectionTokens, listedParts, List.mem_filter, List.mem_flatMap, List.mem_map,
    decide_eq_true_eq]
  constructor
  · rintro ⟨⟨value, hvalue, part, hpart, rfl⟩, hne⟩
    obtain ⟨last, hlast, hnil⟩ := split_on_parts value
    rw [hlast, List.mem_append] at hpart
    rcases hpart with hpart | hpart
    · exact ⟨hne, part, ⟨value, hvalue, hpart⟩, rfl⟩
    · exact absurd (htrim part (hnil part hpart)) hne
  · rintro ⟨hne, part, ⟨value, hvalue, hpart⟩, rfl⟩
    obtain ⟨last, hlast, -⟩ := split_on_parts value
    exact ⟨⟨value, hvalue, part, by rw [hlast]; exact List.mem_append_left _ hpart, rfl⟩, hne⟩

/-- The headers that are kept are those that neither a part nor a name of its own removes. -/
theorem prepared_headers (m : Message) (via ip : Bytes) :
    prepareForForwarding m via ip =
      { m with headers := (m.headers.filter fun h =>
          ¬ (AlwaysRemoved h ∨ ∃ part ∈ m.listedParts, iequals h.name part)) ++
        forwardingHeaders m.type via ip } := by
  have hfilter : ((m.headers.filter fun h => !m.hopByHop.any (iequals h.name)).filter
      fun h => !isFraming h) = m.headers.filter fun h =>
        ¬ (AlwaysRemoved h ∨ ∃ part ∈ m.listedParts, iequals h.name part) := by
    rw [List.filter_filter]
    refine List.filter_congr fun h _ => ?_
    rw [← Bool.not_or, decide_not, ← decide_eq_decide.mpr (Iff.refl _)]
    congr 1
    rw [Bool.eq_iff_iff, decide_eq_true_iff]
    simp only [Bool.or_eq_true, List.any_eq_true, hopByHop, List.mem_append, AlwaysRemoved,
      or_and_right, exists_or]
    rw [or_left_comm, ← or_assoc]
  show { m with headers := _ } = _
  rw [hfilter]

/-- A header that is not always removed is removed by a part just if it is by a token. -/
theorem removed_iff {m : Message} (hplain : m.NamesPlainly) {h : Header} (hh : h ∈ m.headers)
    (halways : ¬ AlwaysRemoved h) :
    (∃ part ∈ m.listedParts, iequals h.name part) ↔
      ∃ token ∈ m.connectionTokens, iequals h.name token := by
  constructor
  · rintro ⟨part, hpart, hname⟩
    obtain ⟨hne, htrim⟩ := hplain.spaced h hh halways part hpart hname
    have hpart' : trim part = part := (trim_of_iequals hname).mp htrim
    exact ⟨part, m.mem_connection_tokens.mpr ⟨ne_nil_of_iequals hname hne, part, hpart, hpart'⟩,
      hname⟩
  · rintro ⟨token, htoken, hname⟩
    obtain ⟨hne, part, hpart, rfl⟩ := m.mem_connection_tokens.mp htoken
    by_cases hpadded : trim part = part
    · exact ⟨part, hpart, hpadded ▸ hname⟩
    · obtain ⟨plain, hmem, -, hnamed⟩ := hplain.padded h hh halways part hpart hpadded hne hname
      exact ⟨plain, hmem, hnamed⟩

/-- If just the tokens remove headers, they are named plainly. -/
theorem names_plainly_of_removed {m : Message}
    (hsame : ∀ h ∈ m.headers, ¬ AlwaysRemoved h →
      ((∃ part ∈ m.listedParts, iequals h.name part) ↔
        ∃ token ∈ m.connectionTokens, iequals h.name token)) : m.NamesPlainly where
  padded h hh halways part hpart _ hne hname := by
    have htoken : trim part ∈ m.connectionTokens :=
      m.mem_connection_tokens.mpr ⟨hne, part, hpart, rfl⟩
    obtain ⟨plain, hmem, hnamed⟩ := (hsame h hh halways).mpr ⟨_, htoken, hname⟩
    -- the header has no space around its name, so the part that names it has none
    have hheader : trim h.name = h.name := (trim_of_iequals hname).mpr (strip_strip part)
    exact ⟨plain, hmem, (trim_of_iequals hnamed).mp hheader, hnamed⟩
  spaced h hh halways part hpart hname := by
    obtain ⟨token, htoken, hnamed⟩ := (hsame h hh halways).mp ⟨part, hpart, hname⟩
    obtain ⟨hne, other, -, rfl⟩ := m.mem_connection_tokens.mp htoken
    refine ⟨?_, (trim_of_iequals hnamed).mpr (strip_strip other)⟩
    intro hnil
    rw [iequals_iff, hnil, List.map_nil, eq_comm, List.map_eq_nil_iff] at hnamed
    exact hne hnamed

end Message

/-- Filters that keep the same elements of a list agree on each of them. -/
theorem agree_of_filter_eq {α : Type} {p q : α → Bool} {xs : List α}
    (h : xs.filter p = xs.filter q) : ∀ x ∈ xs, p x = q x := by
  intro x hx
  have hmem : x ∈ xs.filter p ↔ x ∈ xs.filter q := by rw [h]
  rw [List.mem_filter, List.mem_filter] at hmem
  rw [Bool.eq_iff_iff]
  exact ⟨fun hp => (hmem.mp ⟨hx, hp⟩).2, fun hq => (hmem.mpr ⟨hx, hq⟩).2⟩

/-- What is prepared for forwarding is the message as it is to be passed on just if its
`Connection` headers name its headers plainly. -/
theorem prepared_iff (m : Message) (proxyViaName clientIp : Bytes) :
    prepareForForwarding m proxyViaName clientIp = m.forwarded proxyViaName clientIp ↔
      m.NamesPlainly := by
  rw [Message.prepared_headers, Message.forwarded]
  constructor
  · intro heq
    have hheaders := List.append_cancel_right (congrArg Message.headers heq)
    refine Message.names_plainly_of_removed fun h hh halways => ?_
    have hagree := agree_of_filter_eq hheaders h hh
    simp only [Message.Removed, halways, false_or, decide_eq_decide, not_iff_not] at hagree
    exact hagree
  · intro hplain
    have hfilter : (m.headers.filter fun h =>
        ¬ (Message.AlwaysRemoved h ∨ ∃ part ∈ m.listedParts, Message.iequals h.name part)) =
        m.headers.filter fun h => ¬ m.Removed h := by
      refine List.filter_congr fun h hh => ?_
      by_cases halways : Message.AlwaysRemoved h
      · simp [Message.Removed, halways]
      · have hsame := Message.removed_iff hplain hh halways
        simp [Message.Removed, halways, ← hsame]
    rw [hfilter]

/-- A response that lists two headers, with a space behind the comma. -/
def spacedList : Message where
  type := .response
  headers := [⟨text "Connection", text "close, X-Secret"⟩, ⟨text "X-Secret", text "1"⟩]

/-- The header that is named behind the space is passed on. -/
theorem listed_header_passed_on :
    spacedList.connectionTokens = [text "close", text "X-Secret"] ∧
      (prepareForForwarding spacedList (text "p") (text "c")).headers =
        spacedList.headers ++ [⟨text "Via", text "p"⟩] ∧
      ¬ ∀ (m : Message) (proxyViaName clientIp : Bytes),
        prepareForForwarding m proxyViaName clientIp = m.forwarded proxyViaName clientIp := by
  refine ⟨by decide, by decide, fun h => ?_⟩
  have hheaders := congrArg Message.headers (h spacedList (text "p") (text "c"))
  exact absurd hheaders (by decide)

end RtcVpn

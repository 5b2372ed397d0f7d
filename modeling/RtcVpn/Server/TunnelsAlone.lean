import RtcVpn.Library.Projection
import RtcVpn.Library.Selection
import RtcVpn.Server.Replies

/-!
# The tunnels of some streams

What a server does for the streams that are `mine` is what a server does that
has no other tunnels: it takes the messages for these streams only, and numbers
the tunnels it makes for itself. The streams of all tunnels, `ids`, tell which
tunnels are mine and what their numbers are.
-/

namespace RtcVpn

namespace TunnelServer

open Effect Selection

variable {mine : UInt32 → Bool} {ids : List UInt32} {s t : TunnelServer}

/-- What an action is for the tunnels that are mine. -/
def mineAction (mine : UInt32 → Bool) (ids : List UInt32) : ServerAction → Option ServerAction
  | .startTarget k host port =>
      if selects mine ids k then some (.startTarget (number mine ids k) host port) else none
  | .revP2pData k data =>
      if selects mine ids k then some (.revP2pData (number mine ids k) data) else none
  | .closeTarget k => if selects mine ids k then some (.closeTarget (number mine ids k)) else none
  | .startReceive k => if selects mine ids k then some (.startReceive (number mine ids k)) else none
  | .pauseReceive k => if selects mine ids k then some (.pauseReceive (number mine ids k)) else none
  | .sendFin i protocol => if mine i then some (.sendFin i protocol) else none
  | .startTimer => some .startTimer

/-- What an event is for the tunnels that are mine. -/
def mineEvent (mine : UInt32 → Bool) (ids : List UInt32) : ServerEvent → Option ServerEvent
  | .message data => if meantFor mine data then some (.message data) else none
  | .targetClosed k => if selects mine ids k then some (.targetClosed (number mine ids k)) else none
  | .controllerClosed => some .controllerClosed

/-- The session registered for a stream. -/
abbrev find (s : TunnelServer) (i : UInt32) : Option Session := s.mux.sessionManager.findSession i

/-- An entry of `tunnel_sessions_` with the number of its tunnel. -/
def renumber (mine : UInt32 → Bool) (ids : List UInt32) (x : Σ _ : UInt32, Nat) :
    Σ _ : UInt32, Nat := ⟨x.1, number mine ids x.2⟩

/-- The entries of `tunnel_sessions_` for the tunnels that are mine. -/
def mineEntries (mine : UInt32 → Bool) (ids : List UInt32) (l : List (Σ _ : UInt32, Nat)) :
    List (Σ _ : UInt32, Nat) :=
  (l.filter fun x => mine x.1).map (renumber mine ids)

/-- `t` is what `s` is for the tunnels that are mine. -/
structure Restricts (mine : UInt32 → Bool) (ids : List UInt32) (s t : TunnelServer) : Prop where
  made : s.streamIds <+: ids
  tunnels : t.tunnels = s.tunnels.filter fun u => mine u.streamId
  onSyn : t.mux.onSyn = s.mux.onSyn
  streams : ∀ i, t.find i = if mine i then s.find i else none
  owner : ∀ i, mine i = true → (s.find i).isSome → t.owner i = number mine ids (s.owner i)
  entries : t.tunnelSessions.entries = mineEntries mine ids s.tunnelSessions.entries

namespace Restricts

theorem length (h : Restricts mine ids s t) :
    number mine ids s.tunnels.length = t.tunnels.length := by
  have hlength : s.streamIds.length = s.tunnels.length := by rw [streamIds, List.length_map]
  rw [← hlength, prefix_number h.made le_rfl, hlength, streamIds, number_map, number_length,
    h.tunnels]
  rfl

theorem selects_eq (h : Restricts mine ids s t) {k : Nat} {u : TunnelSession}
    (hk : s.tunnels[k]? = some u) : selects mine ids k = mine u.streamId := by
  have hlt : k < s.streamIds.length := by
    rw [streamIds, List.length_map]
    exact (List.getElem?_eq_some_iff.mp hk).1
  rw [prefix_selects h.made hlt]
  exact selects_iff (by rw [streamIds, List.getElem?_map, hk]; rfl)

/-- The number of a tunnel among those that are mine. -/
theorem number_eq (h : Restricts mine ids s t) {k : Nat} (hk : k ≤ s.tunnels.length) :
    number mine ids k = number (fun u => mine u.streamId) s.tunnels k := by
  rw [prefix_number h.made (by rwa [streamIds, List.length_map]), streamIds, number_map]
  rfl

theorem get (h : Restricts mine ids s t) {k : Nat} {u : TunnelSession}
    (hk : s.tunnels[k]? = some u) (hu : mine u.streamId = true) :
    t.tunnels[number mine ids k]? = some u := by
  rw [h.number_eq (List.getElem?_eq_some_iff.mp hk).1.le, h.tunnels]
  exact get_number hk hu

/-- A tunnel of the restricted server is one of the server. -/
theorem mem (h : Restricts mine ids s t) {k : Nat} {u : TunnelSession}
    (hk : t.tunnels[k]? = some u) : u ∈ s.tunnels := by
  have hmem := List.mem_of_getElem? hk
  rw [h.tunnels] at hmem
  exact (List.mem_filter.mp hmem).1

theorem unclosed (h : Restricts mine ids s t) (hs : Unclosed s) : Unclosed t := by
  intro k i c d hk
  rw [List.getElem?_map, Option.map_eq_some_iff] at hk
  obtain ⟨u, hu, houtline⟩ := hk
  obtain ⟨j, hj⟩ := List.mem_iff_getElem?.mp (h.mem hu)
  exact hs j i c d (by rw [List.getElem?_map, hj, Option.map_some, houtline])

/-- A change of a tunnel. -/
theorem modify (h : Restricts mine ids s t) {k : Nat} {f : TunnelSession → TunnelSession}
    (hf : ∀ u, (f u).streamId = u.streamId) {u : TunnelSession} (hk : s.tunnels[k]? = some u) :
    Restricts mine ids { s with tunnels := s.tunnels.modify k f }
      { t with tunnels := if mine u.streamId then t.tunnels.modify (number mine ids k) f
        else t.tunnels } := by
  refine ⟨?_, ?_, h.onSyn, h.streams, h.owner, h.entries⟩
  · have hids : (s.tunnels.modify k f).map TunnelSession.streamId = s.streamIds :=
      map_modify_same hk (hf u)
    show (s.tunnels.modify k f).map TunnelSession.streamId <+: ids
    rw [hids]
    exact h.made
  · show _ = (s.tunnels.modify k f).filter fun u => mine u.streamId
    rw [filter_modify (fun u => by rw [hf]), selects_iff hk, h.tunnels,
      h.number_eq (List.getElem?_eq_some_iff.mp hk).1.le]

/-! ## Handlers -/

/-- From `s` and `t` on, `y` does what `x` does for the tunnels that are mine. -/
def Moves (mine : UInt32 → Bool) (ids : List UInt32) (s t : TunnelServer) (x y : ServerHandler) :
    Prop :=
  ∀ s' out, x.run s = ⟨s', out, .ok ()⟩ → s'.streamIds <+: ids →
    ∃ t', y.run t = ⟨t', out.filterMap (mineAction mine ids), .ok ()⟩ ∧ Restricts mine ids s' t'

/-- An action that is taken with the interface of a tunnel. -/
theorem moves_use (h : Restricts mine ids s t) {k : Nat} {i : UInt32} (hlive : LiveTunnel s i k)
    {a b : ServerAction}
    (hab : mineAction mine ids a = if selects mine ids k then some b else none) :
    Moves mine ids s t (do let _ ← interfaceOf k; emit a)
      (if mine i then do let _ ← interfaceOf (number mine ids k); emit b else pure ()) := by
  obtain ⟨u, j, hk, rfl, hinterface⟩ := hlive
  intro s' out hrun _
  have hx : (do let _ ← interfaceOf k; emit a : ServerHandler).run s = ⟨s, [a], .ok ()⟩ := by
    simp [interfaceOf, hk, hinterface]
  rw [hx] at hrun
  cases hrun
  rw [h.selects_eq hk] at hab
  by_cases hu : mine u.streamId = true
  · rw [if_pos hu] at hab ⊢
    exact ⟨t, by simp [interfaceOf, h.get hk hu, hinterface, hab], h⟩
  · rw [if_neg hu] at hab ⊢
    exact ⟨t, by simp [hab], h⟩

theorem moves_close (h : Restricts mine ids s t) {k : Nat} {i : UInt32} (hlive : LiveTunnel s i k) :
    Moves mine ids s t (close k)
      (if mine i then close (number mine ids k) else pure ()) := by
  obtain ⟨u, j, hk, rfl, hinterface⟩ := hlive
  intro s' out hrun _
  rw [run_close hk hinterface] at hrun
  cases hrun
  have hmodify := h.modify (f := p2pClosed j) (fun _ => rfl) hk
  have haction : mineAction mine ids (.closeTarget k) =
      if mine u.streamId then some (.closeTarget (number mine ids k)) else none := by
    rw [mineAction, h.selects_eq hk]
  by_cases hu : mine u.streamId = true
  · rw [if_pos hu] at hmodify haction ⊢
    refine ⟨_, ?_, hmodify⟩
    rw [run_close (h.get hk hu) hinterface]
    simp [haction]
  · rw [if_neg hu] at hmodify haction ⊢
    exact ⟨_, by simp [haction], hmodify⟩

/-! ## Opening and closing -/

theorem not_mem_keys {i : UInt32} (hi : mine i ≠ true) (l : List (Σ _ : UInt32, Nat)) :
    i ∉ (mineEntries mine ids l).keys := by
  intro hmem
  obtain ⟨y, hy, hkey⟩ := List.mem_map.mp hmem
  obtain ⟨z, hz, rfl⟩ := List.mem_map.mp hy
  have hkey' : z.1 = i := hkey
  have hmine := (List.mem_filter.mp hz).2
  rw [hkey'] at hmine
  exact hi hmine

/-- Erasing an entry. -/
theorem kerase_entries (i : UInt32) (l : List (Σ _ : UInt32, Nat)) :
    mineEntries mine ids (l.kerase i) = (mineEntries mine ids l).kerase i := by
  induction l with
  | nil => rfl
  | cons x l ih =>
      by_cases hx : mine x.1 = true
      · have hcons : ∀ ys, mineEntries mine ids (x :: ys) =
            renumber mine ids x :: mineEntries mine ids ys := by
          intro ys
          simp [mineEntries, hx]
        by_cases hi : i = x.1
        · rw [List.kerase_cons_eq hi, hcons]
          exact (List.kerase_cons_eq (s := renumber mine ids x) hi).symm
        · rw [List.kerase_cons_ne hi, hcons, hcons, ih]
          exact (List.kerase_cons_ne (s := renumber mine ids x) hi).symm
      · have hcons : ∀ ys, mineEntries mine ids (x :: ys) = mineEntries mine ids ys := by
          intro ys
          simp [mineEntries, hx]
        rw [hcons]
        by_cases hi : i = x.1
        · -- no entry of the stream is among those that are mine
          have hnot : i ∉ (mineEntries mine ids l).keys := not_mem_keys (hi ▸ hx) l
          rw [List.kerase_cons_eq hi, List.kerase_of_notMem_keys hnot]
        · rw [List.kerase_cons_ne hi, hcons, ih]

theorem opened (h : Restricts mine ids s t) {i : UInt32} {protocol : Protocol}
    (hmade : (s.opened i protocol).streamIds <+: ids) :
    Restricts mine ids (s.opened i protocol) (if mine i then t.opened i protocol else t) := by
  have hfind : ∀ (u : TunnelServer) j, (u.opened i protocol).find j =
      if j = i then some (tunnelCallbacks i) else u.find j :=
    fun u j => SessionManager.find_register_session _ _ _
  have hlength := h.length
  by_cases hi : mine i = true
  · rw [if_pos hi]
    refine ⟨hmade, ?_, h.onSyn, fun j => ?_, fun j hj hsome => ?_, ?_⟩
    · show t.tunnels ++ _ = (s.tunnels ++ _).filter _
      rw [List.filter_append, h.tunnels, List.filter_cons_of_pos (by exact hi)]
      rfl
    · rw [hfind, hfind, h.streams]
      by_cases hji : j = i
      · rw [if_pos hji, if_pos hji, hji, if_pos hi]
      · rw [if_neg hji, if_neg hji]
    · show Function.update t.owner i t.tunnels.length j =
        number mine ids (Function.update s.owner i s.tunnels.length j)
      by_cases hji : j = i
      · rw [hji, Function.update_self, Function.update_self, hlength]
      · rw [Function.update_of_ne hji, Function.update_of_ne hji]
        rw [hfind, if_neg hji] at hsome
        exact h.owner j hj hsome
    · show (t.tunnelSessions.insert i t.tunnels.length).entries =
        mineEntries mine ids (s.tunnelSessions.insert i s.tunnels.length).entries
      have hcons : ∀ ys, mineEntries mine ids (⟨i, s.tunnels.length⟩ :: ys) =
          ⟨i, t.tunnels.length⟩ :: mineEntries mine ids ys := by
        intro ys
        simp [mineEntries, renumber, hi, hlength]
      rw [AList.entries_insert, AList.entries_insert, hcons, kerase_entries, h.entries]
  · rw [if_neg hi]
    refine ⟨hmade, ?_, h.onSyn, fun j => ?_, fun j hj hsome => ?_, ?_⟩
    · show t.tunnels = (s.tunnels ++ _).filter _
      rw [List.filter_append, h.tunnels, List.filter_cons_of_neg (by exact hi), List.filter_nil,
        List.append_nil]
    · rw [hfind, h.streams]
      by_cases hji : j = i
      · rw [hji, if_neg hi, if_neg hi]
      · rw [if_neg hji]
    · have hji : j ≠ i := fun hji => hi (hji ▸ hj)
      show t.owner j = number mine ids (Function.update s.owner i s.tunnels.length j)
      rw [hfind, if_neg hji] at hsome
      rw [Function.update_of_ne hji]
      exact h.owner j hj hsome
    · show t.tunnelSessions.entries =
        mineEntries mine ids (s.tunnelSessions.insert i s.tunnels.length).entries
      have hcons : ∀ ys, mineEntries mine ids (⟨i, s.tunnels.length⟩ :: ys) =
          mineEntries mine ids ys := by
        intro ys
        simp [mineEntries, hi]
      rw [AList.entries_insert, hcons, kerase_entries, ← h.entries,
        List.kerase_of_notMem_keys (h.entries ▸ not_mem_keys hi _)]

theorem closed (h : Restricts mine ids s t) {k : Nat} {u : TunnelSession}
    (hk : s.tunnels[k]? = some u) :
    Restricts mine ids (s.closed k u.streamId)
      (if mine u.streamId then t.closed (number mine ids k) u.streamId else t) := by
  have hfind : ∀ (v : TunnelServer) k' j, (v.closed k' u.streamId).find j =
      if j = u.streamId then none else v.find j :=
    fun v k' j => SessionManager.find_remove_session _ _ _
  have hmodify := h.modify (f := fun u => { u with isClosed := true, sessionInterface := none })
    (fun _ => rfl) hk
  by_cases hu : mine u.streamId = true
  · rw [if_pos hu] at hmodify ⊢
    refine ⟨hmodify.made, hmodify.tunnels, h.onSyn, fun j => ?_, fun j hj hsome => ?_, ?_⟩
    · rw [hfind, hfind, h.streams]
      by_cases hju : j = u.streamId
      · rw [if_pos hju, if_pos hju, ite_self]
      · rw [if_neg hju, if_neg hju]
    · rw [hfind] at hsome
      split at hsome
      · cases hsome
      · exact h.owner j hj hsome
    · show t.tunnelSessions.entries.kerase _ =
        mineEntries mine ids (s.tunnelSessions.entries.kerase _)
      rw [kerase_entries, h.entries]
  · rw [if_neg hu] at hmodify ⊢
    refine ⟨hmodify.made, hmodify.tunnels, h.onSyn, fun j => ?_, fun j hj hsome => ?_, ?_⟩
    · rw [hfind, h.streams]
      by_cases hju : j = u.streamId
      · rw [hju, if_neg hu, if_neg hu]
      · rw [if_neg hju]
    · rw [hfind] at hsome
      split at hsome
      · cases hsome
      · exact h.owner j hj hsome
    · show t.tunnelSessions.entries = mineEntries mine ids (s.tunnelSessions.entries.kerase _)
      rw [kerase_entries, ← h.entries,
        List.kerase_of_notMem_keys (h.entries ▸ not_mem_keys hu _)]

/-! ## Events -/

/-- A handler that neither does nor changes anything. -/
theorem moves_pure (h : Restricts mine ids s t) : Moves mine ids s t (pure ()) (pure ()) := by
  intro s' out hrun _
  cases hrun
  exact ⟨t, rfl, h⟩

theorem moves_p2p_rev_data (h : Restricts mine ids s t) {k : Nat} {i : UInt32}
    (hlive : LiveTunnel s i k) (data : Bytes) (protocol : Protocol) :
    Moves mine ids s t (p2pRevData k data protocol)
      (if mine i then p2pRevData (number mine ids k) data protocol else pure ()) := by
  have huse := h.moves_use hlive (a := .revP2pData k data)
    (b := .revP2pData (number mine ids k) data) rfl
  have hnone : Moves mine ids s t (pure ()) (if mine i then pure () else pure ()) := by
    rw [ite_self]
    exact h.moves_pure
  cases protocol with
  | unknown | other => exact hnone
  | _ => exact huse

theorem moves_p2p_rev_ctrl (h : Restricts mine ids s t) {k : Nat} {i : UInt32}
    (hlive : LiveTunnel s i k) (ctrl : CtrlType) :
    Moves mine ids s t (p2pRevCtrl k ctrl)
      (if mine i then p2pRevCtrl (number mine ids k) ctrl else pure ()) := by
  cases ctrl with
  | receive => exact h.moves_use hlive (a := .startReceive k) rfl
  | pause => exact h.moves_use hlive (a := .pauseReceive k) rfl
  | other =>
      show Moves mine ids s t (pure ()) (if mine i then pure () else pure ())
      rw [ite_self]
      exact h.moves_pure

/-- A message for a stream that is mine invokes the same callback. -/
theorem on_message_same (h : Restricts mine ids s t) {data : Bytes}
    (hmeant : meantFor mine data = true) : t.mux.onMessage data = s.mux.onMessage data := by
  refine SessionMux.on_message_of_find h.onSyn fun header payload hframe => ?_
  have hmine : mine header.streamId = true := by
    rw [meantFor, hframe] at hmeant
    exact hmeant
  exact (h.streams header.streamId).trans (if_pos hmine)

/-- A callback of a session that the multiplexer invokes. -/
theorem moves_session (h : Restricts mine ids s t) (hs : Sound s) {header : FrameHeader}
    {session : Session} (hfind : s.find header.streamId = some session) {upcall : Upcall}
    {x : Nat → ServerHandler}
    (hupcall : ∀ u : TunnelServer, (onUpcall upcall).run u = (x (u.owner header.streamId)).run u)
    (hx : ∀ k, LiveTunnel s header.streamId k → Moves mine ids s t (x k)
      (if mine header.streamId then x (number mine ids k) else pure ())) :
    Moves mine ids s t (onUpcall upcall)
      (if mine header.streamId then onUpcall upcall else pure ()) := by
  intro s' out hrun hmade
  rw [hupcall] at hrun
  obtain ⟨t', ht', hrel⟩ := hx _ (hs.sessions _ session hfind).2 s' out hrun hmade
  refine ⟨t', ?_, hrel⟩
  by_cases hmine : mine header.streamId = true
  · rw [if_pos hmine] at ht' ⊢
    rw [hupcall, h.owner _ hmine (by rw [hfind]; rfl)]
    exact ht'
  · rw [if_neg hmine] at ht' ⊢
    exact ht'

theorem moves_on_syn (h : Restricts mine ids s t) (i : UInt32) (host : Bytes) (port : UInt16)
    (protocol : Protocol) :
    Moves mine ids s t (TunnelServer.onSyn i host port protocol)
      (if mine i then TunnelServer.onSyn i host port protocol else pure ()) := by
  intro s' out hrun hmade
  by_cases hsupported : Supported protocol
  · rw [run_on_syn hsupported] at hrun
    cases hrun
    have hopened := h.opened hmade
    have hselects : selects mine ids s.tunnels.length = mine i := by
      have hstreams : (s.opened i protocol).streamIds = s.streamIds ++ [i] := by
        simp [streamIds, TunnelServer.opened, makeTunnel]
      rw [hstreams] at hmade
      obtain ⟨rest, hrest⟩ := hmade
      refine selects_iff ?_
      rw [← hrest, List.append_assoc, List.getElem?_append_right (by simp [streamIds])]
      simp [streamIds]
    by_cases hi : mine i = true
    · rw [if_pos hi] at hopened ⊢
      refine ⟨_, ?_, hopened⟩
      rw [run_on_syn hsupported]
      simp [mineAction, hselects, hi, h.length]
    · rw [if_neg hi] at hopened ⊢
      refine ⟨t, ?_, hopened⟩
      simp [mineAction, hselects, hi]
  · have hfault := @run_on_syn_unsupported s i host port protocol hsupported
    rw [hrun] at hfault
    cases hfault

theorem moves_message (h : Restricts mine ids s t) (hs : Sound s) (data : Bytes) :
    Moves mine ids s t (onMessage data)
      (if meantFor mine data then onMessage data else pure ()) := by
  have hquiet : s.mux.onMessage data = .ok none → Moves mine ids s t (onMessage data)
      (if meantFor mine data then onMessage data else pure ()) := by
    intro hnone s' out hrun _
    have hsame : (onMessage data).run s = ⟨s, [], .ok ()⟩ := by simp [onMessage, hnone]
    rw [hsame] at hrun
    cases hrun
    refine ⟨t, ?_, h⟩
    split
    · next hmeant => simp [onMessage, h.on_message_same hmeant, hnone]
    · rfl
  have hcall : ∀ {header : FrameHeader} {payload : Bytes} {upcall : Upcall},
      frameOf data = some (header, payload) → s.mux.onMessage data = .ok (some upcall) →
      Moves mine ids s t (onUpcall upcall)
        (if mine header.streamId then onUpcall upcall else pure ()) →
      Moves mine ids s t (onMessage data)
        (if meantFor mine data then onMessage data else pure ()) := by
    intro header payload upcall hframe hupcall hmoves s' out hrun hmade
    have hsame : (onMessage data).run s = (onUpcall upcall).run s := by simp [onMessage, hupcall]
    rw [hsame] at hrun
    obtain ⟨t', ht', hrel⟩ := hmoves s' out hrun hmade
    have hmeant : meantFor mine data = mine header.streamId := by rw [meantFor, hframe]; rfl
    refine ⟨t', ?_, hrel⟩
    rw [← hmeant] at ht'
    by_cases hmine : meantFor mine data = true
    · have hsame' : (onMessage data).run t = (onUpcall upcall).run t := by
        simp [onMessage, h.on_message_same hmine, hupcall]
      rw [if_pos hmine] at ht' ⊢
      rw [hsame', ht']
    · rw [if_neg hmine] at ht' ⊢
      exact ht'
  rcases s.mux.on_message_cases data with hnone | ⟨header, payload, hframe, hopen | hsession⟩
  · exact hquiet hnone
  · obtain ⟨host, port, -, -, hupcall⟩ := hopen
    exact hcall hframe hupcall (h.moves_on_syn _ _ _ _)
  · obtain ⟨session, hfind, hcases⟩ := hsession
    obtain rfl := (hs.sessions _ session hfind).1
    rcases hcases with ⟨ok, hset, -⟩ | hupcall | ⟨-, hupcall⟩ | ⟨byte, rest, -, -, hupcall⟩
    · cases hset
    · exact hcall hframe hupcall (h.moves_session hs hfind
        (x := fun k => p2pRevData k payload header.protocol) (fun u => rfl)
        fun k hlive => h.moves_p2p_rev_data hlive payload header.protocol)
    · exact hcall hframe hupcall (h.moves_session hs hfind (x := close) (fun u => rfl)
        fun k hlive => h.moves_close hlive)
    · exact hcall hframe hupcall (h.moves_session hs hfind (x := fun k => p2pRevCtrl k _)
        (fun u => rfl) fun k hlive => h.moves_p2p_rev_ctrl hlive _)

theorem moves_target_closed (h : Restricts mine ids s t) (hs : Unclosed s) {k : Nat}
    {u : TunnelSession} (hk : s.tunnels[k]? = some u) :
    Moves mine ids s t (targetClosed k)
      (if mine u.streamId then targetClosed (number mine ids k) else pure ()) := by
  intro s' out hrun _
  cases hinterface : u.sessionInterface with
  | none =>
      have hnot : ∀ {v : TunnelServer} {j : Nat}, v.tunnels[j]? = some u →
          ¬ ∃ i, LiveTunnel v i j := by
        rintro v j hj ⟨i, u', interface, hj', -, hinterface'⟩
        rw [hj] at hj'
        cases hj'
        rw [hinterface] at hinterface'
        cases hinterface'
      rw [run_target_closed_again (hnot hk)] at hrun
      cases hrun
      refine ⟨t, ?_, h⟩
      split
      · next hu => exact run_target_closed_again (hnot (h.get hk hu))
      · rfl
  | some interface =>
      rw [run_target_closed hs hk hinterface] at hrun
      cases hrun
      have hclosed := h.closed hk
      by_cases hu : mine u.streamId = true
      · rw [if_pos hu] at hclosed ⊢
        refine ⟨_, ?_, hclosed⟩
        rw [run_target_closed (h.unclosed hs) (h.get hk hu) hinterface]
        cases interface.isP2pClosed <;> simp [mineAction, hu]
      · rw [if_neg hu] at hclosed ⊢
        refine ⟨t, ?_, hclosed⟩
        cases interface.isP2pClosed <;> simp [mineAction, hu]

/-- `close` of tunnels that are live. -/
theorem moves_closes (h : Restricts mine ids s t) {xs : List (Σ _ : UInt32, Nat)}
    (hlive : ∀ x ∈ xs, LiveTunnel s x.1 x.2) :
    Moves mine ids s t (forEach (xs.map Sigma.snd) close)
      (forEach ((mineEntries mine ids xs).map Sigma.snd) close) := by
  intro s' out hrun hmade
  induction xs generalizing s t out with
  | nil =>
      cases hrun
      exact ⟨t, rfl, h⟩
  | cons x xs ih =>
      rw [List.map_cons, forEach_cons, run_bind] at hrun
      obtain ⟨v, first, _, rest, hfirst, hrest, rfl⟩ := andThen_eq_ok hrun
      have hx := hlive x List.mem_cons_self
      obtain ⟨u, interface, hk, hu, hinterface⟩ := id hx
      have hclosed := run_close hk hinterface
      rw [hclosed] at hfirst
      cases hfirst
      have hmodify := h.modify (f := p2pClosed interface) (fun _ => rfl) hk
      obtain ⟨t₁, ht₁, hrel⟩ := h.moves_close hx _ _ hclosed hmodify.made
      have hlater : ∀ y ∈ xs, LiveTunnel
          { s with tunnels := s.tunnels.modify x.2 (p2pClosed interface) } y.1 y.2 :=
        fun y hy => (hlive y (List.mem_cons_of_mem x hy)).modify fun u => ⟨rfl, fun _ => rfl⟩
      obtain ⟨t', ht', hrel'⟩ := ih hrel hlater _ hrest
      refine ⟨t', ?_, hrel'⟩
      rw [List.filterMap_append]
      by_cases hmine : mine x.1 = true
      · have hcons : mineEntries mine ids (x :: xs) =
            renumber mine ids x :: mineEntries mine ids xs := by simp [mineEntries, hmine]
        rw [if_pos hmine] at ht₁
        rw [hcons, List.map_cons, forEach_cons, run_bind]
        rw [show (renumber mine ids x).2 = number mine ids x.2 from rfl, ht₁, andThen_ok, ht']
      · have hcons : mineEntries mine ids (x :: xs) = mineEntries mine ids xs := by
          simp [mineEntries, hmine]
        rw [if_neg hmine] at ht₁
        obtain ⟨rfl, hnone⟩ : t = t₁ ∧
            [] = [ServerAction.closeTarget x.2].filterMap (mineAction mine ids) := by
          simpa using ht₁
        rw [hcons, ← hnone, List.nil_append]
        exact ht'

theorem moves_controller_closed (h : Restricts mine ids s t) (hs : Sound s) :
    Moves mine ids s t controllerClosed controllerClosed := by
  intro s' out hrun hmade
  rw [controllerClosed, run_bind, run_emit, andThen_ok, run_bind, run_get, andThen_ok] at hrun
  generalize hloop : (forEach (s.tunnelSessions.entries.map Sigma.snd) close).run s = o at hrun
  obtain ⟨v, rest, result⟩ := o
  cases hrun
  obtain ⟨t', ht', hrel⟩ := h.moves_closes
    (fun x hx => hs.tunnelSessions x.1 x.2 (AList.mem_lookup_iff.mpr hx)) _ _ hloop hmade
  refine ⟨t', ?_, hrel⟩
  rw [controllerClosed, run_bind, run_emit, andThen_ok, run_bind, run_get, andThen_ok, h.entries,
    ht']
  rfl

end Restricts

theorem restricts_started (mine : UInt32 → Bool) (ids : List UInt32) (sessionId : UInt32) :
    Restricts mine ids (started sessionId) (started sessionId) where
  made := List.nil_prefix
  tunnels := rfl
  onSyn := rfl
  streams i := (ite_self _).symm
  owner i _ h := by cases h
  entries := rfl

/-- An event of the server, of a tunnel that has been made. -/
theorem moves_handle (h : Restricts mine ids s t) (hs : Sound s) (hunclosed : Unclosed s)
    {e : ServerEvent} (he : ∀ k, e = .targetClosed k → k < s.tunnels.length) {s' : TunnelServer}
    {out : List ServerAction} (hrun : (handle e).run s = ⟨s', out, .ok ()⟩)
    (hmade : s'.streamIds <+: ids) :
    Responds (fun _ _ => true) handle (Restricts mine ids s') t
      (out.filterMap (mineAction mine ids)) (mineEvent mine ids e) := by
  have hresponds : ∀ {c : Bool} {x : ServerHandler} {f : ServerEvent} {y : ServerHandler},
      Restricts.Moves mine ids s t x (if c then y else pure ()) → x.run s = ⟨s', out, .ok ()⟩ →
      (handle f).run t = y.run t →
      Responds (fun _ _ => true) handle (Restricts mine ids s') t
        (out.filterMap (mineAction mine ids)) (if c then some f else none) := by
    intro c x f y hmoves hx hf
    obtain ⟨t', ht', hrel⟩ := hmoves s' out hx hmade
    cases c with
    | true => exact ⟨rfl, t', hf.trans ht', hrel⟩
    | false =>
        obtain ⟨rfl, hnone⟩ : t = t' ∧ [] = out.filterMap (mineAction mine ids) := by
          simpa using ht'
        exact ⟨hnone.symm, hrel⟩
  cases e with
  | message data => exact hresponds (h.moves_message hs data) hrun rfl
  | targetClosed k =>
      have hk := List.getElem?_eq_getElem (he k rfl)
      rw [mineEvent, h.selects_eq hk]
      exact hresponds (h.moves_target_closed hunclosed hk) hrun rfl
  | controllerClosed =>
      obtain ⟨t', ht', hrel⟩ := h.moves_controller_closed hs s' out hrun hmade
      exact ⟨rfl, t', ht', hrel⟩

end TunnelServer

end RtcVpn

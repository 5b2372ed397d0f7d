import RtcVpn.Library.Registry

/-!
# The ids of live sessions

Both ends number their sessions: the client's `SocksServer` with a
`SessionIdGenerator`, the server's `ProcessNewWsClient` with a counter of its
own. A session's close erases its id from the map that owns it, `sessions_` or
`client_sessions_`. The counters start over after 65536 sessions, so a session
that is still alive when its number comes up again loses its place.
-/

namespace RtcVpn

/-- `SessionIdGenerator::create_session_id`: what it makes of `id_`, which is what it returns. -/
def SessionIdGenerator.createSessionId (id : UInt32) : UInt32 :=
  let id := if id > 65535 then 0 else id
  id + 1

/-- `ProcessNewWsClient::create_session_id`: what it makes of `id_`, which is what it returns. -/
def ProcessNewWsClient.createSessionId (id : UInt32) : UInt32 :=
  let id := if id > 65535 then 0 else id
  id + 1

/-- `SocksServer` with `sessions_`: `do_accept` makes a session, whose close callback erases it. -/
def socksServer : Machine (Registry UInt32) RegistryEvent (RegistryAction UInt32) :=
  registry SessionIdGenerator.createSessionId

/-- `ProcessNewWsClient` with `client_sessions_`: `newClient` makes a session, whose close callback
erases it. -/
def processNewWsClient : Machine (Registry UInt32) RegistryEvent (RegistryAction UInt32) :=
  registry ProcessNewWsClient.createSessionId

/-- Both owners as they are constructed: `id_` is zero and there is no session. -/
def noSessions : Registry UInt32 where
  counter := 0

namespace LiveIds

open Registry

/-- The id of a session by how many were accepted before it. -/
def idOf (n : Nat) : UInt32 := .ofNat (n % 65536 + 1)

theorem to_nat_id_of (n : Nat) : (idOf n).toNat = n % 65536 + 1 := by
  have hlt : n % 65536 < 65536 := Nat.mod_lt _ (by omega)
  rw [idOf, UInt32.toNat_ofNat_of_lt' (show _ < 4294967296 by omega)]

/-- Two sessions have the same id if their numbers differ by a multiple of 65536. -/
theorem id_of_inj {m n : Nat} : idOf m = idOf n ↔ m % 65536 = n % 65536 := by
  rw [← UInt32.toNat_inj, to_nat_id_of, to_nat_id_of]
  omega

/-- The id after the one of session `n`, on either side. -/
theorem create_session_id_id_of (n : Nat) :
    SessionIdGenerator.createSessionId (idOf n) = idOf (n + 1) := by
  have hlt : n % 65536 < 65536 := Nat.mod_lt _ (by omega)
  have hover : idOf n > 65535 ↔ n % 65536 = 65535 := by
    rw [gt_iff_lt, UInt32.lt_iff_toNat_lt, to_nat_id_of]
    show 65535 < _ ↔ _
    omega
  rw [← UInt32.toNat_inj, to_nat_id_of, SessionIdGenerator.createSessionId]
  by_cases hn : n % 65536 = 65535
  · rw [if_pos (hover.mpr hn)]
    show 1 = _
    omega
  · rw [if_neg (fun h => hn (hover.mp h)), UInt32.toNat_add, to_nat_id_of]
    show (n % 65536 + 1 + 1) % 4294967296 = _
    omega

/-- What a state says about the ids given so far: the counter is the last of them, and the next
one is known. -/
structure Numbered (r : Registry UInt32) : Prop where
  next : SessionIdGenerator.createSessionId r.counter = idOf r.made.length
  made : ∀ k, k < r.made.length → r.made[k]? = some (idOf k)

theorem numbered_no_sessions : Numbered noSessions where
  next := by decide
  made k hk := absurd hk (Nat.not_lt_zero k)

theorem numbered_accept {r : Registry UInt32} (h : Numbered r) :
    Numbered (r.accept SessionIdGenerator.createSessionId) where
  next := by
    show SessionIdGenerator.createSessionId (SessionIdGenerator.createSessionId r.counter) =
      idOf (r.made ++ [_]).length
    rw [h.next, create_session_id_id_of, List.length_append, List.length_singleton]
  made k hk := by
    by_cases hold : k < r.made.length
    · exact (List.getElem?_append_left hold).trans (h.made k hold)
    · have hk' : k = r.made.length := by
        have hlt : k < (r.made ++ [SessionIdGenerator.createSessionId r.counter]).length := hk
        rw [List.length_append, List.length_singleton] at hlt
        omega
      subst hk'
      rw [made_accept_length, h.next]

/-- The ids given along a run. -/
theorem numbered_run {es : List RegistryEvent} {r : Registry UInt32}
    {out : List (RegistryAction UInt32)} (hrun : socksServer.run noSessions es = some (r, out)) :
    Numbered r := by
  refine Machine.run_invariant (I := Numbered) ?_ numbered_no_sessions hrun
  intro s e t new hs hstep
  rcases step_cases hstep with ⟨rfl, rfl, _⟩ | ⟨k, id, rfl, _, _, rfl, _⟩
  · exact numbered_accept hs
  · exact ⟨hs.next, hs.made⟩

/-- The next id is free if no live session's number differs from the next one's by a multiple of
65536. -/
theorem next_is_free_iff {r : Registry UInt32} (h : Numbered r) :
    r.NextIsFree SessionIdGenerator.createSessionId ↔
      ∀ k, r.Alive k → k % 65536 ≠ r.made.length % 65536 := by
  have hsame : ∀ k, r.Alive k →
      (r.made[k]? ≠ some (SessionIdGenerator.createSessionId r.counter) ↔
        k % 65536 ≠ r.made.length % 65536) := by
    intro k hk
    rw [h.made k hk.1, h.next, ne_eq, Option.some.injEq, id_of_inj]
  exact forall_congr' fun k => forall_congr' fun hk => hsame k hk

/-- The history lets the ids of live sessions differ: no session is accepted while one is alive
that was accepted a multiple of 65536 sessions earlier. -/
def InTime (_ : List RegistryEvent) (_ : List (RegistryAction UInt32)) (r : Registry UInt32)
    (e : RegistryEvent) : Prop :=
  e = .accept → ∀ k, r.Alive k → k % 65536 ≠ r.made.length % 65536

/-- The first 65536 sessions are in time. -/
theorem in_time_of_few {es : List RegistryEvent} {out : List (RegistryAction UInt32)}
    {r : Registry UInt32} {e : RegistryEvent} (h : r.made.length < 65536) : InTime es out r e := by
  intro _ k hk
  have hlt := hk.1
  omega

/-- A session is made by each accept. -/
theorem made_of_run {es : List RegistryEvent} {r : Registry UInt32}
    {out : List (RegistryAction UInt32)} (hrun : socksServer.run noSessions es = some (r, out)) :
    r.made.length = es.count .accept := by
  refine Machine.run_induction (P := fun es _ r => r.made.length = es.count .accept) rfl ?_ hrun
  intro es out s e t new _ ih hstep
  rcases step_cases hstep with ⟨rfl, rfl, -⟩ | ⟨k, id, rfl, -, -, rfl, -⟩
  · simp [accept, ih]
  · simp [close, ih]

/-- A history of at most 65536 sessions is in time. -/
theorem meets_of_few {es : List RegistryEvent} (h : es.count .accept ≤ 65536) :
    socksServer.Meets InTime noSessions es := by
  intro before e after r out hsplit hrun he
  have hlength := made_of_run hrun
  rw [hsplit, List.count_append, he, List.count_cons_self] at h
  have hfew : r.made.length < 65536 := by omega
  exact (in_time_of_few hfew : InTime before out r .accept) rfl

/-- In every state of a history the live sessions have different ids and are registered under
them, no insertion has replaced a session and every close has erased the session that closed. -/
def LiveIdsUnique (owner : Machine (Registry UInt32) RegistryEvent (RegistryAction UInt32))
    (es : List RegistryEvent) : Prop :=
  ∀ before after r out, es = before ++ after → owner.run noSessions before = some (r, out) →
    ProperlyOwned out r

/-- A session that stays, and after it others that close before the next is accepted. -/
def oneStays (others : Nat) : List RegistryEvent :=
  .accept :: (List.range others).flatMap fun k => [.accept, .close (k + 1)]

theorem one_stays_succ (n : Nat) :
    oneStays (n + 1) = oneStays n ++ [.accept] ++ [.close (n + 1)] := by
  simp [oneStays, List.range_succ, List.flatMap_append]

/-- Such a history is a run, at whose end the first session is alive. -/
theorem run_one_stays (n : Nat) :
    ∃ r out, socksServer.run noSessions (oneStays n) = some (r, out) ∧
      r.made.length = n + 1 ∧ ∀ j ∈ r.closed, 0 < j ∧ j ≤ n := by
  induction n with
  | zero => exact ⟨_, _, rfl, rfl, by decide⟩
  | succ n ih =>
      obtain ⟨r, out, hrun, hlength, hclosed⟩ := ih
      have hnew : (r.accept SessionIdGenerator.createSessionId).Alive r.made.length := by
        refine ⟨by simp [accept], fun hmem => ?_⟩
        have hle := (hclosed _ hmem).2
        omega
      rw [one_stays_succ, ← hlength]
      refine ⟨_, _, Machine.run_snoc.mpr ⟨_, _, _, Machine.run_snoc.mpr ⟨r, out, _, hrun, rfl, rfl⟩,
        step_close hnew made_accept_length, rfl⟩, ?_, ?_⟩
      · simp [close, accept, hlength]
      · intro j hj
        rcases List.mem_cons.mp hj with rfl | hj
        · omega
        · have hle := hclosed j hj
          omega

/-- The two owners number alike. -/
theorem process_new_ws_client_eq : processNewWsClient = socksServer := rfl

end LiveIds

open LiveIds

/-- On the client and on the server, the ids of live sessions are unique all along a history of
accepted connections and closes if and only if no session is accepted while one is alive that was
accepted a multiple of 65536 sessions earlier. -/
theorem live_ids_unique_iff
    {owner : Machine (Registry UInt32) RegistryEvent (RegistryAction UInt32)}
    (howner : owner = socksServer ∨ owner = processNewWsClient) {es : List RegistryEvent}
    {r : Registry UInt32} {out : List (RegistryAction UInt32)}
    (hrun : owner.run noSessions es = some (r, out)) :
    LiveIdsUnique owner es ↔ owner.Meets InTime noSessions es := by
  have hsame : owner = socksServer := by
    rcases howner with h | h
    · exact h
    · rw [h, process_new_ws_client_eq]
  subst hsame
  refine (Registry.properly_owned_iff_free hrun).trans ?_
  constructor
  · intro h before e after s mid hsplit hs he
    exact (next_is_free_iff (numbered_run hs)).mp (h before e after s mid hsplit hs he)
  · intro h before e after s mid hsplit hs he
    exact (next_is_free_iff (numbered_run hs)).mpr (h before e after s mid hsplit hs he)

theorem live_ids_unique_three_sessions :
    LiveIdsUnique socksServer [.accept, .accept, .close 0, .accept] ∧
      LiveIdsUnique processNewWsClient [.accept, .accept, .close 0, .accept] := by
  have hmeets : socksServer.Meets InTime noSessions [.accept, .accept, .close 0, .accept] :=
    ((((Machine.meets_nil _).snoc rfl (in_time_of_few (by decide))).snoc rfl
      (in_time_of_few (by decide))).snoc rfl (in_time_of_few (by decide))).snoc rfl
      (in_time_of_few (by decide))
  exact ⟨(live_ids_unique_iff (.inl rfl) rfl).mpr hmeets,
    (live_ids_unique_iff (.inr rfl) rfl).mpr hmeets⟩

/-- A session stays open while 65535 others come and go. The next one shares its id 1, and the
map leads to the new session only. -/
theorem session_ids_collide :
    ¬ LiveIdsUnique socksServer (oneStays 65535 ++ [.accept]) ∧
      ¬ LiveIdsUnique processNewWsClient (oneStays 65535 ++ [.accept]) := by
  have hcollide : ¬ LiveIdsUnique socksServer (oneStays 65535 ++ [.accept]) := by
    intro hunique
    obtain ⟨r, out, hrun, hlength, hclosed⟩ := run_one_stays 65535
    have hlast := Machine.run_snoc.mpr
      ⟨r, out, _, hrun, (rfl : socksServer.step r .accept = _), rfl⟩
    have hmade := (numbered_run hlast).made
    have hlength' : (r.accept SessionIdGenerator.createSessionId).made.length = 65537 := by
      simp [Registry.accept, hlength]
    have hfirst : (r.accept SessionIdGenerator.createSessionId).Alive 0 :=
      ⟨by omega, fun hmem => by have := hclosed 0 hmem; omega⟩
    have hnew : (r.accept SessionIdGenerator.createSessionId).Alive 65536 :=
      ⟨by omega, fun hmem => by have := hclosed 65536 hmem; omega⟩
    have hsame := (hunique _ [] _ _ (List.append_nil _).symm hlast).distinct 0 65536 (idOf 0)
      hfirst hnew (hmade 0 (by omega))
      ((hmade 65536 (by omega)).trans (congrArg some (id_of_inj.mpr (by omega))))
    omega
  exact ⟨hcollide, hcollide⟩

end RtcVpn

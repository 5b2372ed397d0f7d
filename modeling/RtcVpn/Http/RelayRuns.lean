import RtcVpn.Http.Relay

/-!
# Runs of an end that relays

An end whose callbacks do what its relay does writes, over a whole run and
whatever else happens in between, what the relay writes for the events that
llhttp reports of the buffers the end is fed.
-/

namespace RtcVpn

open Effect

/-! ## A parser in its slot -/

theorem HttpParser.keep_remaining_had_error {L : Llhttp} (p : HttpParser L) (data : Bytes)
    (consumed : Option Nat) : (p.keepRemaining data consumed).hadError = p.hadError := by
  cases consumed with
  | none => rfl
  | some n =>
      rw [keepRemaining]
      split <;> rfl

namespace HttpSlot

variable {L : Llhttp} {σ α φ : Type}

/-- Reading the slot gives what was written to it last. -/
structure Lawful (slot : HttpSlot L σ) : Prop where
  read_write : ∀ p s, slot.read (slot.write p s) = p
  write_write : ∀ p q s, slot.write p (slot.write q s) = slot.write p s
  write_read : ∀ s, slot.write (slot.read s) s = s

/-- The callbacks do what the relay does, if they return. -/
def Relays (slot : HttpSlot L σ) (callbacks : HttpCallbacks σ α φ) (r : Relay L)
    (send : Bytes → α) : Prop :=
  ∀ e s t as, (slot.onEvent callbacks e).run s = ⟨t, as, .ok ()⟩ →
    t = slot.write (r.next e (slot.read s)) s ∧ as = (r.writes e (slot.read s)).map send

variable {slot : HttpSlot L σ} {callbacks : HttpCallbacks σ α φ} {r : Relay L} {send : Bytes → α}

theorem run_relayed (hslot : slot.Lawful) (h : slot.Relays callbacks r send)
    {es : List LlhttpEvent} {s t : σ} {as : List α}
    (hrun : (forEach es (slot.onEvent callbacks)).run s = ⟨t, as, .ok ()⟩) :
    t = slot.write (r.after (slot.read s) es) s ∧ as = (r.sends (slot.read s) es).map send := by
  induction es generalizing s as with
  | nil =>
      cases hrun
      exact ⟨(hslot.write_read _).symm, rfl⟩
  | cons e es ih =>
      rw [forEach_cons, run_bind] at hrun
      obtain ⟨u, first, _, rest, hfirst, hrest, rfl⟩ := andThen_eq_ok hrun
      obtain ⟨rfl, rfl⟩ := h e s u first hfirst
      obtain ⟨rfl, rfl⟩ := ih hrest
      rw [hslot.read_write, hslot.write_write]
      exact ⟨rfl, by simp [Relay.sends]⟩

theorem run_finish_ok (data : Bytes) (x : L.State) (s : σ) :
    (slot.finish callbacks data x .ok).run s =
      ⟨slot.write { slot.read s with parser := x } s, [], .ok true⟩ := rfl

/-- A feed that llhttp reads to its end. -/
theorem run_feed_ok (hslot : slot.Lawful) (h : slot.Relays callbacks r send) {s t : σ}
    {as : List α} {b : Bool} {data : Bytes} {x : L.State} {es : List LlhttpEvent}
    (hok : (slot.read s).hadError = false)
    (hexecute : L.execute (slot.read s).parser data = (x, es, .ok))
    (hrun : (slot.feed callbacks data).run s = ⟨t, as, .ok b⟩) :
    t = slot.write { r.after (slot.read s) es with parser := x } s ∧
      as = (r.sends (slot.read s) es).map send := by
  rw [slot.run_feed callbacks hok, hexecute] at hrun
  obtain ⟨u, first, _, rest, hfirst, hrest, rfl⟩ := andThen_eq_ok hrun
  obtain ⟨rfl, rfl⟩ := run_relayed hslot h hfirst
  rw [run_finish_ok, hslot.read_write, hslot.write_write] at hrest
  cases hrest
  exact ⟨rfl, List.append_nil _⟩

/-- The parser once llhttp has paused and been resumed: it keeps the bytes behind the pause. -/
def resumed (data : Bytes) (x : L.State) (consumed : Option Nat) (p : HttpParser L) :
    HttpParser L :=
  let p := HttpParser.keepRemaining data consumed { p with parser := x }
  { p with parser := L.resumeAfterUpgrade p.parser }

theorem run_finish_paused (hslot : slot.Lawful) (hnone : callbacks.onPausedUpgrade = none)
    (data : Bytes) (x : L.State) (consumed : Option Nat) (s : σ) :
    (slot.finish callbacks data x (.pausedUpgrade consumed)).run s =
      ⟨slot.write (resumed data x consumed (slot.read s)) s, [], .ok false⟩ := by
  have hnotify : (slot.onErrno callbacks data (.pausedUpgrade consumed) : Effect σ α φ Bool) =
      (slot.update (HttpParser.keepRemaining data consumed) >>= fun _ =>
        (slot.update fun p => { p with parser := L.resumeAfterUpgrade p.parser }) >>= fun _ =>
        get >>= fun _ => pure false) := by
    rw [onErrno, hnone]
    rfl
  rw [finish, hnotify]
  simp only [run_bind, run_update, run_get, andThen_ok, run_pure, List.append_nil,
    hslot.read_write, hslot.write_write]
  rfl

/-- A feed at which llhttp pauses for an upgrade of which the owner is not told. -/
theorem run_feed_paused (hslot : slot.Lawful) (h : slot.Relays callbacks r send)
    (hnone : callbacks.onPausedUpgrade = none) {s t : σ} {as : List α} {b : Bool} {data : Bytes}
    {x : L.State} {es : List LlhttpEvent} {consumed : Option Nat}
    (hok : (slot.read s).hadError = false)
    (hexecute : L.execute (slot.read s).parser data = (x, es, .pausedUpgrade consumed))
    (hrun : (slot.feed callbacks data).run s = ⟨t, as, .ok b⟩) :
    slot.read t = resumed data x consumed (r.after (slot.read s) es) ∧
      as = (r.sends (slot.read s) es).map send := by
  rw [slot.run_feed callbacks hok, hexecute] at hrun
  obtain ⟨u, first, _, rest, hfirst, hrest, rfl⟩ := andThen_eq_ok hrun
  obtain ⟨rfl, rfl⟩ := run_relayed hslot h hfirst
  rw [run_finish_paused hslot hnone, hslot.read_write, hslot.write_write] at hrest
  cases hrest
  exact ⟨hslot.read_write _ _, List.append_nil _⟩

end HttpSlot

/-! ## Ends -/

/-- A machine is an end that relays: some events feed it a buffer, its state holds a parser, and
`sent` is what it writes at an event. -/
structure RelayEnd {L : Llhttp} {σ ε α φ : Type} (m : Machine (Except φ σ) ε α) (r : Relay L)
    (payload : ε → Option Bytes) (parser : σ → HttpParser L) (sent : ε → α → Option Bytes) :
    Prop where
  lawful : r.Lawful
  other : ∀ {s t e out}, m.step (.ok s) e = some (.ok t, out) → payload e = none →
    parser t = parser s ∧ out.filterMap (sent e) = []
  fed : ∀ {s t e out data x es}, m.step (.ok s) e = some (.ok t, out) → payload e = some data →
    (parser s).hadError = false → L.execute (parser s).parser data = (x, es, .ok) →
    parser t = { r.after (parser s) es with parser := x } ∧
      out.filterMap (sent e) = r.sends (parser s) es
  paused : ∀ {s t e out data x es consumed}, m.step (.ok s) e = some (.ok t, out) →
    payload e = some data → (parser s).hadError = false →
    L.execute (parser s).parser data = (x, es, .pausedUpgrade consumed) →
    parser t = HttpSlot.resumed data x consumed (r.after (parser s) es) ∧
      out.filterMap (sent e) = r.sends (parser s) es

namespace RelayEnd

variable {L : Llhttp} {σ ε α φ : Type} {m : Machine (Except φ σ) ε α} {r : Relay L}
  {payload : ε → Option Bytes} {parser : σ → HttpParser L} {sent : ε → α → Option Bytes}

/-- The buffers that are fed in some events. -/
def feeds (payload : ε → Option Bytes) (es : List ε) : List Bytes := es.filterMap payload

/-- An end writes what its relay writes for all that llhttp reports. -/
theorem run (h : RelayEnd m r payload parser sent)
    (hdead : ∀ f e, m.step (.error f) e = none) {s₀ : σ} (hok : (parser s₀).hadError = false)
    {es : List ε} {s : σ} {out : List α} (hrun : m.run (.ok s₀) es = some (.ok s, out))
    {x : L.State} {events : List LlhttpEvent}
    (hreports : L.reports (parser s₀).parser (feeds payload es) = some (x, events)) :
    parser s = { r.after (parser s₀) events with parser := x } ∧
      m.collect sent (.ok s₀) es = r.sends (parser s₀) events := by
  have hall := Machine.run_induction (m := m)
    (P := fun es _ y => ∀ s, y = .ok s → ∀ x events,
      L.reports (parser s₀).parser (feeds payload es) = some (x, events) →
      parser s = { r.after (parser s₀) events with parser := x } ∧
        m.collect sent (.ok s₀) es = r.sends (parser s₀) events) ?_ ?_ hrun
  · exact hall s rfl x events hreports
  · rintro _ ⟨⟩ x events hnil
    cases hnil
    exact ⟨rfl, rfl⟩
  · rintro es out y e _ new hes ih hstep t rfl x events hreports
    cases y with
    | error f => rw [hdead] at hstep; cases hstep
    | ok s =>
        rw [Machine.collect_snoc sent hes hstep]
        rw [feeds, List.filterMap_append] at hreports
        cases hpayload : payload e with
        | none =>
            obtain ⟨hparser, hsent⟩ := h.other hstep hpayload
            have hfeeds : L.reports (parser s₀).parser (feeds payload es) = some (x, events) := by
              simpa [hpayload, feeds] using hreports
            obtain ⟨hbefore, hsends⟩ := ih s rfl x events hfeeds
            exact ⟨hparser.trans hbefore, by rw [hsent, List.append_nil, hsends]⟩
        | some data =>
            have hsingle : List.filterMap payload [e] = [data] := by simp [hpayload]
            rw [hsingle, Llhttp.reports_snoc] at hreports
            obtain ⟨z, before, after, hfeeds, hexecute, rfl⟩ := hreports
            obtain ⟨hbefore, hsends⟩ := ih s rfl z before hfeeds
            have herror : (parser s).hadError = false := by
              rw [hbefore]
              exact (r.after_had_error before _).trans hok
            have hz : (parser s).parser = z := by rw [hbefore]
            obtain ⟨hparser, hsent⟩ := h.fed hstep hpayload herror (by rw [hz]; exact hexecute)
            constructor
            · rw [hparser, hbefore, r.after_with_state, r.after_append]
            · rw [hsent, hsends, hbefore, r.sends_append]
              exact congrArg (r.sends (parser s₀) before ++ ·)
                (r.sends_with_state h.lawful z after (r.after (parser s₀) before))

end RelayEnd

end RtcVpn

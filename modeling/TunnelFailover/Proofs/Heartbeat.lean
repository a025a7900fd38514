import TunnelFailover.Proofs.Datagram
import TunnelFailover.Proofs.Logbook
/-!
This file follows a probe from one prober to another and back, through the datagrams that carry it. The
time of the answer tells the two ways apart, and the identifiers lead it back to the tunnel that it was
sent over. There it is reported with its latencies, and everywhere else it is refused.
-/

namespace TunnelFailover

namespace Instant

/-- The time on a clock that counts nanoseconds in a signed word. -/
def ofClock (reading : Int64) : Instant := ofNanoseconds reading.toInt

/-- A count of nanoseconds knows no leap seconds. -/
@[simp]
theorem isLeap_ofNanoseconds (nanoseconds : Int) : (ofNanoseconds nanoseconds).isLeap = false := by
  refine decide_eq_false ?_
  simp only [ofNanoseconds]
  omega

/-- The length of time between two readings is exact, or zero if they are in the other order. -/
@[simp]
theorem since_ofClock (later earlier : Int64) :
    (ofClock later).since (ofClock earlier) = ⟨(later.toInt - earlier.toInt).toNat⟩ := by
  simp [since, leapBetween, ofClock]

/-- A reading fits a field of a datagram. -/
theorem encodable_ofClock (reading : Int64) : Probe.Encodable (ofClock reading) := by
  have lower := reading.le_toInt
  have upper := reading.toInt_lt
  have limit : Probe.timeLimit = 2 ^ 63 := rfl
  rw [Probe.Encodable, ofClock, toNanoseconds_ofNanoseconds, limit]
  omega

/-- A reading that is not zero is not the epoch. -/
theorem ofClock_ne_epoch {reading : Int64} (started : reading ≠ 0) : ofClock reading ≠ epoch := by
  intro same
  have zero := congrArg toNanoseconds same
  rw [ofClock, toNanoseconds_ofNanoseconds] at zero
  exact started (Int64.toInt_inj.1 zero)

end Instant

/-- A probe whose times were read from a clock arrives as it was sent, if the clock of the answer did not
stand at zero. -/
theorem Probe.ofBytes_bytes_of_clocks {probe : Probe} {sent : Int64}
    (sentAt : probe.sentAt = .ofClock sent)
    (answeredAt : ∀ time ∈ probe.answeredAt, ∃ answered, answered ≠ 0 ∧ time = .ofClock answered) :
    ofBytes probe.bytes = .ok probe := by
  have regular : ∀ time ∈ probe.answeredAt, time.isLeap = false := by
    intro time member
    obtain ⟨answered, -, rfl⟩ := answeredAt time member
    exact Instant.isLeap_ofNanoseconds _
  have fits : ∀ time ∈ probe.answeredAt, Encodable time ∧ time ≠ .epoch := by
    intro time member
    obtain ⟨answered, started, rfl⟩ := answeredAt time member
    exact ⟨Instant.encodable_ofClock answered, Instant.ofClock_ne_epoch started⟩
  have whole : probe.kept = probe :=
    probe.kept_eq_self_iff.2 ⟨sentAt ▸ Instant.encodable_ofClock sent, fits⟩
  have sentRegular : probe.sentAt.isLeap = false := by
    rw [sentAt]
    exact Instant.isLeap_ofNanoseconds _
  have read := ofBytes_eq_ok_iff.2 (holds_bytes sentRegular regular)
  rwa [whole] at read

namespace Prober

variable {prober : Prober} {now : Instant} {interface : String} {probe : Probe}

/-- No probe that is on its way back is answered. -/
theorem answer_receive_returned (returned : probe.isReturned = true) :
    (prober.receive now interface probe).answer = none := by
  unfold receive takeBack reject
  rw [if_pos returned]
  split
  · split
    · rfl
    · split <;> rfl
  · rfl

/-- A probe that comes back is refused unless it was sent by this prober over this tunnel. -/
theorem receive_astray (returned : probe.isReturned = true)
    (astray : probe.sender = prober.identity → ∀ tunnel,
      prober.tunnels.get? interface = some tunnel → probe.responder ≠ tunnel.remote) :
    prober.receive now interface probe = prober.reject := by
  unfold receive takeBack
  rw [if_pos returned]
  split
  · rename_i own
    split
    · rfl
    · rename_i tunnel found
      simp [accepts, astray own tunnel found]
  · rfl

/-- A probe that comes back to its tunnel is reported, if it was sent. -/
theorem receive_home {tunnel : Tunnel} (returned : probe.isReturned = true)
    (own : probe.sender = prober.identity) (found : prober.tunnels.get? interface = some tunnel)
    (addressed : probe.responder = tunnel.remote) (numbered : 1 ≤ probe.sequence.toNat)
    (sent : probe.sequence ≤ tunnel.peer.sequence) :
    prober.receive now interface probe =
      ⟨prober.withPeer interface fun _ => (tunnel.peer.acknowledge probe.sequence).1,
        lossesOf interface (tunnel.peer.acknowledge probe.sequence).2 ++
          [Prober.returned interface now probe], none, []⟩ := by
  have positive : probe.sequence ≠ 0 := by
    rintro zero
    rw [zero] at numbered
    cases numbered
  have accepted : accepts tunnel probe = true := by simp [accepts, addressed, positive, sent]
  rw [receive, if_pos returned, if_pos own, takeBack]
  simp only [found, accepted, if_true]

/-- A prober goes on as itself: it keeps its name, its identity and its location, and its tunnels keep
their far ends. -/
structure Continues (former later : Prober) : Prop where
  bridge : later.bridge = former.bridge
  identity : later.identity = former.identity
  location : later.location = former.location
  remote (interface : String) : (later.tunnels.get? interface).map (·.remote) =
    (former.tunnels.get? interface).map (·.remote)

theorem Continues.trans {first second third : Prober} (before : first.Continues second)
    (after : second.Continues third) : first.Continues third where
  bridge := after.bridge.trans before.bridge
  identity := after.identity.trans before.identity
  location := after.location.trans before.location
  remote interface := (after.remote interface).trans (before.remote interface)

/-- A change of the account of one tunnel does not change its far end. -/
theorem continues_withPeer (prober : Prober) (interface : String) (change : Peer → Peer) :
    prober.Continues (prober.withPeer interface change) := by
  refine ⟨rfl, rfl, rfl, fun other => ?_⟩
  rw [withPeer, NameMap.get?_modify]
  split
  · rw [Option.map_map]
    rfl
  · rfl

/-- A prober goes on as itself in all that it does. -/
theorem continues_add (logbook : Logbook) (action : Action) :
    logbook.prober.Continues (logbook.add action).prober := by
  cases action with
  | send now answers =>
    refine ⟨rfl, rfl, rfl, fun interface => ?_⟩
    simp [Logbook.add, send, sendOver, Function.comp_def]
  | sweep =>
    refine ⟨rfl, rfl, rfl, fun interface => ?_⟩
    rw [Logbook.get?_sweep, Option.map_map]
    rfl
  | receive now interface probe =>
    change logbook.prober.Continues (logbook.prober.receive now interface probe).prober
    obtain ⟨answer, samples, unchanged⟩ | ⟨tunnel, -, -, -, taken⟩ :=
      logbook.prober.receive_cases now interface probe
    · rw [unchanged]
      exact ⟨rfl, rfl, rfl, fun _ => rfl⟩
    · rw [taken]
      exact logbook.prober.continues_withPeer interface fun _ =>
        (tunnel.peer.acknowledge probe.sequence).1

/-- A prober goes on as itself in any run. -/
theorem continues_logbook (prober : Prober) (actions : List Action) :
    prober.Continues (prober.logbook actions).prober := by
  induction actions using List.reverseRecOn with
  | nil => exact ⟨rfl, rfl, rfl, fun _ => rfl⟩
  | append_singleton actions action inductionHypothesis =>
    rw [logbook_concat]
    exact inductionHypothesis.trans (continues_add _ action)

/-- A sending of a prober is that of a fresh probe to the far end of a tunnel. -/
def Sends (prober : Prober) (sending : Sending) : Prop :=
  ∃ remote, (prober.tunnels.get? sending.interface).map (·.remote) = some remote ∧
    sending.probe =
      .fresh sending.probe.sequence prober.identity prober.location sending.probe.sentAt remote

/-- In a round all sendings are those of fresh probes. -/
theorem sends_of_mem_send {answers : String → Transponder.Answers} {sending : Sending}
    (member : sending ∈ (prober.send now answers).2) : prober.Sends sending := by
  simp only [send, NameMap.values, NameMap.mapWithName, List.map_map, List.mem_map,
    Function.comp_apply] at member
  obtain ⟨⟨interface, tunnel⟩, entry, rfl⟩ := member
  have found := (prober.tunnels.get?_eq_some_iff interface tunnel).2 entry
  exact ⟨tunnel.remote, congrArg (Option.map (·.remote)) found, rfl⟩

/-- The same sendings are those of a prober that goes on as itself. -/
theorem Continues.sends {former later : Prober} (continues : former.Continues later)
    {sending : Sending} : later.Sends sending ↔ former.Sends sending := by
  rw [Sends, Sends, continues.remote, continues.identity, continues.location]

/-- In any run all sendings are those of fresh probes. -/
theorem sends_of_mem_logbook {actions : List Action} {sending : Sending}
    (member : sending ∈ (prober.logbook actions).sendings) : prober.Sends sending := by
  induction actions using List.reverseRecOn with
  | nil => cases member
  | append_singleton actions action inductionHypothesis =>
    rw [logbook_concat] at member
    cases action with
    | send now answers =>
      rcases List.mem_append.1 member with earlier | now
      · exact inductionHypothesis earlier
      · exact (prober.continues_logbook actions).sends.1 (sends_of_mem_send now)
    | sweep => exact inductionHypothesis member
    | receive now interface probe => exact inductionHypothesis member

/-- A probe that was sent over a tunnel is one of those that its account knows. -/
theorem known_of_mem_logbook (fresh : prober.IsFresh) {actions : List Action}
    (room : actions.countP (·.isSend) < UInt64.size) {sending : Sending}
    (member : sending ∈ (prober.logbook actions).sendings) :
    ∃ tunnel, (prober.logbook actions).prober.tunnels.get? sending.interface = some tunnel ∧
      sending.probe.responder = tunnel.remote ∧ 1 ≤ sending.probe.sequence.toNat ∧
      sending.probe.sequence ≤ tunnel.peer.sequence := by
  obtain ⟨remote, led, made⟩ := sends_of_mem_logbook member
  have known : (prober.tunnels.get? sending.interface).isSome := by
    rw [← Option.isSome_map, led]
    rfl
  obtain ⟨tunnel, found, -, balanced⟩ := logbook_balanced fresh known room
  have leads := (prober.continues_logbook actions).remote sending.interface
  rw [found, led] at leads
  have responder : sending.probe.responder = remote := congrArg Probe.responder made
  have sent : sending.probe.sequence ∈ ((prober.logbook actions).ledger sending.interface).sent :=
    List.mem_filterMap.2 ⟨sending, member, if_pos rfl⟩
  exact ⟨tunnel, found, responder.trans (Option.some.inj leads).symm, balanced.mem_sent_iff.1 sent⟩

/-- The identifiers that a prober has made are its own and those of the far ends of its tunnels. -/
def identifiers (prober : Prober) : List Uuid :=
  prober.identity :: prober.tunnels.values.map (·.remote)

/-- In a network of probers no identifier is made twice. -/
structure Distinct {ι : Type} (network : ι → Prober) : Prop where
  within (member : ι) : (network member).identifiers.Nodup
  across {first second : ι} (apart : first ≠ second) :
    ∀ identifier ∈ (network first).identifiers, identifier ∉ (network second).identifiers

/-- A far end is that of one tunnel only. -/
theorem interface_unique (distinct : prober.identifiers.Nodup) {first second : String} {remote : Uuid}
    (firstLeads : (prober.tunnels.get? first).map (·.remote) = some remote)
    (secondLeads : (prober.tunnels.get? second).map (·.remote) = some remote) : first = second := by
  obtain ⟨firstTunnel, firstFound, firstRemote⟩ := Option.map_eq_some_iff.1 firstLeads
  obtain ⟨secondTunnel, secondFound, secondRemote⟩ := Option.map_eq_some_iff.1 secondLeads
  rw [NameMap.get?_eq_some_iff] at firstFound secondFound
  have remotes := (List.nodup_cons.1 distinct).2
  rw [NameMap.values, List.map_map] at remotes
  exact congrArg Prod.fst (List.inj_on_of_nodup_map remotes firstFound secondFound
    (firstRemote.trans secondRemote.symm))

/-- A probe that comes back to another prober, or over another tunnel, is refused. -/
theorem Distinct.receive_astray {ι : Type} {network : ι → Prober} (distinct : Distinct network)
    {sender other : ι} {sending : Sending} (sends : (network sender).Sends sending)
    (elsewhere : other ≠ sender ∨ interface ≠ sending.interface)
    (returned : probe.isReturned = true) (own : probe.sender = sending.probe.sender)
    (addressed : probe.responder = sending.probe.responder) (run : List Action) :
    let member := ((network other).logbook run).prober
    member.receive now interface probe = member.reject := by
  intro member
  obtain ⟨remote, led, made⟩ := sends
  have continues := (network other).continues_logbook run
  -- The sender of the probe tells whose it is, and its responder tells which tunnel it was sent over.
  refine Prober.receive_astray returned fun same tunnel found taken => ?_
  have identity : (network sender).identity = (network other).identity := by
    rw [← continues.identity, ← same, own, made]
    rfl
  have here : other = sender := by
    by_contra apart
    exact distinct.across apart _ List.mem_cons_self (identity ▸ List.mem_cons_self)
  subst here
  refine elsewhere.elim (fun apart => apart rfl) fun apart => apart ?_
  have leads := continues.remote interface
  rw [found, Option.map_some, ← taken, addressed, made] at leads
  exact interface_unique (distinct.within other) leads.symm led

section Exchange

variable {sending : Sending} {sent answered : Int64} (sentAt : sending.probe.sentAt = .ofClock sent)

include sentAt

/-- The datagram of a probe that was sent is answered wherever it arrives. -/
theorem receiveBytes_request {sender : Prober} (sends : sender.Sends sending) (prober : Prober)
    (now : Instant) (interface : String) :
    prober.receiveBytes now interface sending.probe.bytes =
      ⟨prober, [], some (sending.probe.respond prober.location now), []⟩ := by
  obtain ⟨remote, -, made⟩ := sends
  have unanswered : sending.probe.answeredAt = none := congrArg Probe.answeredAt made
  have request : Probe.ofBytes sending.probe.bytes = .ok sending.probe :=
    Probe.ofBytes_bytes_of_clocks sentAt (by simp [unanswered])
  have asks : ¬sending.probe.isReturned = true := by simp [Probe.isReturned, unanswered]
  simp only [receiveBytes, request]
  rw [receive, if_neg asks]

/-- The datagram of an answer is read as the answer. -/
theorem ofBytes_respond (started : answered ≠ 0) (location : Location) :
    let answer := sending.probe.respond location (.ofClock answered)
    Probe.ofBytes answer.bytes = .ok answer := by
  intro answer
  have sameStart : answer.sentAt = .ofClock sent := sentAt
  have answeredAt : ∀ time ∈ answer.answeredAt,
      ∃ answered, answered ≠ 0 ∧ time = .ofClock answered := by
    intro time member
    cases member
    exact ⟨answered, started, rfl⟩
  exact Probe.ofBytes_bytes_of_clocks sameStart answeredAt

/-- The report of an answer has both latencies. -/
theorem returned_respond (interface : String) (received : Int64) (location : Location) :
    Prober.returned interface (.ofClock received)
        (sending.probe.respond location (.ofClock answered)) =
      .probeReturned interface sending.probe.sequence ⟨(answered.toInt - sent.toInt).toNat⟩
        ⟨(received.toInt - answered.toInt).toNat⟩ location := by
  simp [Prober.returned, Probe.respond, Probe.forwardLatency, Probe.returnLatency, sentAt]

/-- An answer that comes back over its tunnel is reported, after smaller numbers that are lost. -/
theorem receive_respond (fresh : prober.IsFresh) {actions : List Action}
    (room : actions.countP (·.isSend) < UInt64.size)
    (made : sending ∈ (prober.logbook actions).sendings) (received : Int64) (location : Location) :
    let reception := (prober.logbook actions).prober.receive (.ofClock received) sending.interface
      (sending.probe.respond location (.ofClock answered))
    reception.answer = none ∧ reception.samples = [] ∧
      ∃ losses, reception.occurrences = losses ++
          [.probeReturned sending.interface sending.probe.sequence
            ⟨(answered.toInt - sent.toInt).toNat⟩ ⟨(received.toInt - answered.toInt).toNat⟩
            location] ∧
        ∀ loss ∈ losses, ∃ earlier < sending.probe.sequence,
          loss = .probeLost sending.interface earlier := by
  intro reception
  obtain ⟨remote, -, fields⟩ := sends_of_mem_logbook made
  obtain ⟨tunnel, found, addressed, numbered, counted⟩ := known_of_mem_logbook fresh room made
  have own : sending.probe.sender = (prober.logbook actions).prober.identity := by
    rw [(prober.continues_logbook actions).identity]
    exact congrArg Probe.sender fields
  have taken : reception = _ := receive_home rfl own found addressed numbered counted
  rw [taken, returned_respond sentAt]
  refine ⟨rfl, rfl, _, rfl, fun loss member => ?_⟩
  obtain ⟨sequence, missed, rfl⟩ := List.mem_map.1 member
  exact ⟨sequence, (mem_missedNumbers missed).2, rfl⟩

end Exchange

/-- In a network where no identifier is made twice, a probe that was sent is answered by every prober
that it reaches, and this changes and reports nothing there. The datagram of the answer is read as the
answer, which has what was sent and is never answered. Over the tunnel that the probe was sent over it
is reported to the nanosecond, as long as there are numbers left, after smaller numbers that are lost.
Over another tunnel and at any other prober only an error is counted. -/
theorem heartbeat_returns {ι : Type} {network : ι → Prober} (distinct : Distinct network) {sender : ι}
    (fresh : (network sender).IsFresh) {actions : List Action} {sending : Sending}
    (made : sending ∈ ((network sender).logbook actions).sendings) {sent answered : Int64}
    (sentAt : sending.probe.sentAt = .ofClock sent) (started : answered ≠ 0) (responder : ι) :
    let answer : Probe :=
      { sending.probe with
        responderLocation := (network responder).location
        answeredAt := some (.ofClock answered) }
    (∀ run interface,
      let member := ((network responder).logbook run).prober
      member.receiveBytes (.ofClock answered) interface sending.probe.bytes =
        ⟨member, [], some answer, []⟩) ∧
      Probe.ofBytes answer.bytes = .ok answer ∧ answer.isReturned = true ∧
      (∀ (prober : Prober) now interface,
        (prober.receiveBytes now interface answer.bytes).answer = none) ∧
      (actions.countP (·.isSend) < UInt64.size → ∀ received,
        let reception := ((network sender).logbook actions).prober.receiveBytes
          (.ofClock received) sending.interface answer.bytes
        reception.answer = none ∧ reception.samples = [] ∧
          ∃ losses, reception.occurrences = losses ++
              [.probeReturned sending.interface sending.probe.sequence
                ⟨(answered.toInt - sent.toInt).toNat⟩ ⟨(received.toInt - answered.toInt).toNat⟩
                (network responder).location] ∧
            ∀ loss ∈ losses, ∃ earlier < sending.probe.sequence,
              loss = .probeLost sending.interface earlier) ∧
      ∀ other run now interface, other ≠ sender ∨ interface ≠ sending.interface →
        let member := ((network other).logbook run).prober
        member.receiveBytes now interface answer.bytes =
          ⟨member, [], none, [.error member.bridge Scope.peerProbing]⟩ := by
  intro answer
  have sends : (network sender).Sends sending := sends_of_mem_logbook made
  have reply : Probe.ofBytes answer.bytes = .ok answer := ofBytes_respond sentAt started _
  have returned : answer.isReturned = true := rfl
  have read (prober : Prober) (now : Instant) (interface : String) :
      prober.receiveBytes now interface answer.bytes = prober.receive now interface answer := by
    rw [receiveBytes, reply]
  refine ⟨?_, reply, returned, ?_, ?_, ?_⟩
  · intro run interface member
    have place : member.location = (network responder).location :=
      ((network responder).continues_logbook run).location
    rw [receiveBytes_request sentAt sends, place]
    rfl
  · intro prober now interface
    rw [read]
    exact answer_receive_returned returned
  · intro room received
    rw [read]
    exact receive_respond sentAt fresh room made received _
  · intro other run now interface elsewhere member
    rw [read]
    exact distinct.receive_astray sends elsewhere returned rfl rfl run

/-- The clock of the answer is ahead, so that all of the time counts for the way out. -/
theorem heartbeat_returns_wg0 :
    let here : Location := ⟨"here", by decide, by decide⟩
    let there : Location := ⟨"there", by decide, by decide⟩
    let address : SocketAddress := ⟨.v4 ⟨[127, 0, 0, 1], rfl⟩, 0, 9⟩
    let first := ((new "vpn-1" ⟨1⟩ here).addTunnel "wg0" ⟨2⟩ address (.new address)).addTunnel
      "wg1" ⟨3⟩ address (.new address)
    let second := (new "vpn-2" ⟨4⟩ there).addTunnel "wg0" ⟨5⟩ address (.new address)
    let network (answers : Bool) : Prober := if answers then second else first
    let actions := [Action.send (.ofClock 5) fun _ => ⟨true, true, true⟩]
    Distinct network ∧ (network false).IsFresh ∧ (12 : Int64) ≠ 0 ∧
      ∃ sending ∈ ((network false).logbook actions).sendings,
        sending.interface = "wg0" ∧ sending.probe.sentAt = .ofClock 5 ∧
          ∃ answer losses,
            second.receiveBytes (.ofClock 12) "wg0" sending.probe.bytes =
              ⟨second, [], some answer, []⟩ ∧
            (((network false).logbook actions).prober.receiveBytes (.ofClock 9) "wg0"
              answer.bytes).occurrences = losses ++ [.probeReturned "wg0" 1 ⟨7⟩ ⟨0⟩ there] ∧
            second.receiveBytes (.ofClock 9) "wg0" answer.bytes =
              ⟨second, [], none, [.error "vpn-2" Scope.peerProbing]⟩ := by
  intro here there address first second network actions
  have distinct : Distinct network := by
    refine ⟨by decide, fun {one other} apart => ?_⟩
    cases one <;> cases other <;> simp at apart <;> decide
  have fresh : (network false).IsFresh :=
    .addTunnel (.addTunnel (isFresh_new _ _ _) _ _ _ _) _ _ _ _
  have probes : ((network false).logbook actions).sendings.map (fun sending =>
      (sending.interface, sending.probe)) =
      [("wg0", .fresh 1 ⟨1⟩ here (.ofClock 5) ⟨2⟩),
        ("wg1", .fresh 1 ⟨1⟩ here (.ofClock 5) ⟨3⟩)] := by decide +kernel
  have member : ("wg0", .fresh 1 ⟨1⟩ here (.ofClock 5) ⟨2⟩) ∈
      ((network false).logbook actions).sendings.map fun sending =>
        (sending.interface, sending.probe) := probes ▸ List.mem_cons_self
  obtain ⟨sending, made, same⟩ := List.mem_map.1 member
  obtain ⟨interface, probe⟩ := Prod.mk.inj same
  have sentAt : sending.probe.sentAt = .ofClock 5 := congrArg Probe.sentAt probe
  have started : (12 : Int64) ≠ 0 := by decide
  obtain ⟨answers, -, -, -, home, elsewhere⟩ :=
    heartbeat_returns distinct fresh made sentAt started true
  obtain ⟨-, -, losses, reported, -⟩ := home (by decide) 9
  refine ⟨distinct, fresh, started, sending, made, interface, sentAt, _, losses,
    answers [] "wg0", ?_, ?_⟩
  · rw [← interface, reported, interface, probe]
    rfl
  · exact elsewhere true [] (.ofClock 9) "wg0" (.inl (by decide))

end Prober

end TunnelFailover

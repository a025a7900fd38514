import TunnelFailover.Proofs.Backoff
import TunnelFailover.Proofs.Duplicates
import TunnelFailover.Proofs.Startup
/-!
This file says how far the consequences of an event reach: probes and polls lead to different
occurrences, and each of them leaves the other side of the machine as it is.
-/

namespace TunnelFailover

namespace Occurrence

/-- Probes lead to changes of interfaces, and these to changes of the bridge. -/
def isTunnelSide : Occurrence → Bool
  | probeLost .. | probeReturned .. | probeUnsent .. | probeSent .. => true
  | interfaceWentDown _ | interfaceWentUp _ | interfaceActivated _ | interfaceDeactivated _ => true
  | bridgeWentDown | bridgeWentUp | bridgeActivated | bridgeDeactivated => true
  | connectivityLost | connectivityRestored => true
  | _ => false

/-- Polls lead to changes of the partner, and these to changes of the activity of the bridge. -/
def isPartnerSide : Occurrence → Bool
  | partnerPollFailed .. | partnerPolled .. => true
  | partnerWentDown | partnerWentUp | partnerActivated | partnerDeactivated => true
  | partnerChangedName .. | bridgeActivated | bridgeDeactivated => true
  | _ => false

theorem isTunnelSide_of_isElection {occurrence : Occurrence}
    (election : occurrence.isElection = true) : occurrence.isTunnelSide = true := by
  cases occurrence with
  | interfaceActivated | interfaceDeactivated => rfl
  | _ => cases election

theorem isTunnelSide_of_mem_turns {stance : Stance} {up : Bool} {occurrence : Occurrence}
    (member : occurrence ∈ stance.turns up) : occurrence.isTunnelSide = true := by
  unfold Stance.turns at member
  split at member
  · cases member
  · cases up <;> simp_all [isTunnelSide]

theorem isPartnerSide_of_mem_follows {stance : Stance} {verdict : Liveness} {occurrence : Occurrence}
    (member : occurrence ∈ stance.follows verdict) : occurrence.isPartnerSide = true := by
  unfold Stance.follows at member
  cases verdict <;> dsimp only at member
  · split at member <;> simp_all [isPartnerSide]
  · cases member
  · split at member <;> simp_all [isPartnerSide]

/-- Occurrences of a kind lead to occurrences of this kind only. -/
def Closes (kind : Occurrence → Bool) : Prop :=
  ∀ {machine : Machine} {now : Instant} {occurrence : Occurrence} {turn : Turn},
    (Turn.start machine).handle now occurrence = .ok turn → kind occurrence = true →
      ∀ derived ∈ turn.derived, kind derived = true

variable {machine : Machine} {now : Instant} {occurrence : Occurrence} {turn : Turn}

/-- Nothing is derived from an occurrence of rank zero. -/
theorem derived_of_rank_zero (handled : (Turn.start machine).handle now occurrence = .ok turn)
    (zero : occurrence.rank = 0) : turn.derived = [] :=
  List.eq_nil_iff_forall_not_mem.2 fun derived member => by
    have below := (Turn.handle_orderly handled).2 derived member
    omega

/-- What probes lead to stays with the tunnels and the bridge. -/
theorem closes_isTunnelSide : Closes isTunnelSide := by
  intro machine now occurrence turn handled side
  have elected {after : Turn}
      (trails : Turn.Trails ((Turn.start machine).deriveBridge now) after) :
      ∀ derived ∈ after.derived, derived.isTunnelSide = true := by
    obtain ⟨-, elections, derived, elect⟩ := trails
    obtain ⟨up, -, -, bridge⟩ := Turn.deriveBridge_stance (Turn.start machine) now
    rw [derived, bridge, Turn.start_derived, List.nil_append, List.forall_mem_append]
    exact ⟨fun _ member => isTunnelSide_of_mem_turns member,
      fun _ member => isTunnelSide_of_isElection (elect _ member)⟩
  cases occurrence with
  | probeLost | probeReturned | probeUnsent | probeSent =>
    intro derived member
    obtain ⟨interface, rfl | rfl⟩ := (Turn.handle_moves handled).2 derived member <;> rfl
  | interfaceWentDown interface =>
    cases handled
    exact elected (Turn.trails_interfaceWentDown _ now interface)
  | interfaceWentUp interface =>
    cases handled
    exact elected (Turn.trails_interfaceWentUp _ now interface)
  | bridgeWentDown =>
    cases handled
    unfold Turn.bridgeWentDown Turn.deactivateBridge
    dsimp only
    split <;> split <;> simp [isTunnelSide]
  | bridgeWentUp =>
    cases handled
    unfold Turn.bridgeWentUp Turn.activateBridge
    dsimp only
    split <;> split <;> simp [isTunnelSide]
  | interfaceActivated | interfaceDeactivated | bridgeActivated | bridgeDeactivated
  | connectivityLost | connectivityRestored =>
    rw [derived_of_rank_zero handled rfl]
    exact List.forall_mem_nil _
  | _ => cases side

/-- What polls lead to stays with the partner and the activity of the bridge. -/
theorem closes_isPartnerSide : Closes isPartnerSide := by
  intro machine now occurrence turn handled side
  cases occurrence with
  | partnerPollFailed sequence cause =>
    have moves := Turn.handle_moves handled
    unfold Moves at moves
    dsimp only at moves
    split at moves
    · rw [moves.2.2]
      exact fun _ member => isPartnerSide_of_mem_follows member
    · rw [moves.2.2]
      exact List.forall_mem_nil _
  | partnerPolled sequence report =>
    have known : ((Turn.start machine).adoptPartner report).machine.partner.isSome = true := by
      simp [Turn.adoptPartner]
    have judged := (Turn.judgePartner_judged known now sequence
      (if report.up then .up else .down)).derived
    rw [Turn.handle_polled handled]
    generalize ((Turn.start machine).adoptPartner report).judgePartner now sequence
      (if report.up then .up else .down) = told at judged
    have judgement : ∀ derived ∈ told.derived, derived.isPartnerSide = true := by
      rw [judged]
      exact fun _ member => isPartnerSide_of_mem_follows member
    obtain ⟨activity, followed, kinds⟩ := told.followReport_derived report
    rw [followed, List.forall_mem_append]
    constructor
    · rcases told.followName_derived report with same | ⟨partner, -, -, renamed⟩
      · rwa [same]
      · rw [renamed, List.forall_mem_append, List.forall_mem_singleton]
        exact ⟨judgement, rfl⟩
    · rcases kinds with rfl | rfl | rfl <;> simp [isPartnerSide]
  | partnerWentDown =>
    cases handled
    unfold Turn.partnerWentDown Turn.activateBridge
    dsimp only
    split <;> split <;> simp [isPartnerSide]
  | partnerWentUp =>
    cases handled
    unfold Turn.partnerWentUp Turn.deactivateBridge
    split <;> simp [isPartnerSide]
  | partnerActivated | partnerDeactivated | bridgeActivated | bridgeDeactivated =>
    rw [derived_of_rank_zero handled rfl]
    exact List.forall_mem_nil _
  | partnerChangedName => cases handled
  | _ => cases side

end Occurrence

namespace Machine

/-- An event leads to occurrences of its own kind only, if the kind is closed. What none of these changes
stays as it is. -/
theorem process_within {α : Type} (machine : Machine) {kind : Occurrence → Bool}
    (closes : Occurrence.Closes kind) {event : Event} (own : kind event.occurrence = true)
    (part : Machine → α)
    (fixed : ∀ {before : Machine} {now : Instant} {occurrence : Occurrence} {turn : Turn},
      (Turn.start before).handle now occurrence = .ok turn → kind occurrence = true →
        part turn.machine = part before) :
    part (machine.process event).machine = part machine ∧
      ∀ derived ∈ (machine.process event).derived, kind derived = true := by
  obtain ⟨waiting, ⟨same, -, derived⟩, -⟩ := machine.process_keeps event
    (fun cascade => part cascade.machine = part machine ∧
      (∀ waiting ∈ cascade.waiting, kind waiting = true) ∧
      ∀ derived ∈ cascade.derived, kind derived = true)
    (fun before after _ holds step => by
      obtain ⟨same, waiting, earlier⟩ := holds
      cases step with
      | handle handled =>
        obtain ⟨first, rest⟩ := List.forall_mem_cons.1 waiting
        have derived := closes handled first
        exact ⟨(fixed handled first).trans same, List.forall_mem_append.2 ⟨rest, derived⟩,
          List.forall_mem_append.2 ⟨earlier, derived⟩⟩)
    ⟨rfl, List.forall_mem_singleton.2 own, List.forall_mem_nil _⟩
  exact ⟨same, derived⟩

/-- Every request of an event is one of the event itself or of something that is derived from it. -/
theorem exists_of_mem_requestsOf {machine : Machine} {event : Event} {request : Request}
    (member : request ∈ requestsOf (machine.process event).effects) :
    ∃ occurrence ∈ event.occurrence :: (machine.process event).derived, ∃ before : Machine,
      request ∈ occurrence.requests before := by
  obtain ⟨-, effects, -⟩ := machine.transcript_spec event
  rw [← effects, requestsOf, List.filterMap_flatMap] at member
  obtain ⟨handling, handlingMember, issued⟩ := List.mem_flatMap.1 member
  obtain ⟨told, handled⟩ := of_mem_handlings handlingMember
  refine ⟨handling.event.occurrence, ?_, handling.before, ?_⟩
  · rcases List.mem_cons.1 told with first | later
    · exact first ▸ List.mem_cons_self
    · obtain ⟨occurrence, derived, same⟩ := List.mem_map.1 later
      exact List.mem_cons_of_mem _ (same ▸ derived)
  · exact Turn.handle_requests handled ▸ issued

/-- What a probe of an interface leaves as it was: the partner, the monitors and the liveness of all
other interfaces, and the whole status unless the interface itself goes up or down. -/
structure ProbeFrame (interface : String) (before after : Machine) : Prop where
  partner : after.partner = before.partner
  partnerMonitor : after.partnerMonitor = before.partnerMonitor
  partnerConfirmed : after.partnerConfirmed = before.partnerConfirmed
  links : ∀ other, other ≠ interface → after.links.get? other = before.links.get? other
  up : ∀ other, other ≠ interface →
    after.status.flag? (.interfaceUp other) = before.status.flag? (.interfaceUp other)
  status : after.status.hasUp interface = before.status.hasUp interface →
    after.status = before.status

/-- What a poll leaves as it was: everything about the interfaces, and the liveness of the bridge. It
requests nothing but activations of the bridge. -/
structure PollFrame (before : Machine) (outcome : Outcome) : Prop where
  status : outcome.machine.status =
    { before.status with
      active := outcome.machine.status.active
      activeSince := outcome.machine.status.activeSince }
  links : outcome.machine.links = before.links
  interfaceTimer : outcome.machine.interfaceTimer = before.interfaceTimer
  requests : ∀ request ∈ requestsOf outcome.effects, request.kind = .bridgeActivate

/-- What a repetition leaves as it was: everything but a timer. It requests one application at most. -/
structure RepetitionFrame (before : Machine) (outcome : Outcome) : Prop where
  status : outcome.machine.status = before.status
  partner : outcome.machine.partner = before.partner
  partnerMonitor : outcome.machine.partnerMonitor = before.partnerMonitor
  partnerConfirmed : outcome.machine.partnerConfirmed = before.partnerConfirmed
  links : outcome.machine.links = before.links
  requests : (requestsOf outcome.effects).length ≤ 1

section Probe

variable {machine : Machine} {event : Event} {interface : String} {report : ProbeReport}

theorem isReported_of_probe? {occurrence : Occurrence} {probe : String × ProbeReport}
    (told : occurrence.probe? = some probe) :
    occurrence.isReported = true ∧ occurrence.isTunnelSide = true ∧ occurrence.isSafe = true := by
  cases occurrence with
  | probeLost | probeReturned | probeUnsent | probeSent => exact ⟨rfl, rfl, rfl⟩
  | _ => cases told

/-- What the machine knows of its partner does not depend on probes. -/
theorem process_probe_partner (machine : Machine)
    (told : event.occurrence.probe? = some (interface, report)) :
    let after := (machine.process event).machine
    (after.partner, after.partnerMonitor, after.partnerConfirmed) =
      (machine.partner, machine.partnerMonitor, machine.partnerConfirmed) := by
  refine (machine.process_within Occurrence.closes_isTunnelSide (isReported_of_probe? told).2.1
    (fun other => (other.partner, other.partnerMonitor, other.partnerConfirmed)) ?_).1
  intro before now occurrence turn handled side
  have changes := Turn.handle_changes handled
  cases occurrence with
  | probeLost | probeReturned | probeUnsent | probeSent | interfaceWentDown | interfaceWentUp
  | bridgeWentDown | bridgeWentUp | interfaceActivated | interfaceDeactivated | bridgeActivated
  | bridgeDeactivated | connectivityLost | connectivityRestored =>
    exact congrArg (fun other => (other.partner, other.partnerMonitor, other.partnerConfirmed)) changes
  | _ => cases side

/-- A probe of one interface sets no other one up or down. -/
theorem process_flag?_interfaceUp (reported : event.occurrence.isReported = true)
    (elected : machine.Elected machine.status.hasUp)
    (silent : event.occurrence.reportOn? interface = none) :
    (machine.process event).machine.status.flag? (.interfaceUp interface) =
      machine.status.flag? (.interfaceUp interface) := by
  obtain ⟨waiting, ⟨-, -, same⟩, -⟩ := machine.process_keeps event
    (fun cascade => cascade.Electing machine.roleOf? ∧
      (∀ waiting ∈ cascade.waiting, waiting.reportOn? interface = none) ∧
      cascade.machine.status.flag? (.interfaceUp interface) =
        machine.status.flag? (.interfaceUp interface))
    (fun before after orderly holds step => by
      obtain ⟨electing, quiet, same⟩ := holds
      refine ⟨step.electing orderly electing, ?_⟩
      cases step with
      | @handle current occurrence rest _ _ turn handled =>
        obtain ⟨first, others⟩ := List.forall_mem_cons.1 quiet
        refine ⟨List.forall_mem_append.2 ⟨others, fun next member => ?_⟩,
          (Turn.flag?_interfaceUp handled electing.2.single first).trans same⟩
        -- Nothing that is derived tells of a probe.
        have lower := (Turn.handle_orderly handled).2 next member
        have bounded : occurrence.rank ≤ 3 := by
          cases occurrence <;> exact Nat.le_of_ble_eq_true rfl
        rw [Occurrence.reportOn?, Occurrence.probe?_of_rank (by omega)]
        rfl)
    ⟨Cascade.start_electing reported elected, List.forall_mem_singleton.2 silent, rfl⟩
  exact same

/-- What the first handling derives is derived from the event. -/
theorem mem_derivedEvents_of_handled {turn : Turn} {derived : Occurrence}
    (handled : (Turn.start machine).handle event.time event.occurrence = .ok turn)
    (member : derived ∈ turn.derived) :
    Event.mk event.time derived ∈ machine.derivedEvents event := by
  rw [← (machine.transcript_spec event).1, transcript, handlings_of_handled _ handled,
    List.flatMap_cons]
  exact List.mem_append_left _ (List.mem_map_of_mem member)

/-- The flag of an interface that is as before has not been set by the first handling, as no later event
would have set it again. -/
theorem not_mem_derived_of_hasUp (reported : event.occurrence.isReported = true)
    (elected : machine.Elected machine.status.hasUp)
    (same : (machine.process event).machine.status.hasUp interface = machine.status.hasUp interface)
    {turn : Turn} (handled : (Turn.start machine).handle event.time event.occurrence = .ok turn)
    {up : Bool} {derived : Occurrence}
    (sets : derived.setting? (.interfaceUp interface) = some up) : derived ∉ turn.derived := by
  intro member
  obtain ⟨replays, once⟩ := process_replays reported elected
  have given : up ∈ (machine.derivedEvents event).filterMap
      (·.occurrence.setting? (.interfaceUp interface)) :=
    List.mem_filterMap.2 ⟨_, mem_derivedEvents_of_handled handled member, sets⟩
  have only : (machine.derivedEvents event).filterMap
      (·.occurrence.setting? (.interfaceUp interface)) = [up] := by
    have few := once (.interfaceUp interface)
    revert given few
    generalize (machine.derivedEvents event).filterMap _ = settings
    rcases settings with _ | ⟨value, _ | ⟨more, rest⟩⟩ <;> simp [eq_comm]
  obtain ⟨setter, -, since, -, was, is⟩ := replays.flag?_of_set only
  have flag (status : BridgeStatus) : status.hasUp interface =
      (status.flag? (.interfaceUp interface)).any (·.1) := by
    unfold BridgeStatus.hasUp BridgeStatus.flag?
    rw [Option.any_map]
  rw [flag, flag, was, is] at same
  cases up <;> cases same

/-- A probe that does not set its interface up or down leaves the whole status as it is. -/
theorem process_probe_status (told : event.occurrence.probe? = some (interface, report))
    (elected : machine.Elected machine.status.hasUp)
    (same : (machine.process event).machine.status.hasUp interface = machine.status.hasUp interface) :
    (machine.process event).machine.status = machine.status := by
  obtain ⟨turn, handled⟩ := Turn.handle_accepted
    (Occurrence.acceptedBy_of_isSafe (isReported_of_probe? told).2.2 machine) event.time
  have unset (up : Bool) {derived : Occurrence}
      (sets : derived.setting? (.interfaceUp interface) = some up) : derived ∉ turn.derived :=
    not_mem_derived_of_hasUp (isReported_of_probe? told).1 elected same handled sets
  have status : turn.machine.status = machine.status ∧ turn.derived = [] := by
    obtain ⟨counted, -, nothing, isTurn⟩ := Turn.handle_probe handled told
    rcases Turn.observe_derived nothing event.time interface (·.note report) with
      silent | down | up
    · rw [← isTurn] at silent
      have ends := (Turn.handle_records handled elected.single).replays.ends
      rw [silent] at ends
      exact ⟨ends.symm, silent⟩
    · rw [← isTurn] at down
      exact absurd (down ▸ List.mem_singleton_self _)
        (unset false (by simp [Occurrence.setting?, Occurrence.sets?]))
    · rw [← isTurn] at up
      exact absurd (up ▸ List.mem_singleton_self _)
        (unset true (by simp [Occurrence.setting?, Occurrence.sets?]))
  rw [process_of_silent handled status.2]
  exact status.1

/-- A probe of one interface does not reach what belongs to others. -/
theorem process_probeFrame (told : event.occurrence.probe? = some (interface, report))
    (elected : machine.Elected machine.status.hasUp) :
    ProbeFrame interface machine (machine.process event).machine := by
  have silent (other : String) (unlike : other ≠ interface) :
      event.occurrence.reportOn? other = none := by
    unfold Occurrence.reportOn?
    rw [told, Option.bind_some, if_neg unlike.symm]
  obtain ⟨partner, partnerMonitor, partnerConfirmed⟩ : _ = _ ∧ _ = _ ∧ _ = _ := by
    simpa only [Prod.mk.injEq] using process_probe_partner machine told
  exact
    { partner
      partnerMonitor
      partnerConfirmed
      links := fun other unlike => by
        rw [process_links, silent other unlike]
        exact Option.map_id'
      up := fun other unlike =>
        process_flag?_interfaceUp (isReported_of_probe? told).1 elected (silent other unlike)
      status := process_probe_status told elected }

/-- A probe of an interface without a monitor leaves nothing but samples. -/
theorem process_probe_unlinked (told : event.occurrence.probe? = some (interface, report))
    (unlinked : machine.links.get? interface = none) :
    let outcome := machine.process event
    outcome = ⟨machine, [], outcome.effects, none⟩ ∧ requestsOf outcome.effects = [] := by
  have none (link : Link) (linked : machine.links.get? interface = some link) : False := by
    rw [unlinked] at linked
    cases linked
  obtain ⟨stands, silent⟩ := process_eq_self (Occurrence.reportOn?_eq_some_iff.2 told)
    (fun link _ linked _ => (none link linked).elim) fun link linked => (none link linked).elim
  intro outcome
  rw [show outcome = _ from stands]
  exact ⟨rfl, silent⟩

end Probe

section Poll

variable {machine : Machine} {event : Event}

/-- A poll changes at most what is known of the partner and the activity of the bridge. -/
theorem process_pollFrame (polled : event.occurrence.poll?.isSome = true) :
    PollFrame machine (machine.process event) := by
  have side : event.occurrence.isPartnerSide = true := by
    cases kind : event.occurrence <;> rw [kind] at polled <;> first | rfl | cases polled
  let unlike (status : BridgeStatus) : BridgeStatus := status.setActive false ⟨0, 0⟩
  obtain ⟨same, derived⟩ := machine.process_within Occurrence.closes_isPartnerSide side
    (fun other => (unlike other.status, other.links, other.interfaceTimer)) (by
      intro before now occurrence turn handled side
      have changes := Turn.handle_changes handled
      cases occurrence with
      | bridgeActivated | bridgeDeactivated | partnerActivated | partnerDeactivated =>
        cases handled
        rfl
      | partnerChangedName => cases handled
      | partnerPollFailed | partnerPolled | partnerWentDown | partnerWentUp =>
        exact (congrArg (fun other : Machine =>
          (unlike other.status, other.links, other.interfaceTimer)) changes).trans rfl
      | _ => cases side)
  obtain ⟨status, links, timer⟩ : unlike _ = unlike _ ∧ _ = _ ∧ _ = _ := by
    simpa only [Prod.mk.injEq] using same
  refine ⟨?_, links, timer, fun request member => ?_⟩
  · have rest := congrArg (fun status : BridgeStatus =>
      status.setActive (machine.process event).machine.status.active
        (machine.process event).machine.status.activeSince) status
    exact rest
  · obtain ⟨occurrence, told, before, issued⟩ := exists_of_mem_requestsOf member
    have ofSide : occurrence.isPartnerSide = true := by
      rcases List.mem_cons.1 told with rfl | later
      · exact side
      · exact derived occurrence later
    cases occurrence with
    | bridgeActivated =>
      rw [List.mem_singleton.1 issued]
      rfl
    | partnerPollFailed | partnerPolled | partnerWentDown | partnerWentUp | partnerActivated
    | partnerDeactivated | partnerChangedName | bridgeDeactivated => cases issued
    | _ => cases ofSide

end Poll

/-- A repetition changes at most the timer of its activation. -/
theorem process_repetitionFrame {machine : Machine} {event : Event}
    (repeats : (∃ iteration, event.occurrence = .bridgeReactivated iteration) ∨
      ∃ interface iteration, event.occurrence = .interfaceReactivated interface iteration) :
    RepetitionFrame machine (machine.process event) := by
  obtain ⟨time, occurrence⟩ := event
  obtain ⟨iteration, rfl⟩ | ⟨interface, iteration, rfl⟩ := repeats
  · rw [process_bridgeReactivated]
    split
    · exact ⟨rfl, rfl, rfl, rfl, rfl, Nat.le_refl 1⟩
    · exact ⟨rfl, rfl, rfl, rfl, rfl, Nat.zero_le 1⟩
  · rw [process_interfaceReactivated]
    split
    · exact ⟨rfl, rfl, rfl, rfl, rfl, Nat.le_refl 1⟩
    · exact ⟨rfl, rfl, rfl, rfl, rfl, Nat.zero_le 1⟩

section Run

variable {name : String} {settings : BridgeSettings} {start : Instant} {machine : Machine}

/-- No run changes the name or the role of a bridge, nor the names of its interfaces. -/
theorem run_names (built : new name settings (initialStatus name settings start) = .ok machine)
    (events : List Event) :
    let last := (machine.run events).machine
    last.identity = (name, settings.role, name, settings.role) ∧
      last.status.interfaces.names = settings.tunnels.names := by
  intro last
  have identity : last.identity = machine.identity := machine.run_identity events
  have names : last.status.interfaces.names = machine.status.interfaces.names :=
    congrArg Prod.snd (machine.run_interfaces events)
  obtain ⟨-, -, sameName, sameRole, status, -⟩ := new_eq_ok built
  rw [status, interfaces_initialStatus, NameMap.names_mapWithName] at names
  rw [identity, Machine.identity, sameName, sameRole, status]
  exact ⟨rfl, names⟩

/-- In every state that a run reaches, an event changes only what it is about. Probes stay with their
interface until this goes up or down, and with nothing at all if the interface is not configured;
polls stay with the partner and the activity of the bridge; and repetitions with a timer. The name and
the role of the bridge and the names of its interfaces never change. -/
theorem run_frames (built : new name settings (initialStatus name settings start) = .ok machine)
    {events : List Event} (reported : ∀ event ∈ events, event.occurrence.isReported = true)
    (event : Event) :
    let before := (machine.run events).machine
    let outcome := before.process event
    (∀ interface report, event.occurrence.probe? = some (interface, report) →
      ProbeFrame interface before outcome.machine ∧
        (settings.tunnels.get? interface = none →
          outcome = ⟨before, [], outcome.effects, none⟩ ∧ requestsOf outcome.effects = [])) ∧
      (event.occurrence.poll?.isSome = true → PollFrame before outcome) ∧
      ((∃ iteration, event.occurrence = .bridgeReactivated iteration) ∨
          (∃ interface iteration, event.occurrence = .interfaceReactivated interface iteration) →
        RepetitionFrame before outcome) ∧
      ∀ reached ∈ [before, outcome.machine],
        reached.identity = (name, settings.role, name, settings.role) ∧
          reached.status.interfaces.names = settings.tunnels.names := by
  intro before outcome
  refine ⟨fun interface report told => ?_, process_pollFrame, process_repetitionFrame, ?_⟩
  · obtain ⟨-, elected⟩ := run_elected built events reported
    refine ⟨process_probeFrame told elected, fun unknown => process_probe_unlinked told ?_⟩
    have links : before.links.names = settings.tunnels.names :=
      (congrArg Prod.fst (machine.run_interfaces events)).trans
        (NameMap.names_traverse (new_eq_ok built).1)
    rw [NameMap.get?_eq_none_iff] at unknown ⊢
    rwa [links]
  · rw [List.forall_mem_cons, List.forall_mem_singleton]
    refine ⟨run_names built events, ?_⟩
    have next := run_names built (events ++ [event])
    rw [run_concat] at next
    exact next

/-- A bridge is up and active over its first interface, and one probe of this has been lost. The next
lost probe takes the interface down, and the bridge with it. The other interface, the partner and its
monitor do not notice. A poll finds the partner without any effect on the interfaces, a repetition
only applies the bridge again, and a probe of an unknown interface leads to nothing. -/
theorem run_frames_wg0 :
    let start : Instant := ⟨0, 0⟩
    let settings := BridgeSettings.plain .active
    let returned (sequence : UInt64) : Event :=
      ⟨⟨60, 0⟩, .probeReturned "wg0" sequence .zero .zero .empty⟩
    let events := [returned 1, returned 2, ⟨⟨61, 0⟩, .probeLost "wg0" 3⟩]
    let lost (interface : String) : Event := ⟨⟨62, 0⟩, .probeLost interface 4⟩
    let polled : Event :=
      ⟨⟨62, 0⟩, .partnerPolled 1 (initialStatus "vpn" (.plain .standby) start)⟩
    let repeated : Event := ⟨⟨62, 0⟩, .bridgeReactivated 0⟩
    ∃ machine, new "vpn" settings (initialStatus "vpn" settings start) = .ok machine ∧
      let before := (machine.run events).machine
      (before.status.active, (before.process (lost "wg0")).machine.status.active) = (true, false) ∧
        ProbeFrame "wg0" before (before.process (lost "wg0")).machine ∧
        PollFrame before (before.process polled) ∧
        (before.partner.isSome, (before.process polled).machine.partner.isSome) = (false, true) ∧
        RepetitionFrame before (before.process repeated) ∧
        requestsOf (before.process repeated).effects = [before.request .bridgeActivate none 0] ∧
        (before.process (lost "wg7")).derived = [] := by
  intro start settings returned events lost polled repeated
  have built : new "vpn" settings (initialStatus "vpn" settings start) = .ok _ := rfl
  have reported : ∀ event ∈ events, event.occurrence.isReported = true := by decide
  have probes := (run_frames built reported (lost "wg0")).1 "wg0" _ rfl
  have astray := (run_frames built reported (lost "wg7")).1 "wg7" _ rfl
  have polls := (run_frames built reported polled).2.1 rfl
  have repeats := (run_frames built reported repeated).2.2.1 (.inl ⟨0, rfl⟩)
  have unknown : settings.tunnels.get? "wg7" = none := rfl
  exact ⟨_, built, by decide +kernel, probes.1, polls, by decide +kernel, repeats,
    by decide +kernel, congrArg Outcome.derived (astray.2 unknown).1⟩

end Run

end Machine

end TunnelFailover

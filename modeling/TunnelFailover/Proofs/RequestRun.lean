import TunnelFailover.Proofs.Effects
import TunnelFailover.Proofs.Subject
/-!
This file shows that the requests of a run agree with the election: interfaces are applied and
withdrawn one after the other, and the one that stays applied is the active one.
-/

namespace TunnelFailover

/-- A call is a request and the occurrence that led to it. -/
structure Call where
  cause : Occurrence
  request : Request

/-- An interface is applied, applied again, or withdrawn. -/
inductive Move where
  | apply (interface : String)
  | reapply (interface : String)
  | withdraw (interface : String)
deriving DecidableEq

/-- The interface was applied before. -/
def Move.isAgain : Move → Bool
  | reapply _ => true
  | _ => false

namespace Call

/-- What a call does to an interface. -/
def move? (call : Call) : Option Move :=
  match call.request.kind, call.request.interface with
  | .interfaceActivate, some interface =>
    match call.cause with
    | .interfaceReactivated .. => some (.reapply interface)
    | _ => some (.apply interface)
  | .interfaceDeactivate, some interface => some (.withdraw interface)
  | _, _ => none

/-- The call applies a bridge that has become active. -/
def claims (call : Call) : Bool :=
  call.request.kind = .bridgeActivate ∧ call.cause = .bridgeActivated

end Call

namespace Handling

/-- The calls of a handled event. -/
def calls (handling : Handling) : List Call :=
  handling.turn.requests.map (Call.mk handling.event.occurrence)

/-- The bridge becomes active by the event. -/
def activates (handling : Handling) : Bool :=
  !handling.before.status.active && handling.turn.machine.status.active

end Handling

/-- The calls of a run, in their order. -/
def Machine.calls (machine : Machine) (events : List Event) : List Call :=
  (machine.runTranscript events).flatMap (·.calls)

/-- What handled events do to the interfaces. -/
def movesOf (handlings : List Handling) : List Move :=
  (handlings.flatMap (·.calls)).filterMap (·.move?)

theorem movesOf_concat (handlings : List Handling) (handling : Handling) :
    movesOf (handlings ++ [handling]) = movesOf handlings ++ movesOf [handling] := by
  simp [movesOf]

/-- Interfaces are applied and withdrawn one after the other, and one may still be applied. -/
def alternating (past : List String) (applied : Option String) : List Move :=
  past.flatMap (fun interface => [.apply interface, .withdraw interface]) ++
    applied.toList.map .apply

/-- Without those that apply an interface again, the moves alternate. An interface is applied again
only while it is the one that is applied. -/
structure Alternates (moves : List Move) (applied : Option String) : Prop where
  first : ∃ past, moves.filter (!·.isAgain) = alternating past applied
  again : ∀ earlier interface later, moves = earlier ++ .reapply interface :: later →
    ∃ past, earlier.filter (!·.isAgain) = alternating past (some interface)

namespace Alternates

theorem nil : Alternates [] none where
  first := ⟨[], rfl⟩
  again earlier interface later split := by
    cases earlier <;> cases split

variable {moves : List Move} {applied : Option String} {interface : String}

/-- A move is applied again in a longer log only if it was before, or if it is the last one. -/
theorem again_concat (alternates : Alternates moves applied) {move : Move}
    (last : ∀ interface, move = .reapply interface → applied = some interface) :
    ∀ earlier interface later, moves ++ [move] = earlier ++ .reapply interface :: later →
      ∃ past, earlier.filter (!·.isAgain) = alternating past (some interface) := by
  intro earlier interface later split
  rcases List.eq_nil_or_concat later with rfl | ⟨before, final, rfl⟩
  · obtain ⟨rfl, same⟩ := List.append_inj' split rfl
    obtain rfl := last interface (List.cons.inj same).1
    exact alternates.first
  · rw [List.concat_eq_append, ← List.cons_append, ← List.append_assoc] at split
    exact alternates.again earlier interface before (List.append_inj' split rfl).1

theorem apply (alternates : Alternates moves none) :
    Alternates (moves ++ [.apply interface]) (some interface) where
  first := by
    obtain ⟨past, first⟩ := alternates.first
    refine ⟨past, ?_⟩
    rw [List.filter_append, first]
    simp [alternating, Move.isAgain]
  again := alternates.again_concat nofun

theorem reapply (alternates : Alternates moves (some interface)) :
    Alternates (moves ++ [.reapply interface]) (some interface) where
  first := by
    obtain ⟨past, first⟩ := alternates.first
    refine ⟨past, ?_⟩
    rw [List.filter_append, first]
    simp [Move.isAgain]
  again := alternates.again_concat fun other same => by
    cases same
    rfl

theorem withdraw (alternates : Alternates moves (some interface)) :
    Alternates (moves ++ [.withdraw interface]) none where
  first := by
    obtain ⟨past, first⟩ := alternates.first
    refine ⟨past ++ [interface], ?_⟩
    rw [List.filter_append, first]
    simp [alternating, Move.isAgain]
  again := alternates.again_concat nofun

end Alternates

/-- What the calls of an occurrence do to the interfaces. -/
def Occurrence.moves (machine : Machine) : Occurrence → List Move
  | interfaceActivated interface => [.apply interface]
  | interfaceDeactivated interface => [.withdraw interface]
  | interfaceReactivated interface _ =>
    if machine.status.hasActive interface then [.reapply interface] else []
  | _ => []

namespace Turn

variable {machine : Machine} {now : Instant} {occurrence : Occurrence} {turn : Turn}

/-- The calls of a handled event move interfaces, apart from those for the bridge. -/
theorem handle_calls (handled : (start machine).handle now occurrence = .ok turn) :
    let handling : Handling := ⟨⟨now, occurrence⟩, machine, turn⟩
    movesOf [handling] = occurrence.moves machine ∧
      (∀ call ∈ handling.calls, call.request.kind ≠ .bridgeActivate → call.move?.isSome) ∧
      handling.calls.countP (·.claims) = if occurrence = .bridgeActivated then 1 else 0 := by
  have requests := handle_requests handled
  simp only [movesOf, List.flatMap_singleton, Handling.calls, requests]
  cases occurrence with
  | bridgeReactivated iteration =>
    unfold Occurrence.requests
    dsimp only
    split <;> simp [Occurrence.moves, Machine.request, Call.move?, Call.claims]
  | interfaceReactivated interface iteration =>
    unfold Occurrence.requests Occurrence.moves
    dsimp only
    split <;> simp [Machine.request, Call.move?, Call.claims]
  | _ => simp [Occurrence.requests, Occurrence.moves, Machine.request, Call.move?, Call.claims]

/-- The bridge becomes active by an event if and only if this is derived. -/
theorem handle_activates (handled : (start machine).handle now occurrence = .ok turn)
    (single : machine.status.IsSingle) :
    turn.derived.count .bridgeActivated =
      [(⟨⟨now, occurrence⟩, machine, turn⟩ : Handling)].countP (·.activates) := by
  have derives := Subject.bridge_derives handled single
  have told (occurrences : List Occurrence) : occurrences.count .bridgeActivated =
      (occurrences.filterMap Subject.bridge.change?).count ((), true) := by
    induction occurrences with
    | nil => rfl
    | cons first rest inductionHypothesis =>
      rw [List.count_cons, inductionHypothesis, List.filterMap_cons]
      cases first <;> simp [Subject.change?, Occurrence.sets?, Subject.bridge]
  rw [told, derives]
  cases was : machine.status.active <;> cases is : turn.machine.status.active <;>
    simp [Subject.bridge, changes, Handling.activates, was, is]

end Turn

namespace Cascade

/-- The requests so far agree with the election, up to the changes that wait. -/
structure Applies (roles : String → Option Role) (earlier : List Move) (cascade : Cascade)
    (done : List Handling) : Prop where
  electing : cascade.Electing roles
  alone : ∀ occurrence ∈ cascade.waiting, occurrence.isReported = true →
    cascade.waiting = [occurrence]
  applied : ∃ applied, Alternates (earlier ++ movesOf done) applied ∧
    Subject.interfaces.Pending applied cascade.machine.status cascade.waiting
  moves : ∀ call ∈ done.flatMap (·.calls), call.request.kind ≠ .bridgeActivate →
    call.move?.isSome
  claims : (done.flatMap (·.calls)).countP (·.claims) + cascade.waiting.count .bridgeActivated =
    done.countP (·.activates)

section Handled

variable {roles : String → Option Role} {earlier : List Move} {now : Instant} {machine : Machine}
variable {occurrence : Occurrence} {rest derived : List Occurrence} {effects : List Effect}
variable {done : List Handling} {turn : Turn}

/-- A handled occurrence moves the interfaces towards the active one. -/
theorem applied_of_handled (handled : (Turn.start machine).handle now occurrence = .ok turn)
    (orderly : Orderly (occurrence :: rest)) (single : machine.status.IsSingle)
    (alone : occurrence.isReported = true → rest = []) {applied : Option String} {moves : List Move}
    (alternates : Alternates moves applied)
    (pending : Subject.interfaces.Pending applied machine.status (occurrence :: rest)) :
    ∃ latter, Alternates (moves ++ occurrence.moves machine) latter ∧
      Subject.interfaces.Pending latter turn.machine.status (rest ++ turn.derived) := by
  have lawful := Subject.interfaces_lawful
  cases occurrence with
  | interfaceActivated interface =>
    have changed : Subject.interfaces.change? (.interfaceActivated interface) =
        some (interface, true) := rfl
    obtain ⟨rfl, left⟩ := pending.change lawful handled single orderly changed
    exact ⟨_, alternates.apply, left⟩
  | interfaceDeactivated interface =>
    have changed : Subject.interfaces.change? (.interfaceDeactivated interface) =
        some (interface, false) := rfl
    obtain ⟨rfl, left⟩ := pending.change lawful handled single orderly changed
    exact ⟨_, alternates.withdraw, left⟩
  | interfaceReactivated interface iteration =>
    have passed := pending.pass lawful handled single orderly rfl
    rw [alone rfl] at pending
    have settled : applied = machine.status.activeInterface? :=
      pending.eq_active (List.forall_mem_singleton.2 rfl)
    refine ⟨applied, ?_, passed⟩
    unfold Occurrence.moves
    dsimp only
    split
    · rename_i active
      rw [(BridgeStatus.activeInterface?_eq_some_iff single).2 active] at settled
      subst settled
      exact alternates.reapply
    · rwa [List.append_nil]
  | _ =>
    refine ⟨applied, ?_, pending.pass lawful handled single orderly rfl⟩
    simpa only [Occurrence.moves, List.append_nil] using alternates

theorem Applies.handle
    (applies : Applies roles earlier ⟨machine, occurrence :: rest, derived, effects⟩ done)
    (orderly : Orderly (occurrence :: rest))
    (handled : (Turn.start machine).handle now occurrence = .ok turn) :
    Applies roles earlier
      ⟨turn.machine, rest ++ turn.derived, derived ++ turn.derived, effects ++ turn.effects⟩
      (done ++ [⟨⟨now, occurrence⟩, machine, turn⟩]) := by
  obtain ⟨electing, alone, ⟨applied, alternates, pending⟩, moves, claims⟩ := applies
  have single : machine.status.IsSingle := electing.2.single
  obtain ⟨sameRoles, stillElecting⟩ := Turn.handle_electing handled orderly electing.2
  obtain ⟨movesSame, movesMore, claimsMore⟩ := Turn.handle_calls handled
  have activates := Turn.handle_activates handled single
  have unreported := (Turn.handle_records handled single).unreported
  refine ⟨⟨sameRoles.trans electing.1, stillElecting⟩, ?_, ?_, ?_, ?_⟩
  · intro waiting member reported
    rcases List.mem_append.1 member with old | new
    · exact absurd reported (none_behind alone waiting old)
    · rw [unreported waiting new] at reported
      cases reported
  · rw [movesOf_concat, movesSame, ← List.append_assoc]
    refine applied_of_handled handled orderly single (fun reported => ?_) alternates pending
    exact (List.cons.inj (alone occurrence List.mem_cons_self reported)).2
  · rw [List.flatMap_append, List.forall_mem_append, List.flatMap_singleton]
    exact ⟨moves, movesMore⟩
  · rw [List.flatMap_append, List.countP_append, List.countP_append, List.count_append,
      List.flatMap_singleton, claimsMore, activates]
    rw [List.count_cons] at claims
    simp only [beq_iff_eq] at claims
    omega

end Handled

/-- Nothing waits that concerns the election before a reported event is handled. -/
theorem start_applies {machine : Machine} {event : Event} {earlier : List Move}
    (reported : event.occurrence.isReported = true)
    (elected : machine.Elected machine.status.hasUp)
    (alternates : Alternates earlier machine.status.activeInterface?) :
    Applies machine.roleOf? earlier (start machine event) [] where
  electing := start_electing reported elected
  alone occurrence member _ := by rw [List.mem_singleton.1 member]; rfl
  applied := by
    refine ⟨_, ?_, Subject.interfaces.pending_of_reported machine.status reported⟩
    exact (List.append_nil earlier).symm ▸ alternates
  moves := List.forall_mem_nil _
  claims := by
    have apart : event.occurrence ≠ .bridgeActivated := by
      intro same
      rw [same] at reported
      cases reported
    simp [start, apart]

end Cascade

namespace Machine

/-- The requests of an event go on from those before it, and agree with the election when it has been
processed. -/
theorem process_applies {machine : Machine} {event : Event}
    (reported : event.occurrence.isReported = true)
    (elected : machine.Elected machine.status.hasUp) (named : machine.Named) {earlier : List Move}
    (alternates : Alternates earlier machine.status.activeInterface?) :
    let transcript := machine.transcript event
    Alternates (earlier ++ movesOf transcript)
        (machine.process event).machine.status.activeInterface? ∧
      (∀ call ∈ transcript.flatMap (·.calls), call.request.kind ≠ .bridgeActivate →
        call.move?.isSome) ∧
      (transcript.flatMap (·.calls)).countP (·.claims) = transcript.countP (·.activates) := by
  rcases (process_named named event).2 with calm | ⟨⟨fault, refused⟩, nothing⟩
  · obtain ⟨waiting, -, applies, finishes⟩ := machine.transcript_keeps event
      (Cascade.Applies machine.roleOf? earlier)
      (fun _ _ _ _ _ _ _ orderly applies handled => applies.handle orderly handled)
      (Cascade.start_applies reported elected alternates)
    obtain ⟨-, -, ⟨applied, still, pending⟩, moves, claims⟩ := applies
    rw [finishes calm] at pending claims
    have settled : applied = (machine.process event).machine.status.activeInterface? :=
      pending.eq_active (List.forall_mem_nil _)
    exact ⟨settled ▸ still, moves, claims⟩
  · rw [refused, nothing]
    exact ⟨(List.append_nil earlier).symm ▸ alternates, List.forall_mem_nil _, rfl⟩

/-- The last event of a run adds its calls. -/
theorem calls_concat (machine : Machine) (events : List Event) (event : Event) :
    machine.calls (events ++ [event]) =
      machine.calls events ++ ((machine.run events).machine.transcript event).flatMap (·.calls) := by
  rw [calls, runTranscript_concat, List.flatMap_append]
  rfl

/-- The calls of a run have the requests that leave the machine. -/
theorem calls_requests (machine : Machine) (events : List Event) :
    (machine.calls events).map (·.request) = requestsOf (machine.run events).effects := by
  rw [← runTranscript_effects, calls]
  induction machine.runTranscript events with
  | nil => rfl
  | cons handling rest inductionHypothesis =>
    have own : handling.calls.map (·.request) = requestsOf handling.turn.effects := by
      simp [Handling.calls, Turn.requests, Function.comp_def]
    rw [List.flatMap_cons, List.flatMap_cons, List.map_append, inductionHypothesis, own]
    exact (List.filterMap_append ..).symm

/-- The requests of every run from a fresh status agree with the election. Without those that apply an
interface again, interfaces are applied and withdrawn one after the other, and the one that is still
applied is the active one. An interface is applied again only while it is applied. The bridge is
applied once whenever it becomes active. -/
theorem run_applies {name : String} {settings : BridgeSettings} {start : Instant}
    {machine : Machine} (built : new name settings (initialStatus name settings start) = .ok machine)
    (events : List Event) (reported : ∀ event ∈ events, event.occurrence.isReported = true) :
    let calls := machine.calls events
    calls.map (·.request) = requestsOf (machine.run events).effects ∧
      (∀ call ∈ calls, call.request.kind ≠ .bridgeActivate → call.move?.isSome) ∧
      Alternates (calls.filterMap (·.move?)) (machine.run events).machine.status.activeInterface? ∧
      calls.countP (·.claims) = (machine.runTranscript events).countP (·.activates) := by
  intro calls
  refine ⟨calls_requests machine events, ?_⟩
  induction events using List.reverseRecOn with
  | nil =>
    have inactive := activeInterface?_of_new built
    exact ⟨List.forall_mem_nil _, (congrArg (Alternates []) inactive).mpr .nil, rfl⟩
  | append_singleton earlier last inductionHypothesis =>
    have earlierReported : ∀ event ∈ earlier, event.occurrence.isReported = true :=
      fun event member => reported event (List.mem_append_left _ member)
    have lastReported := reported last (by simp)
    obtain ⟨-, elected⟩ := run_elected built earlier earlierReported
    obtain ⟨moves, alternates, claims⟩ := inductionHypothesis earlierReported
    obtain ⟨still, movesMore, claimsMore⟩ :=
      process_applies lastReported elected (run_named built earlier) alternates
    simp only [calls, calls_concat, runTranscript_concat, run_concat]
    refine ⟨List.forall_mem_append.2 ⟨moves, movesMore⟩, ?_, ?_⟩
    · rw [List.filterMap_append]
      exact still
    · rw [List.countP_append, List.countP_append, claims, claimsMore]

/-- The requests of a run in which one interface takes over from another one, after that one has been
applied twice. -/
theorem run_applies_wg0 :
    let start : Instant := ⟨0, 0⟩
    let settings := BridgeSettings.plain .standby
    let returned (interface : String) (sequence : UInt64) : Event :=
      ⟨start, .probeReturned interface sequence .zero .zero .empty⟩
    let events := [returned "wg1" 1, returned "wg1" 2, ⟨start, .interfaceReactivated "wg1" 1⟩,
      returned "wg0" 1, returned "wg0" 2]
    ∃ machine, new "vpn" settings (initialStatus "vpn" settings start) = .ok machine ∧
      (∀ event ∈ events, event.occurrence.isReported = true) ∧
      (machine.calls events).filterMap (·.move?) =
        [.apply "wg1", .reapply "wg1", .withdraw "wg1", .apply "wg0"] ∧
      Alternates ((machine.calls events).filterMap (·.move?)) (some "wg0") ∧
      (machine.calls events).countP (·.claims) = 1 := by
  intro start settings returned events
  have reported : ∀ event ∈ events, event.occurrence.isReported = true := by decide
  have built : new "vpn" settings (initialStatus "vpn" settings start) = .ok _ := rfl
  obtain ⟨-, -, alternates, claims⟩ := run_applies built events reported
  refine ⟨_, built, reported, by decide +kernel, Eq.mp (congrArg (Alternates _) ?_) alternates,
    claims.trans (by decide +kernel)⟩
  decide +kernel

end Machine

end TunnelFailover

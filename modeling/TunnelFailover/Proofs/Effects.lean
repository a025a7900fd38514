import TunnelFailover.Proofs.Handling
import TunnelFailover.Proofs.TunnelFlags
/-!
This file says which requests and samples leave the machine: those of the occurrence that is handled,
and no others.
-/

namespace TunnelFailover

/-- A request of the bridge of a machine. -/
def Machine.request (machine : Machine) (kind : RequestKind) (interface : Option String)
    (iteration : UInt32) : Request :=
  ⟨kind, machine.bridgeInterface, machine.peerCidrs, interface, iteration⟩

/-- A probe over an interface that is not configured counts as an error too. -/
def Machine.strayEffects (machine : Machine) (interface : String) : List Effect :=
  if (machine.links.get? interface).isNone then
    [.sample (.error machine.name Scope.internalLogic)]
  else []

/-- What leaves the machine when an occurrence is handled. -/
def Occurrence.effects (machine : Machine) : Occurrence → List Effect
  | bridgeActivated => [.request (machine.request .bridgeActivate none 0)]
  | bridgeReactivated iteration =>
    if machine.status.active then [.request (machine.request .bridgeActivate none iteration)]
    else []
  | interfaceActivated interface =>
    [.request (machine.request .interfaceActivate (some interface) 0)]
  | interfaceDeactivated interface =>
    [.request (machine.request .interfaceDeactivate (some interface) 0)]
  | interfaceReactivated interface iteration =>
    if machine.status.hasActive interface then
      [.request (machine.request .interfaceActivate (some interface) iteration)]
    else []
  | partnerPollFailed _ _ => [.sample (.error machine.name Scope.partnerPolling)]
  | probeSent interface _ =>
    .sample (.probeSent machine.name interface) :: machine.strayEffects interface
  | probeUnsent interface _ _ =>
    .sample (.probeFailed machine.name interface) ::
      .sample (.error machine.name Scope.peerProbing) :: machine.strayEffects interface
  | probeLost interface _ =>
    .sample (.probeFailed machine.name interface) :: machine.strayEffects interface
  | probeReturned interface _ forward backward location =>
    .sample (.probeReturned machine.name interface machine.location.text location.text forward
      backward) :: machine.strayEffects interface
  | _ => []

@[simp]
theorem requestsOf_append (first second : List Effect) :
    requestsOf (first ++ second) = requestsOf first ++ requestsOf second := List.filterMap_append

@[simp]
theorem samplesOf_append (first second : List Effect) :
    samplesOf (first ++ second) = samplesOf first ++ samplesOf second := List.filterMap_append

@[simp]
theorem samplesOf_sample (sample : Sample) (rest : List Effect) :
    samplesOf (.sample sample :: rest) = sample :: samplesOf rest := rfl

namespace Turn

variable {now : Instant} {turn : Turn}

theorem effects_observe (interface : String) (change : Monitor → Monitor) :
    (turn.observe now interface change).effects =
      turn.effects ++ turn.machine.strayEffects interface := by
  unfold observe Machine.strayEffects
  cases turn.machine.links.get? interface with
  | none => rfl
  | some link =>
    unfold followVerdict
    dsimp only
    simp only [Option.isNone_some, Bool.false_eq_true, if_false, List.append_nil]
    split
    · split <;> rfl
    · rfl

theorem effects_deriveBridge : (turn.deriveBridge now).effects = turn.effects := by
  unfold deriveBridge
  dsimp only
  split <;> rfl

theorem effects_supersede (interface : String) :
    (turn.supersede now interface).effects = turn.effects := by
  unfold supersede
  generalize List.filter _ _ = others
  dsimp only
  induction others generalizing turn with
  | nil => rfl
  | cons other rest inductionHypothesis =>
    rw [List.foldl_cons]
    exact inductionHypothesis

theorem effects_interfaceWentDown (interface : String) :
    (turn.interfaceWentDown now interface).effects = turn.effects := by
  unfold interfaceWentDown
  dsimp only
  split
  · split <;> exact effects_deriveBridge
  · exact effects_deriveBridge

theorem effects_interfaceWentUp (interface : String) :
    (turn.interfaceWentUp now interface).effects = turn.effects := by
  unfold interfaceWentUp
  dsimp only
  split
  · split
    · exact effects_deriveBridge
    · split
      · exact (effects_supersede interface).trans effects_deriveBridge
      · split <;> exact effects_deriveBridge
  · exact effects_deriveBridge

theorem effects_judgePartner (sequence : UInt64) (result : Liveness) :
    (turn.judgePartner now sequence result).effects = turn.effects := by
  unfold judgePartner
  dsimp only
  split
  · split <;> rfl
  · split <;> rfl
  · rfl

theorem effects_followReport (report : BridgeStatus) :
    (turn.followReport report).effects = turn.effects := by
  have named : (turn.followName report).effects = turn.effects := by
    unfold followName
    dsimp only
    split
    · split <;> rfl
    · rfl
  rw [followReport_eq]
  split <;> exact named

/-- What leaves the machine in a turn is known from the occurrence that is handled. -/
theorem handle_effects {machine : Machine} {occurrence : Occurrence}
    (handled : (start machine).handle now occurrence = .ok turn) :
    turn.effects = occurrence.effects machine := by
  cases occurrence with
  | probeLost | probeReturned | probeUnsent | probeSent =>
    cases handled
    exact effects_observe _ _
  | interfaceWentDown interface =>
    cases handled
    exact effects_interfaceWentDown interface
  | interfaceWentUp interface =>
    cases handled
    exact effects_interfaceWentUp interface
  | bridgeWentDown =>
    cases handled
    unfold bridgeWentDown
    dsimp only
    split <;> split <;> rfl
  | bridgeWentUp =>
    cases handled
    unfold bridgeWentUp
    dsimp only
    split <;> split <;> rfl
  | partnerWentDown =>
    cases handled
    unfold partnerWentDown
    dsimp only
    split <;> split <;> rfl
  | partnerWentUp =>
    cases handled
    unfold partnerWentUp
    split <;> rfl
  | partnerPollFailed sequence cause =>
    cases handled
    unfold partnerPollFailed
    dsimp only
    split
    · rfl
    · exact effects_judgePartner _ _
  | partnerPolled sequence report =>
    rw [handle_polled handled, effects_followReport, effects_judgePartner]
    rfl
  | bridgeReactivated iteration =>
    cases handled
    exact apply_ite Turn.effects ..
  | interfaceReactivated interface iteration =>
    cases handled
    exact apply_ite Turn.effects ..
  | bridgeActivated | interfaceActivated | interfaceDeactivated =>
    cases handled
    rfl
  | bridgeDeactivated | connectivityLost | connectivityRestored | partnerActivated
  | partnerDeactivated =>
    cases handled
    rfl
  | partnerChangedName => cases handled

end Turn

/-- The requests that the handling of an occurrence issues. -/
def Occurrence.requests (machine : Machine) : Occurrence → List Request
  | bridgeActivated => [machine.request .bridgeActivate none 0]
  | bridgeReactivated iteration =>
    if machine.status.active then [machine.request .bridgeActivate none iteration] else []
  | interfaceActivated interface => [machine.request .interfaceActivate (some interface) 0]
  | interfaceDeactivated interface => [machine.request .interfaceDeactivate (some interface) 0]
  | interfaceReactivated interface iteration =>
    if machine.status.hasActive interface then
      [machine.request .interfaceActivate (some interface) iteration]
    else []
  | _ => []

namespace Turn

/-- The requests among the effects of a turn. -/
def requests (turn : Turn) : List Request := requestsOf turn.effects

/-- Only activations and deactivations issue requests, and repeated activations as long as they
last. -/
theorem handle_requests {machine : Machine} {now : Instant} {occurrence : Occurrence} {turn : Turn}
    (handled : (start machine).handle now occurrence = .ok turn) :
    turn.requests = occurrence.requests machine := by
  rw [requests, handle_effects handled]
  have stray (interface : String) : requestsOf (machine.strayEffects interface) = [] := by
    unfold Machine.strayEffects
    split <;> rfl
  cases occurrence with
  | probeLost | probeReturned | probeUnsent | probeSent => exact stray _
  | bridgeReactivated | interfaceReactivated => exact apply_ite requestsOf ..
  | _ => rfl

end Turn

/-- Only the results of probes and failed polls leave samples. -/
theorem Occurrence.samples_of_rank {occurrence : Occurrence} (low : occurrence.rank < 2)
    (machine : Machine) : samplesOf (occurrence.effects machine) = [] := by
  cases occurrence with
  | probeLost | probeReturned | probeUnsent | probeSent | partnerPollFailed =>
    simp [rank] at low
  | bridgeReactivated | interfaceReactivated => exact (apply_ite samplesOf ..).trans (ite_self _)
  | _ => rfl

/-- What is derived leaves no samples. -/
theorem Turn.samples_of_derived {machine : Machine} {now : Instant} {occurrence : Occurrence}
    {turn : Turn} (handled : (start machine).handle now occurrence = .ok turn) :
    ∀ derived ∈ turn.derived, ∀ current, samplesOf (derived.effects current) = [] := by
  have observed {before : Turn} (nothing : before.derived = []) (interface : String)
      (change : Monitor → Monitor) : ∀ derived ∈ (before.observe now interface change).derived,
      ∀ current, samplesOf (derived.effects current) = [] := by
    rcases observe_derived nothing now interface change with silent | down | up
    · rw [silent]
      exact List.forall_mem_nil _
    · rw [down]
      exact List.forall_mem_singleton.2 fun _ => rfl
    · rw [up]
      exact List.forall_mem_singleton.2 fun _ => rfl
  intro derived member current
  have lower := (handle_orderly handled).2 derived member
  cases occurrence with
  | probeLost | probeReturned | probeUnsent | probeSent =>
    cases handled
    exact observed rfl _ _ derived member current
  | _ =>
    exact Occurrence.samples_of_rank
      (Nat.lt_of_lt_of_le lower (Nat.le_of_ble_eq_true rfl)) current

namespace Machine

/-- The samples of an event are those of its own occurrence, whatever is derived from it. -/
theorem process_samples (machine : Machine) (event : Event) :
    samplesOf (machine.process event).effects = samplesOf (event.occurrence.effects machine) := by
  cases handled : (Turn.start machine).handle event.time event.occurrence with
  | error fault =>
    rw [process_of_failed handled]
    rcases Turn.handle_error handled with ⟨_, _, same⟩ | ⟨_, _, same⟩ <;> rw [same] <;> rfl
  | ok turn =>
    obtain ⟨derives, effects, -⟩ := machine.transcript_spec event
    have silent : ∀ handling ∈ turn.machine.handlings (machine.derivedEvents event),
        samplesOf handling.turn.effects = [] := by
      intro handling member
      obtain ⟨derived, handledLater⟩ := of_mem_handlings member
      rw [← derives] at derived
      obtain ⟨cause, causeMember, derived⟩ := List.mem_flatMap.1 derived
      obtain ⟨occurrence, occurrenceMember, same⟩ := List.mem_map.1 derived
      rw [Turn.handle_effects handledLater, ← same]
      exact Turn.samples_of_derived (of_mem_handlings causeMember).2 occurrence occurrenceMember _
    have none : samplesOf ((turn.machine.handlings (machine.derivedEvents event)).flatMap
        (·.turn.effects)) = [] := by
      rw [samplesOf, List.filterMap_flatMap]
      exact List.flatMap_eq_nil_iff.2 silent
    rw [← effects, transcript, handlings_of_handled _ handled, List.flatMap_cons,
      Turn.handle_effects handled, samplesOf_append, none, List.append_nil]

end Machine

end TunnelFailover

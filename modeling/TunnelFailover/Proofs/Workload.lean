import TunnelFailover.Proofs.Handling
import TunnelFailover.Proofs.Records
/-!
This file lets a machine process the events of a queue while its timers are looked at and other
events are reported at any moment, also in the middle of a cascade.
-/

namespace TunnelFailover

namespace Machine

/-- A timer that is due reports an event of this moment. -/
theorem reported_of_mem_dueReactivations {machine : Machine} {now : Instant} {event : Event}
    (due : event ∈ (machine.dueReactivations now).2) :
    event.occurrence.isReported = true ∧ event.time = now := by
  simp only [dueReactivations, List.map_append, List.mem_append, List.mem_map,
    Option.mem_toList] at due
  rcases due with ⟨occurrence, bridge, rfl⟩ | ⟨occurrence, interface, rfl⟩
  · refine ⟨?_, rfl⟩
    split at bridge
    · obtain ⟨iteration, -, rfl⟩ := Option.map_eq_some_iff.1 bridge
      rfl
    · cases bridge
  · refine ⟨?_, rfl⟩
    simp only [bind, Option.bind_eq_some_iff, pure, Option.some.injEq] at interface
    obtain ⟨active, -, iteration, -, rfl⟩ := interface
    rfl

/-- The election does not look at the timers. -/
theorem Electing.dueReactivations {machine : Machine} {waiting : List Occurrence}
    (electing : machine.Electing waiting) (now : Instant) :
    (machine.dueReactivations now).1.Electing waiting := by
  have same {live : String → Bool} (elected : machine.Elected live) :
      (machine.dueReactivations now).1.Elected live := elected.transfer rfl rfl rfl
  unfold Electing at electing ⊢
  split at electing
  · exact ⟨electing.1, same electing.2⟩
  · exact ⟨electing.1, electing.2.1, same electing.2.2⟩
  · exact same electing

end Machine

/-- A machine has a cascade on its way, which comes from an event of some time, and a queue of events
that are not processed yet. -/
structure Workload where
  cascade : Cascade
  now : Instant
  queue : List Event

namespace Workload

/-- Nothing has been reported to a machine. -/
def start (machine : Machine) (now : Instant) : Workload := ⟨⟨machine, [], [], []⟩, now, []⟩

/-- The timers that are due at a moment give the queue their events. -/
def tick (workload : Workload) (moment : Instant) : Workload :=
  let (machine, due) := workload.cascade.machine.dueReactivations moment
  { workload with
    cascade := { workload.cascade with machine }
    queue := workload.queue ++ due }

@[simp]
theorem tick_machine (workload : Workload) (moment : Instant) :
    (workload.tick moment).cascade.machine = (workload.cascade.machine.dueReactivations moment).1 :=
  rfl

/-- What may happen to a workload, if events have certain times. The next event is taken once the
cascade is finished, and a cascade goes on step by step or is dropped at a fault. Events are reported
and timers are looked at in between. -/
inductive Step (times : Instant → Prop) : Workload → Workload → Prop
  | take {cascade : Cascade} {now : Instant} {event : Event} {rest : List Event}
      (finished : cascade.waiting = []) :
      Step times ⟨cascade, now, event :: rest⟩ ⟨.start cascade.machine event, event.time, rest⟩
  | handle {before after : Cascade} {now : Instant} {queue : List Event}
      (step : Cascade.Step now before after) :
      Step times ⟨before, now, queue⟩ ⟨after, now, queue⟩
  | fail {cascade : Cascade} {now : Instant} {queue : List Event} {fault : BridgeFault}
      (stuck : cascade.FailsWith now fault) :
      Step times ⟨cascade, now, queue⟩ ⟨{ cascade with waiting := [] }, now, queue⟩
  | report {workload : Workload} {event : Event} (reported : event.occurrence.isReported = true)
      (timely : times event.time) :
      Step times workload { workload with queue := workload.queue ++ [event] }
  | tick {workload : Workload} {moment : Instant}
      (timely : ∀ event ∈ (workload.cascade.machine.dueReactivations moment).2, times event.time) :
      Step times workload (workload.tick moment)

/-- The second workload comes from the first one by some steps. -/
abbrev Reaches (times : Instant → Prop) : Workload → Workload → Prop :=
  Relation.ReflTransGen (Step times)

/-- The status of the bridge. -/
def status (workload : Workload) : BridgeStatus := workload.cascade.machine.status

/-- What holds of the cascade and the queue at every time. -/
structure Sound (times : Instant → Prop) (roles : String → Option Role) (workload : Workload) :
    Prop where
  orderly : Orderly workload.cascade.waiting
  electing : workload.cascade.Electing roles
  named : workload.cascade.machine.Named
  alone : ∀ occurrence ∈ workload.cascade.waiting,
    occurrence.isReported = true ∨ occurrence.isSafe = false →
      workload.cascade.waiting = [occurrence]
  timely : workload.cascade.waiting ≠ [] → times workload.now
  queued : ∀ event ∈ workload.queue, event.occurrence.isReported = true ∧ times event.time

variable {times : Instant → Prop} {roles : String → Option Role} {workload after : Workload}

/-- Whatever happens to a workload, it stays sound. -/
theorem Sound.step (sound : workload.Sound times roles) (step : Step times workload after) :
    after.Sound times roles := by
  obtain ⟨orderly, electing, named, alone, timely, queued⟩ := sound
  cases step with
  | @take cascade now event rest finished =>
    obtain ⟨reported, eventTimely⟩ := queued event List.mem_cons_self
    have elected : cascade.machine.Elected cascade.machine.status.hasUp := by
      have decided := electing.2
      rw [show cascade.waiting = [] from finished] at decided
      exact decided
    refine ⟨Cascade.start_orderly _ _, ?_, named, ?_, fun _ => eventTimely, ?_⟩
    · rw [← electing.1]
      exact Cascade.start_electing reported elected
    · intro occurrence member _
      rw [List.mem_singleton.1 member]
      rfl
    · exact fun other member => queued other (List.mem_cons_of_mem _ member)
  | @handle before after now queue step =>
    have stillOrderly := step.orderly orderly
    have stillElecting := step.electing orderly electing
    cases step with
    | @handle machine occurrence rest derived effects turn handled =>
      have accepted := Turn.accepted_of_handled handled
      have unreported := (Turn.handle_records handled electing.2.single).unreported
      have safe := Turn.handle_safe handled accepted named
      refine ⟨stillOrderly, stillElecting, Turn.handle_named handled accepted named, ?_, ?_, queued⟩
      · intro waiting member exposed
        rcases List.mem_append.1 member with old | new
        · exact absurd exposed (Cascade.none_behind alone waiting old)
        · rw [unreported waiting new, safe waiting new] at exposed
          simp at exposed
      · exact fun _ => timely (List.cons_ne_nil _ _)
  | @fail cascade now queue fault stuck =>
    obtain ⟨occurrence, rest, waits, failed⟩ := stuck
    have elected : cascade.machine.Elected cascade.machine.status.hasUp := by
      have decided := electing.2
      rw [show cascade.waiting = _ from waits] at decided
      rcases Turn.handle_error failed with ⟨sequence, report, rfl⟩ | ⟨former, latter, rfl⟩ <;>
        exact decided
    refine ⟨trivial, ⟨electing.1, elected⟩, named, List.forall_mem_nil _, ?_, queued⟩
    exact fun some => absurd rfl some
  | @report workload event reported eventTimely =>
    refine ⟨orderly, electing, named, alone, timely, ?_⟩
    rw [List.forall_mem_append, List.forall_mem_singleton]
    exact ⟨queued, reported, eventTimely⟩
  | @tick workload moment dueTimely =>
    refine ⟨orderly, ⟨electing.1, ?_⟩, named, alone, timely, ?_⟩
    · exact electing.2.dueReactivations moment
    · change ∀ event ∈ workload.queue ++ (workload.cascade.machine.dueReactivations moment).2, _
      rw [List.forall_mem_append]
      exact ⟨queued, fun event due =>
        ⟨(Machine.reported_of_mem_dueReactivations due).1, dueTimely event due⟩⟩

/-- Every workload that is reached is sound. -/
theorem Sound.reaches (sound : workload.Sound times roles) (reaches : Reaches times workload after) :
    after.Sound times roles := by
  induction reaches with
  | refl => exact sound
  | tail _ step inductionHypothesis => exact inductionHypothesis.step step

/-- A new machine to which nothing has been reported. -/
theorem sound_start {name : String} {settings : BridgeSettings} {start : Instant}
    {machine : Machine}
    (built : Machine.new name settings (Machine.initialStatus name settings start) = .ok machine) :
    (Workload.start machine start).Sound times machine.roleOf? where
  orderly := trivial
  electing := ⟨rfl, Machine.elected_initialStatus (Machine.new_eq_ok built).2.2.2.2.1⟩
  named := Machine.named_of_new built
  alone := List.forall_mem_nil _
  timely some := absurd rfl some
  queued := List.forall_mem_nil _

/-- If nothing happens in between, the next event is processed as a whole. -/
theorem reaches_process {cascade : Cascade} {now : Instant} {event : Event} {queue : List Event}
    (finished : cascade.waiting = []) :
    let outcome := cascade.machine.process event
    Reaches times ⟨cascade, now, event :: queue⟩
      ⟨⟨outcome.machine, [], outcome.derived, outcome.effects⟩, event.time, queue⟩ := by
  intro outcome
  obtain ⟨waiting, reaches, ending⟩ := cascade.machine.process_leadsTo event
  have handled := Relation.ReflTransGen.lift (r := Cascade.Step event.time) (p := Step times)
    (fun cascade => ⟨cascade, event.time, queue⟩) (fun _ _ step => .handle step) _ _ reaches
  refine .head (.take finished) ?_
  cases calm : outcome.fault with
  | none =>
    rw [calm] at ending
    change waiting = [] at ending
    exact ending ▸ handled
  | some fault =>
    rw [calm] at ending
    exact handled.tail (.fail ending)

/-- A workload comes to the end of every run. -/
theorem reaches_run (machine : Machine) (now : Instant) (events : List Event)
    (timely : ∀ event ∈ events, event.occurrence.isReported = true ∧ times event.time) :
    ∃ workload, Reaches times (.start machine now) workload ∧
      workload.cascade.machine = (machine.run events).machine ∧ workload.cascade.waiting = [] ∧
      workload.queue = [] := by
  induction events using List.reverseRecOn with
  | nil => exact ⟨.start machine now, .refl, rfl, rfl, rfl⟩
  | append_singleton earlier last inductionHypothesis =>
    obtain ⟨workload, reaches, sameMachine, finished, noneQueued⟩ :=
      inductionHypothesis fun event member => timely event (List.mem_append_left _ member)
    obtain ⟨reported, lastTimely⟩ := timely last (by simp)
    have queued := reaches.tail (.report reported lastTimely)
    rw [noneQueued] at queued
    refine ⟨_, queued.trans (reaches_process finished), ?_, rfl, rfl⟩
    rw [Machine.run_concat, Run.step, sameMachine]

end Workload

end TunnelFailover

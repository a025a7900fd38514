import Mathlib.Data.List.Induction
import TunnelFailover.Proofs.Faults
/-!
This file writes down how events are processed: which ones are handled one after the other, and what
each of them derives and lets leave the machine.
-/

namespace TunnelFailover

/-- An event is handled in a turn of a machine. -/
structure Handling where
  event : Event
  before : Machine
  turn : Turn

/-- What is derived from an event has the time of this event. -/
def Handling.derived (handling : Handling) : List Event :=
  handling.turn.derived.map (Event.mk handling.event.time)

namespace Machine

/-- Events are handled one after the other, each at its own time, up to the first fault. -/
def handlings (machine : Machine) : List Event → List Handling
  | [] => []
  | event :: rest =>
    match (Turn.start machine).handle event.time event.occurrence with
    | .ok turn => ⟨event, machine, turn⟩ :: turn.machine.handlings rest
    | .error _ => []

/-- The events that are derived from an event, in their order. -/
def derivedEvents (machine : Machine) (event : Event) : List Event :=
  (machine.process event).derived.map (Event.mk event.time)

/-- The transcript of an event has the handling of the event and of all that is derived from it. -/
def transcript (machine : Machine) (event : Event) : List Handling :=
  machine.handlings (event :: machine.derivedEvents event)

/-- The transcript of a run has the transcripts of its events. -/
def runTranscript (machine : Machine) : List Event → List Handling
  | [] => []
  | event :: rest => machine.transcript event ++ (machine.process event).machine.runTranscript rest

/-- The events that are derived in a run, in their order. -/
def runDerivedEvents (machine : Machine) : List Event → List Event
  | [] => []
  | event :: rest =>
    machine.derivedEvents event ++ (machine.process event).machine.runDerivedEvents rest

variable {machine : Machine} {event : Event}

theorem handlings_of_handled {turn : Turn} (rest : List Event)
    (handled : (Turn.start machine).handle event.time event.occurrence = .ok turn) :
    machine.handlings (event :: rest) = ⟨event, machine, turn⟩ :: turn.machine.handlings rest := by
  rw [handlings, handled]

theorem handlings_of_failed {fault : BridgeFault} (rest : List Event)
    (failed : (Turn.start machine).handle event.time event.occurrence = .error fault) :
    machine.handlings (event :: rest) = [] := by
  rw [handlings, failed]

/-- A handling is of one of the events, which has been handled. -/
theorem of_mem_handlings {events : List Event} {handling : Handling}
    (member : handling ∈ machine.handlings events) :
    handling.event ∈ events ∧
      (Turn.start handling.before).handle handling.event.time handling.event.occurrence =
        .ok handling.turn := by
  induction events generalizing machine with
  | nil => cases member
  | cons first rest inductionHypothesis =>
    cases handled : (Turn.start machine).handle first.time first.occurrence with
    | error fault =>
      rw [handlings_of_failed rest handled] at member
      cases member
    | ok turn =>
      rw [handlings_of_handled rest handled] at member
      rcases List.mem_cons.1 member with rfl | later
      · exact ⟨List.mem_cons_self, handled⟩
      · exact (inductionHypothesis later).imp_left (List.mem_cons_of_mem first)

end Machine

namespace Cascade

/-- If occurrences of a kind wait alone, then none of them waits behind another one. -/
theorem none_behind {kind : Occurrence → Prop} {first : Occurrence} {rest : List Occurrence}
    (alone : ∀ waiting ∈ first :: rest, kind waiting → first :: rest = [waiting]) :
    ∀ waiting ∈ rest, ¬kind waiting := by
  intro waiting member ofKind
  have same := alone waiting (List.mem_cons_of_mem _ member) ofKind
  rw [(List.cons.inj same).2] at member
  cases member

/-- The steps of a cascade so far are some handlings: those of the event and of what is derived, up to
what waits. -/
structure Follows (machine : Machine) (event : Event) (cascade : Cascade) (done : List Handling) :
    Prop where
  queue : event :: cascade.derived.map (Event.mk event.time) =
    done.map (·.event) ++ cascade.waiting.map (Event.mk event.time)
  continues : ∀ rest, machine.handlings (done.map (·.event) ++ rest) =
    done ++ cascade.machine.handlings rest
  derived : done.flatMap (·.derived) = cascade.derived.map (Event.mk event.time)
  effects : done.flatMap (·.turn.effects) = cascade.effects

theorem follows_start (machine : Machine) (event : Event) :
    Follows machine event (start machine event) [] where
  queue := rfl
  continues _ := rfl
  derived := rfl
  effects := rfl

theorem Follows.handle {machine current : Machine} {event : Event} {occurrence : Occurrence}
    {rest derived : List Occurrence} {effects : List Effect} {done : List Handling} {turn : Turn}
    (follows : Follows machine event ⟨current, occurrence :: rest, derived, effects⟩ done)
    (handled : (Turn.start current).handle event.time occurrence = .ok turn) :
    Follows machine event
      ⟨turn.machine, rest ++ turn.derived, derived ++ turn.derived, effects ++ turn.effects⟩
      (done ++ [⟨⟨event.time, occurrence⟩, current, turn⟩]) := by
  obtain ⟨queue, continues, derivedSame, effectsSame⟩ := follows
  have last (more : List Event) : current.handlings (⟨event.time, occurrence⟩ :: more) =
      ⟨⟨event.time, occurrence⟩, current, turn⟩ :: turn.machine.handlings more :=
    Machine.handlings_of_handled more handled
  constructor
  · rw [List.map_append, ← List.cons_append, queue]
    simp
  · intro more
    rw [List.map_append, List.append_assoc, List.map_singleton, List.singleton_append, continues,
      last, List.append_assoc]
    rfl
  · rw [List.flatMap_append, derivedSame, List.map_append]
    simp [Handling.derived]
  · rw [List.flatMap_append, effectsSame]
    simp

end Cascade

namespace Turn

/-- What is handled is accepted. -/
theorem accepted_of_handled {machine : Machine} {now : Instant} {occurrence : Occurrence}
    {turn : Turn} (handled : (start machine).handle now occurrence = .ok turn) :
    occurrence.AcceptedBy machine := by
  cases occurrence with
  | partnerChangedName => cases handled
  | partnerPolled sequence report =>
    simp only [handle, partnerPolled] at handled
    split at handled
    · cases handled
    · rename_i sameName
      split at handled
      · cases handled
      · rename_i otherRole
        exact ⟨Decidable.not_not.1 sameName, otherRole⟩
  | _ => trivial

end Turn

namespace Machine

/-- A law of a cascade and of the handlings so far holds of the transcript if every handling from an
orderly queue keeps it. Only a fault leaves something that waits. -/
theorem transcript_keeps (machine : Machine) (event : Event)
    (law : Cascade → List Handling → Prop)
    (kept : ∀ current occurrence rest derived effects turn done, Orderly (occurrence :: rest) →
      law ⟨current, occurrence :: rest, derived, effects⟩ done →
      (Turn.start current).handle event.time occurrence = .ok turn →
      law ⟨turn.machine, rest ++ turn.derived, derived ++ turn.derived, effects ++ turn.effects⟩
        (done ++ [⟨⟨event.time, occurrence⟩, current, turn⟩]))
    (holds : law (.start machine event) []) :
    ∃ waiting,
      let last : Cascade := ⟨(machine.process event).machine, waiting,
        (machine.process event).derived, (machine.process event).effects⟩
      last.Follows machine event (machine.transcript event) ∧
        law last (machine.transcript event) ∧
        ((machine.process event).fault = none → waiting = []) := by
  obtain ⟨waiting, reaches, ending⟩ := machine.process_leadsTo event
  obtain ⟨done, -, follows, lawful⟩ := reaches.keeps
    (fun cascade => ∃ done, Orderly cascade.waiting ∧ cascade.Follows machine event done ∧
      law cascade done)
    (fun before after holds step => by
      obtain ⟨done, orderly, follows, lawful⟩ := holds
      have stillOrderly := step.orderly orderly
      cases step with
      | handle handled =>
        exact ⟨_, stillOrderly, follows.handle handled,
          kept _ _ _ _ _ _ _ orderly lawful handled⟩)
    ⟨[], Cascade.start_orderly machine event, Cascade.follows_start machine event, holds⟩
  have stops : (machine.process event).machine.handlings (waiting.map (Event.mk event.time)) = [] := by
    cases calm : (machine.process event).fault with
    | none =>
      rw [calm] at ending
      change waiting = [] at ending
      rw [ending]
      rfl
    | some fault =>
      rw [calm] at ending
      obtain ⟨occurrence, rest, rfl, failed⟩ := ending
      exact handlings_of_failed _ failed
  have whole : machine.transcript event = done := by
    have queue : event :: machine.derivedEvents event =
      done.map (·.event) ++ waiting.map (Event.mk event.time) := follows.queue
    rw [transcript, queue, follows.continues, stops, List.append_nil]
  rw [whole]
  refine ⟨waiting, follows, lawful, fun calm => ?_⟩
  rw [calm] at ending
  exact ending

/-- The transcript of an event derives what the event derives and has its effects. Without a fault,
the event and all that is derived from it is handled. -/
theorem transcript_spec (machine : Machine) (event : Event) :
    (machine.transcript event).flatMap (·.derived) = machine.derivedEvents event ∧
      (machine.transcript event).flatMap (·.turn.effects) = (machine.process event).effects ∧
      ((machine.process event).fault = none →
        (machine.transcript event).map (·.event) = event :: machine.derivedEvents event) := by
  obtain ⟨waiting, follows, -, finishes⟩ := machine.transcript_keeps event (fun _ _ => True)
    (fun _ _ _ _ _ _ _ _ _ _ => trivial) trivial
  refine ⟨follows.derived, follows.effects, fun calm => ?_⟩
  have queue := follows.queue
  rw [finishes calm, List.map_nil, List.append_nil] at queue
  exact queue.symm

/-- An event that is at fault itself stops the processing before anything has happened. -/
theorem process_of_failed {machine : Machine} {event : Event} {fault : BridgeFault}
    (failed : (Turn.start machine).handle event.time event.occurrence = .error fault) :
    machine.process event = ⟨machine, [], [], some fault⟩ := by
  have first : Outcome.step event.time { Outcome.start machine with derived := [] }
      event.occurrence = ⟨machine, [], [], some fault⟩ := by
    simp [Outcome.step, Outcome.start, failed]
  unfold process
  rw [Outcome.settle, List.foldl_cons, List.foldl_nil, first,
    Outcome.settle_of_fault event.time rfl rfl]
  rfl

/-- An event is processed without fault, or it is refused and nothing happens. -/
theorem process_named {machine : Machine} (named : machine.Named) (event : Event) :
    (machine.process event).machine.Named ∧ ((machine.process event).fault = none ∨
      (∃ fault, machine.process event = ⟨machine, [], [], some fault⟩) ∧
        machine.transcript event = []) := by
  cases handled : (Turn.start machine).handle event.time event.occurrence with
  | error fault =>
    rw [process_of_failed handled]
    exact ⟨named, .inr ⟨⟨fault, rfl⟩, handlings_of_failed _ handled⟩⟩
  | ok turn =>
    have accepted : event.occurrence.AcceptedBy machine := Turn.accepted_of_handled handled
    obtain ⟨calm, stillNamed⟩ := process_accepted accepted named
    exact ⟨stillNamed, .inl calm⟩

/-- An event from which nothing is derived is processed in one turn. -/
theorem process_of_silent {machine : Machine} {event : Event} {turn : Turn}
    (handled : (Turn.start machine).handle event.time event.occurrence = .ok turn)
    (silent : turn.derived = []) :
    machine.process event = ⟨turn.machine, [], turn.effects, none⟩ := by
  have first : Outcome.step event.time { Outcome.start machine with derived := [] }
      event.occurrence = ⟨turn.machine, [], turn.effects, none⟩ := by
    simp [Outcome.step, Outcome.start, handled, silent]
  unfold process
  rw [Outcome.settle, List.foldl_cons, List.foldl_nil, first,
    Outcome.settle_nil event.time _ rfl]
  rfl

/-- The last event of a run adds its transcript. -/
theorem runTranscript_concat (machine : Machine) (events : List Event) (event : Event) :
    machine.runTranscript (events ++ [event]) =
      machine.runTranscript events ++ (machine.run events).machine.transcript event := by
  rw [run_machine]
  induction events generalizing machine with
  | nil => simp [runTranscript]
  | cons first rest inductionHypothesis =>
    rw [List.cons_append, runTranscript, inductionHypothesis, runTranscript, List.append_assoc]
    rfl

/-- The last event of a run adds what is derived from it. -/
theorem runDerivedEvents_concat (machine : Machine) (events : List Event) (event : Event) :
    machine.runDerivedEvents (events ++ [event]) =
      machine.runDerivedEvents events ++ (machine.run events).machine.derivedEvents event := by
  rw [run_machine]
  induction events generalizing machine with
  | nil => simp [runDerivedEvents]
  | cons first rest inductionHypothesis =>
    rw [List.cons_append, runDerivedEvents, inductionHypothesis, runDerivedEvents,
      List.append_assoc]
    rfl

/-- A longer run goes on from the end of a shorter one. -/
theorem run_append (machine : Machine) (earlier later : List Event) :
    let before := machine.run earlier
    let after := before.machine.run later
    machine.run (earlier ++ later) =
      ⟨after.machine, before.effects ++ after.effects, before.faults ++ after.faults⟩ := by
  intro before after
  simp only [after]
  induction later using List.reverseRecOn with
  | nil => simp [before, run, Run.start]
  | append_singleton later last inductionHypothesis =>
    rw [← List.append_assoc, run_concat, inductionHypothesis, run_concat]
    simp [Run.step]

/-- A longer run derives first what the shorter one does. -/
theorem runDerivedEvents_append (machine : Machine) (earlier later : List Event) :
    machine.runDerivedEvents (earlier ++ later) =
      machine.runDerivedEvents earlier ++ (machine.run earlier).machine.runDerivedEvents later := by
  rw [run_machine]
  induction earlier generalizing machine with
  | nil => rfl
  | cons first rest inductionHypothesis =>
    rw [List.cons_append, runDerivedEvents, inductionHypothesis, runDerivedEvents,
      List.append_assoc]
    rfl

/-- An event that derives nothing and leaves the machine as it is can be taken out of a run. -/
theorem run_insert {machine : Machine} {earlier : List Event} (later : List Event) {event : Event}
    {effects : List Effect} {fault : Option BridgeFault}
    (stands : (machine.run earlier).machine.process event =
      ⟨(machine.run earlier).machine, [], effects, fault⟩) :
    let before := machine.run earlier
    let after := before.machine.run later
    machine.run (earlier ++ event :: later) =
        ⟨after.machine, before.effects ++ effects ++ after.effects,
          before.faults ++ fault.toList ++ after.faults⟩ ∧
      machine.runDerivedEvents (earlier ++ event :: later) =
        machine.runDerivedEvents (earlier ++ later) := by
  intro before after
  have first : before.machine.run [event] = ⟨before.machine, effects, fault.toList⟩ := by
    rw [run, List.foldl_cons, List.foldl_nil, Run.step, Run.start, stands]
    rfl
  have alone := run_append before.machine [event] later
  rw [first, List.singleton_append] at alone
  constructor
  · rw [run_append, alone]
    simp [before, after]
  · rw [runDerivedEvents_append, runDerivedEvents_append, runDerivedEvents, derivedEvents, stands]
    rfl

/-- All that leaves the machine in a run is in its transcript. -/
theorem runTranscript_effects (machine : Machine) (events : List Event) :
    (machine.runTranscript events).flatMap (·.turn.effects) = (machine.run events).effects := by
  induction events using List.reverseRecOn with
  | nil => rfl
  | append_singleton earlier last inductionHypothesis =>
    obtain ⟨-, effects, -⟩ := (machine.run earlier).machine.transcript_spec last
    rw [runTranscript_concat, List.flatMap_append, inductionHypothesis, effects, run_concat]
    rfl

/-- The partner has the name of the bridge after every run of a new machine. -/
theorem run_named {name : String} {settings : BridgeSettings} {status : BridgeStatus}
    {machine : Machine} (built : new name settings status = .ok machine) (events : List Event) :
    (machine.run events).machine.Named :=
  machine.run_keeps events Named (named_of_new built) fun _ event _ named =>
    (process_named named event).1

end Machine

end TunnelFailover

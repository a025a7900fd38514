import Mathlib.Data.List.DropRight
import TunnelFailover.Proofs.Drain
import TunnelFailover.Proofs.Effects
import TunnelFailover.Proofs.Schedule
/-!
This file shows that a timer follows what has been handled: it counts how often an activation has been
repeated, and waits from the last time at which the activation was applied.
-/

namespace TunnelFailover

namespace Workload

/-- Some events have been handled one after the other on the way from a first workload. Nothing is
handled in any other step. -/
inductive Handles (times : Instant → Prop) (first : Workload) : List Handling → Workload → Prop
  | start : Handles times first [] first
  | handle {done : List Handling} {machine : Machine} {occurrence : Occurrence}
      {rest derived : List Occurrence} {effects : List Effect} {now : Instant} {queue : List Event}
      {turn : Turn}
      (earlier : Handles times first done
        ⟨⟨machine, occurrence :: rest, derived, effects⟩, now, queue⟩)
      (handled : (Turn.start machine).handle now occurrence = .ok turn) :
      Handles times first (done ++ [⟨⟨now, occurrence⟩, machine, turn⟩])
        ⟨⟨turn.machine, rest ++ turn.derived, derived ++ turn.derived, effects ++ turn.effects⟩, now,
          queue⟩
  | pass {done : List Handling} {before after : Workload} (earlier : Handles times first done before)
      (step : Step times before after)
      (idle : ¬Cascade.Step before.now before.cascade after.cascade) :
      Handles times first done after

variable {times : Instant → Prop} {first before after workload : Workload} {done : List Handling}

theorem Handles.reaches (handles : Handles times first done workload) :
    Reaches times first workload := by
  induction handles with
  | start => exact .refl
  | handle _ handled inductionHypothesis => exact inductionHypothesis.tail (.handle (.handle handled))
  | pass _ step _ inductionHypothesis => exact inductionHypothesis.tail step

/-- What has been handled was handled as it says, while at most one interface was active. -/
theorem Handles.handled {roles : String → Option Role} (sound : first.Sound times roles)
    (handles : Handles times first done workload) :
    ∀ handling ∈ done, handling.before.status.IsSingle ∧
      (Turn.start handling.before).handle handling.event.time handling.event.occurrence =
        .ok handling.turn := by
  induction handles with
  | start => exact List.forall_mem_nil _
  | handle earlier handled inductionHypothesis =>
    exact List.forall_mem_append.2 ⟨inductionHypothesis, List.forall_mem_singleton.2
      ⟨(sound.reaches earlier.reaches).electing.2.single, handled⟩⟩
  | pass _ _ _ inductionHypothesis => exact inductionHypothesis

/-- A step in which nothing is handled changes at most the timers that are due. -/
theorem Step.machine_of_idle (step : Step times before after)
    (idle : ¬Cascade.Step before.now before.cascade after.cascade) :
    after.cascade.machine = before.cascade.machine ∨
      ∃ moment, after.cascade.machine = (before.cascade.machine.dueReactivations moment).1 := by
  cases step with
  | take | fail | report => exact .inl rfl
  | handle step => exact absurd step idle
  | tick => exact .inr ⟨_, rfl⟩

section Idle

variable {now : Instant} {before after : Cascade}

/-- Nothing is handled if the same waits afterwards. -/
theorem not_step_of_waiting (same : after.waiting = before.waiting) :
    ¬Cascade.Step now before after := by
  intro step
  have lower := step.cutExpand
  rw [Cascade.ranks, same] at lower
  exact (wellFounded_lt (α := Nat)).cutExpand.irrefl.irrefl _ lower

theorem not_step_of_finished (finished : before.waiting = []) : ¬Cascade.Step now before after := by
  intro step
  cases step with
  | handle => cases finished

theorem not_step_of_fails {fault : BridgeFault} (stuck : before.FailsWith now fault) :
    ¬Cascade.Step now before after := by
  intro step
  obtain ⟨occurrence, rest, waits, failed⟩ := stuck
  cases step with
  | handle handled =>
    cases waits
    cases failed.symm.trans handled

end Idle

/-- Nothing is handled while the timers are looked at. -/
theorem Handles.tick (handles : Handles times first done workload) {moment : Instant}
    (timely : ∀ event ∈ (workload.cascade.machine.dueReactivations moment).2, times event.time) :
    let due := workload.cascade.machine.dueReactivations moment
    Handles times first done
      ⟨{ workload.cascade with machine := due.1 }, workload.now, workload.queue ++ due.2⟩ :=
  handles.pass (.tick timely) (not_step_of_waiting rfl)

/-- On every way, it is known what has been handled. -/
theorem Reaches.handles (reaches : Reaches times first workload) :
    ∃ done, Handles times first done workload := by
  induction reaches with
  | refl => exact ⟨[], .start⟩
  | tail _ step inductionHypothesis =>
    obtain ⟨done, handles⟩ := inductionHypothesis
    cases step with
    | handle step =>
      cases step with
      | handle handled => exact ⟨_, handles.handle handled⟩
    | take finished => exact ⟨done, handles.pass (.take finished) (not_step_of_finished finished)⟩
    | fail stuck => exact ⟨done, handles.pass (.fail stuck) (not_step_of_fails stuck)⟩
    | report reported timely =>
      exact ⟨done, handles.pass (.report reported timely) (not_step_of_waiting rfl)⟩
    | tick timely => exact ⟨done, handles.tick timely⟩

/-- If nothing happens in between, the next event is handled with all that is derived from it. -/
theorem Handles.process {cascade : Cascade} {now : Instant} {event : Event} {queue : List Event}
    (earlier : Handles times first done ⟨cascade, now, event :: queue⟩)
    (finished : cascade.waiting = []) (calm : (cascade.machine.process event).fault = none) :
    let outcome := cascade.machine.process event
    Handles times first (done ++ cascade.machine.transcript event)
      ⟨⟨outcome.machine, [], outcome.derived, outcome.effects⟩, event.time, queue⟩ := by
  intro outcome
  have taken : Handles times first done ⟨.start cascade.machine event, event.time, queue⟩ :=
    earlier.pass (.take finished) (not_step_of_finished finished)
  obtain ⟨waiting, -, handles, finishes⟩ := cascade.machine.transcript_keeps event
    (fun current handled => Handles times first (done ++ handled) ⟨current, event.time, queue⟩)
    (fun _ _ _ _ _ _ _ _ handles handled => by
      rw [← List.append_assoc]
      exact handles.handle handled)
    (by rwa [List.append_nil])
  rw [finishes calm] at handles
  exact handles

/-- A run without faults is handled as its transcript says. -/
theorem handles_run (machine : Machine) (now : Instant) (events : List Event)
    (timely : ∀ event ∈ events, event.occurrence.isReported = true ∧ times event.time)
    (calm : (machine.run events).faults = []) :
    ∃ workload, Handles times (.start machine now) (machine.runTranscript events) workload ∧
      workload.cascade.machine = (machine.run events).machine ∧ workload.cascade.waiting = [] ∧
      workload.queue = [] := by
  induction events using List.reverseRecOn with
  | nil => exact ⟨.start machine now, .start, rfl, rfl, rfl⟩
  | append_singleton earlier last inductionHypothesis =>
    rw [Machine.run_concat, Run.step, List.append_eq_nil_iff, Option.toList_eq_nil_iff] at calm
    obtain ⟨workload, handles, sameMachine, finished, noneQueued⟩ :=
      inductionHypothesis (fun event member => timely event (List.mem_append_left _ member)) calm.1
    obtain ⟨reported, lastTimely⟩ := timely last (by simp)
    have queued := handles.pass (.report reported lastTimely) (not_step_of_waiting rfl)
    rw [noneQueued] at queued
    have processed := queued.process finished (by rw [sameMachine]; exact calm.2)
    rw [Machine.runTranscript_concat, ← sameMachine]
    exact ⟨_, processed, by rw [Machine.run_concat, Run.step, sameMachine], rfl, rfl⟩

end Workload

namespace Subject

variable {α : Type}

/-- The occurrence is an activation. -/
def takes (subject : Subject α) (occurrence : Occurrence) : Bool :=
  (subject.change? occurrence).any (·.2)

/-- The requests by which a handled event repeats an activation. -/
def repetitions (subject : Subject α) (handling : Handling) : List Request :=
  if (subject.repeated? handling.event.occurrence).isSome then handling.turn.requests else []

/-- The requests by which the last activation has been repeated so far. -/
def repetitionsSince (subject : Subject α) (done : List Handling) : List Request :=
  (done.rtakeWhile fun handling => !subject.takes handling.event.occurrence).flatMap
    subject.repetitions

/-- The event is an activation, or it repeats one. -/
def applies (subject : Subject α) (handling : Handling) : Bool :=
  subject.takes handling.event.occurrence || !(subject.repetitions handling).isEmpty

/-- The time at which an activation was applied last, for the first time or again. -/
def lastApplied? (subject : Subject α) (done : List Handling) : Option Instant :=
  (done.filter subject.applies).getLast?.map (·.event.time)

/-- An armed timer has counted how often the last activation has been repeated. Its next time is as far
from the last time at which the activation was applied as the policy says for this count. -/
def BacksOff (subject : Subject α) (policy : ReapplyPolicy) (done : List Handling)
    (machine : Machine) : Prop :=
  ∀ timer next, subject.timer? machine = some timer → timer.next = some next →
    (subject.repetitionsSince done).length < 2 ^ 32 →
    timer.count.toNat = (subject.repetitionsSince done).length ∧
      ∃ time, subject.lastApplied? done = some time ∧
        time.add? (if timer.count = 0 then policy.initialDelay else policy.delay timer.count) =
          some next

variable {subject : Subject α}

theorem repetitionsSince_concat (done : List Handling) (handling : Handling) :
    subject.repetitionsSince (done ++ [handling]) =
      if subject.takes handling.event.occurrence then []
      else subject.repetitionsSince done ++ subject.repetitions handling := by
  unfold repetitionsSince
  rw [List.rtakeWhile_concat]
  cases subject.takes handling.event.occurrence <;> simp

theorem lastApplied?_concat (done : List Handling) (handling : Handling) :
    subject.lastApplied? (done ++ [handling]) =
      if subject.applies handling then some handling.event.time else subject.lastApplied? done := by
  unfold lastApplied?
  rw [List.filter_append]
  cases applies : subject.applies handling <;> simp [applies]

/-- A repetition issues one request of a certain kind while it repeats the active choice, and none
otherwise. -/
def Requests [DecidableEq α] (subject : Subject α) (kind : RequestKind) : Prop :=
  ∀ {machine : Machine} {now : Instant} {occurrence : Occurrence} {turn : Turn} {choice : α},
    (Turn.start machine).handle now occurrence = .ok turn → machine.status.IsSingle →
      subject.repeated? occurrence = some choice →
        turn.requests.map (·.kind) =
          if subject.active? machine.status = some choice then [kind] else []

theorem bridge_requests : bridge.Requests .bridgeActivate := by
  intro machine now occurrence turn choice handled _ repeated
  cases occurrence with
  | bridgeReactivated iteration =>
    rw [Turn.handle_requests handled, Occurrence.requests]
    cases active : machine.status.active <;> simp [bridge, active, Machine.request]
  | _ => cases repeated

theorem interfaces_requests : interfaces.Requests .interfaceActivate := by
  intro machine now occurrence turn choice handled single repeated
  cases occurrence with
  | interfaceReactivated interface iteration =>
    cases repeated
    have elected : machine.status.activeInterface? = some choice ↔
        machine.status.hasActive choice = true := BridgeStatus.activeInterface?_eq_some_iff single
    rw [Turn.handle_requests handled, Occurrence.requests]
    simp only [interfaces, elected]
    cases machine.status.hasActive choice <;> rfl
  | _ => cases repeated

/-- All repetitions are requests of this kind. -/
theorem Requests.kind_of_mem [DecidableEq α] {kind : RequestKind} (requests : subject.Requests kind)
    {done : List Handling}
    (handled : ∀ handling ∈ done, handling.before.status.IsSingle ∧
      (Turn.start handling.before).handle handling.event.time handling.event.occurrence =
        .ok handling.turn) :
    ∀ request ∈ subject.repetitionsSince done, request.kind = kind := by
  intro request member
  obtain ⟨handling, recent, repeats⟩ := List.mem_flatMap.1 member
  unfold repetitions at repeats
  split at repeats
  · rename_i repeated
    obtain ⟨choice, isChoice⟩ := Option.isSome_iff_exists.1 repeated
    obtain ⟨single, isHandled⟩ := handled handling ((List.rtakeWhile_suffix _ _).subset recent)
    have issued := requests isHandled single isChoice
    have kindMember := List.mem_map_of_mem (f := (·.kind)) repeats
    rw [issued] at kindMember
    split at kindMember
    · exact List.mem_singleton.1 kindMember
    · cases kindMember
  · cases repeats

/-- The timer runs by its policy, counts the repetitions in words, and has its next time from the last
application. -/
structure Tracks (subject : Subject α) (policy : ReapplyPolicy) (done : List Handling)
    (timer : ReapplyTimer) : Prop where
  runs : timer.policy = policy
  count : timer.count = UInt32.ofNat (subject.repetitionsSince done).length
  next : ∀ next, timer.next = some next → ∃ time, subject.lastApplied? done = some time ∧
    time.add? (if (subject.repetitionsSince done).length = 0 then policy.initialDelay
      else policy.delay timer.count) = some next

section Tracks

variable {policy : ReapplyPolicy} {done : List Handling} {timer : ReapplyTimer}
variable {handling : Handling}

theorem tracks_new (subject : Subject α) (policy : ReapplyPolicy) :
    subject.Tracks policy [] (.new policy) where
  runs := rfl
  count := rfl
  next := nofun

/-- A timer that is disarmed goes on counting. -/
theorem Tracks.disarm (tracks : subject.Tracks policy done timer) :
    subject.Tracks policy done timer.disarm where
  runs := tracks.runs
  count := tracks.count
  next := nofun

/-- What neither starts nor repeats an activation leaves the timer on its track. -/
theorem Tracks.pass (tracks : subject.Tracks policy done timer)
    (untaken : subject.takes handling.event.occurrence = false)
    (unrepeated : subject.repetitions handling = []) :
    subject.Tracks policy (done ++ [handling]) timer := by
  have repetitions : subject.repetitionsSince (done ++ [handling]) = subject.repetitionsSince done := by
    rw [repetitionsSince_concat, untaken, unrepeated]
    exact List.append_nil _
  have applied : subject.lastApplied? (done ++ [handling]) = subject.lastApplied? done := by
    rw [lastApplied?_concat, applies, untaken, unrepeated]
    rfl
  constructor
  · exact tracks.runs
  · rw [repetitions]
    exact tracks.count
  · rw [repetitions, applied]
    exact tracks.next

/-- An activation starts the timer from its beginning. -/
theorem Tracks.arm (tracks : subject.Tracks policy done timer)
    (taken : subject.takes handling.event.occurrence = true) :
    subject.Tracks policy (done ++ [handling]) (timer.arm handling.event.time) := by
  have repetitions : subject.repetitionsSince (done ++ [handling]) = [] := by
    rw [repetitionsSince_concat, taken]
    rfl
  have applied : subject.lastApplied? (done ++ [handling]) = some handling.event.time := by
    rw [lastApplied?_concat, applies, taken]
    rfl
  constructor
  · exact tracks.runs
  · rw [repetitions]
    rfl
  · intro next armed
    refine ⟨_, applied, ?_⟩
    rw [repetitions, ← tracks.runs]
    exact armed

/-- A repetition goes on with the timer. -/
theorem Tracks.advance (tracks : subject.Tracks policy done timer)
    (untaken : subject.takes handling.event.occurrence = false)
    (repeated : (subject.repetitions handling).length = 1) :
    subject.Tracks policy (done ++ [handling]) (timer.advance handling.event.time) := by
  have repetitions : (subject.repetitionsSince (done ++ [handling])).length =
      (subject.repetitionsSince done).length + 1 := by
    rw [repetitionsSince_concat, untaken, ← repeated]
    exact List.length_append
  have applied : subject.lastApplied? (done ++ [handling]) = some handling.event.time := by
    have some : subject.applies handling = true := by
      rw [applies, untaken]
      cases given : subject.repetitions handling with
      | nil => simp [given] at repeated
      | cons => rfl
    rw [lastApplied?_concat, some]
    rfl
  constructor
  · exact tracks.runs
  · rw [repetitions, ReapplyTimer.advance, tracks.count]
    exact (UInt32.ofNat_add ..).symm
  · intro next armed
    refine ⟨_, applied, ?_⟩
    rw [repetitions, if_neg (Nat.succ_ne_zero _), ← tracks.runs]
    exact armed

/-- As long as the repetitions can be counted in words, a timer that is armed backs off. -/
theorem backsOff_of_tracks {machine : Machine}
    (tracks : ∀ timer, subject.timer? machine = some timer → subject.Tracks policy done timer) :
    subject.BacksOff policy done machine := by
  intro timer next known armed few
  obtain ⟨-, count, nextTime⟩ := tracks timer known
  have counted : timer.count.toNat = (subject.repetitionsSince done).length := by
    rw [count]
    exact UInt32.toNat_ofNat_of_lt' few
  have none : timer.count = 0 ↔ (subject.repetitionsSince done).length = 0 := by
    rw [← counted, ← UInt32.toNat_inj]
    rfl
  refine ⟨counted, ?_⟩
  simp only [none]
  exact nextTime next armed

/-- A handled event leaves the timer on its track. -/
theorem tracks_handled [DecidableEq α] (lawful : subject.Lawful)
    {kind : RequestKind} (requests : subject.Requests kind)
    (handled : (Turn.start handling.before).handle handling.event.time handling.event.occurrence =
      .ok handling.turn) (single : handling.before.status.IsSingle)
    (tracks : ∀ timer, subject.timer? handling.before = some timer →
      subject.Tracks policy done timer) :
    ∀ timer, subject.timer? handling.turn.machine = some timer →
      subject.Tracks policy (done ++ [handling]) timer := by
  intro after known
  rw [lawful.times handled single, timerAfter] at known
  cases changed : subject.change? handling.event.occurrence with
  | some change =>
    obtain ⟨choice, taken⟩ := change
    rw [changed] at known
    cases taken with
    | true =>
      obtain ⟨timer, was, rfl⟩ := Option.map_eq_some_iff.1 known
      exact (tracks timer was).arm (by rw [takes, changed]; rfl)
    | false =>
      obtain ⟨timer, was, rfl⟩ := Option.map_eq_some_iff.1 known
      have unrepeated : subject.repeated? handling.event.occurrence = none := by
        rw [← Option.not_isSome_iff_eq_none, Option.isSome_iff_exists]
        rintro ⟨repeated, isRepeated⟩
        obtain ⟨setting, sets, -⟩ := Option.bind_eq_some_iff.1 changed
        have reported := (lawful.reports isRepeated).1
        rw [Occurrence.unreported_of_sets? sets] at reported
        cases reported
      refine (tracks timer was).disarm.pass (by rw [takes, changed]; rfl) ?_
      rw [repetitions, unrepeated]
      rfl
  | none =>
    have untaken : subject.takes handling.event.occurrence = false := by rw [takes, changed]; rfl
    rw [changed] at known
    dsimp only at known
    cases repeated : subject.repeated? handling.event.occurrence with
    | none =>
      rw [repeated] at known
      refine (tracks after known).pass untaken ?_
      rw [repetitions, repeated]
      rfl
    | some choice =>
      have issued := requests handled single repeated
      have own : subject.repetitions handling = handling.turn.requests := by
        rw [repetitions, repeated]
        rfl
      rw [repeated, Option.any_some] at known
      rw [← own] at issued
      by_cases active : subject.active? handling.before.status = some choice
      · rw [if_pos (decide_eq_true active)] at known
        rw [if_pos active] at issued
        obtain ⟨timer, was, rfl⟩ := Option.map_eq_some_iff.1 known
        refine (tracks timer was).advance untaken ?_
        rw [← List.length_map, issued]
        rfl
      · rw [decide_eq_false active] at known
        rw [if_neg active] at issued
        exact (tracks after known).pass untaken (List.map_eq_nil_iff.1 issued)

/-- The timers that are due are disarmed, and go on counting. -/
theorem tracks_dueReactivations [DecidableEq α] (lawful : subject.Lawful) {machine : Machine}
    (tracks : ∀ timer, subject.timer? machine = some timer → subject.Tracks policy done timer)
    (moment : Instant) :
    ∀ timer, subject.timer? (machine.dueReactivations moment).1 = some timer →
      subject.Tracks policy done timer := by
  intro after known
  rw [lawful.takes] at known
  rcases takeDue?_eq (subject.timer? machine) moment with same | ⟨iteration, due⟩
  · rw [same] at known
    exact tracks after known
  · rw [due] at known
    obtain ⟨timer, was, rfl⟩ := Option.map_eq_some_iff.1 known
    exact (tracks timer was).disarm

/-- Whatever happens to a workload, the timer stays on its track. -/
theorem tracks_handles [DecidableEq α] (lawful : subject.Lawful)
    {kind : RequestKind} (requests : subject.Requests kind)
    {times : Instant → Prop} {roles : String → Option Role} {first workload : Workload}
    (sound : first.Sound times roles)
    (started : ∀ timer, subject.timer? first.cascade.machine = some timer →
      subject.Tracks policy [] timer)
    (handles : Workload.Handles times first done workload) :
    ∀ timer, subject.timer? workload.cascade.machine = some timer →
      subject.Tracks policy done timer := by
  induction handles with
  | start => exact started
  | @handle done machine occurrence _ _ _ now _ turn earlier handled inductionHypothesis =>
    have single : machine.status.IsSingle := (sound.reaches earlier.reaches).electing.2.single
    let handling : Handling := ⟨⟨now, occurrence⟩, machine, turn⟩
    have isHandled : (Turn.start handling.before).handle handling.event.time
      handling.event.occurrence = .ok handling.turn := handled
    exact tracks_handled lawful requests isHandled single inductionHypothesis
  | pass _ step idle inductionHypothesis =>
    rcases step.machine_of_idle idle with same | ⟨moment, ticked⟩
    · rwa [same]
    · rw [ticked]
      exact tracks_dueReactivations lawful inductionHypothesis moment

/-- A timer of a policy starts on its track. -/
theorem tracks_ofPolicy (subject : Subject α) (policy : ReapplyPolicy) :
    ∀ timer, ReapplyTimer.ofPolicy policy = some timer → subject.Tracks policy [] timer := by
  intro timer known
  unfold ReapplyTimer.ofPolicy at known
  split at known
  · cases known
    exact tracks_new subject policy
  · cases known

end Tracks

end Subject

namespace Machine

/-- A repetition applies the bridge again while it is active, and is skipped otherwise. -/
theorem process_bridgeReactivated (machine : Machine) (time : Instant) (iteration : UInt32) :
    machine.process ⟨time, .bridgeReactivated iteration⟩ =
      if machine.status.active then
        ⟨{ machine with bridgeTimer := machine.bridgeTimer.map (·.advance time) }, [],
          [.request (machine.request .bridgeActivate none iteration)], none⟩
      else ⟨machine, [], [], none⟩ := by
  have handled : (Turn.start machine).handle time (.bridgeReactivated iteration) =
      .ok ((Turn.start machine).bridgeReactivated time iteration) := rfl
  unfold Turn.bridgeReactivated at handled
  split at handled
  · rename_i active
    exact (process_of_silent handled rfl).trans (if_pos active).symm
  · rename_i inactive
    exact (process_of_silent handled rfl).trans (if_neg inactive).symm

/-- A repetition applies an interface again while it is active, and is skipped otherwise. -/
theorem process_interfaceReactivated (machine : Machine) (time : Instant) (interface : String)
    (iteration : UInt32) :
    machine.process ⟨time, .interfaceReactivated interface iteration⟩ =
      if machine.status.hasActive interface then
        ⟨{ machine with interfaceTimer := machine.interfaceTimer.map (·.advance time) }, [],
          [.request (machine.request .interfaceActivate (some interface) iteration)], none⟩
      else ⟨machine, [], [], none⟩ := by
  have handled : (Turn.start machine).handle time (.interfaceReactivated interface iteration) =
      .ok ((Turn.start machine).interfaceReactivated time interface iteration) := rfl
  unfold Turn.interfaceReactivated at handled
  split at handled
  · rename_i active
    exact (process_of_silent handled rfl).trans (if_pos active).symm
  · rename_i inactive
    exact (process_of_silent handled rfl).trans (if_neg inactive).symm

end Machine

namespace Workload

/-- Whenever the timers are looked at and whatever is reported, a timer backs off by its policy: an armed
timer has counted how often its activation has been repeated since it was last taken, and waits from
the last time at which it was applied. Only the requests of an activation are repeated. A repetition
of what is not active any more is skipped and leaves everything as it is. -/
theorem handles_back_off {name : String} {settings : BridgeSettings} {start : Instant}
    {machine : Machine} {times : Instant → Prop} {done : List Handling} {workload : Workload}
    (built : Machine.new name settings (Machine.initialStatus name settings start) = .ok machine)
    (handles : Handles times (.start machine start) done workload) :
    let last := workload.cascade.machine
    let reconcile := settings.reconcile
    Subject.bridge.BacksOff reconcile.bridgeActivate.reapply.policy done last ∧
      Subject.interfaces.BacksOff reconcile.interfaceActivate.reapply.policy done last ∧
      (∀ request ∈ Subject.bridge.repetitionsSince done, request.kind = .bridgeActivate) ∧
      (∀ request ∈ Subject.interfaces.repetitionsSince done, request.kind = .interfaceActivate) ∧
      ∀ time iteration,
        (last.status.active = false →
          last.process ⟨time, .bridgeReactivated iteration⟩ = ⟨last, [], [], none⟩) ∧
        ∀ interface, last.status.hasActive interface = false →
          last.process ⟨time, .interfaceReactivated interface iteration⟩ = ⟨last, [], [], none⟩ := by
  intro last reconcile
  obtain ⟨links, partnerMonitor, location, -, -, new⟩ := Machine.new_eq_mk built
  have sound : (Workload.start machine start).Sound times machine.roleOf? := sound_start built
  have bridgeTracks := Subject.tracks_handles Subject.bridge_lawful Subject.bridge_requests sound
    (fun timer known => Subject.tracks_ofPolicy .bridge reconcile.bridgeActivate.reapply.policy timer (by
      rw [← known, new]
      rfl)) handles
  have interfaceTracks := Subject.tracks_handles Subject.interfaces_lawful
    Subject.interfaces_requests sound
    (fun timer known => Subject.tracks_ofPolicy .interfaces reconcile.interfaceActivate.reapply.policy
      timer (by
        rw [← known, new]
        rfl)) handles
  refine ⟨Subject.backsOff_of_tracks bridgeTracks, Subject.backsOff_of_tracks interfaceTracks,
    Subject.bridge_requests.kind_of_mem (handles.handled sound),
    Subject.interfaces_requests.kind_of_mem (handles.handled sound),
    fun time iteration => ⟨fun inactive => ?_, fun interface inactive => ?_⟩⟩
  · rw [Machine.process_bridgeReactivated, inactive]
    rfl
  · rw [Machine.process_interfaceReactivated, inactive]
    rfl

/-- The bridge becomes active, and its timer is due after five seconds. The repetition is counted, and
the next one waits for the delay of the first iteration. -/
theorem handles_back_off_once :
    let start : Instant := ⟨0, 0⟩
    let later : Instant := ⟨5, 0⟩
    let everySecond : ActivateSettings := ⟨⟨some (.ofSeconds 1), none, none⟩, []⟩
    let settings : BridgeSettings :=
      { BridgeSettings.plain .standby with
        reconcile := { ReconcileSettings.unset with bridgeActivate := everySecond } }
    ∃ machine done workload timer next,
      Machine.new "vpn" settings (Machine.initialStatus "vpn" settings start) = .ok machine ∧
      Handles (fun _ => True) (.start machine start) done workload ∧
      workload.cascade.machine.bridgeTimer = some timer ∧ timer.next = some next ∧
      (Subject.bridge.repetitionsSince done).length = 1 ∧ timer.count.toNat = 1 ∧
      Subject.bridge.lastApplied? done = some later ∧
      later.add? (everySecond.reapply.policy.delay timer.count) = some next := by
  intro start later everySecond settings
  let times (_ : Instant) : Prop := True
  let returned (sequence : UInt64) : Event :=
    ⟨start, .probeReturned "wg0" sequence .zero .zero .empty⟩
  let again : Event := ⟨later, .bridgeReactivated 0⟩
  let events := [returned 1, returned 2]
  have timely : ∀ event ∈ events, event.occurrence.isReported = true ∧ times event.time := by
    intro event member
    rcases List.mem_pair.1 member with rfl | rfl <;> exact ⟨rfl, trivial⟩
  let machine : Machine :=
    (Machine.new "vpn" settings (Machine.initialStatus "vpn" settings start)).toOption.get
      (by decide +kernel)
  have built : Machine.new "vpn" settings (Machine.initialStatus "vpn" settings start) =
      .ok machine := rfl
  obtain ⟨live, handles, sameMachine, finished, noneQueued⟩ :=
    handles_run machine start events timely (by decide +kernel)
  obtain ⟨due, isDue⟩ : ∃ due, due = ((machine.run events).machine.dueReactivations later).1 := ⟨_, rfl⟩
  have ticked : Handles times (.start machine start) (machine.runTranscript events)
      ⟨{ live.cascade with machine := due }, live.now, [again]⟩ := by
    have queue : ((machine.run events).machine.dueReactivations later).2 = [again] := by
      decide +kernel
    have timely : ∀ event ∈ (live.cascade.machine.dueReactivations later).2, times event.time :=
      fun _ _ => trivial
    have passed := handles.tick timely
    dsimp only at passed
    rw [noneQueued, sameMachine, queue, ← isDue] at passed
    exact passed
  -- The timer has been armed by the activation, and goes on with the delay of the first iteration.
  have active : due.status.active = true := by
    rw [isDue]
    decide +kernel
  have processed := due.process_bridgeReactivated later 0
  rw [if_pos active] at processed
  have repeated := ticked.process finished (by rw [processed])
  rw [processed] at repeated
  have short : (due.bridgeTimer.any fun timer =>
      timer.policy.maximumDelay.nanoseconds ≤ 1000000000) = true := by
    rw [isDue]
    decide +kernel
  obtain ⟨armed, known, shortDelay⟩ := (Option.any_eq_true _ _).1 short
  have room : (later.add? (armed.policy.delay (armed.count + 1))).isSome = true := by
    have bounds : Instant.firstSecond ≤ 0 ∧ 6 ≤ Instant.lastSecond := by decide
    have nanoseconds : later.toNanoseconds = 5000000000 := by decide
    have delay := (armed.policy.delay_le (armed.count + 1)).trans (of_decide_eq_true shortDelay)
    exact Instant.isSome_add? rfl (by omega) (by omega)
  obtain ⟨next, nextTime⟩ := Option.isSome_iff_exists.1 room
  have counted : (Subject.bridge.repetitionsSince
      (machine.runTranscript events ++ due.transcript again)).length = 1 := by
    rw [isDue]
    decide +kernel
  have applied : Subject.bridge.lastApplied?
      (machine.runTranscript events ++ due.transcript again) = some later := by
    rw [isDue]
    decide +kernel
  have advanced : due.bridgeTimer.map (·.advance later) = some (armed.advance later) := by
    rw [known]
    rfl
  obtain ⟨backsOff, -⟩ := handles_back_off built repeated
  obtain ⟨count, time, isLast, waits⟩ :=
    backsOff (armed.advance later) next advanced nextTime (by rw [counted]; decide)
  rw [counted] at count
  have positive : (armed.advance later).count ≠ 0 := by
    intro none
    rw [none] at count
    cases count
  rw [if_neg positive, ← Option.some.inj (applied.symm.trans isLast)] at waits
  exact ⟨machine, _, _, armed.advance later, next, built, repeated, advanced, nextTime, counted, count,
    applied, waits⟩

end Workload

end TunnelFailover

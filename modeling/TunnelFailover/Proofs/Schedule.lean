import TunnelFailover.Proofs.Subject
import TunnelFailover.Proofs.Workload
/-!
This file shows that a timer runs only while there is something to repeat, and that no repetition is
lost, whatever happens to a workload.
-/

namespace TunnelFailover

/-- All times of events leave room for the delays of a policy. -/
def ReapplyPolicy.Fits (policy : ReapplyPolicy) (times : Instant → Prop) : Prop :=
  ∀ time, times time → (time.add? policy.initialDelay).isSome = true ∧
    ∀ iteration, (time.add? (policy.delay iteration)).isSome = true

/-- A time outside of leap seconds leaves room for a delay up to the last second. -/
theorem Instant.isSome_add? {time : Instant} {delay : Duration} (ordinary : time.isLeap = false)
    (late : firstSecond * 1000000000 ≤ time.toNanoseconds)
    (early : time.toNanoseconds + delay.nanoseconds < (lastSecond + 1) * 1000000000) :
    (time.add? delay).isSome = true := by
  have representable : (ofNanoseconds (time.toNanoseconds + delay.nanoseconds)).IsRepresentable := by
    unfold ofNanoseconds IsRepresentable
    dsimp only
    constructor <;> omega
  rw [add?, ordinary]
  simp only [Bool.false_eq_true, if_false, if_pos representable, Option.isSome_some]

/-- No delay is longer than the maximum. -/
theorem ReapplyPolicy.delay_le (policy : ReapplyPolicy) (iteration : UInt32) :
    policy.delay iteration ≤ policy.maximumDelay := by
  unfold delay
  split
  · exact Nat.le_refl _
  · exact Nat.min_le_right _ _

/-- A timer that is looked at stays as it is, or it is disarmed because it is due. -/
theorem takeDue?_eq (timer : Option ReapplyTimer) (now : Instant) :
    takeDue? timer now = (timer, none) ∨
      ∃ iteration, takeDue? timer now = (timer.map (·.disarm), some iteration) := by
  cases timer with
  | none => exact .inl rfl
  | some timer =>
    unfold takeDue? ReapplyTimer.takeDue
    dsimp only
    split
    · exact .inr ⟨timer.count, rfl⟩
    · exact .inl rfl

namespace Subject

variable {α : Type} [DecidableEq α]

/-- The timer of a subject is armed. -/
def isArmed (subject : Subject α) (machine : Machine) : Bool :=
  (subject.timer? machine).any (·.isArmed)

/-- A choice is repeated later: the timer is armed, or a repetition waits or is still in the queue. -/
def Continues (subject : Subject α) (workload : Workload) (choice : α) : Prop :=
  subject.isArmed workload.cascade.machine = true ∨
    (∃ occurrence ∈ workload.cascade.waiting, subject.repeated? occurrence = some choice) ∨
    ∃ event ∈ workload.queue, subject.repeated? event.occurrence = some choice

/-- The timer of a subject runs by a policy, if this policy is enabled. It is armed only after an
activation. If the last activation is the active choice, then this is repeated later. -/
structure Repeats (subject : Subject α) (policy : ReapplyPolicy) (times : Instant → Prop)
    (former : Option α) (workload : Workload) : Prop where
  pending : subject.Pending former workload.status workload.cascade.waiting
  runs : (subject.timer? workload.cascade.machine).map (·.policy) =
    if policy.isEnabled then some policy else none
  armed : subject.isArmed workload.cascade.machine = true → former.isSome = true
  continues : policy.isEnabled = true → policy.Fits times → ∀ choice, former = some choice →
    subject.active? workload.status = some choice → subject.Continues workload choice

variable {subject : Subject α} {policy : ReapplyPolicy} {times : Instant → Prop}
variable {former : Option α} {workload after : Workload}

/-- The timer keeps its policy. -/
theorem policy_timerAfter (now : Instant) (machine : Machine) (occurrence : Occurrence) :
    (subject.timerAfter now machine occurrence).map (·.policy) =
      (subject.timer? machine).map (·.policy) := by
  unfold timerAfter
  split
  · rw [Option.map_map]
    rfl
  · rw [Option.map_map]
    rfl
  · split
    · rw [Option.map_map]
      rfl
    · rfl

section Handled

variable {now : Instant} {machine : Machine} {occurrence : Occurrence}
variable {rest derived : List Occurrence} {effects : List Effect} {queue : List Event} {turn : Turn}

/-- The timer keeps its policy when an occurrence is handled. -/
theorem Repeats.runs_handled (lawful : subject.Lawful)
    (repeats : subject.Repeats policy times former
      ⟨⟨machine, occurrence :: rest, derived, effects⟩, now, queue⟩)
    (handled : (Turn.start machine).handle now occurrence = .ok turn)
    (single : machine.status.IsSingle) :
    (subject.timer? turn.machine).map (·.policy) =
      if policy.isEnabled then some policy else none := by
  rw [lawful.times handled single, policy_timerAfter]
  exact repeats.runs

/-- A timer whose next time leaves room for the delay is armed. -/
theorem Repeats.isArmed_of_next
    (repeats : subject.Repeats policy times former
      ⟨⟨machine, occurrence :: rest, derived, effects⟩, now, queue⟩)
    (enabled : policy.isEnabled = true) {change : ReapplyTimer → ReapplyTimer}
    (changed : subject.timer? turn.machine = (subject.timer? machine).map change)
    (next : ∀ timer, timer.policy = policy → (change timer).next.isSome = true) :
    subject.isArmed turn.machine = true := by
  have runs := repeats.runs
  rw [if_pos enabled, Option.map_eq_some_iff] at runs
  obtain ⟨timer, known, same⟩ := runs
  rw [isArmed, changed, show subject.timer? machine = some timer from known]
  exact next timer same

/-- An activation arms the timer, and a deactivation disarms it. -/
theorem Repeats.change (lawful : subject.Lawful)
    (repeats : subject.Repeats policy times former
      ⟨⟨machine, occurrence :: rest, derived, effects⟩, now, queue⟩)
    (handled : (Turn.start machine).handle now occurrence = .ok turn)
    (single : machine.status.IsSingle) (orderly : Orderly (occurrence :: rest)) (timely : times now)
    {choice : α} {taken : Bool} (changed : subject.change? occurrence = some (choice, taken)) :
    subject.Repeats policy times (if taken then some choice else none)
      ⟨⟨turn.machine, rest ++ turn.derived, derived ++ turn.derived, effects ++ turn.effects⟩, now,
        queue⟩ := by
  obtain ⟨-, left⟩ := repeats.pending.change lawful handled single orderly changed
  have timer := lawful.times handled single
  rw [timerAfter, changed] at timer
  refine ⟨left, repeats.runs_handled lawful handled single, ?_, ?_⟩
  · cases taken with
    | true => exact fun _ => rfl
    | false =>
      intro isArmed
      rw [Subject.isArmed, timer] at isArmed
      cases known : subject.timer? machine <;> rw [known] at isArmed <;> cases isArmed
  · intro enabled fits again same _
    cases taken with
    | true =>
      left
      refine repeats.isArmed_of_next enabled timer fun timer own => ?_
      subst own
      exact (fits now timely).1
    | false => cases same

/-- A repetition of the active choice arms the timer again. -/
theorem Repeats.advance (lawful : subject.Lawful)
    (repeats : subject.Repeats policy times former ⟨⟨machine, [occurrence], derived, effects⟩, now,
      queue⟩)
    (handled : (Turn.start machine).handle now occurrence = .ok turn)
    (single : machine.status.IsSingle) (orderly : Orderly [occurrence]) (timely : times now)
    (unchanged : subject.change? occurrence = none) {choice : α}
    (isChoice : subject.repeated? occurrence = some choice)
    (isActive : subject.active? machine.status = some choice) :
    subject.Repeats policy times former
      ⟨⟨turn.machine, turn.derived, derived ++ turn.derived, effects ++ turn.effects⟩, now,
        queue⟩ := by
  have left := repeats.pending.pass lawful handled single orderly unchanged
  have timer := lawful.times handled single
  rw [timerAfter, unchanged, isChoice] at timer
  simp only [isActive, Option.any_some, decide_true, if_true] at timer
  refine ⟨left, repeats.runs_handled lawful handled single, fun _ => ?_, fun enabled fits _ _ _ => ?_⟩
  · -- The repetition came alone, so that the last activation was already the active choice.
    have settled : former = subject.active? machine.status :=
      repeats.pending.eq_active (List.forall_mem_singleton.2 unchanged)
    rw [settled, isActive]
    rfl
  · left
    refine repeats.isArmed_of_next enabled timer fun timer own => ?_
    subst own
    exact (fits now timely).2 _

/-- Any other occurrence leaves the timer as it is. -/
theorem Repeats.pass (lawful : subject.Lawful)
    (repeats : subject.Repeats policy times former
      ⟨⟨machine, occurrence :: rest, derived, effects⟩, now, queue⟩)
    (handled : (Turn.start machine).handle now occurrence = .ok turn)
    (single : machine.status.IsSingle) (orderly : Orderly (occurrence :: rest))
    (unchanged : subject.change? occurrence = none)
    (other : ∀ choice, subject.repeated? occurrence = some choice →
      subject.active? machine.status ≠ some choice) :
    subject.Repeats policy times former
      ⟨⟨turn.machine, rest ++ turn.derived, derived ++ turn.derived, effects ++ turn.effects⟩, now,
        queue⟩ := by
  have stillRuns := repeats.runs_handled lawful handled single
  obtain ⟨pending, -, armed, continues⟩ := repeats
  have timer : subject.timer? turn.machine = subject.timer? machine := by
    rw [lawful.times handled single, timerAfter, unchanged]
    refine if_neg fun again => ?_
    obtain ⟨choice, isChoice, isActive⟩ := (Option.any_eq_true _ _).1 again
    exact other choice isChoice (of_decide_eq_true isActive)
  have same : subject.isArmed turn.machine = subject.isArmed machine := by
    rw [isArmed, timer, isArmed]
  refine ⟨pending.pass lawful handled single orderly unchanged, stillRuns,
    fun isArmed => armed (same.symm.trans isArmed), ?_⟩
  intro enabled fits choice isFormer isActive
  have wasActive : subject.active? machine.status = some choice := by
    by_cases stage : occurrence.rank = subject.stage
    · exact (pending.early occurrence List.mem_cons_self (Nat.le_of_eq stage.symm)).symm.trans
        isFormer
    · exact (lawful.active?_of_rank handled single stage).symm.trans isActive
  rcases continues enabled fits choice isFormer wasActive with
    isArmed | ⟨waiting, member, isChoice⟩ | queued
  · exact .inl (same.trans isArmed)
  · rcases List.mem_cons.1 member with rfl | later
    · exact absurd wasActive (other choice isChoice)
    · exact .inr (.inl ⟨waiting, List.mem_append_left _ later, isChoice⟩)
  · exact .inr (.inr queued)

/-- A step of the cascade moves the timer with the changes that it handles. -/
theorem Repeats.handle (lawful : subject.Lawful)
    (repeats : subject.Repeats policy times former
      ⟨⟨machine, occurrence :: rest, derived, effects⟩, now, queue⟩)
    (handled : (Turn.start machine).handle now occurrence = .ok turn)
    (single : machine.status.IsSingle) (orderly : Orderly (occurrence :: rest))
    (alone : occurrence.isReported = true → rest = []) (timely : times now) :
    ∃ latter, subject.Repeats policy times latter
      ⟨⟨turn.machine, rest ++ turn.derived, derived ++ turn.derived, effects ++ turn.effects⟩, now,
        queue⟩ := by
  cases changed : subject.change? occurrence with
  | some change => exact ⟨_, repeats.change lawful handled single orderly timely changed⟩
  | none =>
    by_cases again : ∃ choice, subject.repeated? occurrence = some choice ∧
        subject.active? machine.status = some choice
    · obtain ⟨choice, isChoice, isActive⟩ := again
      obtain rfl := alone (lawful.reports isChoice).1
      exact ⟨former, repeats.advance lawful handled single orderly timely changed isChoice isActive⟩
    · refine ⟨former, repeats.pass lawful handled single orderly changed ?_⟩
      exact fun choice isChoice isActive => again ⟨choice, isChoice, isActive⟩

end Handled

/-- Once a cascade is finished, the last activation is the active choice. -/
theorem Repeats.settled (repeats : subject.Repeats policy times former workload)
    (finished : workload.cascade.waiting = []) : former = subject.active? workload.status :=
  repeats.pending.eq_active fun occurrence member => by simp [finished] at member

/-- Once a cascade is finished, the active choice is repeated by the timer or from the queue. -/
theorem Repeats.continues_of_finished (repeats : subject.Repeats policy times former workload)
    (finished : workload.cascade.waiting = []) (enabled : policy.isEnabled = true)
    (fits : policy.Fits times) {choice : α}
    (isActive : subject.active? workload.status = some choice) :
    subject.isArmed workload.cascade.machine = true ∨
      ∃ event ∈ workload.queue, subject.repeated? event.occurrence = some choice := by
  have isFormer := (repeats.settled finished).trans isActive
  rcases repeats.continues enabled fits choice isFormer isActive with
    isArmed | ⟨occurrence, member, -⟩ | queued
  · exact .inl isArmed
  · simp [finished] at member
  · exact .inr queued

/-- The next event goes from the queue to the cascade. -/
theorem Repeats.take {cascade : Cascade} {now : Instant} {event : Event} {queue : List Event}
    (repeats : subject.Repeats policy times former ⟨cascade, now, event :: queue⟩)
    (finished : cascade.waiting = []) (reported : event.occurrence.isReported = true) :
    subject.Repeats policy times former ⟨.start cascade.machine event, event.time, queue⟩ := by
  have settled : former = subject.active? cascade.machine.status := repeats.settled finished
  refine ⟨settled ▸ subject.pending_of_reported _ reported, repeats.runs, repeats.armed, ?_⟩
  intro enabled fits choice _ isActive
  rcases repeats.continues_of_finished finished enabled fits isActive with
    isArmed | ⟨queued, member, isChoice⟩
  · exact .inl isArmed
  · rcases List.mem_cons.1 member with rfl | later
    · exact .inr (.inl ⟨_, List.mem_cons_self, isChoice⟩)
    · exact .inr (.inr ⟨queued, later, isChoice⟩)

/-- What fails came alone, and neither changes nor repeats anything. -/
theorem Repeats.fail (lawful : subject.Lawful) {cascade : Cascade} {now : Instant}
    {queue : List Event} {occurrence : Occurrence}
    (repeats : subject.Repeats policy times former ⟨cascade, now, queue⟩)
    (alone : cascade.waiting = [occurrence]) (notSafe : occurrence.isSafe = false)
    (silent : occurrence.sets? = none) :
    subject.Repeats policy times former ⟨{ cascade with waiting := [] }, now, queue⟩ := by
  obtain ⟨pending, runs, armed, continues⟩ := repeats
  have only : ∀ waiting ∈ cascade.waiting, waiting = occurrence := by simp [alone]
  have settled : former = subject.active? cascade.machine.status :=
    pending.eq_active fun waiting member => by rw [only waiting member, change?, silent]; rfl
  refine ⟨⟨?_, List.forall_mem_nil _⟩, runs, armed, ?_⟩
  · rw [settled]
    exact (changes_self _).symm
  · intro enabled fits choice isFormer isActive
    rcases continues enabled fits choice isFormer isActive with
      isArmed | ⟨waiting, member, isChoice⟩ | queued
    · exact .inl isArmed
    · have safe := (lawful.reports isChoice).2
      rw [only waiting member, notSafe] at safe
      cases safe
    · exact .inr (.inr queued)

/-- More events in the queue repeat no less. -/
theorem Repeats.report (repeats : subject.Repeats policy times former workload)
    (more : List Event) :
    subject.Repeats policy times former { workload with queue := workload.queue ++ more } := by
  obtain ⟨pending, runs, armed, continues⟩ := repeats
  refine ⟨pending, runs, armed, fun enabled fits choice isFormer isActive => ?_⟩
  rcases continues enabled fits choice isFormer isActive with
    isArmed | waits | ⟨queued, member, isChoice⟩
  · exact .inl isArmed
  · exact .inr (.inl waits)
  · exact .inr (.inr ⟨queued, List.mem_append_left _ member, isChoice⟩)

/-- A timer that is due is disarmed, and the queue has a repetition of the active choice instead. -/
theorem Repeats.tick (lawful : subject.Lawful)
    (repeats : subject.Repeats policy times former workload) (moment : Instant) :
    subject.Repeats policy times former (workload.tick moment) := by
  obtain ⟨pending, runs, armed, continues⟩ :=
    repeats.report (workload.cascade.machine.dueReactivations moment).2
  have taken := lawful.takes workload.cascade.machine moment
  rcases takeDue?_eq (subject.timer? workload.cascade.machine) moment with early | ⟨iteration, due⟩
  · have same : subject.timer? (workload.cascade.machine.dueReactivations moment).1 =
        subject.timer? workload.cascade.machine := by rw [taken, early]
    have sameArmed : subject.isArmed (workload.cascade.machine.dueReactivations moment).1 =
        subject.isArmed workload.cascade.machine := by rw [isArmed, same, isArmed]
    refine ⟨pending, (congrArg (Option.map (·.policy)) same).trans runs,
      fun isArmed => armed (sameArmed.symm.trans isArmed), ?_⟩
    intro enabled fits choice isFormer isActive
    exact (continues enabled fits choice isFormer isActive).imp_left sameArmed.trans
  · rw [due] at taken
    refine ⟨pending, ?_, fun isArmed => ?_, fun enabled fits choice isFormer isActive => ?_⟩
    · refine (congrArg (Option.map (·.policy)) taken).trans ?_
      rw [Option.map_map]
      exact runs
    · have disarmed : subject.isArmed (workload.cascade.machine.dueReactivations moment).1 =
          false := by
        rw [Subject.isArmed, taken, Option.any_map]
        cases subject.timer? workload.cascade.machine <;> rfl
      exact absurd (disarmed.symm.trans isArmed) Bool.false_ne_true
    · obtain ⟨event, member, isChoice⟩ := lawful.repeats workload.cascade.machine moment choice
        (by rw [due]; rfl) isActive
      exact .inr (.inr ⟨event, List.mem_append_right _ member, isChoice⟩)

/-- Every step keeps the timer running by the policy. -/
theorem Repeats.step (lawful : subject.Lawful) {roles : String → Option Role}
    (repeats : subject.Repeats policy times former workload)
    (sound : workload.Sound times roles) (step : Workload.Step times workload after) :
    ∃ latter, subject.Repeats policy times latter after := by
  cases step with
  | take finished =>
    exact ⟨former, repeats.take finished (sound.queued _ List.mem_cons_self).1⟩
  | handle step =>
    have timely := sound.timely
    have alone := sound.alone
    have orderly := sound.orderly
    have single := sound.electing.2.single
    cases step with
    | handle handled =>
      refine repeats.handle lawful handled single orderly (fun reported => ?_)
        (timely (List.cons_ne_nil _ _))
      exact (List.cons.inj (alone _ List.mem_cons_self (.inl reported))).2
  | fail stuck =>
    obtain ⟨occurrence, rest, waits, failed⟩ := stuck
    have quiet : occurrence.isSafe = false ∧ occurrence.sets? = none := by
      rcases Turn.handle_error failed with ⟨sequence, report, rfl⟩ | ⟨former, latter, rfl⟩ <;>
        exact ⟨rfl, rfl⟩
    have alone := sound.alone occurrence (by dsimp only; rw [waits]; exact List.mem_cons_self)
      (.inr quiet.1)
    exact ⟨former, repeats.fail lawful alone quiet.1 quiet.2⟩
  | @report _ event _ _ => exact ⟨former, repeats.report [event]⟩
  | tick _ => exact ⟨former, repeats.tick lawful _⟩

/-- Every workload that is reached keeps the timer running by the policy. -/
theorem Repeats.reaches (lawful : subject.Lawful) {roles : String → Option Role}
    (repeats : subject.Repeats policy times former workload)
    (sound : workload.Sound times roles) (reaches : Workload.Reaches times workload after) :
    ∃ latter, subject.Repeats policy times latter after := by
  induction reaches with
  | refl => exact ⟨former, repeats⟩
  | tail earlier step inductionHypothesis =>
    obtain ⟨latter, stillRepeats⟩ := inductionHypothesis
    exact stillRepeats.step lawful (sound.reaches earlier) step

/-- A timer that nothing has happened to runs by the policy. -/
theorem repeats_start (subject : Subject α) (policy : ReapplyPolicy) {machine : Machine}
    {now : Instant}
    (inactive : subject.active? machine.status = none)
    (timer : subject.timer? machine = ReapplyTimer.ofPolicy policy) :
    subject.Repeats policy times none (.start machine now) where
  pending := ⟨by rw [Workload.status, Workload.start, inactive]; rfl, List.forall_mem_nil _⟩
  runs := by
    rw [Workload.start, timer, ReapplyTimer.ofPolicy]
    split <;> rfl
  armed isArmed := by
    rw [Subject.isArmed, Workload.start, timer, ReapplyTimer.ofPolicy] at isArmed
    split at isArmed <;> cases isArmed
  continues _ _ choice same := by cases same

end Subject

namespace Workload

variable {name : String} {settings : BridgeSettings} {start : Instant} {machine : Machine}
variable {times : Instant → Prop} {workload : Workload}

/-- No repetition is lost, whenever the timers are looked at. Once a cascade is finished, a timer is
armed only while the bridge or some interface is active. An active bridge whose policy is enabled has
an armed timer or a repetition in the queue, and so has an active interface, if all times leave room
for the delays. -/
theorem reaches_repeats
    (built : Machine.new name settings (Machine.initialStatus name settings start) = .ok machine)
    (reaches : Reaches times (.start machine start) workload)
    (finished : workload.cascade.waiting = []) :
    let last := workload.cascade.machine
    let bridgePolicy := settings.reconcile.bridgeActivate.reapply.policy
    let interfacePolicy := settings.reconcile.interfaceActivate.reapply.policy
    (last.bridgeTimer.any (·.isArmed) = true → last.status.active = true) ∧
      (last.interfaceTimer.any (·.isArmed) = true →
        ∃ interface, last.status.hasActive interface = true) ∧
      (bridgePolicy.isEnabled = true → bridgePolicy.Fits times → last.status.active = true →
        last.bridgeTimer.any (·.isArmed) = true ∨
          ∃ event ∈ workload.queue, ∃ iteration,
            event.occurrence = .bridgeReactivated iteration) ∧
      (interfacePolicy.isEnabled = true → interfacePolicy.Fits times →
        ∀ interface, last.status.hasActive interface = true →
          last.interfaceTimer.any (·.isArmed) = true ∨
            ∃ event ∈ workload.queue, ∃ iteration,
              event.occurrence = .interfaceReactivated interface iteration) := by
  intro last bridgePolicy interfacePolicy
  obtain ⟨links, partnerMonitor, location, -, -, new⟩ := Machine.new_eq_mk built
  have sound : (Workload.start machine start).Sound times machine.roleOf? := sound_start built
  have single : last.status.IsSingle := (sound.reaches reaches).electing.2.single
  have active (interface : String) : last.status.activeInterface? = some interface ↔
      last.status.hasActive interface = true := BridgeStatus.activeInterface?_eq_some_iff single
  obtain ⟨_, bridgeRepeats⟩ :=
    (Subject.repeats_start .bridge bridgePolicy (by rw [new]; rfl) (by rw [new]; rfl)).reaches
      Subject.bridge_lawful sound reaches
  obtain ⟨_, interfaceRepeats⟩ :=
    (Subject.repeats_start .interfaces interfacePolicy (Machine.activeInterface?_of_new built)
      (by rw [new]; rfl)).reaches Subject.interfaces_lawful sound reaches
  have bridgeSettled := bridgeRepeats.settled finished
  have interfaceSettled := interfaceRepeats.settled finished
  refine ⟨fun armed => ?_, fun armed => ?_, fun enabled fits isActive => ?_,
    fun enabled fits interface isActive => ?_⟩
  · obtain ⟨_, isFormer⟩ := Option.isSome_iff_exists.1 (bridgeRepeats.armed armed)
    have elected := bridgeSettled.symm.trans isFormer
    by_contra inactive
    exact Option.some_ne_none _ (elected.symm.trans (if_neg inactive))
  · obtain ⟨interface, isFormer⟩ := Option.isSome_iff_exists.1 (interfaceRepeats.armed armed)
    exact ⟨interface, (active interface).1 (interfaceSettled.symm.trans isFormer)⟩
  · refine (bridgeRepeats.continues_of_finished finished enabled fits (if_pos isActive)).imp_right ?_
    rintro ⟨event, member, repeated⟩
    refine ⟨event, member, ?_⟩
    cases occurrence : event.occurrence <;> rw [occurrence] at repeated <;> cases repeated
    exact ⟨_, rfl⟩
  · have elected := (active interface).2 isActive
    refine (interfaceRepeats.continues_of_finished finished enabled fits elected).imp_right ?_
    rintro ⟨event, member, repeated⟩
    refine ⟨event, member, ?_⟩
    cases occurrence : event.occurrence <;> rw [occurrence] at repeated <;> cases repeated
    exact ⟨_, rfl⟩

/-- An interface comes up and both timers are armed. When they are due, both activations are in the
queue again. -/
theorem reaches_repeats_wg0 :
    let start : Instant := ⟨0, 0⟩
    let later : Instant := ⟨5, 0⟩
    let times (time : Instant) : Prop := time = start ∨ time = later
    let everySecond : ActivateSettings := ⟨⟨some (.ofSeconds 1), none, none⟩, []⟩
    let settings : BridgeSettings :=
      { BridgeSettings.plain .standby with
        reconcile :=
          { ReconcileSettings.unset with
            bridgeActivate := everySecond
            interfaceActivate := everySecond } }
    ∃ machine workload,
      Machine.new "vpn" settings (Machine.initialStatus "vpn" settings start) = .ok machine ∧
      Reaches times (.start machine start) workload ∧ workload.cascade.waiting = [] ∧
      everySecond.reapply.policy.isEnabled = true ∧ everySecond.reapply.policy.Fits times ∧
      workload.cascade.machine.status.active = true ∧
      workload.cascade.machine.status.hasActive "wg0" = true ∧
      workload.cascade.machine.bridgeTimer.any (·.isArmed) = false ∧
      workload.cascade.machine.interfaceTimer.any (·.isArmed) = false ∧
      (∃ event ∈ workload.queue, ∃ iteration, event.occurrence = .bridgeReactivated iteration) ∧
      ∃ event ∈ workload.queue, ∃ iteration,
        event.occurrence = .interfaceReactivated "wg0" iteration := by
  intro start later times everySecond settings
  let returned (sequence : UInt64) : Event :=
    ⟨start, .probeReturned "wg0" sequence .zero .zero .empty⟩
  let events := [returned 1, returned 2]
  have timely : ∀ event ∈ events, event.occurrence.isReported = true ∧ times event.time := by
    intro event member
    rcases List.mem_pair.1 member with rfl | rfl <;> exact ⟨rfl, .inl rfl⟩
  let machine : Machine :=
    (Machine.new "vpn" settings (Machine.initialStatus "vpn" settings start)).toOption.get
      (by decide +kernel)
  have built : Machine.new "vpn" settings (Machine.initialStatus "vpn" settings start) =
      .ok machine := rfl
  obtain ⟨live, reaches, sameMachine, settled, -⟩ := reaches_run machine start events timely
  obtain ⟨workload, same⟩ : ∃ workload, workload = live.tick later := ⟨_, rfl⟩
  have due : Reaches times (.start machine start) workload := by
    rw [same]
    exact reaches.tail (.tick fun event due =>
      .inr (Machine.reported_of_mem_dueReactivations due).2)
  have finished : workload.cascade.waiting = [] := by rw [same]; exact settled
  have last : workload.cascade.machine = ((machine.run events).machine.dueReactivations later).1 := by
    rw [same, tick_machine, sameMachine]
  have active : workload.cascade.machine.status.active = true := by rw [last]; decide +kernel
  have elected : workload.cascade.machine.status.hasActive "wg0" = true := by
    rw [last]; decide +kernel
  have bridgeDisarmed : workload.cascade.machine.bridgeTimer.any (·.isArmed) = false := by
    rw [last]; decide +kernel
  have interfaceDisarmed : workload.cascade.machine.interfaceTimer.any (·.isArmed) = false := by
    rw [last]; decide +kernel
  have fits : everySecond.reapply.policy.Fits times := by
    -- All delays are one second.
    have room (time : Instant) (timely : times time) (delay : Duration)
        (short : delay.nanoseconds ≤ 1000000000) : (time.add? delay).isSome = true := by
      have bounds : Instant.firstSecond ≤ 0 ∧ 6 ≤ Instant.lastSecond := by decide
      have ordinary : time.isLeap = false ∧ 0 ≤ time.toNanoseconds ∧
          time.toNanoseconds ≤ 5000000000 := by
        rcases timely with rfl | rfl <;> decide
      exact Instant.isSome_add? ordinary.1 (by omega) (by omega)
    exact fun time timely => ⟨room time timely _ (by decide), fun iteration =>
      room time timely _ ((ReapplyPolicy.delay_le _ iteration).trans (by decide))⟩
  obtain ⟨-, -, bridge, interface⟩ := reaches_repeats built due finished
  exact ⟨machine, workload, built, due, finished, rfl, fits, active, elected, bridgeDisarmed,
    interfaceDisarmed,
    (bridge rfl fits active).resolve_left (Bool.eq_false_iff.1 bridgeDisarmed),
    (interface rfl fits "wg0" elected).resolve_left (Bool.eq_false_iff.1 interfaceDisarmed)⟩

end Workload

end TunnelFailover

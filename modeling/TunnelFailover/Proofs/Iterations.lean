import TunnelFailover.Proofs.Backoff
/-!
This file says how the applications of one activation are numbered, from the first one on through all
repetitions, if every repetition is handled before the timers are looked at again. A repetition that was
on its way already when the activation was handled keeps its number.
-/

namespace TunnelFailover

/-- The number that a repetition brings. -/
def Occurrence.iteration : Occurrence → UInt32
  | bridgeReactivated iteration | interfaceReactivated _ iteration => iteration
  | _ => 0

/-- The numbers of all requests of a kind that handled events issue, in their order. -/
def iterationsOf (kind : RequestKind) (done : List Handling) : List UInt32 :=
  ((done.flatMap (·.turn.requests)).filter (·.kind = kind)).map (·.iteration)

theorem iterationsOf_append (kind : RequestKind) (done more : List Handling) :
    iterationsOf kind (done ++ more) = iterationsOf kind done ++ iterationsOf kind more := by
  simp [iterationsOf]

namespace Workload

/-- The repetitions of a subject that wait or are in the queue. -/
def repetitions {α : Type} (workload : Workload) (subject : Subject α) : List Occurrence :=
  (workload.cascade.waiting ++ workload.queue.map (·.occurrence)).filter fun occurrence =>
    (subject.repeated? occurrence).isSome

/-- The numbers of the repetitions of a choice that wait or are in the queue. -/
def numbers {α : Type} [DecidableEq α] (workload : Workload) (subject : Subject α) (choice : α) :
    List UInt32 :=
  ((workload.repetitions subject).filter fun occurrence =>
    subject.repeated? occurrence = some choice).map (·.iteration)

/-- The number of a repetition at a place among those of an activation. The ones that were on their way
when the activation was handled come first, with numbers of their own. -/
def numberAt (early : List UInt32) (place : Nat) : UInt32 :=
  early[place]?.getD (UInt32.ofNat place)

/-- Some events have been handled one after the other on the way from a first workload. The timers are
looked at only while no repetition of a subject is on its way, and only they bring new ones. -/
inductive Paces {α : Type} (subject : Subject α) (times : Instant → Prop) (first : Workload) :
    List Handling → Workload → Prop
  | start : Paces subject times first [] first
  | handle {done : List Handling} {machine : Machine} {occurrence : Occurrence}
      {rest derived : List Occurrence} {effects : List Effect} {now : Instant} {queue : List Event}
      {turn : Turn}
      (earlier : Paces subject times first done
        ⟨⟨machine, occurrence :: rest, derived, effects⟩, now, queue⟩)
      (handled : (Turn.start machine).handle now occurrence = .ok turn) :
      Paces subject times first (done ++ [⟨⟨now, occurrence⟩, machine, turn⟩])
        ⟨⟨turn.machine, rest ++ turn.derived, derived ++ turn.derived, effects ++ turn.effects⟩, now,
          queue⟩
  | pass {done : List Handling} {before after : Workload}
      (earlier : Paces subject times first done before) (step : Step times before after)
      (idle : ¬Cascade.Step before.now before.cascade after.cascade)
      (same : after.repetitions subject = before.repetitions subject) :
      Paces subject times first done after
  | tick {done : List Handling} {before : Workload} {moment : Instant}
      (earlier : Paces subject times first done before)
      (timely : ∀ event ∈ (before.cascade.machine.dueReactivations moment).2, times event.time)
      (none : before.repetitions subject = []) :
      Paces subject times first done (before.tick moment)

variable {α : Type} {subject : Subject α} {times : Instant → Prop} {first workload : Workload}
variable {done : List Handling}

/-- A paced way is a way. -/
theorem Paces.handles (paces : Paces subject times first done workload) :
    Handles times first done workload := by
  induction paces with
  | start => exact .start
  | handle _ handled inductionHypothesis => exact inductionHypothesis.handle handled
  | pass _ step idle _ inductionHypothesis => exact inductionHypothesis.pass step idle
  | tick _ timely _ inductionHypothesis => exact inductionHypothesis.tick timely

end Workload

/-- A timer that is due gives its count. -/
theorem count_of_takeDue? {timer? : Option ReapplyTimer} {moment : Instant} {iteration : UInt32}
    (due : (takeDue? timer? moment).2 = some iteration) :
    ∃ timer, timer? = some timer ∧ iteration = timer.count := by
  cases timer? with
  | none => cases due
  | some timer =>
    unfold takeDue? ReapplyTimer.takeDue at due
    dsimp only at due
    split at due
    · cases due
      exact ⟨timer, rfl, rfl⟩
    · cases due

namespace Subject

variable {α : Type} [DecidableEq α] {subject : Subject α}

/-- The laws of the numbers of a subject: an activation is applied with number zero and a repetition of
the active choice with the number that it brings, and a timer that is due gives its count. -/
structure Numbered (subject : Subject α) (kind : RequestKind) : Prop where
  issues : ∀ {machine : Machine} {now : Instant} {occurrence : Occurrence} {turn : Turn},
    (Turn.start machine).handle now occurrence = .ok turn → machine.status.IsSingle →
      iterationsOf kind [⟨⟨now, occurrence⟩, machine, turn⟩] =
        match subject.change? occurrence with
        | some (_, true) => [0]
        | some (_, false) => []
        | none =>
          if (subject.repeated? occurrence).any fun choice =>
            subject.active? machine.status = some choice
          then [occurrence.iteration]
          else []
  dues : ∀ (machine : Machine) (moment : Instant),
    let due := ((machine.dueReactivations moment).2.map (·.occurrence)).filter fun occurrence =>
      (subject.repeated? occurrence).isSome
    due = [] ∨ ∃ timer occurrence, subject.timer? machine = some timer ∧ due = [occurrence] ∧
      occurrence.iteration = timer.count

theorem bridge_numbered : bridge.Numbered .bridgeActivate where
  issues {machine now occurrence turn} handled _ := by
    rw [iterationsOf, List.flatMap_singleton, Turn.handle_requests handled]
    cases occurrence with
    | bridgeReactivated iteration =>
      cases active : machine.status.active <;>
        simp [Occurrence.requests, bridge, change?, Occurrence.sets?, active, Machine.request,
          Occurrence.iteration]
    | interfaceReactivated interface iteration =>
      cases active : machine.status.hasActive interface <;>
        simp [Occurrence.requests, bridge, change?, Occurrence.sets?, active, Machine.request]
    | _ => rfl
  dues machine moment := by
    have interfaces (iteration? : Option UInt32) : (((do
        pure (Occurrence.interfaceReactivated (← machine.status.activeInterface?) (← iteration?)))
          |>.toList).filter fun occurrence => (bridge.repeated? occurrence).isSome) = [] := by
      cases machine.status.activeInterface? <;> cases iteration? <;> rfl
    simp only [Machine.dueReactivations, List.map_map, Function.comp_def, List.map_id',
      List.filter_append, interfaces, List.append_nil]
    cases due : (takeDue? machine.bridgeTimer moment).2 with
    | none =>
      left
      split <;> rfl
    | some iteration =>
      obtain ⟨timer, known, counted⟩ := count_of_takeDue? due
      split
      · exact .inr ⟨timer, _, known, rfl, counted⟩
      · exact .inl rfl

theorem interfaces_numbered : interfaces.Numbered .interfaceActivate where
  issues {machine now occurrence turn} handled single := by
    rw [iterationsOf, List.flatMap_singleton, Turn.handle_requests handled]
    cases occurrence with
    | bridgeReactivated iteration =>
      cases active : machine.status.active <;>
        simp [Occurrence.requests, interfaces, change?, Occurrence.sets?, active, Machine.request]
    | interfaceReactivated interface iteration =>
      have elected : machine.status.activeInterface? = some interface ↔
          machine.status.hasActive interface = true :=
        BridgeStatus.activeInterface?_eq_some_iff single
      simp only [Occurrence.requests, interfaces, change?, Occurrence.sets?, Option.bind_none,
        Option.any_some, elected]
      cases machine.status.hasActive interface <;> rfl
    | _ => rfl
  dues machine moment := by
    have bridge (iteration? : Option UInt32) :
        ((if machine.status.active then iteration?.map Occurrence.bridgeReactivated else none).toList
          |>.filter fun occurrence => (interfaces.repeated? occurrence).isSome) = [] := by
      cases iteration? <;> split <;> rfl
    simp only [Machine.dueReactivations, List.map_map, Function.comp_def, List.map_id',
      List.filter_append, bridge, List.nil_append]
    cases machine.status.activeInterface? with
    | none => exact .inl rfl
    | some interface =>
      cases due : (takeDue? machine.interfaceTimer moment).2 with
      | none => exact .inl rfl
      | some iteration =>
        obtain ⟨timer, known, counted⟩ := count_of_takeDue? due
        exact .inr ⟨timer, _, known, rfl, counted⟩

/-- A step without a handling leads from one pending choice to the same. -/
theorem Pending.idle {former : Option α} {times : Instant → Prop} {roles : String → Option Role}
    {before after : Workload}
    (pending : subject.Pending former before.status before.cascade.waiting)
    (sound : before.Sound times roles) (step : Workload.Step times before after)
    (idle : ¬Cascade.Step before.now before.cascade after.cascade) :
    subject.Pending former after.status after.cascade.waiting := by
  cases step with
  | take finished =>
    have settled := pending.eq_active fun occurrence member => by simp [finished] at member
    rw [settled]
    exact subject.pending_of_reported _ (sound.queued _ List.mem_cons_self).1
  | handle step => exact absurd step idle
  | @fail cascade now queue fault stuck =>
    obtain ⟨occurrence, rest, waits, failed⟩ := stuck
    have quiet : occurrence.isSafe = false ∧ occurrence.sets? = none := by
      rcases Turn.handle_error failed with ⟨sequence, report, rfl⟩ | ⟨former, latter, rfl⟩ <;>
        exact ⟨rfl, rfl⟩
    have alone : cascade.waiting = [occurrence] := sound.alone occurrence
      (by dsimp only; rw [waits]; exact List.mem_cons_self) (.inr quiet.1)
    have settled := pending.eq_active fun waiting member => by
      rw [show cascade.waiting = _ from alone, List.mem_singleton] at member
      rw [member, change?, quiet.2]
      rfl
    rw [settled]
    exact ⟨(changes_self _).symm, List.forall_mem_nil _⟩
  | report => exact pending
  | tick => exact pending

/-- The last activation has been repeated a number of times, which the timer counts. What is on its way
are the early repetitions that are left, or at most one other with the count as its number. -/
structure Counts (subject : Subject α) (choice : α) (early : List UInt32) (count : Nat)
    (workload : Workload) : Prop where
  pending : subject.Pending (some choice) workload.status workload.cascade.waiting
  timer : ∀ timer, subject.timer? workload.cascade.machine = some timer →
    timer.count = UInt32.ofNat count
  due : workload.numbers subject choice = early.drop count ∨
    early.length ≤ count ∧ workload.numbers subject choice = [UInt32.ofNat count]

section Counts

variable {kind : RequestKind} {choice : α} {early : List UInt32} {count : Nat}
variable {times : Instant → Prop} {roles : String → Option Role} {before after : Workload}

/-- No step without a handling touches the count of a timer. -/
theorem Counts.timer_idle (lawful : subject.Lawful) (counts : subject.Counts choice early count before)
    (machine : after.cascade.machine = before.cascade.machine ∨
      ∃ moment, after.cascade.machine = (before.cascade.machine.dueReactivations moment).1) :
    ∀ timer, subject.timer? after.cascade.machine = some timer →
      timer.count = UInt32.ofNat count := by
  intro timer known
  rcases machine with same | ⟨moment, ticked⟩
  · exact counts.timer timer (same ▸ known)
  · rw [ticked, lawful.takes] at known
    rcases takeDue?_eq (subject.timer? before.cascade.machine) moment with same | ⟨iteration, due⟩
    · rw [same] at known
      exact counts.timer timer known
    · rw [due] at known
      obtain ⟨former, was, rfl⟩ := Option.map_eq_some_iff.1 known
      exact counts.timer former was

theorem Counts.pass (lawful : subject.Lawful) (counts : subject.Counts choice early count before)
    (sound : before.Sound times roles) (step : Workload.Step times before after)
    (idle : ¬Cascade.Step before.now before.cascade after.cascade)
    (same : after.repetitions subject = before.repetitions subject) :
    subject.Counts choice early count after where
  pending := counts.pending.idle sound step idle
  timer := counts.timer_idle lawful (step.machine_of_idle idle)
  due := by
    rw [Workload.numbers, same]
    exact counts.due

/-- Of the numbers on their way, the first one is that of the next repetition. -/
theorem Counts.next (counts : subject.Counts choice early count before) {number : UInt32}
    {others : List UInt32} (waiting : before.numbers subject choice = number :: others) :
    number = Workload.numberAt early count ∧ others = early.drop (count + 1) := by
  rcases counts.due with left | ⟨past, one⟩
  · rw [waiting] at left
    have here : early[count]? = some number := by
      rw [← List.head?_drop, ← left, List.head?_cons]
    refine ⟨?_, ?_⟩
    · rw [Workload.numberAt, here, Option.getD_some]
    · rw [← List.tail_drop, ← left, List.tail_cons]
  · obtain ⟨rfl, rfl⟩ := List.cons.inj (waiting.symm.trans one)
    refine ⟨?_, (List.drop_eq_nil_of_le (Nat.le_succ_of_le past)).symm⟩
    rw [Workload.numberAt, List.getElem?_eq_none past, Option.getD_none]

/-- The repetition that a timer gives has the count of this. -/
theorem Counts.tick (lawful : subject.Lawful) (numbered : subject.Numbered kind)
    (counts : subject.Counts choice early count before) (none : before.repetitions subject = [])
    (moment : Instant) : subject.Counts choice early count (before.tick moment) where
  pending := counts.pending
  timer := counts.timer_idle lawful (.inr ⟨moment, rfl⟩)
  due := by
    have added : (before.tick moment).repetitions subject =
        before.repetitions subject ++ ((before.cascade.machine.dueReactivations moment).2.map
          (·.occurrence)).filter fun occurrence => (subject.repeated? occurrence).isSome := by
      simp [Workload.repetitions, Workload.tick, List.filter_append]
    have past : early.length ≤ count := by
      have nothing : before.numbers subject choice = [] := by
        rw [Workload.numbers, none]
        rfl
      rcases counts.due with left | ⟨past, -⟩
      · exact List.drop_eq_nil_iff.1 (left.symm.trans nothing)
      · exact past
    rw [Workload.numbers, added, none, List.nil_append, List.drop_eq_nil_of_le past]
    rcases numbered.dues before.cascade.machine moment with nothing | ⟨timer, occurrence, known, one, is⟩
    · exact .inl (by rw [nothing]; rfl)
    · rw [one, ← counts.timer timer known, ← is]
      by_cases own : subject.repeated? occurrence = some choice
      · exact .inr ⟨past, by simp [own]⟩
      · exact .inl (by simp [own])

/-- What is handled is no repetition on its way any more, and nothing that is derived is one. -/
theorem repetitions_handled (lawful : subject.Lawful) {machine : Machine} {occurrence : Occurrence}
    {rest derived : List Occurrence} {effects : List Effect} {now : Instant} {queue : List Event}
    {turn : Turn} (handled : (Turn.start machine).handle now occurrence = .ok turn)
    (single : machine.status.IsSingle) :
    Workload.repetitions ⟨⟨machine, occurrence :: rest, derived, effects⟩, now, queue⟩ subject =
      (if (subject.repeated? occurrence).isSome then [occurrence] else []) ++
        Workload.repetitions ⟨⟨turn.machine, rest ++ turn.derived, derived ++ turn.derived,
          effects ++ turn.effects⟩, now, queue⟩ subject := by
  have unreported : turn.derived.filter (fun next => (subject.repeated? next).isSome) = [] := by
    rw [List.filter_eq_nil_iff]
    intro next member again
    obtain ⟨other, isOther⟩ := Option.isSome_iff_exists.1 again
    have reported := (lawful.reports isOther).1
    rw [(Turn.handle_records handled single).unreported next member] at reported
    cases reported
  simp only [Workload.repetitions, List.filter_append, List.filter_cons, unreported, List.append_nil,
    List.cons_append]
  split <;> rfl

/-- Of the numbers on their way, a repetition that is handled takes the first one. -/
theorem numbers_handled (lawful : subject.Lawful) {machine : Machine} {occurrence : Occurrence}
    {rest derived : List Occurrence} {effects : List Effect} {now : Instant} {queue : List Event}
    {turn : Turn} (handled : (Turn.start machine).handle now occurrence = .ok turn)
    (single : machine.status.IsSingle) (choice : α) :
    Workload.numbers ⟨⟨machine, occurrence :: rest, derived, effects⟩, now, queue⟩ subject choice =
      (if subject.repeated? occurrence = some choice then [occurrence.iteration] else []) ++
        Workload.numbers ⟨⟨turn.machine, rest ++ turn.derived, derived ++ turn.derived,
          effects ++ turn.effects⟩, now, queue⟩ subject choice := by
  rw [Workload.numbers, repetitions_handled lawful handled single, List.filter_append,
    List.map_append]
  congr 1
  by_cases own : subject.repeated? occurrence = some choice
  · simp [own]
  · rw [if_neg own]
    split
    · simp [own]
    · rfl

/-- What is handled while the choice stays active repeats it with the next number or does not apply it. -/
theorem Counts.handle (lawful : subject.Lawful) (numbered : subject.Numbered kind)
    {machine : Machine} {occurrence : Occurrence} {rest derived : List Occurrence}
    {effects : List Effect} {now : Instant} {queue : List Event} {turn : Turn}
    (counts : subject.Counts choice early count
      ⟨⟨machine, occurrence :: rest, derived, effects⟩, now, queue⟩)
    (handled : (Turn.start machine).handle now occurrence = .ok turn)
    (single : machine.status.IsSingle) (orderly : Orderly (occurrence :: rest))
    (active : subject.active? machine.status = some choice) :
    ∃ repeated : Nat, repeated ≤ 1 ∧
      iterationsOf kind [⟨⟨now, occurrence⟩, machine, turn⟩] =
        List.replicate repeated (Workload.numberAt early count) ∧
      subject.Counts choice early (count + repeated)
        ⟨⟨turn.machine, rest ++ turn.derived, derived ++ turn.derived, effects ++ turn.effects⟩, now,
          queue⟩ := by
  let after : Workload := ⟨⟨turn.machine, rest ++ turn.derived, derived ++ turn.derived,
    effects ++ turn.effects⟩, now, queue⟩
  -- A change that waits would lead from the choice to the active one, which is the same.
  have unchanged : subject.change? occurrence = none := by
    have leads : (occurrence :: rest).filterMap subject.change? =
        changes (some choice) (subject.active? machine.status) := counts.pending.leads
    rw [active, changes_self] at leads
    exact List.filterMap_eq_nil_iff.1 leads occurrence List.mem_cons_self
  have pending : subject.Pending (some choice) after.status after.cascade.waiting :=
    counts.pending.pass lawful handled single orderly unchanged
  have timer : subject.timer? after.cascade.machine = _ := lawful.times handled single
  have issued := numbered.issues handled single
  rw [unchanged] at issued
  rw [timerAfter, unchanged] at timer
  dsimp only at issued timer
  have left : Workload.numbers ⟨⟨machine, occurrence :: rest, derived, effects⟩, now, queue⟩
      subject choice = _ ++ after.numbers subject choice := numbers_handled lawful handled single choice
  have repeats : ((subject.repeated? occurrence).any fun other =>
      subject.active? machine.status = some other) = true ↔
        subject.repeated? occurrence = some choice := by
    rw [active]
    cases subject.repeated? occurrence with
    | none => simp
    | some other =>
      simp only [Option.any_some, decide_eq_true_eq, Option.some.injEq]
      exact eq_comm
  by_cases own : subject.repeated? occurrence = some choice
  · rw [if_pos (repeats.2 own)] at issued timer
    rw [if_pos own, List.singleton_append] at left
    obtain ⟨is, behind⟩ := counts.next left
    refine ⟨1, Nat.le_refl 1, by rw [issued, is]; rfl, pending, fun known same => ?_, .inl behind⟩
    obtain ⟨former, was, rfl⟩ := Option.map_eq_some_iff.1 (timer.symm.trans same)
    have counted : former.count = UInt32.ofNat count := counts.timer former was
    change former.count + 1 = _
    rw [counted, UInt32.ofNat_add]
    rfl
  · rw [if_neg (mt repeats.1 own)] at issued timer
    rw [if_neg own, List.nil_append] at left
    refine ⟨0, Nat.zero_le 1, issued, pending, fun known same => ?_, left ▸ counts.due⟩
    exact counts.timer known (timer.symm.trans same)

/-- While the choice stays active, its repetitions are numbered by their places. -/
theorem counts_paces (lawful : subject.Lawful) (numbered : subject.Numbered kind)
    {first workload : Workload} {done : List Handling} (sound : first.Sound times roles)
    (counts : subject.Counts choice early 0 first)
    (paces : Workload.Paces subject times first done workload)
    (active : ∀ handling ∈ done, subject.active? handling.before.status = some choice) :
    ∃ count, iterationsOf kind done = (List.range count).map (Workload.numberAt early) ∧
      subject.Counts choice early count workload := by
  induction paces with
  | start => exact ⟨0, rfl, counts⟩
  | handle earlier handled inductionHypothesis =>
    obtain ⟨wasActive, isActive⟩ := List.forall_mem_append.1 active
    obtain ⟨count, numbers, still⟩ := inductionHypothesis wasActive
    have stillSound := sound.reaches earlier.handles.reaches
    obtain ⟨repeated, once, issued, next⟩ := still.handle lawful numbered handled
      stillSound.electing.2.single stillSound.orderly (isActive _ (List.mem_singleton_self _))
    refine ⟨count + repeated, ?_, next⟩
    rw [iterationsOf_append, numbers, issued]
    obtain rfl | rfl : repeated = 0 ∨ repeated = 1 := by omega
    · exact List.append_nil _
    · rw [List.range_succ, List.map_append]
      rfl
  | pass earlier step idle same inductionHypothesis =>
    obtain ⟨count, numbers, still⟩ := inductionHypothesis active
    exact ⟨count, numbers, still.pass lawful (sound.reaches earlier.handles.reaches) step idle same⟩
  | tick earlier timely none inductionHypothesis =>
    obtain ⟨count, numbers, still⟩ := inductionHypothesis active
    exact ⟨count, numbers, still.tick lawful numbered none _⟩

/-- The first application of an activation has number zero, and its repetitions are numbered by their
places, unless they were on their way before. -/
theorem iterations_of_activation (lawful : subject.Lawful) (numbered : subject.Numbered kind)
    {machine : Machine} {occurrence : Occurrence} {rest derived : List Occurrence}
    {effects : List Effect} {now : Instant} {queue : List Event} {turn : Turn}
    {former : Option α} {last : Workload} {done : List Handling}
    (sound : Workload.Sound times roles
      ⟨⟨machine, occurrence :: rest, derived, effects⟩, now, queue⟩)
    (pending : subject.Pending former machine.status (occurrence :: rest))
    (taken : subject.change? occurrence = some (choice, true))
    (handled : (Turn.start machine).handle now occurrence = .ok turn)
    (paces : Workload.Paces subject times
      ⟨⟨turn.machine, rest ++ turn.derived, derived ++ turn.derived, effects ++ turn.effects⟩, now,
        queue⟩ done last)
    (active : ∀ handling ∈ done, subject.active? handling.before.status = some choice) :
    let early := Workload.numbers
      ⟨⟨machine, occurrence :: rest, derived, effects⟩, now, queue⟩ subject choice
    ∃ count, iterationsOf kind (⟨⟨now, occurrence⟩, machine, turn⟩ :: done) =
      0 :: (List.range count).map (Workload.numberAt early) := by
  intro early
  have single := sound.electing.2.single
  have first := numbered.issues handled single
  rw [taken] at first
  have stillSound := sound.step (.handle (.handle handled))
  obtain ⟨-, left⟩ := pending.change lawful handled single sound.orderly taken
  have timer := lawful.times handled single
  rw [timerAfter, taken] at timer
  have unrepeated : subject.repeated? occurrence ≠ some choice := by
    intro again
    obtain ⟨setting, sets, -⟩ := Option.bind_eq_some_iff.1 taken
    have reported := (lawful.reports again).1
    rw [Occurrence.unreported_of_sets? sets] at reported
    cases reported
  have counts : subject.Counts choice early 0
      ⟨⟨turn.machine, rest ++ turn.derived, derived ++ turn.derived, effects ++ turn.effects⟩, now,
        queue⟩ := by
    refine ⟨left, fun known same => ?_, .inl ?_⟩
    · obtain ⟨armed, -, rfl⟩ := Option.map_eq_some_iff.1 (timer.symm.trans same)
      rfl
    · have waiting : early = _ := numbers_handled lawful handled single choice
      rw [List.drop_zero, waiting, if_neg unrepeated, List.nil_append]
  obtain ⟨count, numbers, -⟩ := counts_paces lawful numbered stillSound counts paces active
  refine ⟨count, ?_⟩
  rw [← List.singleton_append, iterationsOf_append, first, numbers]
  rfl

end Counts

end Subject

namespace Workload

/-- An activation of the bridge or of an interface is applied with number zero. As long as it lasts, it
is applied again with the numbers from zero on, one after the other, if every repetition is handled
before the timers are looked at again. Only a repetition that was on its way already keeps its number. -/
theorem paces_number {name : String} {settings : BridgeSettings} {start : Instant}
    {machine before : Machine} {times : Instant → Prop} {occurrence : Occurrence}
    {rest derived : List Occurrence} {effects : List Effect} {now : Instant} {queue : List Event}
    {turn : Turn}
    (built : Machine.new name settings (Machine.initialStatus name settings start) = .ok machine)
    (reaches : Reaches times (.start machine start)
      ⟨⟨before, occurrence :: rest, derived, effects⟩, now, queue⟩)
    (handled : (Turn.start before).handle now occurrence = .ok turn) :
    let first : Workload := ⟨⟨before, occurrence :: rest, derived, effects⟩, now, queue⟩
    let next : Workload :=
      ⟨⟨turn.machine, rest ++ turn.derived, derived ++ turn.derived, effects ++ turn.effects⟩, now,
        queue⟩
    let activation : Handling := ⟨⟨now, occurrence⟩, before, turn⟩
    (occurrence = .bridgeActivated →
      ∀ done last, Paces .bridge times next done last →
        (∀ handling ∈ done, handling.before.status.active = true) →
          ∃ count, iterationsOf .bridgeActivate (activation :: done) =
            0 :: (List.range count).map (numberAt (first.numbers .bridge ()))) ∧
      ∀ interface, occurrence = .interfaceActivated interface →
        ∀ done last, Paces .interfaces times next done last →
          (∀ handling ∈ done, handling.before.status.hasActive interface = true) →
            ∃ count, iterationsOf .interfaceActivate (activation :: done) =
              0 :: (List.range count).map (numberAt (first.numbers .interfaces interface)) := by
  intro first next activation
  obtain ⟨links, partnerMonitor, location, -, -, new⟩ := Machine.new_eq_mk built
  have sound : (Workload.start machine start).Sound times machine.roleOf? := sound_start built
  have firstSound : first.Sound times machine.roleOf? := sound.reaches reaches
  constructor
  · rintro rfl done last paces active
    obtain ⟨former, repeats⟩ := (Subject.repeats_start .bridge
      settings.reconcile.bridgeActivate.reapply.policy (by rw [new]; rfl) (by rw [new]; rfl)).reaches
        Subject.bridge_lawful sound reaches
    exact Subject.iterations_of_activation Subject.bridge_lawful Subject.bridge_numbered firstSound
      repeats.pending rfl handled paces fun handling member => if_pos (active handling member)
  · rintro interface rfl done last paces active
    obtain ⟨former, repeats⟩ := (Subject.repeats_start .interfaces
      settings.reconcile.interfaceActivate.reapply.policy (Machine.activeInterface?_of_new built)
        (by rw [new]; rfl)).reaches Subject.interfaces_lawful sound reaches
    have nextSound : next.Sound times machine.roleOf? := firstSound.step (.handle (.handle handled))
    refine Subject.iterations_of_activation Subject.interfaces_lawful Subject.interfaces_numbered
      firstSound repeats.pending rfl handled paces fun handling member => ?_
    have single := (paces.handles.handled nextSound handling member).1
    exact (BridgeStatus.activeInterface?_eq_some_iff single).2 (active handling member)

/-- If nothing happens in between, a repetition of the bridge is handled as soon as it is due. -/
theorem Paces.repeats {cascade : Cascade} {now moment : Instant} {iteration : UInt32}
    {first : Workload} {done : List Handling}
    (earlier : Paces .bridge times first done ⟨cascade, now, []⟩)
    (finished : cascade.waiting = []) (timely : times moment)
    (due : (cascade.machine.dueReactivations moment).2 = [⟨moment, .bridgeReactivated iteration⟩]) :
    let machine := (cascade.machine.dueReactivations moment).1
    ∃ last, Paces .bridge times first
      (done ++ [⟨⟨moment, .bridgeReactivated iteration⟩, machine,
        (Turn.start machine).bridgeReactivated moment iteration⟩]) last := by
  intro machine
  have none : Workload.repetitions ⟨cascade, now, []⟩ Subject.bridge = [] := by
    simp [Workload.repetitions, finished]
  have ticked : Paces .bridge times first done ⟨{ cascade with machine }, now, [] ++
      (cascade.machine.dueReactivations moment).2⟩ :=
    earlier.tick (fun event member => by rwa [(Machine.reported_of_mem_dueReactivations member).2]) none
  rw [due] at ticked
  have taken : Paces .bridge times first done
      ⟨⟨machine, [.bridgeReactivated iteration], [], []⟩, moment, []⟩ :=
    ticked.pass (.take finished) (not_step_of_finished finished)
      (by simp [Workload.repetitions, finished])
  exact ⟨_, taken.handle rfl⟩

/-- A bridge takes over from its partner, and its activation is repeated once. -/
theorem exists_repetition :
    let start : Instant := ⟨0, 0⟩
    let everySecond : ActivateSettings := ⟨⟨some (.ofSeconds 1), none, none⟩, []⟩
    let settings : BridgeSettings :=
      { BridgeSettings.plain .active with
        reconcile := { ReconcileSettings.unset with bridgeActivate := everySecond } }
    ∃ machine before derived effects turn done last,
      Machine.new "vpn" settings (Machine.initialStatus "vpn" settings start) = .ok machine ∧
      Reaches (fun _ => True) (.start machine start)
        ⟨⟨before, [.bridgeActivated], derived, effects⟩, start, []⟩ ∧
      (Turn.start before).handle start .bridgeActivated = .ok turn ∧
      Paces .bridge (fun _ => True)
        ⟨⟨turn.machine, [] ++ turn.derived, derived ++ turn.derived, effects ++ turn.effects⟩, start,
          []⟩ done last ∧
      (∀ handling ∈ done, handling.before.status.active = true) ∧
      iterationsOf .bridgeActivate (⟨⟨start, .bridgeActivated⟩, before, turn⟩ :: done) = [0, 0] := by
  intro start everySecond settings
  let times (_ : Instant) : Prop := True
  let later : Instant := ⟨5, 0⟩
  let report := { Machine.initialStatus "vpn" (.plain .standby) start with up := true }
  let failed (sequence : UInt64) : Event := ⟨start, .partnerPollFailed sequence "timeout"⟩
  let events : List Event := [⟨start, .partnerPolled 1 report⟩, failed 2]
  have timely : ∀ event ∈ events, event.occurrence.isReported = true ∧ times event.time := by
    intro event member
    rcases List.mem_pair.1 member with rfl | rfl <;> exact ⟨rfl, trivial⟩
  let machine : Machine :=
    (Machine.new "vpn" settings (Machine.initialStatus "vpn" settings start)).toOption.get
      (by decide +kernel)
  have built : Machine.new "vpn" settings (Machine.initialStatus "vpn" settings start) =
      .ok machine := rfl
  obtain ⟨live, reaches, sameMachine, finished, noneQueued⟩ :=
    reaches_run machine start events timely
  let polled : Turn := (Turn.start (machine.run events).machine).partnerPollFailed start 3
  let fallen : Turn := (Turn.start polled.machine).partnerWentDown start
  let activated : Turn := (Turn.start fallen.machine).bridgeActivated start
  have polledDerived : polled.derived = [.partnerWentDown] := by decide +kernel
  have fallenDerived : fallen.derived = [.bridgeActivated] := by decide +kernel
  have reported : Step times live { live with queue := live.queue ++ [failed 3] } :=
    .report rfl trivial
  rw [noneQueued] at reported
  have taken : Reaches times (.start machine start)
      ⟨.start (machine.run events).machine (failed 3), start, []⟩ := by
    rw [← sameMachine]
    exact (reaches.tail reported).tail (.take finished)
  have followed : Reaches times (.start machine start)
      ⟨⟨polled.machine, [] ++ polled.derived, [] ++ polled.derived, [] ++ polled.effects⟩, start,
        []⟩ := taken.tail (.handle (.handle rfl))
  rw [polledDerived] at followed
  have waits : Reaches times (.start machine start)
      ⟨⟨fallen.machine, [] ++ fallen.derived, [] ++ [.partnerWentDown] ++ fallen.derived,
        [] ++ polled.effects ++ fallen.effects⟩, start, []⟩ := followed.tail (.handle (.handle rfl))
  rw [fallenDerived] at waits
  have active : Paces .bridge times ⟨⟨activated.machine, [] ++ activated.derived,
      [] ++ [.partnerWentDown] ++ [.bridgeActivated] ++ activated.derived,
      [] ++ polled.effects ++ fallen.effects ++ activated.effects⟩, start, []⟩ [] _ := .start
  obtain ⟨last, paces⟩ := active.repeats rfl trivial (by decide +kernel :
    (activated.machine.dueReactivations later).2 = [⟨later, .bridgeReactivated 0⟩])
  exact ⟨machine, fallen.machine, _, _, activated, _, last, built, waits, rfl, paces,
    List.forall_mem_singleton.2 (by decide +kernel), by decide +kernel⟩

/-- The activation of a bridge and its first repetition have the same number. -/
theorem paces_number_once :
    let start : Instant := ⟨0, 0⟩
    let everySecond : ActivateSettings := ⟨⟨some (.ofSeconds 1), none, none⟩, []⟩
    let settings : BridgeSettings :=
      { BridgeSettings.plain .active with
        reconcile := { ReconcileSettings.unset with bridgeActivate := everySecond } }
    ∃ machine before turn done count,
      Machine.new "vpn" settings (Machine.initialStatus "vpn" settings start) = .ok machine ∧
      (Turn.start before).handle start .bridgeActivated = .ok turn ∧
      (∀ handling ∈ done, handling.before.status.active = true) ∧
      iterationsOf .bridgeActivate (⟨⟨start, .bridgeActivated⟩, before, turn⟩ :: done) =
        0 :: (List.range count).map UInt32.ofNat ∧ count = 1 := by
  intro start everySecond settings
  obtain ⟨machine, before, derived, effects, turn, done, last, built, reaches, handled, paces, active,
    numbers⟩ := exists_repetition
  obtain ⟨count, rises⟩ := (paces_number built reaches handled).1 rfl done last paces active
  refine ⟨machine, before, turn, done, count, built, handled, active, rises, ?_⟩
  have length := congrArg List.length (numbers.symm.trans rises)
  simpa [eq_comm] using length

/-- The number zero is not that of the activation alone, so that the numbers do not rise with every
application. -/
theorem not_always_rising :
    ¬∀ (name : String) (settings : BridgeSettings) (start : Instant) (machine before : Machine)
      (times : Instant → Prop) (derived : List Occurrence) (effects : List Effect) (now : Instant)
      (turn : Turn),
      settings.reconcile.bridgeActivate.reapply.policy.isEnabled = true →
      Machine.new name settings (Machine.initialStatus name settings start) = .ok machine →
      Reaches times (.start machine start)
        ⟨⟨before, [.bridgeActivated], derived, effects⟩, now, []⟩ →
      (Turn.start before).handle now .bridgeActivated = .ok turn →
      ∀ done last,
        Paces .bridge times
          ⟨⟨turn.machine, [] ++ turn.derived, derived ++ turn.derived, effects ++ turn.effects⟩, now,
            []⟩ done last →
        (∀ handling ∈ done, handling.before.status.active = true) →
        ∃ count, iterationsOf .bridgeActivate (⟨⟨now, .bridgeActivated⟩, before, turn⟩ :: done) =
          (List.range count).map UInt32.ofNat := by
  intro always
  obtain ⟨machine, before, derived, effects, turn, done, last, built, reaches, handled, paces, active,
    numbers⟩ := exists_repetition
  obtain ⟨count, rises⟩ :=
    always _ _ _ _ _ _ _ _ _ _ (by decide) built reaches handled done last paces active
  rw [numbers] at rises
  have two : count = 2 := by simpa [eq_comm] using congrArg List.length rises
  rw [two] at rises
  exact absurd rises (by decide)

end Workload

end TunnelFailover

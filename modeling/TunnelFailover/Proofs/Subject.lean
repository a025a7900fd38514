import TunnelFailover.Proofs.Records
/-!
This file treats the activations of the bridge and those of its interfaces alike. Both are derived
when the choice of what is active changes, both start and stop a timer when they are handled, and
both are repeated by events of this timer.
-/

namespace TunnelFailover

/-- The active choice that changes lead from, and the active choice they lead to, differ if there are
some. -/
theorem changes_eq_nil_iff {α : Type} [DecidableEq α] {former latter : Option α} :
    changes former latter = [] ↔ former = latter := by
  unfold changes
  cases former <;> cases latter <;> split <;> simp_all

/-- The first change takes the latter choice if there is no former one, and gives up the former one
otherwise. -/
theorem changes_eq_cons {α : Type} [DecidableEq α] {former latter : Option α} {choice : α}
    {taken : Bool} {rest : List (α × Bool)}
    (first : changes former latter = (choice, taken) :: rest) :
    (taken = true ∧ former = none ∧ latter = some choice ∧ rest = []) ∨
      (taken = false ∧ former = some choice ∧ rest = changes none latter) := by
  unfold changes at first ⊢
  split at first
  · cases first
  · cases former with
    | none =>
      cases latter with
      | none => cases first
      | some taken =>
        cases first
        exact .inl ⟨rfl, rfl, rfl, rfl⟩
    | some given =>
      cases latter <;> cases first <;> exact .inr ⟨rfl, rfl, rfl⟩

namespace BridgeStatus

/-- The active interface is the same if the same interfaces are active. -/
theorem activeInterface?_congr {status other : BridgeStatus} (single : status.IsSingle)
    (same : ∀ interface, other.hasActive interface = status.hasActive interface) :
    other.activeInterface? = status.activeInterface? :=
  activeInterface?_eq fun interface => by
    rw [same, ← activeInterface?_eq_some_iff single]

end BridgeStatus

/-- A timer is armed as long as there is a next time. -/
def ReapplyTimer.isArmed (timer : ReapplyTimer) : Bool := timer.next.isSome

/-- A subject of activations has an active choice at every time, which some of the flags tell, all of
one stage. It has a timer, by which its activations are repeated. -/
structure Subject (α : Type) where
  stage : Nat
  active? : BridgeStatus → Option α
  flagged? : Flag → Option α
  timer? : Machine → Option ReapplyTimer
  repeated? : Occurrence → Option α

namespace Subject

variable {α : Type} [DecidableEq α]

/-- What an occurrence changes of the active choice: it is taken or given up. -/
def change? (subject : Subject α) (occurrence : Occurrence) : Option (α × Bool) :=
  occurrence.sets?.bind fun setting => (subject.flagged? setting.1).map (·, setting.2)

/-- The timer of a subject after an occurrence: it is armed with an activation, disarmed with a
deactivation, and advanced if the active choice is repeated. -/
def timerAfter (subject : Subject α) (now : Instant) (machine : Machine) (occurrence : Occurrence) :
    Option ReapplyTimer :=
  match subject.change? occurrence with
  | some (_, true) => (subject.timer? machine).map (·.arm now)
  | some (_, false) => (subject.timer? machine).map (·.disarm)
  | none =>
    if (subject.repeated? occurrence).any fun choice => subject.active? machine.status = some choice
    then (subject.timer? machine).map (·.advance now)
    else subject.timer? machine

/-- The bridge is active or not. -/
def bridge : Subject Unit where
  stage := 1
  active? status := if status.active then some () else none
  flagged?
    | .bridgeActive => some ()
    | _ => none
  timer? machine := machine.bridgeTimer
  repeated?
    | .bridgeReactivated _ => some ()
    | _ => none

/-- One of the interfaces is active or none. -/
def interfaces : Subject String where
  stage := 2
  active? status := status.activeInterface?
  flagged?
    | .interfaceActive interface => some interface
    | _ => none
  timer? machine := machine.interfaceTimer
  repeated?
    | .interfaceReactivated interface _ => some interface
    | _ => none

/-- The laws of a subject: a handled occurrence derives the changes of the active choice and moves the
timer, and a timer that is due repeats the active choice. -/
structure Lawful (subject : Subject α) : Prop where
  late : 0 < subject.stage
  inert : ∀ {occurrence : Occurrence} {change : α × Bool},
    subject.change? occurrence = some change → occurrence.rank = 0
  stages : ∀ {flag : Flag}, (subject.flagged? flag).isSome = true → flag.stage = subject.stage
  reports : ∀ {occurrence : Occurrence} {choice : α},
    subject.repeated? occurrence = some choice →
      occurrence.isReported = true ∧ occurrence.isSafe = true
  derives : ∀ {machine : Machine} {now : Instant} {occurrence : Occurrence} {turn : Turn},
    (Turn.start machine).handle now occurrence = .ok turn → machine.status.IsSingle →
      turn.derived.filterMap subject.change? =
        changes (subject.active? machine.status) (subject.active? turn.machine.status)
  times : ∀ {machine : Machine} {now : Instant} {occurrence : Occurrence} {turn : Turn},
    (Turn.start machine).handle now occurrence = .ok turn → machine.status.IsSingle →
      subject.timer? turn.machine = subject.timerAfter now machine occurrence
  takes : ∀ (machine : Machine) (now : Instant),
    subject.timer? (machine.dueReactivations now).1 = (takeDue? (subject.timer? machine) now).1
  repeats : ∀ (machine : Machine) (now : Instant) (choice : α),
    (takeDue? (subject.timer? machine) now).2.isSome = true →
      subject.active? machine.status = some choice →
      ∃ event ∈ (machine.dueReactivations now).2, subject.repeated? event.occurrence = some choice

omit [DecidableEq α] in
/-- The changes among what a turn derives are told by the flags that it sets. -/
theorem filterMap_change? (subject : Subject α) (turn : Turn) :
    turn.derived.filterMap subject.change? =
      turn.settings.filterMap fun setting => (subject.flagged? setting.1).map (·, setting.2) :=
  (List.filterMap_filterMap ..).symm

variable {now : Instant} {machine : Machine} {occurrence : Occurrence} {turn : Turn}

/-- A turn that sets no flag of a subject leaves its choice. -/
theorem derives_of_unset {subject : Subject α} (records : turn.Records now machine.status)
    (told : (∀ flag, (subject.flagged? flag).isSome →
        turn.machine.status.flag? flag = machine.status.flag? flag) →
      subject.active? turn.machine.status = subject.active? machine.status)
    (unset : ∀ setting ∈ turn.settings, subject.flagged? setting.1 = none) :
    turn.derived.filterMap subject.change? =
      changes (subject.active? machine.status) (subject.active? turn.machine.status) := by
  have same := told fun flag flagged => records.replays.flag?_of_unset (by
    rw [List.filterMap_map]
    refine (Turn.filterMap_setting? flag).trans (List.filterMap_eq_nil_iff.2 ?_)
    intro setting member
    have apart : setting.1 ≠ flag := by
      rintro rfl
      rw [unset setting member] at flagged
      cases flagged
    exact if_neg apart)
  rw [same, changes_self, filterMap_change?, List.filterMap_eq_nil_iff]
  intro setting member
  rw [unset setting member]
  rfl

theorem bridge_derives (handled : (Turn.start machine).handle now occurrence = .ok turn)
    (single : machine.status.IsSingle) :
    turn.derived.filterMap bridge.change? =
      changes (bridge.active? machine.status) (bridge.active? turn.machine.status) := by
  have sets := Turn.handle_sets handled single
  have unset (none : ∀ setting ∈ turn.settings, bridge.flagged? setting.1 = none) :=
    derives_of_unset (Turn.handle_records handled single)
      (fun same => by
        have active := same .bridgeActive rfl
        simp only [BridgeStatus.flag?, Option.some.injEq, Prod.mk.injEq] at active
        exact congrArg (fun active => if active then some () else Option.none) active.1) none
  cases occurrence with
  | bridgeWentDown | bridgeWentUp | partnerWentDown | partnerWentUp =>
    rw [filterMap_change?, sets]
    cases was : machine.status.active <;> cases is : turn.machine.status.active <;>
      simp [bridge, changes, was, is]
  | probeLost | probeReturned | probeUnsent | probeSent =>
    refine unset ?_
    obtain none | ⟨interface, up, one⟩ := sets
    · simp [none]
    · simp [one, bridge]
  | interfaceWentDown | interfaceWentUp =>
    refine unset ?_
    rw [sets, List.forall_mem_append]
    constructor
    · split <;> simp [bridge]
    · exact List.forall_mem_map.2 fun _ _ => rfl
  | _ =>
    refine unset ?_
    rw [sets]
    exact List.forall_mem_nil _

theorem interfaces_derives (handled : (Turn.start machine).handle now occurrence = .ok turn)
    (single : machine.status.IsSingle) :
    turn.derived.filterMap interfaces.change? =
      changes (interfaces.active? machine.status) (interfaces.active? turn.machine.status) := by
  have sets := Turn.handle_sets handled single
  have unset (none : ∀ setting ∈ turn.settings, interfaces.flagged? setting.1 = none) :=
    derives_of_unset (Turn.handle_records handled single)
      (fun same => BridgeStatus.activeInterface?_congr single fun interface => by
        have flags := congrArg (Option.any (·.1)) (same (.interfaceActive interface) rfl)
        simpa [BridgeStatus.flag?, BridgeStatus.hasActive, Option.any_map] using flags) none
  cases occurrence with
  | interfaceWentDown | interfaceWentUp =>
    rw [filterMap_change?, sets, List.filterMap_append]
    have turned : (if turn.machine.status.up = machine.status.up then []
        else [(Flag.bridgeUp, turn.machine.status.up)]).filterMap
          (fun setting => (interfaces.flagged? setting.1).map (·, setting.2)) = [] := by
      split <;> rfl
    rw [turned, List.nil_append, List.filterMap_map]
    exact List.filterMap_some
  | bridgeWentDown | bridgeWentUp | partnerWentDown | partnerWentUp =>
    refine unset ?_
    rw [sets]
    split <;> simp [interfaces]
  | probeLost | probeReturned | probeUnsent | probeSent =>
    refine unset ?_
    obtain none | ⟨interface, up, one⟩ := sets
    · simp [none]
    · simp [one, interfaces]
  | _ =>
    refine unset ?_
    rw [sets]
    exact List.forall_mem_nil _

theorem bridge_times (handled : (Turn.start machine).handle now occurrence = .ok turn) :
    bridge.timer? turn.machine = bridge.timerAfter now machine occurrence := by
  have changes := Turn.handle_changes handled
  cases occurrence with
  | bridgeActivated | bridgeDeactivated =>
    cases handled
    rfl
  | bridgeReactivated iteration =>
    cases handled
    unfold Turn.bridgeReactivated
    cases active : machine.status.active <;>
      simp [timerAfter, change?, Occurrence.sets?, bridge, active, Turn.request,
        Turn.updateBridgeTimer]
  | interfaceActivated | interfaceDeactivated =>
    cases handled
    rfl
  | interfaceReactivated interface iteration =>
    cases handled
    unfold Turn.interfaceReactivated
    split <;> rfl
  | partnerChangedName => cases handled
  | connectivityLost | connectivityRestored | partnerActivated | partnerDeactivated =>
    cases handled
    rfl
  | _ => exact congrArg (·.bridgeTimer) changes

theorem interfaces_times (handled : (Turn.start machine).handle now occurrence = .ok turn)
    (single : machine.status.IsSingle) :
    interfaces.timer? turn.machine = interfaces.timerAfter now machine occurrence := by
  have changes := Turn.handle_changes handled
  cases occurrence with
  | interfaceActivated | interfaceDeactivated =>
    cases handled
    rfl
  | interfaceReactivated interface iteration =>
    cases handled
    unfold Turn.interfaceReactivated
    have elected : machine.status.activeInterface? = some interface ↔
        machine.status.hasActive interface = true := BridgeStatus.activeInterface?_eq_some_iff single
    cases active : machine.status.hasActive interface <;> rw [active] at elected <;>
      simp_all [timerAfter, change?, Occurrence.sets?, interfaces, Turn.request,
        Turn.updateInterfaceTimer, BridgeStatus.hasActive]
  | bridgeActivated | bridgeDeactivated =>
    cases handled
    rfl
  | bridgeReactivated iteration =>
    cases handled
    unfold Turn.bridgeReactivated
    split <;> rfl
  | partnerChangedName => cases handled
  | connectivityLost | connectivityRestored | partnerActivated | partnerDeactivated =>
    cases handled
    rfl
  | _ => exact congrArg (·.interfaceTimer) changes

theorem bridge_lawful : bridge.Lawful where
  late := Nat.one_pos
  inert {occurrence _} changed := by
    cases occurrence <;> first | rfl | cases changed
  stages {flag} flagged := by
    cases flag <;> first | rfl | cases flagged
  reports {occurrence _} repeated := by
    cases occurrence <;> first | exact ⟨rfl, rfl⟩ | cases repeated
  derives := bridge_derives
  times handled _ := bridge_times handled
  takes _ _ := rfl
  repeats machine now choice due active := by
    obtain ⟨iteration, isDue⟩ := Option.isSome_iff_exists.1 due
    have taken : (takeDue? machine.bridgeTimer now).2 = some iteration := isDue
    have isActive : machine.status.active = true := by
      by_contra inactive
      simp [bridge, inactive] at active
    refine ⟨⟨now, .bridgeReactivated iteration⟩, ?_, rfl⟩
    simp [Machine.dueReactivations, taken, isActive]

theorem interfaces_lawful : interfaces.Lawful where
  late := Nat.two_pos
  inert {occurrence _} changed := by
    cases occurrence <;> first | rfl | cases changed
  stages {flag} flagged := by
    cases flag <;> first | rfl | cases flagged
  reports {occurrence _} repeated := by
    cases occurrence <;> first | exact ⟨rfl, rfl⟩ | cases repeated
  derives := interfaces_derives
  times := interfaces_times
  takes _ _ := rfl
  repeats machine now interface due active := by
    obtain ⟨iteration, isDue⟩ := Option.isSome_iff_exists.1 due
    have taken : (takeDue? machine.interfaceTimer now).2 = some iteration := isDue
    have isActive : machine.status.activeInterface? = some interface := active
    refine ⟨⟨now, .interfaceReactivated interface iteration⟩, ?_, rfl⟩
    simp [Machine.dueReactivations, taken, isActive]

/-- The changes that wait lead from a former choice to the active one. None of them waits behind an
occurrence that may still change the choice. -/
structure Pending (subject : Subject α) (former : Option α) (status : BridgeStatus)
    (waiting : List Occurrence) : Prop where
  leads : waiting.filterMap subject.change? = changes former (subject.active? status)
  early : ∀ occurrence ∈ waiting, subject.stage ≤ occurrence.rank →
    former = subject.active? status

variable {subject : Subject α} {former : Option α} {rest : List Occurrence}

/-- While no change waits, the former choice is the active one. -/
theorem Pending.eq_active {status : BridgeStatus} {waiting : List Occurrence}
    (pending : subject.Pending former status waiting)
    (quiet : ∀ occurrence ∈ waiting, subject.change? occurrence = none) :
    former = subject.active? status :=
  changes_eq_nil_iff.1 (pending.leads.symm.trans (List.filterMap_eq_nil_iff.2 quiet))

/-- Before a reported event is handled, no change waits. -/
theorem pending_of_reported (subject : Subject α) (status : BridgeStatus)
    (reported : occurrence.isReported = true) :
    subject.Pending (subject.active? status) status [occurrence] where
  leads := by
    have quiet : occurrence.sets? = none := by
      rw [← Option.not_isSome_iff_eq_none, Option.isSome_iff_exists]
      rintro ⟨setting, sets⟩
      rw [Occurrence.unreported_of_sets? sets] at reported
      cases reported
    rw [changes_self, List.filterMap_cons_none (by rw [change?, quiet]; rfl)]
    rfl
  early _ _ _ := rfl

/-- Only an occurrence whose rank is the stage of a subject changes its active choice. -/
theorem Lawful.active?_of_rank (lawful : subject.Lawful)
    (handled : (Turn.start machine).handle now occurrence = .ok turn)
    (single : machine.status.IsSingle) (other : occurrence.rank ≠ subject.stage) :
    subject.active? turn.machine.status = subject.active? machine.status := by
  have derives := lawful.derives handled single
  rw [filterMap_change?] at derives
  obtain ⟨-, staged⟩ := (Turn.handle_sets handled single).staged
  have none : turn.settings.filterMap
      (fun setting => (subject.flagged? setting.1).map (·, setting.2)) = [] := by
    rw [List.filterMap_eq_nil_iff]
    intro setting member
    rw [Option.map_eq_none_iff, ← Option.not_isSome_iff_eq_none]
    intro flagged
    exact other ((staged _ (List.mem_map_of_mem member)).symm.trans (lawful.stages flagged))
  rw [none] at derives
  exact (changes_eq_nil_iff.1 derives.symm).symm

/-- An occurrence that changes nothing adds what it derives to the changes that wait. -/
theorem Pending.pass (lawful : subject.Lawful)
    (handled : (Turn.start machine).handle now occurrence = .ok turn)
    (single : machine.status.IsSingle) (orderly : Orderly (occurrence :: rest))
    (pending : subject.Pending former machine.status (occurrence :: rest))
    (quiet : subject.change? occurrence = none) :
    subject.Pending former turn.machine.status (rest ++ turn.derived) := by
  have derives := lawful.derives handled single
  have same := lawful.active?_of_rank handled single
  have lower := (Turn.handle_orderly handled).2
  have leads := pending.leads
  have early := pending.early occurrence List.mem_cons_self
  rw [List.filterMap_cons_none quiet] at leads
  constructor
  · rw [List.filterMap_append, leads, derives]
    by_cases stage : occurrence.rank = subject.stage
    · rw [early (Nat.le_of_eq stage.symm), changes_self, List.nil_append]
    · rw [same stage, changes_self, List.append_nil]
  · intro waiting member high
    rcases List.mem_append.1 member with old | new
    · have inert := orderly.2 waiting old
      have late := lawful.late
      omega
    · have below := lower waiting new
      rw [early (by omega), same (by omega)]

/-- A change that is handled is the first one that waits. -/
theorem Pending.change (lawful : subject.Lawful)
    (handled : (Turn.start machine).handle now occurrence = .ok turn)
    (single : machine.status.IsSingle) (orderly : Orderly (occurrence :: rest))
    (pending : subject.Pending former machine.status (occurrence :: rest)) {choice : α} {taken : Bool}
    (changed : subject.change? occurrence = some (choice, taken)) :
    former = (if taken then none else some choice) ∧
      subject.Pending (if taken then some choice else none) turn.machine.status
        (rest ++ turn.derived) := by
  have zero := lawful.inert changed
  have late := lawful.late
  have nothing : turn.derived = [] := by
    rw [List.eq_nil_iff_forall_not_mem]
    intro derived member
    have below := (Turn.handle_orderly handled).2 derived member
    omega
  have same := lawful.active?_of_rank handled single (by omega)
  have leads := pending.leads
  rw [List.filterMap_cons_some changed] at leads
  rw [nothing, List.append_nil]
  have after (latter : Option α)
      (left : rest.filterMap subject.change? = changes latter (subject.active? machine.status)) :
      subject.Pending latter turn.machine.status rest := by
    constructor
    · rw [same, left]
    · intro waiting member high
      have inert := orderly.2 waiting member
      omega
  rcases changes_eq_cons leads.symm with ⟨rfl, isNone, isActive, left⟩ | ⟨rfl, isChoice, left⟩
  · refine ⟨isNone, after _ ?_⟩
    rw [left, isActive]
    exact (changes_self _).symm
  · exact ⟨isChoice, after _ left⟩

end Subject

end TunnelFailover

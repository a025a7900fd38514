import Mathlib.Data.List.Chain
import TunnelFailover.Proofs.HandOver
/-!
This file defines the flags of a bridge and of its interfaces, and what it means that occurrences
replay the changes of a status: each one flips the flag that it sets, and nothing else changes.
-/

namespace TunnelFailover

/-- A flag tells whether the bridge or one of its interfaces is up or active. -/
inductive Flag where
  | bridgeUp
  | bridgeActive
  | interfaceUp (interface : String)
  | interfaceActive (interface : String)
deriving DecidableEq

namespace Occurrence

/-- The flag that an occurrence sets, and its value. -/
def sets? : Occurrence → Option (Flag × Bool)
  | bridgeWentDown => some (.bridgeUp, false)
  | bridgeWentUp => some (.bridgeUp, true)
  | bridgeDeactivated => some (.bridgeActive, false)
  | bridgeActivated => some (.bridgeActive, true)
  | interfaceWentDown interface => some (.interfaceUp interface, false)
  | interfaceWentUp interface => some (.interfaceUp interface, true)
  | interfaceDeactivated interface => some (.interfaceActive interface, false)
  | interfaceActivated interface => some (.interfaceActive interface, true)
  | _ => none

/-- The value that an occurrence gives to a flag. -/
def setting? (flag : Flag) (occurrence : Occurrence) : Option Bool :=
  occurrence.sets?.bind fun setting => if setting.1 = flag then some setting.2 else none

theorem setting?_eq_some_iff {flag : Flag} {occurrence : Occurrence} {value : Bool} :
    occurrence.setting? flag = some value ↔ occurrence.sets? = some (flag, value) := by
  unfold setting?
  cases occurrence.sets? with
  | none => simp
  | some setting =>
    obtain ⟨changed, given⟩ := setting
    by_cases same : changed = flag <;> simp [same]

end Occurrence

namespace BridgeStatus

/-- The value of a flag and the time of its last change, as far as the flag is known. -/
def flag? (status : BridgeStatus) : Flag → Option (Bool × Instant)
  | .bridgeUp => some (status.up, status.upSince)
  | .bridgeActive => some (status.active, status.activeSince)
  | .interfaceUp interface =>
    (status.interfaces.get? interface).map fun known => (known.up, known.upSince)
  | .interfaceActive interface =>
    (status.interfaces.get? interface).map fun known => (known.active, known.activeSince)

/-- The status with another value of a flag from a given time on. -/
def set (status : BridgeStatus) (value : Bool) (now : Instant) : Flag → BridgeStatus
  | .bridgeUp => status.setUp value now
  | .bridgeActive => status.setActive value now
  | .interfaceUp interface => status.modifyInterface interface (·.setUp value now)
  | .interfaceActive interface => status.modifyInterface interface (·.setActive value now)

/-- An event sets its flag at its time, and leaves the status as it is if it has none. -/
def replay (status : BridgeStatus) (event : Event) : BridgeStatus :=
  match event.occurrence.sets? with
  | some (flag, value) => status.set value event.time flag
  | none => status

/-- Every event flips the flag that it sets, in the status that the events before it leave. -/
def Flips (status : BridgeStatus) : List Event → Prop
  | [] => True
  | event :: rest =>
    (∀ flag value, event.occurrence.sets? = some (flag, value) →
      (status.flag? flag).map (·.1) = some !value) ∧ Flips (status.replay event) rest

/-- The events lead from one status to another one by flips of flags. -/
structure Replays (first : BridgeStatus) (events : List Event) (last : BridgeStatus) : Prop where
  flips : first.Flips events
  ends : events.foldl replay first = last

theorem flag?_set (status : BridgeStatus) (value : Bool) (now : Instant) (flag other : Flag) :
    (status.set value now flag).flag? other =
      if other = flag then (status.flag? flag).map fun _ => (value, now) else status.flag? other := by
  -- The values of interfaces are looked up, and those of the bridge are fields.
  have interfaces (changed looked : String) (change : InterfaceStatus → InterfaceStatus)
      (read : InterfaceStatus → Bool × Instant) :
      ((status.modifyInterface changed change).interfaces.get? looked).map read =
        if looked = changed then (status.interfaces.get? changed).map fun known => read (change known)
        else (status.interfaces.get? looked).map read := by
    rw [modifyInterface, NameMap.get?_modify]
    split
    · rename_i same
      rw [same, Option.map_map]
      rfl
    · rfl
  have kept (changed looked : String) (change : InterfaceStatus → InterfaceStatus)
      (read : InterfaceStatus → Bool × Instant) (same : ∀ known, read (change known) = read known) :
      ((status.modifyInterface changed change).interfaces.get? looked).map read =
        (status.interfaces.get? looked).map read := by
    rw [interfaces]
    split
    · rename_i equal
      simp only [equal, same]
    · rfl
  cases flag with
  | bridgeUp => cases other <;> rfl
  | bridgeActive => cases other <;> rfl
  | interfaceUp interface =>
    cases other with
    | bridgeUp | bridgeActive => rfl
    | interfaceUp looked =>
      refine (interfaces ..).trans ?_
      simp [flag?, InterfaceStatus.setUp, Option.map_map, Function.comp_def]
    | interfaceActive looked =>
      exact kept _ _ _ _ fun _ => rfl
  | interfaceActive interface =>
    cases other with
    | bridgeUp | bridgeActive => rfl
    | interfaceUp looked =>
      exact kept _ _ _ _ fun _ => rfl
    | interfaceActive looked =>
      refine (interfaces ..).trans ?_
      simp [flag?, InterfaceStatus.setActive, Option.map_map, Function.comp_def]

theorem Replays.nil (status : BridgeStatus) : status.Replays [] status := ⟨trivial, rfl⟩

theorem flips_append (status : BridgeStatus) (events more : List Event) :
    status.Flips (events ++ more) ↔
      status.Flips events ∧ (events.foldl replay status).Flips more := by
  induction events generalizing status with
  | nil => simp [Flips]
  | cons event rest inductionHypothesis =>
    rw [List.cons_append, Flips, Flips, inductionHypothesis, List.foldl_cons, and_assoc]

theorem Replays.trans {first second third : BridgeStatus} {events more : List Event}
    (earlier : first.Replays events second) (later : second.Replays more third) :
    first.Replays (events ++ more) third := by
  obtain ⟨flips, rfl⟩ := earlier
  obtain ⟨moreFlips, rfl⟩ := later
  exact ⟨(flips_append ..).2 ⟨flips, moreFlips⟩, List.foldl_append ..⟩

/-- One more event that flips its flag is replayed. -/
theorem Replays.concat {first last : BridgeStatus} {events : List Event} {event : Event}
    (replays : first.Replays events last)
    (flips : ∀ flag value, event.occurrence.sets? = some (flag, value) →
      (last.flag? flag).map (·.1) = some !value) :
    first.Replays (events ++ [event]) (last.replay event) :=
  replays.trans ⟨⟨flips, trivial⟩, rfl⟩

/-- What an event leaves of a flag. -/
theorem flag?_replay (status : BridgeStatus) (event : Event) (flag : Flag) :
    (status.replay event).flag? flag =
      match event.occurrence.setting? flag with
      | some value => (status.flag? flag).map fun _ => (value, event.time)
      | none => status.flag? flag := by
  unfold replay Occurrence.setting?
  cases sets : event.occurrence.sets? with
  | none => rfl
  | some setting =>
    obtain ⟨changed, value⟩ := setting
    dsimp only [Option.bind_some]
    rw [flag?_set]
    by_cases same : changed = flag
    · simp [same]
    · simp [same, Ne.symm same]

/-- The values that events give to a flag differ from one to the next. -/
theorem Flips.isChain {status : BridgeStatus} {events : List Event} (flips : status.Flips events)
    {flag : Flag} {value : Bool} (current : (status.flag? flag).map (·.1) = some value) :
    (value :: events.filterMap (·.occurrence.setting? flag)).IsChain (· ≠ ·) := by
  induction events generalizing status value with
  | nil => exact .singleton value
  | cons event rest inductionHypothesis =>
    obtain ⟨first, later⟩ := flips
    have replayed := status.flag?_replay event flag
    rw [List.filterMap_cons]
    cases sets : event.occurrence.setting? flag with
    | none =>
      rw [sets] at replayed
      exact inductionHypothesis later (by rw [replayed, current])
    | some next =>
      rw [sets] at replayed
      have former := first flag next (Occurrence.setting?_eq_some_iff.1 sets)
      rw [current, Option.some.injEq] at former
      refine .cons_cons (by simp [former]) (inductionHypothesis later ?_)
      obtain ⟨known, found, -⟩ := Option.map_eq_some_iff.1 current
      rw [replayed, found]
      rfl

/-- An unknown flag is set by none of the events. -/
theorem Flips.settings_of_unknown {status : BridgeStatus} {events : List Event}
    (flips : status.Flips events) {flag : Flag} (unknown : status.flag? flag = none) :
    events.filterMap (·.occurrence.setting? flag) = [] := by
  induction events generalizing status with
  | nil => rfl
  | cons event rest inductionHypothesis =>
    obtain ⟨first, later⟩ := flips
    have replayed := status.flag?_replay event flag
    rw [List.filterMap_cons]
    cases sets : event.occurrence.setting? flag with
    | none =>
      rw [sets] at replayed
      exact inductionHypothesis later (replayed.trans unknown)
    | some next =>
      have former := first flag next (Occurrence.setting?_eq_some_iff.1 sets)
      rw [unknown] at former
      cases former

/-- A flag that no event sets stays as it is. -/
theorem Replays.flag?_of_unset {first last : BridgeStatus} {events : List Event}
    (replays : first.Replays events last) {flag : Flag}
    (unset : events.filterMap (·.occurrence.setting? flag) = []) :
    last.flag? flag = first.flag? flag := by
  obtain ⟨-, rfl⟩ := replays
  induction events generalizing first with
  | nil => rfl
  | cons event rest inductionHypothesis =>
    rw [List.filterMap_cons] at unset
    cases sets : event.occurrence.setting? flag with
    | none =>
      rw [sets] at unset
      rw [List.foldl_cons, inductionHypothesis unset, flag?_replay, sets]
    | some value =>
      rw [sets] at unset
      cases unset

/-- A flag that is set once has flipped, at the time of the event that sets it. -/
theorem Replays.flag?_of_set {first last : BridgeStatus} {events : List Event}
    (replays : first.Replays events last) {flag : Flag} {value : Bool}
    (set : events.filterMap (·.occurrence.setting? flag) = [value]) :
    ∃ event ∈ events, ∃ since, event.occurrence.setting? flag = some value ∧
      first.flag? flag = some (!value, since) ∧ last.flag? flag = some (value, event.time) := by
  induction events generalizing first with
  | nil => cases set
  | cons event rest inductionHypothesis =>
    obtain ⟨⟨flips, later⟩, ends⟩ := replays
    have tail : (first.replay event).Replays rest last := ⟨later, ends⟩
    have replayed := first.flag?_replay event flag
    rw [List.filterMap_cons] at set
    cases sets : event.occurrence.setting? flag with
    | none =>
      rw [sets] at set
      have same : (first.replay event).flag? flag = first.flag? flag := by rw [replayed, sets]
      obtain ⟨setter, member, since, gives, before, after⟩ := inductionHypothesis tail set
      exact ⟨setter, List.mem_cons_of_mem _ member, since, gives, same.symm.trans before, after⟩
    | some next =>
      rw [sets] at set replayed
      obtain ⟨rfl, unset⟩ := List.cons.inj set
      have former := flips flag next (Occurrence.setting?_eq_some_iff.1 sets)
      obtain ⟨⟨_, since⟩, found, rfl⟩ := Option.map_eq_some_iff.1 former
      refine ⟨event, List.mem_cons_self, since, sets, found, ?_⟩
      rw [tail.flag?_of_unset unset, replayed, found]
      rfl

end BridgeStatus

end TunnelFailover

import TunnelFailover.Proofs.JournalRun
import TunnelFailover.Proofs.StatusText
/-!
This file shows that a machine whose events have plain times never has a status with another time, nor
one with another name, role or interfaces than the settings say.
-/

namespace TunnelFailover

namespace BridgeStatus

/-- The status of a bridge with these settings has plain times. -/
structure Suits (status : BridgeStatus) (name : String) (settings : BridgeSettings) : Prop where
  plain : status.IsPlain
  sameName : status.name = name
  sameRole : status.role = settings.role
  names : status.interfaces.names = settings.tunnels.names

variable {status : BridgeStatus}

/-- A flag that is set at a plain time leaves all times plain. -/
theorem IsPlain.set (plain : status.IsPlain) {now : Instant} (plainNow : now.IsPlain) (value : Bool)
    (flag : Flag) : (status.set value now flag).IsPlain := by
  have modified (interface : String) {change : InterfaceStatus → InterfaceStatus}
      (kept : ∀ known : InterfaceStatus, known.IsPlain → (change known).IsPlain) :
      (status.modifyInterface interface change).IsPlain := by
    refine ⟨plain.activeSince, plain.upSince, fun entry member => ?_⟩
    obtain ⟨former, formerMember, rfl⟩ := List.mem_map.1 member
    have formerPlain := plain.interfaces former formerMember
    dsimp only
    split
    · exact kept _ formerPlain
    · exact formerPlain
  cases flag with
  | bridgeUp => exact ⟨plain.activeSince, plainNow, plain.interfaces⟩
  | bridgeActive => exact ⟨plainNow, plain.upSince, plain.interfaces⟩
  | interfaceUp interface => exact modified interface fun known kept => ⟨kept.activeSince, plainNow⟩
  | interfaceActive interface => exact modified interface fun known kept => ⟨plainNow, kept.upSince⟩

variable {name : String} {settings : BridgeSettings}

/-- A flag that is set at a plain time leaves everything else as the settings say. -/
theorem Suits.set (suits : status.Suits name settings) {now : Instant} (plainNow : now.IsPlain)
    (value : Bool) (flag : Flag) : (status.set value now flag).Suits name settings := by
  obtain ⟨plain, sameName, sameRole, names⟩ := suits
  have stillPlain := plain.set plainNow value flag
  cases flag with
  | bridgeUp | bridgeActive => exact ⟨stillPlain, sameName, sameRole, names⟩
  | interfaceUp interface | interfaceActive interface =>
    exact ⟨stillPlain, sameName, sameRole, (NameMap.names_modify ..).trans names⟩

/-- Events at plain times leave a status that suits the settings. -/
theorem Replays.suits {last : BridgeStatus} {events : List Event}
    (replays : status.Replays events last) (suits : status.Suits name settings)
    (times : ∀ event ∈ events, event.time.IsPlain) : last.Suits name settings := by
  rw [← replays.ends]
  clear replays
  induction events generalizing status with
  | nil => exact suits
  | cons event rest inductionHypothesis =>
    obtain ⟨plainTime, later⟩ := List.forall_mem_cons.1 times
    refine inductionHypothesis ?_ later
    unfold replay
    split
    · exact suits.set plainTime _ _
    · exact suits

end BridgeStatus

namespace Machine

variable {name : String} {settings : BridgeSettings} {machine : Machine}

/-- A fresh status has the plain time of its start. -/
theorem suits_initialStatus {start : Instant} (plain : start.IsPlain) :
    (initialStatus name settings start).Suits name settings := by
  refine ⟨⟨plain, plain, fun entry member => ?_⟩, rfl, rfl, ?_⟩
  · rw [interfaces_initialStatus] at member
    obtain ⟨former, -, rfl⟩ := List.mem_map.1 member
    exact ⟨plain, plain⟩
  · rw [interfaces_initialStatus, NameMap.names_mapWithName]

/-- An event at a plain time leaves a status that suits the settings, and so does everything that is
handled on the way. -/
theorem process_suits {event : Event} (reported : event.occurrence.isReported = true)
    (elected : machine.Elected machine.status.hasUp) (plain : event.time.IsPlain)
    (suits : machine.status.Suits name settings) :
    (machine.process event).machine.status.Suits name settings ∧
      ∀ handling ∈ machine.transcript event, handling.turn.machine.status.Suits name settings := by
  obtain ⟨waiting, -, ⟨-, last, handled⟩, -⟩ := machine.transcript_keeps event
    (fun cascade done => cascade.Electing machine.roleOf? ∧
      cascade.machine.status.Suits name settings ∧
      ∀ handling ∈ done, handling.turn.machine.status.Suits name settings)
    (fun current occurrence rest derived effects turn done orderly law handled => by
      obtain ⟨electing, current, earlier⟩ := law
      have replays := (Turn.handle_records handled electing.2.single).replays
      have next : turn.machine.status.Suits name settings := by
        refine replays.suits current fun derived member => ?_
        obtain ⟨occurrence, -, rfl⟩ := List.mem_map.1 member
        exact plain
      exact ⟨(Cascade.Step.handle handled).electing orderly electing, next,
        List.forall_mem_append.2 ⟨earlier, List.forall_mem_singleton.2 next⟩⟩)
    ⟨Cascade.start_electing reported elected, suits, fun _ member => nomatch member⟩
  exact ⟨last, handled⟩

/-- A run at plain times has no status but those that suit the settings. -/
theorem run_suits {start : Instant}
    (built : new name settings (initialStatus name settings start) = .ok machine)
    (plain : start.IsPlain) {events : List Event}
    (reported : ∀ event ∈ events, event.occurrence.isReported = true)
    (times : ∀ event ∈ events, event.time.IsPlain) :
    (machine.run events).machine.status.Suits name settings ∧
      ∀ handling ∈ machine.runTranscript events,
        handling.turn.machine.status.Suits name settings := by
  induction events using List.reverseRecOn with
  | nil =>
    obtain ⟨-, -, -, -, status, -⟩ := new_eq_ok built
    have first : machine.status.Suits name settings := status ▸ suits_initialStatus plain
    exact ⟨first, fun _ member => nomatch member⟩
  | append_singleton earlier last inductionHypothesis =>
    obtain ⟨earlierReported, lastReported⟩ := List.forall_mem_append.1 reported
    obtain ⟨earlierTimes, lastTime⟩ := List.forall_mem_append.1 times
    obtain ⟨-, elected⟩ := run_elected built earlier earlierReported
    obtain ⟨suits, handled⟩ := inductionHypothesis earlierReported earlierTimes
    obtain ⟨next, more⟩ := process_suits (lastReported last (List.mem_singleton_self last)) elected
      (lastTime last (List.mem_singleton_self last)) suits
    rw [run_concat, runTranscript_concat]
    exact ⟨next, List.forall_mem_append.2 ⟨handled, more⟩⟩

end Machine

end TunnelFailover

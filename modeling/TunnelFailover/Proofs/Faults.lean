import TunnelFailover.Proofs.Run
import TunnelFailover.Proofs.Stance
/-!
This file says which events a machine accepts, and shows that nothing goes wrong with these.
-/

namespace TunnelFailover

/-- The machine accepts a report with its own name and the other role. -/
def Occurrence.AcceptedBy (machine : Machine) : Occurrence → Prop
  | partnerPolled _ report => report.name = machine.name ∧ report.role ≠ machine.role
  | partnerChangedName .. => False
  | _ => True

/-- The partner, if it is known, has the name of the bridge. -/
def Machine.Named (machine : Machine) : Prop :=
  ∀ partner, machine.partner = some partner → partner.name = machine.name

theorem Occurrence.acceptedBy_of_isSafe {occurrence : Occurrence}
    (safe : occurrence.isSafe = true) (machine : Machine) : occurrence.AcceptedBy machine := by
  cases occurrence with
  | partnerPolled | partnerChangedName => cases safe
  | _ => trivial

namespace Turn

/-- What is accepted is handled. -/
theorem handle_accepted {machine : Machine} {occurrence : Occurrence}
    (accepted : occurrence.AcceptedBy machine) (now : Instant) :
    ∃ turn, (start machine).handle now occurrence = .ok turn := by
  cases occurrence with
  | partnerChangedName => cases accepted
  | partnerPolled sequence report =>
    obtain ⟨sameName, otherRole⟩ := accepted
    simp only [handle, partnerPolled, start_machine, sameName, otherRole, ne_eq, not_true_eq_false,
      if_false]
    exact ⟨_, rfl⟩
  | _ => exact ⟨_, rfl⟩

/-- A verdict on the partner keeps its name. -/
theorem judgePartner_partner {turn : Turn} {now : Instant} {sequence : UInt64} {result : Liveness}
    {partner : BridgeStatus}
    (found : (turn.judgePartner now sequence result).machine.partner = some partner) :
    ∃ former, turn.machine.partner = some former ∧ partner.name = former.name := by
  have kept (up : Bool) (mapped : turn.machine.partner.map (·.setUp up now) = some partner) :
      ∃ former, turn.machine.partner = some former ∧ partner.name = former.name := by
    obtain ⟨former, formerFound, rfl⟩ := Option.map_eq_some_iff.1 mapped
    exact ⟨former, formerFound, rfl⟩
  unfold judgePartner at found
  dsimp only at found
  split at found
  · split at found
    · exact kept false found
    · exact ⟨partner, found, rfl⟩
  · split at found
    · exact ⟨partner, found, rfl⟩
    · exact kept true found
  · exact ⟨partner, found, rfl⟩

/-- The partner has the name that it has reported. -/
theorem followReport_partner {turn : Turn} {report partner : BridgeStatus}
    (found : (turn.followReport report).machine.partner = some partner) :
    partner.name = report.name := by
  have named (other : BridgeStatus)
      (otherFound : (turn.followName report).machine.partner = some other) :
      other.name = report.name := by
    unfold followName at otherFound
    cases known : turn.machine.partner with
    | none => simp [updatePartner, known] at otherFound
    | some former =>
      by_cases same : former.name = report.name
      · simp [updatePartner, known, same] at otherFound
        rw [← otherFound]
      · simp [updatePartner, known, same] at otherFound
        rw [← otherFound]
  rw [followReport_eq] at found
  split at found
  · obtain ⟨other, otherFound, rfl⟩ := Option.map_eq_some_iff.1 found
    exact named other otherFound
  · exact named partner found

/-- An accepted occurrence leaves the partner with the name of the bridge. -/
theorem handle_named {machine : Machine} {now : Instant} {occurrence : Occurrence} {turn : Turn}
    (handled : (start machine).handle now occurrence = .ok turn)
    (accepted : occurrence.AcceptedBy machine) (named : machine.Named) : turn.machine.Named := by
  intro partner found
  have sameName : turn.machine.name = machine.name := congrArg (·.1) (handle_identity handled)
  rw [sameName]
  have changes := handle_changes handled
  cases occurrence with
  | partnerChangedName => cases accepted
  | partnerPolled sequence report =>
    rw [handle_polled handled] at found
    exact (followReport_partner found).trans accepted.1
  | partnerPollFailed sequence cause =>
    cases handled
    unfold partnerPollFailed at found
    dsimp only at found
    split at found
    · exact named partner found
    · obtain ⟨former, formerFound, sameName⟩ := judgePartner_partner found
      exact sameName.trans (named former formerFound)
  | partnerWentDown =>
    cases handled
    have kept (former : Turn) (formerNamed : ∀ other, former.machine.partner = some other →
        other.name = machine.name) (formerFound : (if former.machine.status.active then former
          else former.activateBridge now).machine.partner = some partner) :
        partner.name = machine.name := by
      split at formerFound <;> exact formerNamed partner formerFound
    unfold partnerWentDown at found
    refine kept _ (fun other otherFound => ?_) found
    split at otherFound
    · obtain ⟨former, formerFound, rfl⟩ := Option.map_eq_some_iff.1 otherFound
      exact named former formerFound
    · exact named other otherFound
  | partnerWentUp =>
    cases handled
    unfold partnerWentUp at found
    split at found <;> exact named partner found
  | _ => exact named partner ((congrArg (·.partner) changes).symm.trans found)

/-- An accepted occurrence leads to nothing that can be at fault. -/
theorem handle_safe {machine : Machine} {now : Instant} {occurrence : Occurrence} {turn : Turn}
    (handled : (start machine).handle now occurrence = .ok turn)
    (accepted : occurrence.AcceptedBy machine) (named : machine.Named) :
    ∀ derived ∈ turn.derived, derived.isSafe = true := by
  have observed {turn : Turn} (nothing : turn.derived = []) (interface : String)
      (change : Monitor → Monitor) :
      ∀ derived ∈ (turn.observe now interface change).derived, derived.isSafe = true := by
    rcases observe_derived nothing now interface change with silent | down | up
    · simp [silent]
    · simp [down, Occurrence.isSafe]
    · simp [up, Occurrence.isSafe]
  have elected {after : Turn} (trails : Trails ((start machine).deriveBridge now) after) :
      ∀ derived ∈ after.derived, derived.isSafe = true := by
    obtain ⟨-, elections, derived, elect⟩ := trails
    obtain ⟨up, -, -, bridge⟩ := deriveBridge_stance (start machine) now
    rw [derived, bridge]
    intro occurrence member
    rcases List.mem_append.1 member with first | election
    · rcases List.mem_append.1 first with nothing | turned
      · cases nothing
      · exact Stance.isSafe_of_mem_turns turned
    · exact Occurrence.isSafe_of_isElection (elect occurrence election)
  have moves := handle_moves handled
  cases occurrence with
  | partnerChangedName => cases accepted
  | probeLost | probeReturned | probeUnsent | probeSent =>
    cases handled
    refine observed ?_ _ _
    rfl
  | interfaceWentDown interface =>
    cases handled
    exact elected (trails_interfaceWentDown _ now interface)
  | interfaceWentUp interface =>
    cases handled
    exact elected (trails_interfaceWentUp _ now interface)
  | bridgeWentDown =>
    cases handled
    exact (bridgeWentDown_derived machine now).safe
  | bridgeWentUp =>
    cases handled
    exact (bridgeWentUp_derived machine now).safe
  | partnerWentDown =>
    cases handled
    exact (partnerWentDown_derived machine now).safe
  | partnerWentUp =>
    cases handled
    exact (partnerWentUp_derived machine now).safe
  | partnerPollFailed sequence cause =>
    unfold Occurrence.Moves at moves
    dsimp only at moves
    split at moves
    · rw [moves.2.2]
      exact fun derived member => Stance.isSafe_of_mem_follows member
    · simp [moves.2.2]
  | partnerPolled sequence report =>
    have known : ((start machine).adoptPartner report).machine.partner.isSome = true := by
      simp [adoptPartner]
    have judged := judgePartner_judged known now sequence (if report.up then .up else .down)
    have formerNamed (former : BridgeStatus)
        (found : ((start machine).adoptPartner report).machine.partner = some former) :
        former.name = report.name := by
      rw [accepted.1]
      cases partner : machine.partner with
      | none =>
        have isReport : report = former := by simpa [adoptPartner, partner] using found
        rw [← isReport, accepted.1]
      | some other =>
        have isOther : other = former := by simpa [adoptPartner, partner] using found
        rw [← isOther]
        exact named other partner
    rw [handle_polled handled]
    obtain ⟨activity, derived, kinds⟩ := followReport_derived
      (((start machine).adoptPartner report).judgePartner now sequence
        (if report.up then .up else .down)) report
    rcases followName_derived (((start machine).adoptPartner report).judgePartner now sequence
        (if report.up then .up else .down)) report with same | ⟨partner, found, renamed, -⟩
    · rw [derived, same, judged.derived]
      intro occurrence member
      rcases List.mem_append.1 member with judgement | active
      · rcases List.mem_append.1 judgement with nothing | follows
        · cases nothing
        · exact Stance.isSafe_of_mem_follows follows
      · rcases kinds with rfl | rfl | rfl <;> simp_all [Occurrence.isSafe]
    · obtain ⟨former, formerFound, sameName⟩ := judgePartner_partner found
      exact absurd (sameName.trans (formerNamed former formerFound)) renamed
  | _ => simp [moves.2]

end Turn

namespace Machine

/-- Machines of one name and role accept the same. -/
theorem acceptedBy_iff_of_identity {machine other : Machine}
    (same : other.identity = machine.identity) (occurrence : Occurrence) :
    occurrence.AcceptedBy other ↔ occurrence.AcceptedBy machine := by
  have name : other.name = machine.name := congrArg (·.1) same
  have role : other.role = machine.role := congrArg (·.2.1) same
  unfold Occurrence.AcceptedBy
  rw [name, role]

/-- Nothing is known of the partner of a new machine. -/
theorem named_of_new {name : String} {settings : BridgeSettings} {status : BridgeStatus}
    {machine : Machine} (built : new name settings status = .ok machine) : machine.Named := by
  obtain ⟨-, -, -, -, -, unknown, -⟩ := new_eq_ok built
  intro partner found
  rw [unknown] at found
  cases found

/-- An accepted event is processed without fault. -/
theorem process_accepted {machine : Machine} {event : Event}
    (accepted : event.occurrence.AcceptedBy machine) (named : machine.Named) :
    (machine.process event).fault = none ∧ (machine.process event).machine.Named := by
  obtain ⟨waiting, reaches, ending⟩ := machine.process_leadsTo event
  have reached := reaches.keeps
    (fun cascade => cascade.machine.Named ∧
      ∀ occurrence ∈ cascade.waiting, occurrence.AcceptedBy cascade.machine)
    (fun before after kept step => by
      obtain ⟨beforeNamed, beforeAccepted⟩ := kept
      cases step with
      | @handle machine occurrence rest derived effects turn handled =>
        have first := beforeAccepted occurrence List.mem_cons_self
        refine ⟨Turn.handle_named handled first beforeNamed, fun next member => ?_⟩
        rcases List.mem_append.1 member with old | new
        · exact (acceptedBy_iff_of_identity (Turn.handle_identity handled) next).2
            (beforeAccepted next (List.mem_cons_of_mem _ old))
        · exact Occurrence.acceptedBy_of_isSafe
            (Turn.handle_safe handled first beforeNamed next new) _)
    ⟨named, by simpa [Cascade.start] using accepted⟩
  refine ⟨?_, reached.1⟩
  cases failed : (machine.process event).fault with
  | none => rfl
  | some fault =>
    rw [failed] at ending
    obtain ⟨occurrence, rest, waits, stuck⟩ := ending
    have acceptedNow := reached.2 occurrence (by rw [waits]; exact List.mem_cons_self)
    obtain ⟨turn, handled⟩ := Turn.handle_accepted acceptedNow event.time
    rw [handled] at stuck
    cases stuck

end Machine

end TunnelFailover

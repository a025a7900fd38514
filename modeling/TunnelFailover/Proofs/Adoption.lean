import TunnelFailover.Poll
import TunnelFailover.Proofs.JsonBytes
import TunnelFailover.Proofs.PartnerRecord
import TunnelFailover.Proofs.ServedStatus
/-!
This file shows that a bridge adopts from the first answer of its partner exactly the status that this
serves, and derives nothing from it.
-/

namespace TunnelFailover

namespace Monitor

/-- The first registration is the newest entry, and nothing else is known. -/
theorem history_register_new (thresholds : Thresholds) (sequence : UInt64) (liveness : Liveness) :
    ∃ count, ((new thresholds).register sequence liveness).history =
      liveness :: List.replicate count .pending := by
  by_cases newer : (new thresholds).sequence < sequence
  · rw [register_of_newer newer]
    refine ⟨min thresholds.larger
      (sequence.toNat - (new thresholds).sequence.toNat - 1 + thresholds.window), ?_⟩
    change ((liveness :: (_ ++ List.replicate thresholds.window .pending)).take
      (thresholds.larger + 1)) = _
    rw [List.take_succ_cons, List.replicate_append_replicate, List.take_replicate]
  · refine ⟨thresholds.larger, ?_⟩
    unfold register
    rw [if_neg newer]
    have first : (new thresholds).sequence.toNat - sequence.toNat = 0 := Nat.zero_sub _
    dsimp only
    rw [first]
    rfl

/-- One success decides nothing. -/
theorem verdict_register_new_up (thresholds : Thresholds) (sequence : UInt64) :
    ((new thresholds).register sequence .up).verdict = .pending := by
  obtain ⟨count, history⟩ := history_register_new thresholds sequence .up
  cases verdict : ((new thresholds).register sequence .up).verdict with
  | pending => rfl
  | down =>
    obtain ⟨seen, -, -, -, failed⟩ := (verdict_eq_down_iff _).1 verdict
    rw [history] at failed
    rcases List.mem_cons.1 (List.mem_of_mem_take failed) with same | unknown
    · cases same
    · cases List.eq_of_mem_replicate unknown
  | up =>
    obtain ⟨seen, -, succeeds⟩ := (verdict_eq_up_iff _).1 verdict
    have atLeast := ((new thresholds).register sequence .up).thresholds.up_mem.1
    rw [history] at succeeds
    cases seen with
    | zero => cases up_mem_of_succeedsOn succeeds
    | succ seen =>
      have single : successes ((.up :: List.replicate count .pending).take (seen + 1)) = 1 := by
        rw [List.take_succ_cons, List.take_replicate]
        simp [successes, List.count_replicate]
      exact absurd (succeeds.1.trans_eq single) (by omega)

/-- One failure is no success. -/
theorem verdict_register_new_down (thresholds : Thresholds) (sequence : UInt64) :
    ((new thresholds).register sequence .down).verdict ≠ .up :=
  have ⟨_, history⟩ := history_register_new thresholds sequence .down
  verdict_ne_up history

/-- The first registration contradicts neither a success nor a failure. -/
theorem verdict_register_new (thresholds : Thresholds) (sequence : UInt64) (up : Bool) :
    let verdict := ((new thresholds).register sequence (if up then .up else .down)).verdict
    verdict = .pending ∨ up = false ∧ verdict = .down := by
  intro verdict
  cases up with
  | true => exact .inl (verdict_register_new_up thresholds sequence)
  | false =>
    have noSuccess : verdict ≠ .up := verdict_register_new_down thresholds sequence
    cases known : verdict with
    | pending => exact .inl rfl
    | down => exact .inr ⟨rfl, rfl⟩
    | up => exact absurd known noSuccess

end Monitor

namespace Turn

/-- A report that the partner agrees with changes nothing. -/
theorem followReport_of_same {turn : Turn} {report : BridgeStatus}
    (same : turn.machine.partner = some report) : turn.followReport report = turn := by
  obtain ⟨⟨_, _, _, _, _, _, _, _, _, partner, _, _⟩, derived, effects⟩ := turn
  cases same
  simp [followReport, updatePartner, update]

/-- The first registration of a partner only confirms that it is down, if it says so itself. -/
theorem judgePartner_of_first {turn : Turn} {thresholds : Thresholds} {report : BridgeStatus}
    (empty : turn.machine.partnerMonitor = .new thresholds)
    (known : turn.machine.partner = some report) (now : Instant) (sequence : UInt64) :
    let judged := turn.judgePartner now sequence (if report.up then .up else .down)
    judged.derived = turn.derived ∧ judged.machine.partner = some report := by
  intro judged
  have isSome : turn.machine.partner.isSome = true := by rw [known, Option.isSome_some]
  have follows :=
    (judgePartner_judged isSome now sequence (if report.up then .up else .down)).derived
  have record := turn.judgePartner_record now sequence (if report.up then .up else .down)
  have partnerUp : turn.machine.stance.partnerUp = report.up := by
    simp [Machine.stance, Machine.partnerIsUp, known]
  rw [empty] at follows record
  rw [known, Option.map_some] at record
  refine ⟨follows.trans ?_, record.trans (congrArg some ?_)⟩
  · rcases Monitor.verdict_register_new thresholds sequence report.up with pending | ⟨down, failed⟩
    · rw [pending]
      exact List.append_nil _
    · rw [failed, Stance.follows, partnerUp, down]
      exact List.append_nil _
  · rcases Monitor.verdict_register_new thresholds sequence report.up with pending | ⟨down, failed⟩
    · rw [pending]
      rfl
    · rw [failed, BridgeStatus.judged, down]
      rfl

/-- The first report of a partner is adopted as it is. -/
theorem handle_first {machine : Machine} {thresholds : Thresholds} (unknown : machine.partner = none)
    (empty : machine.partnerMonitor = .new thresholds) {now : Instant} {sequence : UInt64}
    {report : BridgeStatus} {turn : Turn}
    (handled : (start machine).handle now (.partnerPolled sequence report) = .ok turn) :
    turn.derived = [] ∧ turn.machine.partner = some report := by
  have adopted : ((start machine).adoptPartner report).machine.partner = some report := by
    simp [adoptPartner, unknown]
  have unregistered : ((start machine).adoptPartner report).machine.partnerMonitor =
    .new thresholds := empty
  obtain ⟨silent, known⟩ := judgePartner_of_first unregistered adopted now sequence
  rw [handle_polled handled, followReport_of_same known]
  exact ⟨silent, known⟩

end Turn

/-- A request for the status is answered with its text. -/
theorem Endpoint.reply_get (status : BridgeStatus) :
    reply status "GET" statusPath = ⟨200, some "application/json", status.toJson.render⟩ := by
  have path : pathOf statusPath = statusPath := by decide
  rw [reply, if_neg (not_not.2 path), if_pos rfl]

/-- A poll that is answered with the text of a status reports this status. -/
theorem Poller.poll_answered {text : String} {status : BridgeStatus}
    (read : BridgeStatus.parse? text = some status) (poller : Poller) :
    let response : Response := ⟨200, none, text.toUTF8⟩
    Poll.interpret response = .ok status ∧
      (poller.poll [response]).2 = .partnerPolled (poller.sequence + 1) status := by
  intro response
  have decoded : BridgeStatus.parseBytes? response.body = some status :=
    (BridgeStatus.parseBytes?_toUTF8 text).trans read
  have interpreted : Poll.interpret response = .ok status := by
    unfold Poll.interpret
    rw [if_neg (fun refused => absurd refused.1 (by decide : ¬400 ≤ 200)), decoded]
  have result : Poll.result 0 [response] = .ok status := by
    rw [Poll.result, if_neg (fun redirected => Bool.false_ne_true redirected.2), interpreted]
  refine ⟨interpreted, ?_⟩
  unfold poll Poll.occurrence
  dsimp only
  rw [result]

namespace Machine

variable {name : String} {settings : BridgeSettings} {machine : Machine}

/-- The first answer of a partner is adopted as it is, and nothing is derived from it. -/
theorem process_first {status : BridgeStatus} (built : new name settings status = .ok machine)
    {events : List Event} (reported : ∀ event ∈ events, event.occurrence.isReported = true)
    (unheard : (machine.run events).machine.partner = none) {report : BridgeStatus}
    (sameName : report.name = name) (otherRole : report.role ≠ settings.role) (now : Instant)
    (sequence : UInt64) :
    let outcome := (machine.run events).machine.process ⟨now, .partnerPolled sequence report⟩
    outcome.fault = none ∧ outcome.derived = [] ∧ outcome.machine.partner = some report := by
  intro outcome
  obtain ⟨registrations, judges⟩ := run_judged built reported
  have nothing : registrations = [] := by
    by_contra registered
    have known := judges.known.2 registered
    simp [stance, unheard] at known
  have empty : (machine.run events).machine.partnerMonitor = .new machine.partnerMonitor.thresholds :=
    judges.monitor.trans (by rw [nothing]; rfl)
  obtain ⟨-, -, builtName, builtRole, -⟩ := new_eq_ok built
  have identity := machine.run_identity events
  have accepted : (Occurrence.partnerPolled sequence report).AcceptedBy
      (machine.run events).machine := by
    refine ⟨?_, ?_⟩
    · rw [sameName, ← builtName]
      exact (congrArg (·.1) identity).symm
    · rw [machine.run_role events, builtRole]
      exact otherRole
  obtain ⟨turn, handled⟩ := Turn.handle_accepted accepted now
  obtain ⟨silent, known⟩ := Turn.handle_first unheard empty handled
  have processed : outcome = ⟨turn.machine, [], turn.effects, none⟩ :=
    process_of_silent handled silent
  rw [processed]
  exact ⟨rfl, rfl, known⟩

/-- The statuses that a run passes through: those after each handling, and the last one. -/
def statuses (machine : Machine) (events : List Event) : List BridgeStatus :=
  (machine.runTranscript events).map (·.turn.machine.status) ++ [(machine.run events).machine.status]

/-- Every status that a run at plain times passes through is served as a text from which it is read
again, with the interfaces in the order of their names. So a poll of the endpoint reports exactly this
status. A bridge of the same name and the other role that has not heard of its partner before adopts it as
it is, without fault, and derives nothing. -/
theorem run_adopts {start : Instant}
    (built : new name settings (initialStatus name settings start) = .ok machine)
    (plain : start.IsPlain) {events : List Event}
    (reported : ∀ event ∈ events, event.occurrence.isReported = true)
    (times : ∀ event ∈ events, event.time.IsPlain) {served : BridgeStatus}
    (reached : served ∈ machine.statuses events) :
    let reply := Endpoint.reply served "GET" Endpoint.statusPath
    let response : Response := ⟨reply.code, none, reply.body.toUTF8⟩
    BridgeStatus.parse? reply.body = some served ∧
      served.interfaces.names = settings.tunnels.names ∧
      served.interfaces.names.Pairwise (· < ·) ∧
      Poll.interpret response = .ok served ∧
      ∀ (poller : Poller) (otherSettings : BridgeSettings) (otherStatus : BridgeStatus)
        (other : Machine), new name otherSettings otherStatus = .ok other →
        otherSettings.role ≠ settings.role →
        ∀ earlier : List Event, (∀ event ∈ earlier, event.occurrence.isReported = true) →
          (other.run earlier).machine.partner = none → ∀ now,
            let occurrence := (poller.poll [response]).2
            let outcome := (other.run earlier).machine.process ⟨now, occurrence⟩
            occurrence = .partnerPolled (poller.sequence + 1) served ∧ outcome.fault = none ∧
              outcome.derived = [] ∧ outcome.machine.partner = some served := by
  intro reply response
  have suits : served.Suits name settings := by
    obtain ⟨last, handled⟩ := run_suits built plain reported times
    rcases List.mem_append.1 reached with passed | final
    · obtain ⟨handling, member, rfl⟩ := List.mem_map.1 passed
      exact handled handling member
    · rw [List.mem_singleton.1 final]
      exact last
  have read : BridgeStatus.parse? reply.body = some served := suits.plain.parse?_render
  have accepted : response = ⟨200, none, reply.body.toUTF8⟩ := by
    have code : reply.code = 200 := congrArg Reply.code (Endpoint.reply_get served)
    rw [← code]
  have answered (poller : Poller) : Poll.interpret response = .ok served ∧
      (poller.poll [response]).2 = .partnerPolled (poller.sequence + 1) served := by
    rw [accepted]
    exact poller.poll_answered read
  refine ⟨read, suits.names, List.pairwise_map.2 served.interfaces.sorted, (answered ⟨"", 0⟩).1, ?_⟩
  intro poller otherSettings otherStatus other otherBuilt otherRole earlier earlierReported unheard now
    occurrence outcome
  have otherThanServed : served.role ≠ otherSettings.role := by
    rw [suits.sameRole]
    exact otherRole.symm
  have adopted := process_first otherBuilt earlierReported unheard suits.sameName otherThanServed now
    (poller.sequence + 1)
  have polled : occurrence = .partnerPolled (poller.sequence + 1) served := (answered poller).2
  refine ⟨polled, ?_⟩
  rw [← polled] at adopted
  exact adopted

/-- A bridge comes up within a leap second, under a name with a quote, a line break and a control
character. Its partner has only seen a failed poll before, and adopts what is served. -/
theorem run_adopts_leap :
    let name := "vpn \"é\"\n\x01"
    let start : Instant := ⟨951782400, 0⟩
    let leap : Instant := ⟨1483228799, 1500000000⟩
    let settings := BridgeSettings.plain .active
    let otherSettings := BridgeSettings.plain .standby
    let returned (sequence : UInt64) (time : Instant) : Event :=
      ⟨time, .probeReturned "wg0" sequence .zero .zero .empty⟩
    let events := [returned 1 ⟨1483228798, 120000⟩, returned 2 leap]
    let failed : Event := ⟨start, .partnerPollFailed 1 "timeout"⟩
    ∃ machine other, new name settings (initialStatus name settings start) = .ok machine ∧
      new name otherSettings (initialStatus name otherSettings start) = .ok other ∧
      let served := (machine.run events).machine.status
      let reply := Endpoint.reply served "GET" Endpoint.statusPath
      let response : Response := ⟨reply.code, none, reply.body.toUTF8⟩
      let occurrence := ((⟨"http://localhost/status", 1⟩ : Poller).poll [response]).2
      let outcome := (other.run [failed]).machine.process ⟨leap, occurrence⟩
      (served.active, served.upSince.text) = (true, "2016-12-31T23:59:60.500Z") ∧
        Poll.interpret response = .ok served ∧ outcome.derived = [] ∧
        outcome.machine.partner = some served := by
  intro name start leap settings otherSettings returned events failed
  have built : new name settings (initialStatus name settings start) = .ok _ := rfl
  have otherBuilt : new name otherSettings (initialStatus name otherSettings start) = .ok _ := rfl
  have reported : ∀ event ∈ events, event.occurrence.isReported = true := by decide
  have times : ∀ event ∈ events, event.time.IsPlain := by decide +kernel
  obtain ⟨-, -, -, interpreted, adopts⟩ := run_adopts built (by decide +kernel) reported times
    (List.mem_append_right _ (List.mem_singleton_self _))
  obtain ⟨-, -, silent, known⟩ := adopts ⟨"http://localhost/status", 1⟩ otherSettings _ _ otherBuilt
    (by decide) [failed] (by decide) (by decide +kernel) leap
  exact ⟨_, _, built, otherBuilt, by decide +kernel, interpreted, silent, known⟩

end Machine

end TunnelFailover

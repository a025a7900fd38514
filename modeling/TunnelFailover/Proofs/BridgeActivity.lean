import TunnelFailover.Proofs.Stance
/-!
This file says which activity suits the stance of a bridge, and shows that every handled occurrence
leaves a suitable one, up to the change of the bridge or of the partner that waits.
-/

namespace TunnelFailover

/-- The bridge or its partner goes down. -/
def Occurrence.isFall : Occurrence → Bool
  | bridgeWentDown | partnerWentDown => true
  | _ => false

/-- The last fall in a list of occurrences. -/
def lastFall? (journal : List Occurrence) : Option Occurrence :=
  (journal.filter (·.isFall)).getLast?

/-- Falls have rank one. -/
theorem not_isFall_of_rank {occurrence : Occurrence} (rank : occurrence.rank ≠ 1) :
    occurrence.isFall = false := by
  cases occurrence with
  | bridgeWentDown | partnerWentDown => exact absurd rfl rank
  | _ => rfl

theorem lastFall?_append_of_rank (journal : List Occurrence) {more : List Occurrence}
    (rank : ∀ occurrence ∈ more, occurrence.rank ≠ 1) :
    lastFall? (journal ++ more) = lastFall? journal := by
  have none : more.filter (·.isFall) = [] := by
    rw [List.filter_eq_nil_iff]
    intro occurrence member
    rw [not_isFall_of_rank (rank occurrence member)]
    exact Bool.false_ne_true
  rw [lastFall?, List.filter_append, none, List.append_nil]
  rfl

theorem lastFall?_append_fall (journal : List Occurrence) {fall : Occurrence}
    {more : List Occurrence} (isFall : fall.isFall = true) (inert : Inert more) :
    lastFall? (journal ++ fall :: more) = some fall := by
  have split : journal ++ fall :: more = (journal ++ [fall]) ++ more := by simp
  rw [split, lastFall?_append_of_rank _ inert.rank_ne_one]
  simp [lastFall?, isFall]

theorem lastFall?_append_rise (journal : List Occurrence) {rise : Occurrence}
    {more : List Occurrence} (isRise : rise.isFall = false) (inert : Inert more) :
    lastFall? (journal ++ rise :: more) = lastFall? journal := by
  have split : journal ++ rise :: more = (journal ++ [rise]) ++ more := by simp
  rw [split, lastFall?_append_of_rank _ inert.rank_ne_one]
  simp [lastFall?, isRise]

namespace Stance

/-- The activity of a bridge suits its stance. One of the active role claims it whenever it is up. One
of the standby role fills a gap, and yields to a partner that is known for sure. A bridge of the
active role that is down is active if it has taken over from its partner since it went down. -/
structure Suited (stance : Stance) (journal : List Occurrence) : Prop where
  claims : stance.role = .active → stance.up = true → stance.active = true
  fills : stance.role = .standby → stance.up = true → stance.partnerUp = false →
    stance.active = true
  yields : stance.role = .standby → stance.partnerConfirmed = true → stance.partnerUp = true →
    stance.active = false
  holds : stance.role = .active → stance.up = false →
    (stance.active = true ↔ lastFall? journal = some .partnerWentDown)

/-- The activity suits the stance, or it will once the first occurrence that waits is handled. -/
def Deciding (stance : Stance) (journal : List Occurrence) : List Occurrence → Prop
  | .bridgeWentDown :: _ => stance.up = false ∧ lastFall? journal = some .bridgeWentDown
  | .bridgeWentUp :: _ =>
    stance.up = true ∧ (stance.role = .standby → stance.partnerConfirmed = true →
      stance.partnerUp = true → stance.active = false)
  | .partnerWentDown :: _ =>
    stance.partnerUp = false ∧ lastFall? journal = some .partnerWentDown
  | .partnerWentUp :: _ =>
    stance.partnerUp = true ∧
      (stance.role = .active → stance.up = true → stance.active = true) ∧
      (stance.role = .active → stance.up = false →
        (stance.active = true ↔ lastFall? journal = some .partnerWentDown))
  | _ => stance.Suited journal

/-- Only occurrences of rank one concern the activity. -/
theorem deciding_iff_of_rank (stance : Stance) (journal : List Occurrence)
    {waiting : List Occurrence} (rank : ∀ occurrence ∈ waiting, occurrence.rank ≠ 1) :
    stance.Deciding journal waiting ↔ stance.Suited journal := by
  cases waiting with
  | nil => rfl
  | cons occurrence rest =>
    have headRank := rank occurrence List.mem_cons_self
    cases occurrence with
    | bridgeWentDown | bridgeWentUp | partnerWentDown | partnerWentUp => exact absurd rfl headRank
    | _ => rfl

/-- A longer journal without falls suits as well. -/
theorem Suited.append {stance : Stance} {journal more : List Occurrence}
    (suited : stance.Suited journal) (rank : ∀ occurrence ∈ more, occurrence.rank ≠ 1) :
    stance.Suited (journal ++ more) := by
  refine ⟨suited.claims, suited.fills, suited.yields, ?_⟩
  rw [lastFall?_append_of_rank journal rank]
  exact suited.holds

/-- A change of the liveness of the bridge is decided next. -/
theorem Suited.turns {stance : Stance} {journal inert : List Occurrence}
    (suited : stance.Suited journal) (zero : Inert inert) (up : Bool) :
    Deciding { stance with up } (journal ++ (stance.turns up ++ inert)) (stance.turns up ++ inert) := by
  unfold Stance.turns
  split
  · rename_i same
    have unchanged : { stance with up } = stance := by rw [same]
    rw [unchanged, List.nil_append, deciding_iff_of_rank _ _ zero.rank_ne_one]
    exact suited.append zero.rank_ne_one
  · cases up with
    | false => exact ⟨rfl, lastFall?_append_fall journal rfl zero⟩
    | true => exact ⟨rfl, suited.yields⟩

/-- A verdict on the partner is decided next. -/
theorem Suited.follows {stance : Stance} {journal inert : List Occurrence}
    (suited : stance.Suited journal) (zero : Inert inert) (verdict : Liveness) :
    (stance.judge verdict).Deciding (journal ++ (stance.follows verdict ++ inert))
      (stance.follows verdict ++ inert) := by
  cases verdict with
  | pending =>
    rw [Stance.follows, List.nil_append, deciding_iff_of_rank _ _ zero.rank_ne_one]
    exact suited.append zero.rank_ne_one
  | down =>
    unfold Stance.follows
    dsimp only
    split
    · exact ⟨rfl, lastFall?_append_fall journal rfl zero⟩
    · rename_i wasDown
      rw [List.nil_append, deciding_iff_of_rank _ _ zero.rank_ne_one]
      refine Suited.append ⟨suited.claims, ?_, ?_, suited.holds⟩ zero.rank_ne_one
      · intro role up _
        exact suited.fills role up (Bool.eq_false_iff.2 wasDown)
      · intro _ _ partnerUp
        cases partnerUp
  | up =>
    unfold Stance.follows
    dsimp only
    split
    · rename_i both
      obtain ⟨partnerUp, confirmed⟩ := (Bool.and_eq_true _ _).mp both
      rw [judge_up partnerUp confirmed, List.nil_append,
        deciding_iff_of_rank _ _ zero.rank_ne_one]
      exact suited.append zero.rank_ne_one
    · refine ⟨rfl, suited.claims, ?_⟩
      intro role down
      rw [List.singleton_append, lastFall?_append_rise journal rfl zero]
      exact suited.holds role down

/-- Only a known partner is confirmed or taken to be up. -/
structure Founded (stance : Stance) : Prop where
  confirmed : stance.partnerConfirmed = true → stance.partnerKnown = true
  up : stance.partnerUp = true → stance.partnerKnown = true

/-- The first report of a partner is suited, because the partner is not confirmed by it. -/
theorem Suited.adopt {stance : Stance} {journal : List Occurrence} (suited : stance.Suited journal)
    (founded : stance.Founded) (up : Bool) : (stance.adopt up).Suited journal := by
  cases known : stance.partnerKnown with
  | true =>
    have same : stance.adopt up = stance := by
      unfold Stance.adopt
      rw [known]
      cases stance
      cases known
      rfl
    rw [same]
    exact suited
  | false =>
    have down : stance.partnerUp = false := by
      rw [← Bool.not_eq_true]
      intro partnerUp
      rw [founded.up partnerUp] at known
      cases known
    refine ⟨suited.claims, fun role isUp _ => suited.fills role isUp down, ?_, suited.holds⟩
    intro _ confirmed _
    rw [founded.confirmed confirmed] at known
    cases known

/-- A verdict on a known partner is founded. -/
theorem founded_judge {stance : Stance} (known : stance.partnerKnown = true)
    (verdict : Liveness) : (stance.judge verdict).Founded := by
  cases verdict <;> exact ⟨fun _ => known, fun _ => known⟩

end Stance

namespace Turn

/-- A handled occurrence leaves what is known of the partner founded. -/
theorem handle_founded {machine : Machine} {now : Instant} {occurrence : Occurrence} {turn : Turn}
    (handled : (start machine).handle now occurrence = .ok turn)
    (founded : machine.stance.Founded) : turn.machine.stance.Founded := by
  have moves := handle_moves handled
  cases occurrence with
  | interfaceWentDown | interfaceWentUp =>
    obtain ⟨up, inert, stance, -⟩ := moves
    rw [stance]
    exact ⟨founded.confirmed, founded.up⟩
  | partnerPolled sequence report =>
    obtain ⟨-, stance, -⟩ := moves
    rw [stance]
    exact Stance.founded_judge rfl _
  | partnerPollFailed sequence cause =>
    unfold Occurrence.Moves at moves
    dsimp only at moves
    split at moves
    · rename_i known
      rw [moves.2.1]
      exact Stance.founded_judge known _
    · rw [moves.2.1]
      exact founded
  | _ =>
    rw [moves.1]
    exact ⟨founded.confirmed, founded.up⟩

/-- A handled occurrence leaves an activity that suits, up to what then waits. -/
theorem handle_deciding {machine : Machine} {now : Instant} {occurrence : Occurrence}
    {rest : List Occurrence} {turn : Turn} {journal : List Occurrence}
    (handled : (start machine).handle now occurrence = .ok turn)
    (orderly : Orderly (occurrence :: rest)) (founded : machine.stance.Founded)
    (deciding : machine.stance.Deciding journal (occurrence :: rest)) :
    turn.machine.stance.Deciding (journal ++ turn.derived) (rest ++ turn.derived) := by
  obtain ⟨alone, restInert⟩ := orderly
  have moves := handle_moves handled
  -- What waits behind an occurrence of low rank is inert, and so is what this one leads to.
  have settled (inert : Inert turn.derived)
      (suited : turn.machine.stance.Suited journal) :
      turn.machine.stance.Deciding (journal ++ turn.derived) (rest ++ turn.derived) := by
    refine (Stance.deciding_iff_of_rank _ _ fun waiting member => ?_).2
      (suited.append inert.rank_ne_one)
    rcases List.mem_append.1 member with old | new
    · exact Inert.rank_ne_one restInert waiting old
    · exact inert.rank_ne_one waiting new
  cases occurrence with
  | probeLost | probeReturned | probeUnsent | probeSent =>
    obtain ⟨stance, interfaces⟩ := moves
    have notOne : ∀ occurrence ∈ turn.derived, occurrence.rank ≠ 1 := by
      intro occurrence member
      obtain ⟨interface, rfl | rfl⟩ := interfaces occurrence member <;> simp [Occurrence.rank]
    rw [alone (by simp [Occurrence.rank]), List.nil_append, stance,
      Stance.deciding_iff_of_rank _ _ notOne]
    exact Stance.Suited.append deciding notOne
  | interfaceWentDown | interfaceWentUp =>
    obtain ⟨up, inert, stance, derived, zero⟩ := moves
    rw [alone (by simp [Occurrence.rank]), List.nil_append, stance, derived]
    exact Stance.Suited.turns deciding zero up
  | partnerPolled sequence report =>
    obtain ⟨-, stance, inert, derived, zero⟩ := moves
    rw [alone (by simp [Occurrence.rank]), List.nil_append, stance, derived]
    exact (Stance.Suited.adopt deciding founded report.up).follows zero _
  | partnerPollFailed sequence cause =>
    rw [alone (by simp [Occurrence.rank]), List.nil_append]
    unfold Occurrence.Moves at moves
    dsimp only at moves
    split at moves
    · obtain ⟨-, stance, derived⟩ := moves
      have followed := Stance.Suited.follows deciding .nil
        (machine.partnerMonitor.register sequence .down).verdict
      rw [List.append_nil] at followed
      rw [stance, derived]
      exact followed
    · obtain ⟨-, stance, derived⟩ := moves
      rw [stance, derived, List.append_nil]
      exact deciding
  | bridgeWentDown =>
    obtain ⟨stance, inert⟩ := moves
    obtain ⟨down, fall⟩ := deciding
    refine settled inert ?_
    rw [stance]
    refine ⟨fun _ up => ?_, fun _ up => ?_, fun _ _ _ => rfl, ?_⟩
    · rw [down] at up
      cases up
    · rw [down] at up
      cases up
    · simp [fall]
  | bridgeWentUp =>
    obtain ⟨stance, inert⟩ := moves
    obtain ⟨up, yields⟩ := deciding
    refine settled inert ?_
    rw [stance]
    refine ⟨fun role _ => ?_, fun role _ partnerDown => ?_, fun role confirmed partnerUp => ?_,
      fun _ down => ?_⟩
    · have isActive : machine.role = .active := role
      simp [isActive]
    · have isDown : machine.stance.partnerUp = false := partnerDown
      simp [isDown]
    · have isStandby : machine.role = .standby := role
      have isUp : machine.stance.partnerUp = true := partnerUp
      have inactive := yields role confirmed partnerUp
      simp [isStandby, isUp, inactive]
    · rw [up] at down
      cases down
  | partnerWentDown =>
    obtain ⟨stance, inert⟩ := moves
    obtain ⟨partnerDown, fall⟩ := deciding
    refine settled inert ?_
    rw [stance]
    refine ⟨fun _ _ => rfl, fun _ _ _ => rfl, fun _ _ partnerUp => ?_, fun _ _ => ?_⟩
    · rw [partnerDown] at partnerUp
      cases partnerUp
    · simp [fall]
  | partnerWentUp =>
    obtain ⟨stance, inert⟩ := moves
    obtain ⟨partnerUp, claims, holds⟩ := deciding
    refine settled inert ?_
    rw [stance]
    refine ⟨fun role up => ?_, fun _ _ partnerDown => ?_, fun role _ _ => ?_, fun role down => ?_⟩
    · have isActive : machine.role = .active := role
      simp [isActive, claims role up]
    · rw [partnerUp] at partnerDown
      cases partnerDown
    · have isStandby : machine.role = .standby := role
      simp [isStandby]
    · have isActive : machine.role = .active := role
      simpa [isActive] using holds role down
  | _ =>
    obtain ⟨stance, derived⟩ := moves
    refine settled (derived ▸ .nil) ?_
    rw [stance]
    exact deciding

end Turn

end TunnelFailover

import Mathlib.Logic.Relation
import TunnelFailover.Machine.Run
import TunnelFailover.Proofs.Turn
/-!
This file describes the processing of an event as a queue: the first occurrence is handled, and what
it derives waits behind all others. The generations in which the machine processes an event visit
the same machines, so that a law of single steps is a law of whole runs.
-/

namespace TunnelFailover

/-- A cascade has the machine between two steps, the occurrences that wait, and all that has been
derived and has left the machine so far. -/
structure Cascade where
  machine : Machine
  waiting : List Occurrence
  derived : List Occurrence
  effects : List Effect

namespace Cascade

/-- The event waits alone at first. -/
def start (machine : Machine) (event : Event) : Cascade :=
  ⟨machine, [event.occurrence], [], []⟩

/-- The first occurrence is handled, and what it derives waits behind the others. -/
inductive Step (now : Instant) : Cascade → Cascade → Prop
  | handle {machine : Machine} {occurrence : Occurrence} {rest derived : List Occurrence}
      {effects : List Effect} {turn : Turn}
      (handled : (Turn.start machine).handle now occurrence = .ok turn) :
      Step now ⟨machine, occurrence :: rest, derived, effects⟩
        ⟨turn.machine, rest ++ turn.derived, derived ++ turn.derived, effects ++ turn.effects⟩

/-- The second cascade comes from the first one by some steps. -/
abbrev Reaches (now : Instant) : Cascade → Cascade → Prop := Relation.ReflTransGen (Step now)

/-- A cascade is stuck on a fault if its first occurrence fails with it. -/
def FailsWith (now : Instant) (fault : BridgeFault) (cascade : Cascade) : Prop :=
  ∃ occurrence rest, cascade.waiting = occurrence :: rest ∧
    (Turn.start cascade.machine).handle now occurrence = .error fault

/-- A cascade leads to an outcome if it reaches the machine of the outcome and what is left then
waits, unless the first occurrence that waits has the fault of the outcome. -/
def LeadsTo (now : Instant) (first : Cascade) (outcome : Outcome) (left : List Occurrence) : Prop :=
  ∃ waiting,
    Reaches now first ⟨outcome.machine, waiting, outcome.derived, outcome.effects⟩ ∧
    match outcome.fault with
    | none => waiting = left
    | some fault => FailsWith now fault
        ⟨outcome.machine, waiting, outcome.derived, outcome.effects⟩

/-- A law that every step keeps holds of all that is reached. -/
theorem Reaches.keeps {now : Instant} {first last : Cascade} (reaches : Reaches now first last)
    (law : Cascade → Prop)
    (kept : ∀ before after, law before → Step now before after → law after)
    (holds : law first) : law last := by
  induction reaches with
  | refl => exact holds
  | tail _ step inductionHypothesis => exact kept _ _ inductionHypothesis step

/-- A step keeps the queue orderly. -/
theorem Step.orderly {now : Instant} {before after : Cascade} (step : Step now before after)
    (orderly : Orderly before.waiting) : Orderly after.waiting := by
  cases step with
  | @handle machine occurrence rest derived effects turn handled =>
    obtain ⟨derivedOrderly, lower⟩ := Turn.handle_orderly handled
    obtain ⟨alone, restInert⟩ := orderly
    by_cases high : 2 ≤ occurrence.rank
    · have empty : rest = [] := alone high
      simpa [empty] using derivedOrderly
    · have inert : ∀ waiting ∈ rest ++ turn.derived, waiting.rank = 0 := by
        intro waiting member
        rcases List.mem_append.1 member with old | new
        · exact restInert waiting old
        · have := lower waiting new
          omega
      exact (Settling.nil.append inert).orderly

theorem start_orderly (machine : Machine) (event : Event) :
    Orderly (start machine event).waiting := by
  simp [start, Orderly]

end Cascade

namespace Outcome

/-- What has failed stays as it is. -/
theorem foldl_step_of_fault (now : Instant) {outcome : Outcome} {fault : BridgeFault}
    (failed : outcome.fault = some fault) (generation : List Occurrence) :
    generation.foldl (step now) outcome = outcome := by
  induction generation with
  | nil => rfl
  | cons occurrence rest inductionHypothesis =>
    have unchanged : step now outcome occurrence = outcome := by
      unfold step
      rw [failed]
    rw [List.foldl_cons, unchanged, inductionHypothesis]

theorem settle_of_fault (now : Instant) {outcome : Outcome} {fault : BridgeFault}
    (failed : outcome.fault = some fault) (nothing : outcome.derived = []) (depth : Nat)
    (generation : List Occurrence) : settle now depth generation outcome = outcome := by
  have same : { outcome with derived := [] } = outcome := by
    cases outcome
    cases nothing
    rfl
  induction depth generalizing generation with
  | zero => rfl
  | succ depth inductionHypothesis =>
    rw [settle]
    simp only [same, foldl_step_of_fault now failed, inductionHypothesis, nothing,
      List.nil_append]

/-- Nothing happens in generations of which the first one is empty. -/
theorem settle_nil (now : Instant) (depth : Nat) {outcome : Outcome}
    (nothing : outcome.derived = []) : settle now depth [] outcome = outcome := by
  have same : { outcome with derived := [] } = outcome := by
    cases outcome
    cases nothing
    rfl
  induction depth with
  | zero => rfl
  | succ depth inductionHypothesis =>
    rw [settle]
    simp only [List.foldl_nil, same, nothing, inductionHypothesis, List.nil_append]

/-- A generation is handled as the head of a queue, and the next one gathers behind it. -/
theorem foldl_step_leadsTo (now : Instant) (earlier generation : List Occurrence)
    (outcome : Outcome) (calm : outcome.fault = none) :
    let next := generation.foldl (step now) outcome
    Cascade.LeadsTo now
      ⟨outcome.machine, generation ++ outcome.derived, earlier ++ outcome.derived,
        outcome.effects⟩
      { next with derived := earlier ++ next.derived } next.derived := by
  induction generation generalizing outcome with
  | nil => exact ⟨outcome.derived, .refl, by rw [List.foldl_nil, calm]⟩
  | cons occurrence rest inductionHypothesis =>
    rw [List.foldl_cons]
    cases handled : (Turn.start outcome.machine).handle now occurrence with
    | error fault =>
      have stopped : step now outcome occurrence = { outcome with fault := some fault } := by
        simp [step, calm, handled]
      have failed : (step now outcome occurrence).fault = some fault := by rw [stopped]
      rw [foldl_step_of_fault now failed rest, stopped]
      exact ⟨occurrence :: rest ++ outcome.derived, .refl, occurrence, rest ++ outcome.derived,
        rfl, handled⟩
    | ok turn =>
      have stepped : step now outcome occurrence =
          ⟨turn.machine, outcome.derived ++ turn.derived, outcome.effects ++ turn.effects,
            outcome.fault⟩ := by
        simp [step, calm, handled]
      have stillCalm : (step now outcome occurrence).fault = none := by rw [stepped]; exact calm
      obtain ⟨waiting, reaches, ending⟩ := inductionHypothesis _ stillCalm
      refine ⟨waiting, .head ?_ reaches, ending⟩
      have first := @Cascade.Step.handle now outcome.machine occurrence (rest ++ outcome.derived)
        (earlier ++ outcome.derived) outcome.effects turn handled
      simpa [stepped, List.append_assoc] using first

/-- A generation whose ranks are below a bound gives one whose ranks are below the next one. -/
theorem foldl_step_rank (now : Instant) {depth : Nat} {generation : List Occurrence}
    (low : ∀ occurrence ∈ generation, occurrence.rank < depth + 1) (outcome : Outcome)
    (derivedLow : ∀ occurrence ∈ outcome.derived, occurrence.rank < depth) :
    ∀ occurrence ∈ (generation.foldl (step now) outcome).derived, occurrence.rank < depth := by
  induction generation generalizing outcome with
  | nil => exact derivedLow
  | cons first rest inductionHypothesis =>
    rw [List.foldl_cons]
    refine inductionHypothesis (fun occurrence member =>
      low occurrence (List.mem_cons_of_mem _ member)) _ ?_
    unfold step
    split
    · exact derivedLow
    · split
      · exact derivedLow
      · rename_i turn handled
        intro occurrence member
        rcases List.mem_append.1 member with old | new
        · exact derivedLow occurrence old
        · have := (Turn.handle_orderly handled).2 occurrence new
          have := low first List.mem_cons_self
          omega

/-- Enough generations handle the whole queue, or stop at a fault. -/
theorem settle_leadsTo (now : Instant) (depth : Nat) (earlier generation : List Occurrence)
    (low : ∀ occurrence ∈ generation, occurrence.rank < depth) (outcome : Outcome)
    (calm : outcome.fault = none) (nothing : outcome.derived = []) :
    let last := settle now depth generation outcome
    Cascade.LeadsTo now ⟨outcome.machine, generation, earlier, outcome.effects⟩
      { last with derived := earlier ++ last.derived } [] := by
  induction depth generalizing earlier generation outcome with
  | zero =>
    have empty : generation = [] := List.eq_nil_iff_forall_not_mem.2 fun occurrence member =>
      Nat.not_lt_zero _ (low occurrence member)
    refine ⟨[], ?_, by rw [settle, calm]⟩
    simpa [settle, empty, nothing] using Relation.ReflTransGen.refl
  | succ depth inductionHypothesis =>
    have fresh : { outcome with derived := [] } = outcome := by
      cases outcome
      cases nothing
      rfl
    rw [settle, fresh]
    have lower := foldl_step_rank now low outcome (by simp [nothing])
    have handled := foldl_step_leadsTo now earlier generation outcome calm
    simp only [nothing, List.append_nil] at handled
    generalize generation.foldl (step now) outcome = next at lower handled ⊢
    obtain ⟨machine, derived, effects, fault⟩ := next
    obtain ⟨waiting, reaches, ending⟩ := handled
    cases fault with
    | none =>
      obtain ⟨later, laterReaches, laterEnding⟩ :=
        inductionHypothesis (earlier ++ derived) derived lower ⟨machine, [], effects, none⟩ rfl rfl
      change waiting = derived at ending
      rw [ending] at reaches
      simp only [List.append_assoc] at laterReaches laterEnding
      exact ⟨later, reaches.trans laterReaches, laterEnding⟩
    | some fault =>
      have stays : settle now depth derived ⟨machine, [], effects, some fault⟩ =
          ⟨machine, [], effects, some fault⟩ := settle_of_fault now rfl rfl depth derived
      rw [stays]
      exact ⟨waiting, by simpa using reaches, by simpa using ending⟩

end Outcome

namespace Machine

/-- The processing of an event goes through the queue to its end or to a fault. -/
theorem process_leadsTo (machine : Machine) (event : Event) :
    Cascade.LeadsTo event.time (.start machine event) (machine.process event) [] :=
  Outcome.settle_leadsTo event.time (event.occurrence.rank + 1) [] [event.occurrence] (by simp)
    (.start machine) rfl rfl

/-- The processing of an event that is handled goes on from there. -/
theorem process_after {machine : Machine} {event : Event} {turn : Turn}
    (handled : (Turn.start machine).handle event.time event.occurrence = .ok turn) :
    ∃ waiting, Cascade.Reaches event.time
      ⟨turn.machine, turn.derived, turn.derived, turn.effects⟩
      ⟨(machine.process event).machine, waiting, (machine.process event).derived,
        (machine.process event).effects⟩ := by
  obtain ⟨waiting, reaches, ending⟩ := machine.process_leadsTo event
  refine ⟨waiting, ?_⟩
  generalize machine.process event = outcome at reaches ending ⊢
  rcases Relation.ReflTransGen.cases_head reaches with same | ⟨next, step, rest⟩
  · -- The event cannot wait at the end, because it is handled.
    simp only [Cascade.start, Cascade.mk.injEq] at same
    obtain ⟨machineSame, waits, -, -⟩ := same
    cases failed : outcome.fault with
    | none =>
      rw [failed] at ending
      change waiting = [] at ending
      simp [ending] at waits
    | some fault =>
      rw [failed] at ending
      obtain ⟨occurrence, left, waitsNow, stuck⟩ := ending
      change waiting = occurrence :: left at waitsNow
      rw [← waits, List.cons.injEq] at waitsNow
      change (Turn.start outcome.machine).handle event.time occurrence = _ at stuck
      rw [← machineSame, ← waitsNow.1, handled] at stuck
      cases stuck
  · cases step with
    | handle taken =>
      rw [handled] at taken
      cases taken
      exact rest

/-- A law that every step of an orderly queue keeps holds when the event has been processed. At most
a poll at fault and occurrences of rank zero are left. -/
theorem process_keeps (machine : Machine) (event : Event) (law : Cascade → Prop)
    (kept : ∀ before after, Orderly before.waiting → law before →
      Cascade.Step event.time before after → law after)
    (holds : law (.start machine event)) :
    ∃ waiting,
      law ⟨(machine.process event).machine, waiting, (machine.process event).derived,
        (machine.process event).effects⟩ ∧
      ∀ occurrence ∈ waiting, occurrence.rank = 0 ∨
        ∃ sequence report, occurrence = .partnerPolled sequence report := by
  obtain ⟨waiting, reaches, ending⟩ := machine.process_leadsTo event
  have reached := reaches.keeps (fun cascade => Orderly cascade.waiting ∧ law cascade)
    (fun before after holds step => ⟨step.orderly holds.1, kept before after holds.1 holds.2 step⟩)
    ⟨Cascade.start_orderly machine event, holds⟩
  refine ⟨waiting, reached.2, ?_⟩
  cases calm : (machine.process event).fault with
  | none =>
    rw [calm] at ending
    change waiting = [] at ending
    simp [ending]
  | some fault =>
    rw [calm] at ending
    obtain ⟨occurrence, rest, rfl, failed⟩ := ending
    obtain ⟨alone, inert⟩ := reached.1
    intro waits member
    rcases Turn.handle_error failed with ⟨sequence, report, rfl⟩ | ⟨former, latter, rfl⟩
    · have empty : rest = [] := alone (Nat.le_refl 2)
      rw [empty, List.mem_singleton] at member
      exact .inr ⟨sequence, report, member⟩
    · rcases List.mem_cons.1 member with same | later
      · exact .inl (same ▸ rfl)
      · exact .inl (inert waits later)

end Machine

end TunnelFailover

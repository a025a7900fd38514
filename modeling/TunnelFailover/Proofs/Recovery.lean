import TunnelFailover.Probe.Transponder
import Mathlib.Data.List.Induction
/-!
This file follows a transponder through any number of sendings and says when a sending succeeds. A
failed attempt is made up for as long as a new socket can be bound. A binding that fails leaves the
transponder without a socket for good, since only a sending that has a socket looks for another one.
-/

namespace TunnelFailover.Transponder

/-- The system lets a sending keep a socket: the first attempt succeeds, or a new socket is bound. -/
def Answers.Spares (answers : Answers) : Prop := answers.first = true ∨ answers.binds = true

instance (answers : Answers) : Decidable answers.Spares := inferInstanceAs (Decidable (_ ∨ _))

/-- The system lets a sending over a socket succeed, at the first attempt or over a new socket. -/
def Answers.Deliver (answers : Answers) : Prop :=
  answers.first = true ∨ answers.binds = true ∧ answers.second = true

/-- The transponder after some sendings. -/
def afterSends (transponder : Transponder) (history : List Answers) : Transponder :=
  history.foldl (fun transponder answers => (transponder.send answers).1) transponder

theorem afterSends_concat (transponder : Transponder) (history : List Answers) (answers : Answers) :
    transponder.afterSends (history ++ [answers]) =
      ((transponder.afterSends history).send answers).1 := by
  simp [afterSends]

variable {transponder : Transponder} (running : transponder.goingDown = false)

include running

/-- A reconnection replaces the failed socket or takes the place of none, if the system binds a new
one. Otherwise the transponder has no socket any more. -/
theorem reconnect_of_spent {failed : Nat} (spent : ∀ socket ∈ transponder.socket, socket = failed)
    (binds : Bool) :
    transponder.reconnect failed binds =
      if binds then (transponder.adopt.1, .ok transponder.opened)
      else ({ transponder with socket := none }, .error (.bind transponder.address)) := by
  cases found : transponder.socket with
  | none => simp [reconnect, reconnect.replace, running, found, adopt]
  | some socket =>
    simp [reconnect, reconnect.replace, running, found, adopt, spent socket found]

/-- A sending without a socket fails and does not ask the system for one. -/
theorem send_of_vacant (vacant : transponder.socket = none) (answers : Answers) :
    transponder.send answers = (transponder, .error .notConnected) := by
  simp [send, running, current, vacant]

/-- A sending over a socket keeps it if the first attempt succeeds. Otherwise it replaces or loses the
socket. -/
theorem send_of_connected {socket : Nat} (connected : transponder.socket = some socket)
    (answers : Answers) :
    transponder.send answers =
      if answers.first then (transponder, .ok ())
      else if answers.binds then
        (transponder.adopt.1, if answers.second then .ok () else .error .socket)
      else ({ transponder with socket := none }, .error (.bind transponder.address)) := by
  obtain ⟨first, binds, second⟩ := answers
  have spent : ∀ other ∈ transponder.socket, other = socket := by simp [connected]
  simp only [send, running, current, connected, reconnect_of_spent running spent,
    Bool.false_eq_true, if_false]
  cases first <;> cases binds <;> cases second <;> rfl

/-- A sending does not stop the transponder. -/
theorem goingDown_send (answers : Answers) : (transponder.send answers).1.goingDown = false := by
  cases found : transponder.socket with
  | none => rw [send_of_vacant running found, running]
  | some socket =>
    rw [send_of_connected running found]
    split
    · exact running
    · split <;> exact running

/-- A sending leaves a socket just if there was one and the system lets it keep one. -/
theorem isSome_socket_send (answers : Answers) :
    (transponder.send answers).1.socket.isSome ↔ transponder.socket.isSome ∧ answers.Spares := by
  cases found : transponder.socket with
  | none => simp [send_of_vacant running found, found]
  | some socket =>
    rw [send_of_connected running found]
    obtain ⟨first, binds, second⟩ := answers
    cases first <;> cases binds <;> simp [Answers.Spares, adopt, found]

/-- A sending succeeds just if there is a socket and the system lets it succeed over one. -/
theorem send_eq_ok_iff (answers : Answers) :
    (transponder.send answers).2 = .ok () ↔ transponder.socket.isSome ∧ answers.Deliver := by
  cases found : transponder.socket with
  | none => simp [send_of_vacant running found]
  | some socket =>
    rw [send_of_connected running found]
    obtain ⟨first, binds, second⟩ := answers
    cases first <;> cases binds <;> cases second <;> simp [Answers.Deliver]

/-- Sendings do not stop the transponder, and they leave a socket just if there was one at first and
the system let each of them keep one. -/
theorem afterSends_spec (history : List Answers) :
    (transponder.afterSends history).goingDown = false ∧
      ((transponder.afterSends history).socket.isSome ↔
        transponder.socket.isSome ∧ ∀ answers ∈ history, answers.Spares) := by
  induction history using List.reverseRecOn with
  | nil => simp [afterSends, running]
  | append_singleton earlier last inductionHypothesis =>
    obtain ⟨stillRunning, spared⟩ := inductionHypothesis
    rw [afterSends_concat, isSome_socket_send stillRunning, spared, List.forall_mem_append,
      List.forall_mem_singleton, and_assoc]
    exact ⟨goingDown_send stillRunning last, Iff.rfl⟩

/-- Without a socket, all sendings leave the transponder as it is. -/
theorem afterSends_of_vacant (vacant : transponder.socket = none) (history : List Answers) :
    transponder.afterSends history = transponder := by
  induction history with
  | nil => rfl
  | cons first rest inductionHypothesis =>
    rw [afterSends, List.foldl_cons, send_of_vacant running vacant]
    exact inductionHypothesis

omit running

/-- After a connection and any sendings, the next sending succeeds just if the system lets it and no
earlier one has lost the socket, by a failed attempt that was followed by a failed binding. Once the
socket is lost, every sending fails, whatever the system answers from then on. -/
theorem sends_succeed {former : Transponder} (running : former.goingDown = false)
    (history : List Answers) :
    let last := (former.connect true).1.afterSends history
    (∀ answers, (last.send answers).2 = .ok () ↔
        (∀ earlier ∈ history, earlier.Spares) ∧ answers.Deliver) ∧
      ((∃ earlier ∈ history, ¬earlier.Spares) → ∀ later answers,
        (last.afterSends later).send answers = (last, .error .notConnected)) := by
  intro last
  have connected : (former.connect true).1.socket.isSome := rfl
  obtain ⟨stillRunning, spared⟩ :=
    afterSends_spec (show (former.connect true).1.goingDown = false from running) history
  refine ⟨fun answers => ?_, fun ⟨loss, member, unspared⟩ later answers => ?_⟩
  · rw [send_eq_ok_iff stillRunning, spared, and_iff_right connected]
  · have vacant : last.socket = none := by
      rw [← Option.not_isSome_iff_eq_none]
      exact fun kept => unspared ((spared.1 kept).2 loss member)
    rw [afterSends_of_vacant stillRunning vacant, send_of_vacant stillRunning vacant]

/-- The first sending binds a new socket and still fails, and the second one fails twice. Then the third
one fails although the system lets everything succeed. -/
theorem sends_succeed_unless_lost :
    let address : SocketAddress := ⟨.v4 ⟨[127, 0, 0, 1], rfl⟩, 0, 9⟩
    let former := Transponder.new address
    let history : List Answers := [⟨false, true, false⟩, ⟨false, false, true⟩]
    let last := (former.connect true).1.afterSends history
    former.goingDown = false ∧ (∃ earlier ∈ history, ¬earlier.Spares) ∧
      (last.send ⟨true, true, true⟩).2 ≠ .ok () ∧
      (last.afterSends [⟨true, true, true⟩]).send ⟨true, true, true⟩ =
        (last, .error .notConnected) := by
  intro address former history last
  have running : former.goingDown = false := rfl
  have lost : ∃ earlier ∈ history, ¬earlier.Spares := by decide
  obtain ⟨succeeds, never⟩ := sends_succeed running history
  refine ⟨running, lost, fun success => ?_, never lost _ _⟩
  obtain ⟨loss, member, unspared⟩ := lost
  exact unspared (((succeeds _).1 success).1 loss member)

/-- Not every connected transponder sends again once the system lets everything succeed. -/
theorem not_recovers : ¬∀ (address : SocketAddress) (history : List Answers),
    (((new address).connect true).1.afterSends history |>.send ⟨true, true, true⟩).2 = .ok () := by
  intro recovers
  have success := recovers ⟨.v4 ⟨[127, 0, 0, 1], rfl⟩, 0, 9⟩ [⟨false, false, false⟩]
  revert success
  decide

end TunnelFailover.Transponder

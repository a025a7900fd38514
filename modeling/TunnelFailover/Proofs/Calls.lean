import TunnelFailover.Proofs.Recovery
/-!
This file cuts the calls of a transponder into the steps between two waits, so that several tasks can
make their steps in turns. A call that nothing interrupts does what the transponder does at once. A
call that is given up makes no more steps.
-/

namespace TunnelFailover.Transponder

/-- A stop first tells the tasks of it. -/
def announce (transponder : Transponder) : Transponder := { transponder with goingDown := true }

/-- Then it takes the socket away, once it has the lock. -/
def vacate (transponder : Transponder) : Transponder := { transponder with socket := none }

/-- A task calls the transponder for one of these. A receiver makes its passes one after the other. -/
inductive Task where
  | send | receive | stop
deriving DecidableEq, Repr

/-- The system ends what a step has waited for, and a datagram that came in has bytes. -/
inductive Reply where
  | success (bytes : List UInt8)
  | failure
deriving DecidableEq, Repr

def Reply.succeeds : Reply → Bool
  | success _ => true
  | failure => false

/-- Whether the system lets something succeed that brings no bytes. -/
def Reply.of (succeeds : Bool) : Reply := if succeeds then .success [] else .failure

/-- A socket serves to send a datagram or to wait for one. -/
inductive Purpose where
  | send | receive
deriving DecidableEq, Repr

/-- A call, by what its next step is about to do, or with what it has returned. -/
inductive Call where
  /-- A sending looks whether the transponder was stopped. -/
  | enter
  /-- The socket in use is looked up. -/
  | seek (purpose : Purpose)
  /-- The system uses the socket. -/
  | use (purpose : Purpose) (socket : Nat)
  /-- The lock for a new socket is awaited. -/
  | renew (purpose : Purpose) (failed : Nat)
  /-- The system uses the new socket for the second attempt. -/
  | resend (socket : Nat)
  | sent (result : Except TransponderFault Unit)
  | passed (pass : Pass)
  /-- A stop is about to be told. -/
  | announce
  /-- The lock to take the socket away is awaited. -/
  | vacate
  | stopped
deriving DecidableEq

def Task.call : Task → Call
  | send => .enter
  | receive => .seek .receive
  | stop => .announce

namespace Purpose

def task : Purpose → Task
  | send => .send
  | receive => .receive

/-- The socket has served its purpose. -/
def succeed : Purpose → List UInt8 → Call
  | send, _ => .sent (.ok ())
  | receive, bytes => .passed (.received bytes)

/-- Something has failed for good. -/
def fail : Purpose → TransponderFault → Call
  | send, fault => .sent (.error fault)
  | receive, fault => .passed (.failed fault)

/-- There is no socket. Only a receiver asks whether that is because of a stop. -/
def miss (goingDown : Bool) : Purpose → TransponderFault → Call
  | send, fault => .sent (.error fault)
  | receive, fault => .passed (if goingDown then .ended else .failed fault)

/-- Something has failed because of a stop. -/
def halt : Purpose → Call
  | send => .sent (.error .shuttingDown)
  | receive => .passed .ended

/-- A sending goes on over its new socket, and a receiver takes it in its next pass. -/
def resume : Purpose → Nat → Call
  | send, socket => .resend socket
  | receive, _ => .passed .renewed

/-- What a reconnection brings. -/
def proceed (purpose : Purpose) : Except TransponderFault Nat → Call
  | .ok socket => purpose.resume socket
  | .error fault => purpose.fail fault

end Purpose

namespace Call

/-- One step of a call. No other call makes a step in the middle of it, and it waits for the system at
most once, as the first thing it does. -/
def next (transponder : Transponder) (reply : Reply) : Call → Transponder × Call
  | enter =>
    (transponder,
      if transponder.goingDown then .sent (.error .shuttingDown) else .seek .send)
  | seek purpose =>
    (transponder,
      match transponder.current with
      | .ok socket => .use purpose socket
      | .error fault => purpose.miss transponder.goingDown fault)
  | use purpose socket =>
    (transponder,
      match reply with
      | .success bytes => purpose.succeed bytes
      | .failure => if transponder.goingDown then purpose.halt else .renew purpose socket)
  | renew purpose failed =>
    let (renewed, outcome) := transponder.reconnect failed reply.succeeds
    (renewed, purpose.proceed outcome)
  | resend _ => (transponder, .sent (if reply.succeeds then .ok () else .error .socket))
  | announce => (transponder.announce, .vacate)
  | vacate => (transponder.vacate, .stopped)
  | sent result => (transponder, .sent result)
  | passed pass => (transponder, .passed pass)
  | stopped => (transponder, .stopped)

/-- Some steps of a call in which nothing comes between. -/
def steps (transponder : Transponder) (call : Call) : List Reply → Transponder × Call
  | [] => (transponder, call)
  | reply :: rest =>
    let made := call.next transponder reply
    steps made.1 made.2 rest

theorem steps_cons {before after : Transponder} {call latter : Call} {reply : Reply}
    (made : call.next before reply = (after, latter)) (rest : List Reply) :
    steps before call (reply :: rest) = steps after latter rest := by
  rw [steps, made]

/-- A call that has returned makes no more steps. -/
@[simp]
theorem steps_sent (transponder : Transponder) (result : Except TransponderFault Unit)
    (replies : List Reply) :
    steps transponder (.sent result) replies = (transponder, .sent result) := by
  induction replies with
  | nil => rfl
  | cons reply rest inductionHypothesis => exact inductionHypothesis

@[simp]
theorem steps_passed (transponder : Transponder) (pass : Pass) (replies : List Reply) :
    steps transponder (.passed pass) replies = (transponder, .passed pass) := by
  induction replies with
  | nil => rfl
  | cons reply rest inductionHypothesis => exact inductionHypothesis

end Call

/-- What the system answers to the steps of a sending. The first two do not ask it. -/
def Answers.replies (answers : Answers) : List Reply :=
  [.failure, .failure, .of answers.first, .of answers.binds, .of answers.second]

/-- What the system answers to the steps of a pass of the receiver. The first one does not ask it. -/
def Arrival.replies : Arrival → List Reply
  | datagram bytes => [.failure, .success bytes]
  | failure binds => [.failure, .failure, .of binds]

@[simp]
theorem Reply.succeeds_of (succeeds : Bool) : (Reply.of succeeds).succeeds = succeeds := by
  cases succeeds <;> rfl

section Whole

variable (transponder : Transponder)

/-- A failed use of a socket is followed by a reconnection unless the transponder was stopped. -/
theorem Call.next_use_failure (purpose : Purpose) (socket : Nat) :
    (Call.use purpose socket).next transponder .failure =
      (transponder, if transponder.goingDown then purpose.halt else .renew purpose socket) := rfl

/-- The steps of a sending make up the sending. -/
theorem steps_send (answers : Answers) :
    Call.steps transponder Task.send.call answers.replies =
      ((transponder.send answers).1, .sent (transponder.send answers).2) := by
  obtain ⟨first, binds, second⟩ := answers
  rw [send, Task.call, Answers.replies]
  split
  · rename_i down
    rw [Call.steps_cons (by rw [Call.next, if_pos down]), Call.steps_sent]
  · rename_i running
    rw [Call.steps_cons (by rw [Call.next, if_neg running])]
    cases found : transponder.current with
    | error fault =>
      rw [Call.steps_cons (by rw [Call.next, found])]
      exact Call.steps_sent ..
    | ok socket =>
      rw [Call.steps_cons (by rw [Call.next, found])]
      cases first with
      | true => exact Call.steps_sent ..
      | false =>
        have renews := Call.next_use_failure transponder .send socket
        rw [if_neg running] at renews
        refine (Call.steps_cons renews _).trans ?_
        rw [Call.steps, Call.next, Reply.succeeds_of]
        dsimp only
        rcases transponder.reconnect socket binds with ⟨renewed, fault | newer⟩
        · exact Call.steps_sent ..
        · cases second <;> rfl

/-- The steps of a pass of the receiver make up the pass. -/
theorem steps_receive (arrival : Arrival) :
    Call.steps transponder Task.receive.call arrival.replies =
      ((transponder.receive arrival).1, .passed (transponder.receive arrival).2) := by
  unfold receive
  cases found : transponder.current with
  | error fault =>
    have misses : Task.receive.call.next transponder .failure =
        (transponder, .passed (if transponder.goingDown then .ended else .failed fault)) := by
      rw [Task.call, Call.next, found]
      rfl
    cases arrival <;> exact (Call.steps_cons misses _).trans (Call.steps_passed ..)
  | ok socket =>
    have finds : Task.receive.call.next transponder .failure =
        (transponder, .use .receive socket) := by
      rw [Task.call, Call.next, found]
    cases arrival with
    | datagram bytes => exact Call.steps_cons finds _
    | failure binds =>
      refine (Call.steps_cons finds _).trans
        ((Call.steps_cons (Call.next_use_failure ..) _).trans ?_)
      dsimp only
      split
      · exact Call.steps_passed ..
      · rw [Call.steps, Call.next, Reply.succeeds_of]
        dsimp only
        rcases transponder.reconnect socket binds with ⟨renewed, fault | newer⟩ <;> rfl

/-- The steps of a stop make up the stop. -/
theorem steps_stop (first second : Reply) :
    Call.steps transponder Task.stop.call [first, second] = (transponder.stop, .stopped) := rfl

end Whole

/-- A reconnection does nothing once a stop was told. -/
theorem reconnect_of_goingDown {transponder : Transponder} (down : transponder.goingDown = true)
    (failed : Nat) (binds : Bool) :
    transponder.reconnect failed binds = (transponder, .error .shuttingDown) := by
  rw [reconnect, if_pos down]

/-- A socket that another task has put in the place of the failed one is used instead. -/
theorem reconnect_of_newer {transponder : Transponder} (running : transponder.goingDown = false)
    {socket failed : Nat} (held : transponder.socket = some socket) (other : socket ≠ failed)
    (binds : Bool) : transponder.reconnect failed binds = (transponder, .ok socket) := by
  simp [reconnect, running, held, other]

/-- A reconnection notices a stop, or it finds a newer socket, or it gives the failed one up. -/
theorem reconnect_cases (transponder : Transponder) (failed : Nat) (binds : Bool) :
    (transponder.goingDown = true ∧
        transponder.reconnect failed binds = (transponder, .error .shuttingDown)) ∨
      (∃ socket, transponder.socket = some socket ∧
        transponder.reconnect failed binds = (transponder, .ok socket)) ∨
      (transponder.goingDown = false ∧ (∀ socket ∈ transponder.socket, socket = failed) ∧
        transponder.reconnect failed binds =
          if binds then (transponder.adopt.1, .ok transponder.opened)
          else (transponder.vacate, .error (.bind transponder.address))) := by
  cases running : transponder.goingDown with
  | true => exact .inl ⟨rfl, reconnect_of_goingDown running failed binds⟩
  | false =>
    right
    by_cases spent : ∀ socket ∈ transponder.socket, socket = failed
    · exact .inr ⟨rfl, spent, reconnect_of_spent running spent binds⟩
    · simp only [not_forall] at spent
      obtain ⟨socket, held, other⟩ := spent
      exact .inl ⟨socket, held, reconnect_of_newer running held other binds⟩

/-- A reconnection hands out the socket that is in the slot after it. -/
theorem socket_reconnect {transponder : Transponder} {failed socket : Nat} {binds : Bool}
    (reconnects : (transponder.reconnect failed binds).2 = .ok socket) :
    (transponder.reconnect failed binds).1.socket = some socket := by
  rcases transponder.reconnect_cases failed binds with
    ⟨-, stops⟩ | ⟨newer, held, keeps⟩ | ⟨-, -, replaces⟩
  · rw [stops] at reconnects
    cases reconnects
  · rw [keeps] at reconnects ⊢
    cases reconnects
    exact held
  · rw [replaces] at reconnects ⊢
    cases binds <;> cases reconnects
    rfl

/-- The socket in the slot is the one that was opened last. -/
def Newest (transponder : Transponder) : Prop :=
  ∀ socket ∈ transponder.socket, socket + 1 = transponder.opened

theorem newest_adopt (transponder : Transponder) : transponder.adopt.1.Newest := by
  intro socket held
  cases held
  rfl

theorem newest_vacate (transponder : Transponder) : transponder.vacate.Newest := by
  intro socket held
  cases held

namespace Call

/-- What a call was made for. -/
def task : Call → Task
  | enter | resend _ | sent _ => .send
  | seek purpose | use purpose _ | renew purpose _ => purpose.task
  | passed _ => .receive
  | announce | vacate | stopped => .stop

/-- The socket that a call holds on to. -/
def socket? : Call → Option Nat
  | use _ socket | renew _ socket | resend socket => some socket
  | _ => none

@[simp]
theorem task_call (task : Task) : task.call.task = task := by cases task <;> rfl

@[simp]
theorem socket?_call (task : Task) : task.call.socket? = none := by cases task <;> rfl

variable (transponder : Transponder) (reply : Reply)

/-- Only a stop and a reconnection change the transponder, and a reconnection does so only if no stop
was told and no other socket has taken the place of the failed one. -/
theorem next_transponder (call : Call) :
    let after := (call.next transponder reply).1
    after = transponder ∨ call = .announce ∧ after = transponder.announce ∨
      call = .vacate ∧ after = transponder.vacate ∨
      ∃ purpose failed, call = .renew purpose failed ∧ transponder.goingDown = false ∧
        (∀ socket ∈ transponder.socket, socket = failed) ∧
        after = if reply.succeeds then transponder.adopt.1 else transponder.vacate := by
  intro after
  cases call with
  | announce => exact .inr (.inl ⟨rfl, rfl⟩)
  | vacate => exact .inr (.inr (.inl ⟨rfl, rfl⟩))
  | renew purpose failed =>
    have renewed : after = (transponder.reconnect failed reply.succeeds).1 := rfl
    rcases transponder.reconnect_cases failed reply.succeeds with
      ⟨-, stops⟩ | ⟨socket, -, keeps⟩ | ⟨running, spent, replaces⟩
    · left
      rw [renewed, stops]
    · left
      rw [renewed, keeps]
    · right; right; right
      refine ⟨purpose, failed, rfl, running, spent, ?_⟩
      rw [renewed, replaces]
      split <;> rfl
  | _ => exact .inl rfl

/-- A stop that was told stays so. -/
theorem goingDown_next {transponder : Transponder} (down : transponder.goingDown = true)
    (reply : Reply) (call : Call) : (call.next transponder reply).1.goingDown = true := by
  rcases next_transponder transponder reply call with
    same | ⟨-, same⟩ | ⟨-, same⟩ | ⟨-, -, -, running, -⟩
  · rw [same, down]
  · rw [same]
    rfl
  · rw [same]
    exact down
  · rw [down] at running
    cases running

/-- Nothing changes any more without a socket once a stop was told. -/
theorem next_of_stopped {transponder : Transponder} (down : transponder.goingDown = true)
    (vacant : transponder.socket = none) (reply : Reply) (call : Call) :
    (call.next transponder reply).1 = transponder := by
  rcases next_transponder transponder reply call with
    same | ⟨-, same⟩ | ⟨-, same⟩ | ⟨-, -, -, running, -⟩
  · exact same
  · rw [same, Transponder.announce, ← down]
  · rw [same, Transponder.vacate, ← vacant]
  · rw [down] at running
    cases running

/-- Sockets are opened only by a reconnection, and the last one stands in the slot. -/
theorem newest_next {transponder : Transponder} (newest : transponder.Newest) (reply : Reply)
    (call : Call) :
    (call.next transponder reply).1.Newest ∧
      transponder.opened ≤ (call.next transponder reply).1.opened := by
  rcases next_transponder transponder reply call with
    same | ⟨-, same⟩ | ⟨-, same⟩ | ⟨-, -, -, -, -, same⟩ <;> rw [same]
  · exact ⟨newest, Nat.le_refl _⟩
  · exact ⟨newest, Nat.le_refl _⟩
  · exact ⟨transponder.newest_vacate, Nat.le_refl _⟩
  · split
    · exact ⟨transponder.newest_adopt, Nat.le_succ _⟩
    · exact ⟨transponder.newest_vacate, Nat.le_refl _⟩

/-- What a call comes to by one step that leaves the transponder behind as it is afterwards. -/
inductive Leads (after : Transponder) (reply : Reply) : Call → Call → Prop
  | sent {call : Call} (sends : call.task = .send) (result : Except TransponderFault Unit) :
      Leads after reply call (.sent result)
  | passed {call : Call} (receives : call.task = .receive) (pass : Pass) :
      Leads after reply call (.passed pass)
  | entered : Leads after reply .enter (.seek .send)
  | found {purpose : Purpose} {socket : Nat} (held : after.socket = some socket) :
      Leads after reply (.seek purpose) (.use purpose socket)
  | failed {purpose : Purpose} {socket : Nat} (failure : reply = .failure) :
      Leads after reply (.use purpose socket) (.renew purpose socket)
  | renewed {failed socket : Nat} (held : after.socket = some socket) :
      Leads after reply (.renew .send failed) (.resend socket)
  | announced : Leads after reply .announce .vacate
  | vacated : Leads after reply .vacate .stopped
  | stayed : Leads after reply .stopped .stopped

theorem next_leads (call : Call) :
    Leads (call.next transponder reply).1 reply call (call.next transponder reply).2 := by
  cases call with
  | enter =>
    rw [next]
    split
    · exact .sent rfl _
    · exact .entered
  | seek purpose =>
    rw [next, current]
    cases held : transponder.socket with
    | none => cases purpose <;> constructor <;> rfl
    | some socket => exact .found held
  | use purpose socket =>
    cases reply with
    | success bytes => cases purpose <;> constructor <;> rfl
    | failure =>
      rw [next_use_failure]
      split
      · cases purpose <;> constructor <;> rfl
      · exact .failed rfl
  | renew purpose failed =>
    rw [next]
    dsimp only
    cases reconnects : (transponder.reconnect failed reply.succeeds).2 with
    | error fault => cases purpose <;> constructor <;> rfl
    | ok socket =>
      cases purpose with
      | send => exact .renewed (socket_reconnect reconnects)
      | receive => exact .passed rfl _
  | resend _ | sent _ => exact .sent rfl _
  | passed _ => exact .passed rfl _
  | announce => exact .announced
  | vacate => exact .vacated
  | stopped => exact .stayed

namespace Leads

variable {after : Transponder} {reply : Reply} {call latter : Call}

/-- A call stays what it was made for. -/
theorem task_eq (leads : Leads after reply call latter) : latter.task = call.task := by
  cases leads with
  | sent sends => exact sends.symm
  | passed receives => exact receives.symm
  | _ => rfl

/-- A call takes its socket from the slot and keeps it. -/
theorem socket_mem (leads : Leads after reply call latter) {socket : Nat}
    (holds : socket ∈ latter.socket?) : socket ∈ call.socket? ∨ socket ∈ after.socket := by
  cases leads with
  | found held | renewed held => cases holds; exact .inr held
  | failed => exact .inl holds
  | _ => cases holds

end Leads

end Call

end TunnelFailover.Transponder

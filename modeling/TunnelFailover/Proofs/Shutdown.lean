import TunnelFailover.Proofs.Calls
/-!
This file lets any number of tasks share a transponder and make the steps of their calls in any order.
A stop that has returned is final, and a reconnection never takes another socket away than the one
that its own task saw fail.
-/

namespace TunnelFailover.Transponder

/-- The tasks have made these calls of a transponder so far, in the order of their beginning. -/
structure Scene where
  transponder : Transponder
  calls : List Call

/-- A task makes a call, or a call makes its next step and has been answered by the system. -/
inductive Move where
  | start (task : Task)
  | proceed (index : Nat) (reply : Reply)

namespace Scene

/-- No call has been made of a transponder. -/
def empty (transponder : Transponder) : Scene := ⟨transponder, []⟩

def step (scene : Scene) : Move → Scene
  | .start task => { scene with calls := scene.calls ++ [task.call] }
  | .proceed index reply =>
    match scene.calls[index]? with
    | some call =>
      let (transponder, latter) := call.next scene.transponder reply
      ⟨transponder, scene.calls.set index latter⟩
    | none => scene

/-- The tasks move in some order. -/
def after (scene : Scene) (schedule : List Move) : Scene := schedule.foldl step scene

theorem after_concat (scene : Scene) (schedule : List Move) (last : Move) :
    scene.after (schedule ++ [last]) = (scene.after schedule).step last := by
  simp [after]

/-- A move that is made by a call. -/
theorem step_proceed {scene : Scene} {index : Nat} {call : Call}
    (present : scene.calls[index]? = some call) (reply : Reply) :
    scene.step (.proceed index reply) =
      ⟨(call.next scene.transponder reply).1,
        scene.calls.set index (call.next scene.transponder reply).2⟩ := by
  rw [step, present]

theorem step_proceed_none {scene : Scene} {index : Nat} (absent : scene.calls[index]? = none)
    (reply : Reply) : scene.step (.proceed index reply) = scene := by
  rw [step, absent]

/-- A call is new after a move, or it has made the move itself, or the move has not touched it. -/
theorem call_of_step {scene : Scene} {move : Move} {index : Nat} {call : Call}
    (present : (scene.step move).calls[index]? = some call) :
    (∃ task, move = .start task ∧ index = scene.calls.length ∧ call = task.call) ∨
      (∃ former reply, move = .proceed index reply ∧ scene.calls[index]? = some former ∧
        call = (former.next scene.transponder reply).2) ∨
      scene.calls[index]? = some call := by
  cases move with
  | start task =>
    rw [step, List.getElem?_append] at present
    split at present
    · exact .inr (.inr present)
    · rename_i beyond
      obtain ⟨first, same⟩ := List.getElem?_eq_some_iff.1 present
      rw [List.length_singleton] at first
      rw [List.getElem_singleton] at same
      exact .inl ⟨task, rfl, by omega, same.symm⟩
  | proceed other reply =>
    cases made : scene.calls[other]? with
    | none =>
      rw [step_proceed_none made] at present
      exact .inr (.inr present)
    | some former =>
      rw [step_proceed made, List.getElem?_set] at present
      split at present
      · rename_i own
        subst own
        split at present
        · exact .inr (.inl ⟨former, reply, rfl, made, (Option.some.inj present).symm⟩)
        · cases present
      · exact .inr (.inr present)

/-- What holds of all tasks that share a transponder. The socket in the slot is newer than all others,
a stop that waits for the lock has told the others, and one that has returned has left no socket. -/
structure Sound (scene : Scene) : Prop where
  newest : scene.transponder.Newest
  opened : ∀ call ∈ scene.calls, ∀ socket ∈ call.socket?, socket < scene.transponder.opened
  told : ∀ call ∈ scene.calls, call.task = .stop →
    call = .announce ∨ scene.transponder.goingDown = true
  vacant : .stopped ∈ scene.calls → scene.transponder.socket = none

theorem Sound.stopped {scene : Scene} (sound : scene.Sound) (returned : .stopped ∈ scene.calls) :
    scene.transponder.goingDown = true ∧ scene.transponder.socket = none := by
  refine ⟨?_, sound.vacant returned⟩
  rcases sound.told _ returned rfl with absurd | down
  · cases absurd
  · exact down

/-- The call that makes a step keeps the scene sound. -/
theorem Sound.proceed {scene : Scene} (sound : scene.Sound) {index : Nat} {call : Call}
    (present : scene.calls[index]? = some call) (reply : Reply) :
    (scene.step (.proceed index reply)).Sound := by
  have member : call ∈ scene.calls := List.mem_of_getElem? present
  obtain ⟨newest, grows⟩ := Call.newest_next sound.newest reply call
  have leads := Call.next_leads scene.transponder reply call
  rw [step_proceed present]
  refine ⟨newest, fun other among socket holds => ?_, fun other among stops => ?_, fun among => ?_⟩
  · rcases List.mem_or_eq_of_mem_set among with old | rfl
    · exact Nat.lt_of_lt_of_le (sound.opened other old socket holds) grows
    · rcases leads.socket_mem holds with held | held
      · exact Nat.lt_of_lt_of_le (sound.opened call member socket held) grows
      · exact Nat.le_of_eq (newest socket held)
  · rcases List.mem_or_eq_of_mem_set among with old | rfl
    · exact (sound.told other old stops).imp_right (Call.goingDown_next · reply call)
    · right
      rcases sound.told call member (leads.task_eq.symm.trans stops) with rfl | down
      · rfl
      · exact Call.goingDown_next down reply call
  · have stopped (returned : .stopped ∈ scene.calls) :
        (call.next scene.transponder reply).1.socket = none := by
      obtain ⟨down, vacant⟩ := sound.stopped returned
      rw [Call.next_of_stopped down vacant, vacant]
    rcases List.mem_or_eq_of_mem_set among with old | latest
    · exact stopped old
    · rw [← latest] at leads
      cases leads with
      | vacated => rfl
      | stayed => exact stopped member

theorem Sound.step {scene : Scene} (sound : scene.Sound) (move : Move) :
    (scene.step move).Sound := by
  cases move with
  | start task =>
    have split {call : Call} (among : call ∈ scene.calls ++ [task.call]) :
        call ∈ scene.calls ∨ call = task.call := by
      rwa [List.mem_append, List.mem_singleton] at among
    refine ⟨sound.newest, fun call among socket holds => ?_, fun call among stops => ?_,
      fun among => ?_⟩
    · rcases split among with old | rfl
      · exact sound.opened call old socket holds
      · rw [Call.socket?_call] at holds
        cases holds
    · rcases split among with old | rfl
      · exact sound.told call old stops
      · rw [Call.task_call] at stops
        exact .inl (congrArg Task.call stops)
    · rcases split among with old | new
      · exact sound.vacant old
      · cases task <;> cases new
  | proceed index reply =>
    cases present : scene.calls[index]? with
    | none => rwa [step_proceed_none present]
    | some call => exact sound.proceed present reply

theorem Sound.after {scene : Scene} (sound : scene.Sound) (schedule : List Move) :
    (scene.after schedule).Sound := by
  induction schedule generalizing scene with
  | nil => exact sound
  | cons first rest inductionHypothesis => exact inductionHypothesis (sound.step first)

/-- A transponder that has just been connected is sound. -/
theorem sound_connect (former : Transponder) : (empty (former.connect true).1).Sound :=
  ⟨former.newest_adopt, fun _ among => (by cases among), fun _ among => (by cases among),
    fun among => (by cases among)⟩

/-- No move changes the transponder once a stop has returned. -/
theorem Sound.after_of_stopped {scene : Scene} (sound : scene.Sound)
    (returned : .stopped ∈ scene.calls) (later : List Move) :
    (scene.after later).transponder = scene.transponder := by
  obtain ⟨down, vacant⟩ := sound.stopped returned
  induction later using List.reverseRecOn with
  | nil => rfl
  | append_singleton earlier last inductionHypothesis =>
    rw [after_concat]
    cases last with
    | start task => exact inductionHypothesis
    | proceed index reply =>
      cases present : (scene.after earlier).calls[index]? with
      | none => rw [step_proceed_none present, inductionHypothesis]
      | some call =>
        rw [step_proceed present, inductionHypothesis]
        exact Call.next_of_stopped down vacant reply call

/-- A sending that begins after a stop has returned makes one step, in which it notices the stop. -/
theorem Sound.begins_of_stopped {scene : Scene} (sound : scene.Sound)
    (returned : .stopped ∈ scene.calls) (later : List Move) {index : Nat}
    (late : scene.calls.length ≤ index) {call : Call}
    (present : (scene.after later).calls[index]? = some call) (sends : call.task = .send) :
    call = .enter ∨ call = .sent (.error .shuttingDown) := by
  induction later using List.reverseRecOn generalizing call with
  | nil =>
    have absent : (scene.after []).calls[index]? = none := List.getElem?_eq_none late
    rw [absent] at present
    cases present
  | append_singleton earlier last inductionHypothesis =>
    have same := sound.after_of_stopped returned earlier
    rw [after_concat] at present
    rcases call_of_step present with
      ⟨task, -, -, rfl⟩ | ⟨former, reply, -, made, rfl⟩ | untouched
    · rw [Call.task_call] at sends
      exact .inl (congrArg Task.call sends)
    · have leads := Call.next_leads (scene.after earlier).transponder reply former
      rcases inductionHypothesis made (leads.task_eq.symm.trans sends) with rfl | rfl
      · right
        rw [Call.next, same, if_pos (sound.stopped returned).1]
      · exact .inr rfl
    · exact inductionHypothesis untouched sends

/-- A call that waits for the lock of a new socket saw the system fail to use the old one. -/
theorem saw_failure (transponder : Transponder) (schedule : List Move) {index : Nat}
    {purpose : Purpose} {failed : Nat}
    (waits : ((empty transponder).after schedule).calls[index]? = some (.renew purpose failed)) :
    ∃ earlier rest, schedule = earlier ++ .proceed index .failure :: rest ∧
      ((empty transponder).after earlier).calls[index]? = some (.use purpose failed) := by
  induction schedule using List.reverseRecOn with
  | nil => cases waits
  | append_singleton before last inductionHypothesis =>
    rw [after_concat] at waits
    rcases call_of_step waits with
      ⟨task, -, -, new⟩ | ⟨former, reply, rfl, made, latest⟩ | untouched
    · cases task <;> cases new
    · have leads := Call.next_leads ((empty transponder).after before).transponder reply former
      rw [← latest] at leads
      cases leads with
      | failed failure => exact ⟨before, [], by rw [failure], made⟩
    · obtain ⟨earlier, rest, rfl, used⟩ := inductionHypothesis untouched
      exact ⟨earlier, rest ++ [last], by simp, used⟩

/-- Only a stop and the reconnection of a call that saw a socket fail take the socket away. -/
theorem discards {scene : Scene} {move : Move} {socket : Nat}
    (held : scene.transponder.socket = some socket)
    (lost : (scene.step move).transponder.socket ≠ some socket) :
    ∃ index reply, move = .proceed index reply ∧
      (scene.calls[index]? = some .vacate ∨
        ∃ purpose, scene.calls[index]? = some (.renew purpose socket)) := by
  cases move with
  | start task => exact absurd held lost
  | proceed index reply =>
    cases present : scene.calls[index]? with
    | none =>
      rw [step_proceed_none present] at lost
      exact absurd held lost
    | some call =>
      refine ⟨index, reply, rfl, ?_⟩
      rw [step_proceed present] at lost
      rcases Call.next_transponder scene.transponder reply call with
        same | ⟨-, same⟩ | ⟨rfl, -⟩ | ⟨purpose, failed, rfl, -, spent, -⟩
      · rw [same] at lost
        exact absurd held lost
      · rw [same] at lost
        exact absurd held lost
      · exact .inl present
      · exact .inr ⟨purpose, by rw [present, spent socket held]⟩

end Scene

/-- Tasks call a connected transponder, and their calls make their steps in any order. Once a stop has
returned, there is no socket and nothing changes any more, whatever calls are still on their way, and
every sending that begins then is told of the stop at once. A socket is taken away only by a stop and
by the reconnection of a call that saw the system fail to use this very socket. A reconnection that
finds another socket in the slot, which is newer, leaves it there and hands it out, or tells of a stop. -/
theorem stop_final (former : Transponder) (schedule : List Move) :
    let connected := Scene.empty (former.connect true).1
    let scene := connected.after schedule
    (.stopped ∈ scene.calls → scene.transponder.socket = none ∧ ∀ later,
        let afterwards := scene.after later
        afterwards.transponder = scene.transponder ∧
          (∀ answers, afterwards.transponder.send answers =
            (afterwards.transponder, .error .shuttingDown)) ∧
          ∀ index call, scene.calls.length ≤ index → afterwards.calls[index]? = some call →
            call.task = .send →
            (call = .enter ∨ call = .sent (.error .shuttingDown)) ∧
              ∀ reply, call.next afterwards.transponder reply =
                (afterwards.transponder, .sent (.error .shuttingDown))) ∧
      (∀ move socket, scene.transponder.socket = some socket →
        (scene.step move).transponder.socket ≠ some socket →
        ∃ index reply, move = .proceed index reply ∧
          (scene.calls[index]? = some .vacate ∨
            ∃ purpose, scene.calls[index]? = some (.renew purpose socket))) ∧
      ∀ index purpose failed, scene.calls[index]? = some (.renew purpose failed) →
        (∃ earlier rest, schedule = earlier ++ .proceed index .failure :: rest ∧
          (connected.after earlier).calls[index]? = some (.use purpose failed)) ∧
        ∀ socket, scene.transponder.socket = some socket → socket ≠ failed →
          failed < socket ∧ ∀ binds, scene.transponder.reconnect failed binds =
            (scene.transponder,
              if scene.transponder.goingDown then .error .shuttingDown else .ok socket) := by
  intro connected scene
  have sound : scene.Sound := (Scene.sound_connect former).after schedule
  refine ⟨fun returned => ⟨(sound.stopped returned).2, fun later => ?_⟩,
    fun move socket held lost => Scene.discards held lost,
    fun index purpose failed waits => ⟨Scene.saw_failure _ schedule waits, ?_⟩⟩
  · have same := sound.after_of_stopped returned later
    have down := (sound.stopped returned).1
    refine ⟨same, fun answers => ?_, fun index call late present sends => ?_⟩
    · rw [same, send, if_pos down]
    · have begins := sound.begins_of_stopped returned later late present sends
      refine ⟨begins, fun reply => ?_⟩
      rcases begins with rfl | rfl
      · rw [Call.next, same, if_pos down]
      · rfl
  · intro socket held other
    have opened := sound.opened _ (List.mem_of_getElem? waits) failed rfl
    have newest := sound.newest socket held
    refine ⟨by omega, fun binds => ?_⟩
    split
    · rename_i down
      exact reconnect_of_goingDown down failed binds
    · rename_i running
      exact reconnect_of_newer (Bool.eq_false_iff.2 running) held other binds

/-- Two sendings see the first socket fail, and one of them binds a second socket. A stop has returned
before the other one gets the lock and before a third sending begins. -/
theorem stop_final_between_renewals :
    let address : SocketAddress := ⟨.v4 ⟨[127, 0, 0, 1], rfl⟩, 0, 9⟩
    let idle : Reply := .failure
    let fails (index : Nat) : List Move :=
      [.start .send, .proceed index idle, .proceed index idle, .proceed index .failure]
    let renewed := fails 0 ++ fails 1 ++ [.proceed 0 (.success [])]
    let stopped := renewed ++ [.start .stop, .proceed 2 idle, .proceed 2 idle]
    let later := [.proceed 1 (.success []), .start .send, .proceed 3 idle]
    let connected := Scene.empty ((new address).connect true).1
    let scene := connected.after stopped
    (connected.after renewed).transponder.socket = some 1 ∧
      (connected.after renewed).calls[1]? = some (.renew .send 0) ∧ 0 < 1 ∧
      .stopped ∈ scene.calls ∧ scene.calls[1]? = some (.renew .send 0) ∧
      (scene.after later).transponder = scene.transponder ∧
      (scene.after later).calls[3]? = some (.sent (.error .shuttingDown)) := by
  intro address idle fails renewed stopped later connected scene
  have held : (connected.after renewed).transponder.socket = some 1 := by decide
  have waits : (connected.after renewed).calls[1]? = some (.renew .send 0) := by decide
  have returned : .stopped ∈ scene.calls := by decide
  have stillWaits : scene.calls[1]? = some (.renew .send 0) := by decide
  have told : (scene.after later).calls[3]? = some (.sent (.error .shuttingDown)) := by decide
  clear_value later stopped renewed
  obtain ⟨-, -, renews⟩ := stop_final (new address) renewed
  obtain ⟨final, -, -⟩ := stop_final (new address) stopped
  exact ⟨held, waits, ((renews 1 .send 0 waits).2 1 held (by decide)).1, returned, stillWaits,
    ((final returned).2 later).1, told⟩

end TunnelFailover.Transponder

import Chip8.Proofs.Keypad
import Chip8.Proofs.Machine.KeyWait

/-! # From waiting to the first key

A machine that waits stands still but for its timers, its clock and the keys that go up
(`Machine.stalled`), for as long as no key of the keypad goes down. The first one that does is the
one that the waiting instruction gets, however many more keys move before that instruction runs.
-/

namespace Chip8

/-! ## Timers over many ticks -/

def Timers.lowered (timers : Timers) (ticks : Nat) : Timers :=
  ⟨max 0 (timers.delay - ticks), max 0 (timers.sound - ticks)⟩

theorem Timers.countDown_lowered (count : Int) (ticks : Nat) :
    countDown (max 0 (count - ticks)) = max 0 (count - (ticks + 1 : Nat)) := by
  unfold countDown
  by_cases running : 0 < max 0 (count - ticks)
  · rw [if_pos running]
    omega
  · rw [if_neg running]
    omega

theorem Timers.tick_lowered (timers : Timers) (ticks : Nat) :
    (timers.lowered ticks).tick = timers.lowered (ticks + 1) := by
  simp only [tick, lowered, countDown_lowered]

theorem Timers.lowered_zero {timers : Timers} (delay : 0 ≤ timers.delay)
    (sound : 0 ≤ timers.sound) : timers.lowered 0 = timers := by
  have first : max 0 (timers.delay - (0 : Nat)) = timers.delay := by omega
  have second : max 0 (timers.sound - (0 : Nat)) = timers.sound := by omega
  rw [lowered, first, second]

theorem Machine.isCount_lowered {count : Int} (small : IsCount count) (ticks : Nat) :
    IsCount (max 0 (count - ticks)) := by
  unfold IsCount at *
  omega

/-! ## Acts and calls that bring no key -/

/-- An act that neither brings a key to the keypad nor starts the machine anew. -/
def Act.Keyless : Act → Prop
  | .instruction | .tick | .release _ => True
  | .press number => ¬(0 ≤ number ∧ number < 16)
  | .reset | .load _ => False

/-- A call that neither brings a key to the keypad nor starts the machine anew. -/
def HostCall.Keyless : HostCall → Prop
  | .advance _ | .step _ | .release _ => True
  | .press number => ¬(0 ≤ number ∧ number < 16)
  | .reset | .load _ => False

def HostCall.MovesKey : HostCall → Prop
  | .press _ | .release _ => True
  | .advance _ | .step _ | .reset | .load _ => False

theorem Schedule.acts_keyless (schedule : Schedule) : ∀ act ∈ schedule.acts, act.Keyless := by
  intro act member
  obtain ⟨count, _, here⟩ := List.mem_flatMap.mp member
  rcases List.mem_cons.mp here with rfl | burst
  · trivial
  · rw [List.eq_of_mem_replicate burst]
    trivial

theorem Course.ofCycle_keyless (rate : Float) (clock : Clock) :
    ∀ act ∈ (Course.ofCycle rate clock).acts, act.Keyless := by
  intro act member
  unfold Course.ofCycle at member
  split at member
  · contradiction
  · dsimp only at member
    split at member
    · contradiction
    · rcases List.mem_append.mp member with ticks | last
      · rw [List.eq_of_mem_replicate ticks]
        trivial
      · rw [List.mem_singleton.mp last]
        trivial

/-- The acts of a call that brings no key bring none. -/
theorem HostCall.Keyless.course {call : HostCall} (keyless : call.Keyless) (rate : Float)
    (clock : Clock) : ∀ act ∈ (call.course rate clock).acts, act.Keyless := by
  cases call with
  | load | reset => exact absurd keyless id
  | advance elapsed => exact Schedule.acts_keyless _
  | step timePasses =>
    cases timePasses with
    | false => simp [HostCall.course, Act.Keyless]
    | true => exact Course.ofCycle_keyless rate clock
  | press number =>
    intro act member
    rw [List.mem_singleton.mp member]
    exact keyless
  | release number => simp [HostCall.course, Act.Keyless]

namespace Machine

variable {machine : Machine} {x : Register}

/-! ## Standing still -/

/-- A machine some ticks later, with other keys down and another clock. -/
def stalled (machine : Machine) (ticks : Nat) (keys : Vector Bool 16) (clock : Clock) : Machine :=
  { machine with
    timers := machine.timers.lowered ticks
    keypad := { machine.keypad with keys := keys }
    clock := clock }

theorem WellFormed.stalled_zero (well : machine.WellFormed) :
    machine.stalled 0 machine.keypad.keys machine.clock = machine := by
  rw [stalled, Timers.lowered_zero well.delay.1 well.sound.1]

theorem Pending.stalled (pending : machine.Pending x) (ticks : Nat) (keys : Vector Bool 16)
    (clock : Clock) : (machine.stalled ticks keys clock).Pending x where
  well := by
    have lowered : { machine with timers := machine.timers.lowered ticks }.WellFormed :=
      pending.well.withTimers (isCount_lowered pending.well.delay ticks)
        (isCount_lowered pending.well.sound ticks)
    exact lowered.withRest _ { machine.keypad with keys := keys } _ clock
  on := pending.on
  decodes := pending.decodes

/-- A waiting machine stands still under an act that brings no key. -/
theorem Pending.act_stalled (pending : machine.Pending x)
    (waiting : machine.keypad.wait = .waiting) {act : Act} (keyless : act.Keyless) (ticks : Nat)
    (keys : Vector Bool 16) (clock : Clock) :
    ∃ after, (machine.stalled ticks keys clock).act act =
      machine.stalled (ticks + [act].count .tick) after clock := by
  cases act with
  | reset | load => exact absurd keyless id
  | tick =>
    refine ⟨keys, ?_⟩
    rw [Machine.act, tick, Machine.stalled, Timers.tick_lowered]
    rfl
  | press number =>
    refine ⟨keys, ?_⟩
    rw [Machine.act, press, Keypad.press_outside keyless]
    rfl
  | release number =>
    have same := Keypad.release_sameWait (machine.stalled ticks keys clock).keypad number
    refine ⟨((machine.stalled ticks keys clock).keypad.release number).keys, ?_⟩
    rw [Machine.act, release, same.eq_withKeys]
    rfl
  | instruction =>
    have empty : (machine.stalled ticks keys clock).keypad.wait ≠ .captured := by
      rw [Machine.stalled, waiting]
      exact KeyWait.noConfusion
    refine ⟨keys, ?_⟩
    rw [act_instruction (pending.stalled ticks keys clock).next_eq, if_neg empty]
    rfl

theorem Pending.actAll_stalled (pending : machine.Pending x)
    (waiting : machine.keypad.wait = .waiting) {acts : List Act}
    (keyless : ∀ act ∈ acts, act.Keyless) (ticks : Nat) (keys : Vector Bool 16) (clock : Clock) :
    ∃ after, (machine.stalled ticks keys clock).actAll acts =
      machine.stalled (ticks + acts.count .tick) after clock := by
  induction acts generalizing ticks keys with
  | nil => exact ⟨keys, rfl⟩
  | cons act rest ih =>
    obtain ⟨next, first⟩ :=
      pending.act_stalled waiting (keyless act (List.mem_cons_self ..)) ticks keys clock
    obtain ⟨after, later⟩ := ih (fun other member => keyless other (List.mem_cons_of_mem _ member))
      (ticks + [act].count .tick) next
    have counted : ([act] ++ rest).count .tick = [act].count .tick + rest.count .tick :=
      List.count_append
    rw [List.singleton_append] at counted
    exact ⟨after, by rw [actAll_cons, first, later, counted, Nat.add_assoc]⟩

theorem Pending.serve_stalled (pending : machine.Pending x)
    (waiting : machine.keypad.wait = .waiting) {call : HostCall} (keyless : call.Keyless)
    (ticks : Nat) (keys : Vector Bool 16) (clock : Clock) :
    ∃ after later, (machine.stalled ticks keys clock).serve call =
      machine.stalled
        (ticks + ((machine.stalled ticks keys clock).courseOf call).acts.count .tick)
        after later := by
  obtain ⟨after, acted⟩ := pending.actAll_stalled waiting (keyless.course machine.rate clock) ticks
    keys (call.course machine.rate clock).clock
  refine ⟨after, (call.course machine.rate clock).clock, ?_⟩
  rw [(pending.stalled ticks keys clock).well.serve_eq]
  exact acted

/-- A waiting machine stands still as long as no key goes down. -/
theorem Pending.serveAll_stalled (pending : machine.Pending x)
    (waiting : machine.keypad.wait = .waiting) {calls : List HostCall}
    (keyless : ∀ call ∈ calls, call.Keyless) (ticks : Nat) (keys : Vector Bool 16)
    (clock : Clock) :
    ∃ after later, (machine.stalled ticks keys clock).serveAll calls =
      machine.stalled (ticks + (machine.stalled ticks keys clock).ticksDuring calls)
        after later := by
  induction calls generalizing ticks keys clock with
  | nil => exact ⟨keys, clock, rfl⟩
  | cons call rest ih =>
    obtain ⟨next, time, first⟩ :=
      pending.serve_stalled waiting (keyless call (List.mem_cons_self ..)) ticks keys clock
    obtain ⟨after, later, rested⟩ :=
      ih (fun other member => keyless other (List.mem_cons_of_mem _ member))
        (ticks + ((machine.stalled ticks keys clock).courseOf call).acts.count .tick) next time
    refine ⟨after, later, ?_⟩
    rw [ticksDuring, first, ← Nat.add_assoc]
    refine Eq.trans ?_ rested
    rw [← first]
    rfl

/-! ## The first key -/

/-- Once a key is captured no other takes its place. -/
theorem serveAll_captured {moves : List HostCall} (movesKey : ∀ call ∈ moves, call.MovesKey)
    (captured : machine.keypad.wait = .captured) :
    ∃ keys, machine.serveAll moves =
      { machine with keypad := { machine.keypad with keys := keys } } := by
  induction moves generalizing machine with
  | nil => exact ⟨machine.keypad.keys, rfl⟩
  | cons call rest ih =>
    have here : ∃ keys, machine.serve call =
        { machine with keypad := { machine.keypad with keys := keys } } := by
      cases call with
      | load | reset | step | advance => exact absurd (movesKey _ (List.mem_cons_self ..)) id
      | press number =>
        have past : machine.keypad.wait ≠ .waiting := by simp [captured]
        have same := Keypad.press_of_not_waiting past number
        exact ⟨_, by rw [serve, press, same.eq_withKeys]⟩
      | release number =>
        have same := Keypad.release_sameWait machine.keypad number
        exact ⟨_, by rw [serve, release, same.eq_withKeys]⟩
    obtain ⟨next, first⟩ := here
    have still : (machine.serve call).keypad.wait = .captured := by
      rw [first]
      exact captured
    obtain ⟨keys, later⟩ := ih (fun other member => movesKey other (List.mem_cons_of_mem _ member))
      still
    refine ⟨keys, later.trans ?_⟩
    rw [first]

/-- The first key that goes down is captured and handed out by the next instruction, which does
nothing else, whatever keys move in between. -/
theorem Pending.deliver (pending : machine.Pending x) (waiting : machine.keypad.wait = .waiting)
    (key : Key) {moves : List HostCall} (movesKey : ∀ call ∈ moves, call.MovesKey) :
    let pressed := (machine.press key.val).serveAll moves
    pressed = { machine with keypad := ⟨pressed.keypad.keys, .captured, key⟩ } ∧
      pressed.next = .ok { pressed with
        registers := pressed.registers.set x (UInt8.ofNat key.val)
        counter := lowWord (pressed.counter + 2)
        keypad := { pressed.keypad with wait := .idle } } := by
  intro pressed
  obtain ⟨wait, received⟩ := Keypad.press_of_waiting waiting key
  have first : machine.press key.val =
      { machine with keypad := ⟨(machine.keypad.press key.val).keys, .captured, key⟩ } := by
    have parts : machine.keypad.press key.val = ⟨(machine.keypad.press key.val).keys,
      (machine.keypad.press key.val).wait, (machine.keypad.press key.val).received⟩ := rfl
    rw [wait, received] at parts
    rw [press, ← parts]
  have captured : (machine.press key.val).keypad.wait = .captured := wait
  obtain ⟨keys, moved⟩ := serveAll_captured movesKey captured
  have last : pressed = { machine with keypad := ⟨keys, .captured, key⟩ } := by
    refine moved.trans ?_
    rw [first]
  have pressedPending : pressed.Pending x := by
    rw [last]
    exact ⟨pending.well.withRest _ _ _ _, KeyWait.noConfusion, pending.decodes⟩
  have done : pressed.keypad.wait = .captured := by rw [last]
  have given : pressed.keypad.received = key := by rw [last]
  refine ⟨by rw [last], ?_⟩
  rw [pressedPending.next_eq, if_pos done, answered, given]

/-- A machine that waits stands still, whatever time passes and whatever the program is, until a key
of the keypad goes down. Then the next instruction puts that key into its register, whatever keys
have moved since, moves on and ends the wait, and does nothing else. -/
theorem first_key_is_delivered {before : Machine} (reachable : before.Reachable)
    (waiting : before.keypad.wait = .waiting) {waits moves : List HostCall}
    (keyless : ∀ call ∈ waits, call.Keyless) (key : Key)
    (movesKey : ∀ call ∈ moves, call.MovesKey) :
    let waited := before.serveAll waits
    let pressed := (waited.press key.val).serveAll moves
    waited = { before with
        timers := before.timers.lowered (before.ticksDuring waits)
        keypad := { before.keypad with keys := waited.keypad.keys }
        clock := waited.clock } ∧
      pressed = { waited with keypad := ⟨pressed.keypad.keys, .captured, key⟩ } ∧
      ∃ x, before.wordAtCounter = waitWord x ∧
        pressed.next = .ok { pressed with
          registers := pressed.registers.set x (UInt8.ofNat key.val)
          counter := lowWord (pressed.counter + 2)
          keypad := { pressed.keypad with wait := .idle } } := by
  intro waited pressed
  have on : before.keypad.wait ≠ .idle := by
    rw [waiting]
    exact KeyWait.noConfusion
  obtain ⟨x, pending⟩ : ∃ x, before.Pending x := reachable.exists_pending [] on
  obtain ⟨keys, clock, still⟩ :=
    pending.serveAll_stalled waiting keyless 0 before.keypad.keys before.clock
  rw [pending.well.stalled_zero, Nat.zero_add] at still
  have stalled : waited = before.stalled (before.ticksDuring waits) keys clock := still
  have waitedPending : waited.Pending x := stalled ▸ pending.stalled _ keys clock
  have stillWaiting : waited.keypad.wait = .waiting := by
    rw [stalled]
    exact waiting
  obtain ⟨captured, delivered⟩ := waitedPending.deliver stillWaiting key movesKey
  have word : before.wordAtCounter = waitWord x :=
    (decode?_eq_awaitKey_iff before.wordAtCounter_lt).mp pending.decodes
  refine ⟨?_, captured, x, word, delivered⟩
  rw [stalled]
  rfl

theorem waitingForKey_gets_first_key :
    let waited := waitingForKey.serveAll [.advance 0.5, .press 16, .step false, .release 2]
    let pressed := (waited.press 5).serveAll [.press 7, .release 5]
    waitingForKey.keypad.wait = .waiting ∧ waited.counter = 0x200 ∧
      pressed.next = .ok { pressed with
        registers := pressed.registers.set 3 5
        counter := lowWord (pressed.counter + 2)
        keypad := { pressed.keypad with wait := .idle } } := by
  intro waited pressed
  have waiting : waitingForKey.keypad.wait = .waiting := by decide +kernel
  have begun : waitingForKey.counter = 0x200 := by decide +kernel
  have word : waitingForKey.wordAtCounter = waitWord 3 := by decide +kernel
  have keyless : ∀ call ∈ [HostCall.advance 0.5, .press 16, .step false, .release 2],
      call.Keyless := by
    simp [HostCall.Keyless]
  have movesKey : ∀ call ∈ [HostCall.press 7, .release 5], call.MovesKey := by
    simp [HostCall.MovesKey]
  obtain ⟨still, _, x, here, delivered⟩ :=
    first_key_is_delivered reachable_waitingForKey waiting keyless 5 movesKey
  have register : x = 3 := waitWord_injective (here.symm.trans word)
  rw [register] at delivered
  have stays := congrArg Machine.counter still
  dsimp only at stays
  exact ⟨waiting, stays.trans begun, delivered⟩

end Machine

end Chip8

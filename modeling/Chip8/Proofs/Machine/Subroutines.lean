import Chip8.Proofs.Machine.Course
import Chip8.Proofs.Machine.Frame

/-! # Calls and their returns

A call puts the address behind it on the stack. As long as the stack stays at least as deep as the
call has made it, no act touches that address or those below it (`actAll_keepsLive`): calls add
addresses above, returns take off what was added there, and a call that finds the stack full does
nothing. So the first return that reaches the depth of the call goes back behind it, and leaves the
addresses below as the call found them.
-/

namespace Chip8.Machine

variable {machine after : Machine} {base : List UInt16}

/-! ## Live addresses under acts -/

/-- An instruction leaves the live addresses as they are, adds one to them or takes the last one
off. -/
theorem WellFormed.next_live (well : machine.WellFormed) (went : machine.next = .ok after) :
    after.stack.live = machine.stack.live ∨
      (∃ address, after.stack.live = machine.stack.live ++ [address]) ∨
      ∃ address, machine.stack.live = after.stack.live ++ [address] := by
  rw [well.next_eq] at went
  unfold Machine.perform at went
  split at went
  · rcases execute_stack went with same | ⟨target, _, pushed⟩ | ⟨_, caller, popped⟩
    · left
      rw [same]
      rfl
    · right
      left
      exact ⟨_, Stack.live_push? pushed⟩
    · right
      right
      exact ⟨caller, Stack.live_pop? popped⟩
  · cases went
    exact .inl rfl

/-- Addresses at the bottom of the stack stay there through an act that does not make the stack
shallower than they are. -/
theorem WellFormed.act_keepsLive (well : machine.WellFormed) {act : Act} (goesOn : ¬act.Restarts)
    (below : base <+: machine.stack.live)
    (deep : base.length ≤ (machine.act act).stack.depth) :
    base <+: (machine.act act).stack.live := by
  cases act with
  | reset | load => exact absurd trivial goesOn
  | tick | press | release => exact below
  | instruction =>
    obtain ⟨after, went, _⟩ := well.next
    rw [act_instruction went] at deep ⊢
    rcases well.next_live went with same | ⟨address, added⟩ | ⟨address, taken⟩
    · rw [same]
      exact below
    · rw [added]
      exact below.trans (List.prefix_append ..)
    · -- What was taken off lay above the addresses, since as many are left as there are of them.
      rw [taken] at below
      rw [← after.stack.length_live] at deep
      exact List.prefix_of_prefix_length_le below (List.prefix_append ..) deep

/-- Addresses at the bottom of the stack stay there as long as the stack is never shallower than
they are. -/
theorem WellFormed.actAll_keepsLive (well : machine.WellFormed) {acts : List Act}
    (goesOn : ∀ act ∈ acts, ¬act.Restarts) (below : base <+: machine.stack.live)
    (deep : ∀ front, front <+: acts → base.length ≤ (machine.actAll front).stack.depth) :
    base <+: (machine.actAll acts).stack.live := by
  induction acts generalizing machine with
  | nil => exact below
  | cons act rest ih =>
    have first : base <+: (machine.act act).stack.live := by
      apply well.act_keepsLive (goesOn act (List.mem_cons_self ..)) below
      exact deep [act] (List.prefix_append [act] rest)
    apply ih (keptByHost_wellFormed.act well act) _ first
    · intro front isFront
      exact deep (act :: front) ((List.prefix_cons_inj act).mpr isFront)
    · intro other member
      exact goesOn other (List.mem_cons_of_mem _ member)

/-! ## The two ends of a call -/

theorem toNat_ofInt_lowWord (number : Int) :
    ((UInt16.ofInt (lowWord number)).toNat : Int) = lowWord number := by
  rw [Stack.toNat_ofInt, lowWord, lowWord, Int.emod_emod]

/-- A call that the stack has room for goes to its target and puts the address behind it on top. -/
theorem WellFormed.next_call (well : machine.WellFormed) {target : Address}
    (decodes : Instruction.decode? machine.wordAtCounter = some (.call target))
    (room : machine.stack.depth < stackCapacity) :
    ∃ stack, machine.next = .ok { machine with counter := target.val, stack := stack } ∧
      stack.live = machine.stack.live ++ [UInt16.ofInt (lowWord (machine.counter + 2))] := by
  rw [well.next_eq, Machine.perform, decodes]
  dsimp only [Machine.execute]
  cases pushed : machine.pastWord.stack.push? (UInt16.ofInt machine.pastWord.counter) with
  | none =>
    have full := Stack.push?_eq_none_iff.mp pushed
    rw [Stack.length_live] at full
    have capacity : machine.pastWord.stack.capacity = stackCapacity := well.stack
    have depth : machine.pastWord.stack.depth = machine.stack.depth := rfl
    omega
  | some stack => exact ⟨stack, rfl, Stack.live_push? pushed⟩

/-- A call that finds the stack full does nothing. -/
theorem WellFormed.next_call_of_full (well : machine.WellFormed) {target : Address}
    (decodes : Instruction.decode? machine.wordAtCounter = some (.call target))
    (full : machine.stack.depth = stackCapacity) : machine.next = .ok machine.pastWord := by
  have refused : machine.pastWord.stack.push? (UInt16.ofInt machine.pastWord.counter) = none := by
    apply Stack.push?_eq_none_iff.mpr
    rw [Stack.length_live]
    have capacity : machine.pastWord.stack.capacity = stackCapacity := well.stack
    have depth : machine.pastWord.stack.depth = machine.stack.depth := rfl
    omega
  rw [well.next_eq, Machine.perform, decodes]
  dsimp only [Machine.execute]
  rw [refused]

/-- A return takes the last live address off and goes there. -/
theorem WellFormed.next_ret (well : machine.WellFormed) {caller : UInt16}
    (decodes : Instruction.decode? machine.wordAtCounter = some .ret)
    (top : machine.stack.live = base ++ [caller]) :
    ∃ stack, machine.next = .ok { machine with counter := caller.toNat, stack := stack } ∧
      stack.live = base := by
  rw [well.next_eq, Machine.perform, decodes]
  dsimp only [Machine.execute]
  cases popped : machine.pastWord.stack.pop? with
  | none =>
    have empty : machine.stack.live = [] := Stack.live_of_pop?_eq_none popped
    simp [top] at empty
  | some taken =>
    obtain ⟨address, stack⟩ := taken
    have live : machine.stack.live = stack.live ++ [address] := Stack.live_pop? popped
    rw [top] at live
    obtain ⟨same, last⟩ := List.append_inj' live rfl
    cases last
    exact ⟨stack, rfl, same.symm⟩

/-! ## Calls and returns together -/

/-- A call that the stack has room for comes back. The first return that is executed at the depth
that the call has made, whatever ran in between, goes to the address behind the call and leaves the
stack with the addresses that were live before the call; nothing else changes. -/
theorem return_goes_behind_call {reached : Machine} (reachable : reached.Reachable)
    (before : List Act) {target : Address}
    (calls : Instruction.decode? (reached.actAll before).wordAtCounter = some (.call target))
    (room : (reached.actAll before).stack.depth < stackCapacity) :
    let caller := reached.actAll before
    ∃ called, caller.next = .ok called ∧
      called = { caller with counter := target.val, stack := called.stack } ∧
      called.stack.depth = caller.stack.depth + 1 ∧
      ∀ acts : List Act, (∀ act ∈ acts, ¬act.Restarts) →
        (∀ front, front <+: acts → caller.stack.depth < (called.actAll front).stack.depth) →
        let back := called.actAll acts
        back.stack.depth = caller.stack.depth + 1 →
        Instruction.decode? back.wordAtCounter = some .ret →
        ∃ returned, back.next = .ok returned ∧
          returned = { back with
            counter := lowWord (caller.counter + 2), stack := returned.stack } ∧
          returned.stack.depth = caller.stack.depth ∧
          returned.stack.live = caller.stack.live := by
  intro caller
  have well : caller.WellFormed :=
    keptByHost_wellFormed.actAll (keptByHost_wellFormed.reachable wellFormed_start reachable) before
  obtain ⟨stack, went, live⟩ := well.next_call calls room
  have depth : stack.depth = caller.stack.depth + 1 := by
    rw [← stack.length_live, live, List.length_append, Stack.length_live]
    rfl
  have calledWell : { caller with counter := (target.val : Int), stack := stack }.WellFormed := by
    obtain ⟨called, same, calledWell⟩ := well.next
    rw [went] at same
    cases same
    exact calledWell
  refine ⟨_, went, rfl, depth, ?_⟩
  intro acts goesOn deep back level decodes
  have below : stack.live <+: back.stack.live := by
    apply calledWell.actAll_keepsLive goesOn (List.prefix_refl stack.live)
    intro front isFront
    have deeper := deep front isFront
    rw [stack.length_live, depth]
    omega
  -- At the depth of the call nothing lies above the addresses that the call has left.
  have top : back.stack.live = stack.live := by
    apply (below.eq_of_length _).symm
    rw [Stack.length_live, Stack.length_live, depth, level]
  rw [live] at top
  obtain ⟨rest, returned, restLive⟩ :=
    (keptByHost_wellFormed.actAll calledWell acts).next_ret decodes top
  rw [toNat_ofInt_lowWord] at returned
  refine ⟨_, returned, rfl, ?_, restLive⟩
  rw [← rest.length_live, restLive, Stack.length_live]

/-- An instruction that calls itself does so as long as the stack has room, and changes nothing
else. -/
theorem WellFormed.actAll_callingItself (well : machine.WellFormed) {target : Address}
    (decodes : Instruction.decode? machine.wordAtCounter = some (.call target))
    (itself : (target.val : Int) = machine.counter) (count : Nat)
    (room : machine.stack.depth + count ≤ stackCapacity) :
    ∃ stack : Stack, stack.depth = machine.stack.depth + count ∧
      machine.actAll (List.replicate count .instruction) = { machine with stack := stack } := by
  induction count with
  | zero => exact ⟨machine.stack, rfl, rfl⟩
  | succ count ih =>
    obtain ⟨stack, depth, same⟩ := ih (by omega)
    have sameWell : { machine with stack := stack }.WellFormed := by
      rw [← same]
      exact keptByHost_wellFormed.actAll well _
    have free : stack.depth < stackCapacity := by omega
    obtain ⟨next, went, live⟩ := sameWell.next_call decodes free
    refine ⟨next, ?_, ?_⟩
    · rw [← next.length_live, live, List.length_append, Stack.length_live, depth]
      rfl
    · rw [List.replicate_succ', actAll_append, same, actAll_cons, act_instruction went, itself]
      rfl

/-- A machine whose program calls itself and returns behind that call. -/
def callingItself : Machine :=
  (start 500 .clip (.ofSeed 0)).serveAll [.load [0x22, 0x00, 0x00, 0xEE]]

theorem reachable_callingItself : callingItself.Reachable := ⟨500, .clip, .ofSeed 0, _, rfl⟩

theorem callingItself_comes_back :
    ∃ called returned, (callingItself.actAll (List.replicate 127 .instruction)).next = .ok called ∧
      called.stack.depth = 128 ∧
      (called.actAll [.instruction, .tick, .press 3]).next = .ok returned ∧
      returned.counter = 0x202 ∧ returned.stack.depth = 127 := by
  have reachable := reachable_callingItself
  have decodes : Instruction.decode? callingItself.wordAtCounter = some (.call 0x200) := by
    decide +kernel
  have behind : Instruction.decode? callingItself.pastWord.wordAtCounter = some .ret := by
    decide +kernel
  have begins : callingItself.counter = ((0x200 : Address).val : Int) := by decide +kernel
  have empty : callingItself.stack.depth = 0 := by decide +kernel
  -- From here on the program counts only by what stands at the counter and behind it.
  generalize callingItself = machine at *
  have well : machine.WellFormed := keptByHost_wellFormed.reachable wellFormed_start reachable
  obtain ⟨stack, depth, nested⟩ := well.actAll_callingItself decodes begins.symm 127
    (by rw [empty]; decide)
  rw [empty, Nat.zero_add] at depth
  have calls : Instruction.decode?
      (machine.actAll (List.replicate 127 .instruction)).wordAtCounter = some (.call 0x200) := by
    rw [nested]
    exact decodes
  have room : (machine.actAll (List.replicate 127 .instruction)).stack.depth < stackCapacity := by
    rw [nested]
    dsimp only
    rw [depth]
    decide
  obtain ⟨called, went, shape, deeper, comesBack⟩ := return_goes_behind_call reachable _ calls room
  rw [nested] at went shape deeper comesBack ⊢
  dsimp only at shape deeper comesBack
  rw [depth] at deeper comesBack
  obtain ⟨deep, rfl⟩ : ∃ deep : Stack, called = { machine with stack := deep } := by
    refine ⟨called.stack, ?_⟩
    rw [← begins] at shape
    exact shape
  dsimp only at deeper
  have deepWell : { machine with stack := deep }.WellFormed := by
    rw [← act_instruction went, ← nested]
    exact keptByHost_wellFormed.act (keptByHost_wellFormed.actAll well _) .instruction
  have dropped : { machine with stack := deep }.act .instruction =
      { machine.pastWord with stack := deep } :=
    act_instruction (deepWell.next_call_of_full decodes deeper)
  have back : { machine with stack := deep }.actAll [.instruction, .tick, .press 3] =
      ({ machine.pastWord with stack := deep }.tick).press 3 := by
    rw [actAll_cons, dropped]
    rfl
  have stays : ∀ front, front <+: [Act.instruction, .tick, .press 3] →
      127 < ({ machine with stack := deep }.actAll front).stack.depth := by
    intro front isFront
    have still : 127 < deep.depth := by omega
    simp only [List.prefix_cons_iff, List.prefix_nil] at isFront
    rcases isFront with rfl | ⟨_, rfl, rfl | ⟨_, rfl, rfl | ⟨_, rfl, rfl⟩⟩⟩
    · exact still
    all_goals
      rw [actAll_cons, dropped]
      exact still
  obtain ⟨returned, returns, same, level, _⟩ := comesBack [.instruction, .tick, .press 3]
    (by simp [Act.Restarts]) stays (by rw [back]; exact deeper) (by rw [back]; exact behind)
  have counter := congrArg Machine.counter same
  dsimp only at counter
  rw [begins] at counter
  exact ⟨_, returned, went, deeper, returns, counter, level⟩

end Chip8.Machine

import Chip8.Proofs.Machine.Course
import Chip8.Proofs.Machine.Frame

/-! # The pace of a machine

Time passes in a loop: as long as a tick is due, its interval is taken off the carried seconds, the
timers tick, and the cycles that the tick brings are worked off (`Passes`). No instruction touches
the clock or depends on it, so the clock goes its own way through that loop: how many ticks there
are depends on the carried seconds alone, whatever follows a tick (`EachTick.ticks_eq`), and how
many instructions follow each of them on the clock and the rate (`EachTick.counts_eq`). A call that
returns has come to the schedule that was computed before any instruction was executed
(`passes_of_advance`), and this goes on over whole rows of calls (`Runs.laps_eq`).
-/

namespace Chip8

namespace Machine

/-! ## The loop -/

def instructions (machine : Machine) : Nat → Except Fault Machine
  | 0 => .ok machine
  | count + 1 => do (← machine.instructions count).next

/-- A row of ticks, each with a number of instructions behind it. -/
def bursts (machine : Machine) : List Nat → Except Fault Machine
  | [] => .ok machine
  | count :: rest => do (← machine.tick.instructions count).bursts rest

def passTick (machine : Machine) : Machine :=
  { machine.tick with
    clock := { machine.clock with seconds := machine.clock.seconds - tickInterval } }

/-- The machine with some elapsed seconds that no tick has consumed yet. -/
def accrue (machine : Machine) (elapsed : Float) : Machine :=
  { machine with clock := { machine.clock with seconds := machine.clock.seconds + elapsed } }

/-- A loop that goes on as long as a tick is due. Behind each tick `body` happens, and the loop
collects the numbers that tell how much. -/
inductive EachTick (body : Machine → Nat → Machine → Prop) :
    Machine → List Nat → Machine → Prop where
  | done {machine : Machine} :
      Clock.tickDue machine.clock.seconds = false → EachTick body machine [] machine
  | tick {machine between after : Machine} {count : Nat} {counts : List Nat} :
      Clock.tickDue machine.clock.seconds = true → body machine.passTick count between →
      EachTick body between counts after → EachTick body machine (count :: counts) after

/-- Behind a tick of a machine that works, the cycles of the tick are owed. The whole ones among all
that are owed are worked off; a negative number of them asks for no instruction. -/
inductive WorksOff (perTick : Float) (machine : Machine) : Nat → Machine → Prop where
  | mk {whole : Int} {remaining : Float} {after : Machine} :
      Clock.settle (machine.clock.cycles + perTick) = .ok (whole, remaining) →
      { machine with clock := { machine.clock with cycles := remaining } }.instructions
        whole.toNat = .ok after →
      WorksOff perTick machine whole.toNat after

/-- Behind a tick of a machine that does not work, nothing happens. -/
def Rests (machine : Machine) (count : Nat) (after : Machine) : Prop := count = 0 ∧ after = machine

/-- Some seconds pass for a machine that works at its rate. -/
def Passes (machine : Machine) (elapsed : Float) (counts : List Nat) (after : Machine) : Prop :=
  EachTick (WorksOff (machine.rate / ticksPerSecond)) (machine.accrue elapsed) counts after

/-! ## Instructions and the clock -/

variable {machine after : Machine} {clock : Clock} {count : Nat} {counts : List Nat}

theorem instructions_withClock (machine : Machine) (clock : Clock) (count : Nat) :
    { machine with clock := clock }.instructions count =
      (machine.instructions count).map fun after => { after with clock := clock } := by
  induction count with
  | zero => rfl
  | succ count ih =>
    rw [instructions, ih, instructions]
    cases machine.instructions count with
    | error fault => rfl
    | ok between => exact next_withClock between clock

theorem instructions_settings (went : machine.instructions count = .ok after) :
    after.clock = machine.clock ∧ after.rate = machine.rate := by
  induction count generalizing after with
  | zero =>
    cases went
    exact ⟨rfl, rfl⟩
  | succ count ih =>
    obtain ⟨between, front, last⟩ := Outcome.bind_eq_ok.mp went
    obtain ⟨clock, rate⟩ := ih front
    obtain ⟨lastClock, lastRate, _⟩ := next_settings last
    exact ⟨lastClock.trans clock, lastRate.trans rate⟩

theorem bursts_withClock (machine : Machine) (clock : Clock) (counts : List Nat) :
    { machine with clock := clock }.bursts counts =
      (machine.bursts counts).map fun after => { after with clock := clock } := by
  induction counts generalizing machine with
  | nil => rfl
  | cons count rest ih =>
    have first := instructions_withClock machine.tick clock count
    change ({ machine.tick with clock := clock }.instructions count >>= _) = _
    rw [first, bursts]
    cases machine.tick.instructions count with
    | error fault => rfl
    | ok between => exact ih between

theorem bursts_of_withClock (ran : { machine with clock := clock }.bursts counts = .ok after) :
    machine.bursts counts = .ok { after with clock := machine.clock } ∧ after.clock = clock := by
  constructor
  · have reset := bursts_withClock { machine with clock := clock } machine.clock counts
    rw [ran] at reset
    exact reset
  · rw [bursts_withClock] at ran
    cases went : machine.bursts counts with
    | error fault =>
      rw [went] at ran
      contradiction
    | ok reached =>
      rw [went] at ran
      cases ran
      rfl

/-! ## Ticks -/

/-- The carried seconds after each tick that falls due, until no more do. -/
inductive TicksFrom : Float → List Float → Prop where
  | done {seconds : Float} : Clock.tickDue seconds = false → TicksFrom seconds []
  | tick {seconds : Float} {later : List Float} : Clock.tickDue seconds = true →
      TicksFrom (seconds - tickInterval) later →
      TicksFrom seconds ((seconds - tickInterval) :: later)

theorem ticksFrom_of_ticksAfter {before ticks : List Float} {seconds : Float}
    (ended : Clock.ticksAfter before seconds = (ticks, false)) :
    ∃ later, ticks = before.reverse ++ later ∧ TicksFrom seconds later := by
  fun_induction Clock.ticksAfter before seconds with
  | case1 before seconds due left less ih =>
    obtain ⟨later, same, rest⟩ := ih ended
    refine ⟨left :: later, ?_, .tick due rest⟩
    rw [same, List.reverse_cons, List.append_assoc, List.singleton_append]
  | case2 =>
    have unending := congrArg Prod.snd ended
    contradiction
  | case3 before seconds none =>
    cases ended
    exact ⟨[], (List.append_nil _).symm, .done (Bool.eq_false_iff.mpr none)⟩

theorem ticksFrom_of_ticks {seconds : Float} {ticks : List Float}
    (ended : Clock.ticks seconds = (ticks, false)) : TicksFrom seconds ticks := by
  obtain ⟨later, same, rest⟩ := ticksFrom_of_ticksAfter ended
  rw [List.reverse_nil, List.nil_append] at same
  exact same ▸ rest

/-- A schedule without a fault is what the loop of a working machine comes to. -/
theorem TicksFrom.eachTick {perTick seconds cycles : Float} {ticks : List Float}
    (falls : TicksFrom seconds ticks)
    (fine : (Schedule.ofTicks perTick ⟨seconds, cycles⟩ ticks).fault = none)
    (ran : machine.bursts (Schedule.ofTicks perTick ⟨seconds, cycles⟩ ticks).bursts = .ok after) :
    EachTick (WorksOff perTick) { machine with clock := ⟨seconds, cycles⟩ }
      (Schedule.ofTicks perTick ⟨seconds, cycles⟩ ticks).bursts
      { after with clock := (Schedule.ofTicks perTick ⟨seconds, cycles⟩ ticks).clock } := by
  induction falls generalizing machine cycles with
  | done none =>
    cases ran
    exact .done none
  | @tick seconds later due _ ih =>
    rw [Schedule.ofTicks] at fine ran ⊢
    dsimp only at fine ran ⊢
    cases settled : Clock.settle (cycles + perTick) with
    | error fault =>
      rw [settled] at fine
      contradiction
    | ok owed =>
      obtain ⟨whole, remaining⟩ := owed
      rw [settled] at fine ran
      obtain ⟨between, front, back⟩ := Outcome.bind_eq_ok.mp ran
      have works : WorksOff perTick
          { machine.tick with clock := ⟨seconds - tickInterval, cycles⟩ } whole.toNat
          { between with clock := ⟨seconds - tickInterval, remaining⟩ } := by
        refine .mk settled ?_
        have worked := instructions_withClock machine.tick ⟨seconds - tickInterval, remaining⟩
          whole.toNat
        rw [front] at worked
        exact worked
      exact .tick due works (ih fine back)

theorem repeat_tick (machine : Machine) (count : Nat) :
    Nat.repeat Machine.tick count machine.tick = (Nat.repeat Machine.tick count machine).tick := by
  induction count with
  | zero => rfl
  | succ count ih => exact congrArg Machine.tick ih

/-- Ticks that pass without any instruction are the loop of a machine that does not work. -/
theorem TicksFrom.eachTick_rests {seconds : Float} {ticks : List Float}
    (falls : TicksFrom seconds ticks) (machine : Machine) (cycles : Float) :
    EachTick Rests { machine with clock := ⟨seconds, cycles⟩ } (List.replicate ticks.length 0)
      (Nat.repeat Machine.tick ticks.length
        { machine with clock := ⟨ticks.getLastD seconds, cycles⟩ }) := by
  induction falls generalizing machine with
  | done none => exact .done none
  | @tick seconds later due _ ih =>
    rw [List.getLastD_cons, List.length_cons, Nat.repeat, ← repeat_tick]
    exact .tick due ⟨rfl, rfl⟩ (ih machine.tick)

end Machine

/-! ## Calls that return -/

namespace Progress

variable {progress : Progress} {count : Nat} {counts : List Nat} {schedule : Schedule}

/-- A run that has not met a fault behind an instruction has gone through it. -/
theorem ok_of_next (fine : progress.next.fault = none) :
    progress.fault = none ∧ progress.machine.next = .ok progress.next.machine := by
  obtain ⟨machine, notices, _ | fault⟩ := progress
  · refine ⟨rfl, ?_⟩
    cases went : machine.next with
    | ok after =>
      obtain ⟨reached, _⟩ := @next_of_ok ⟨machine, notices, none⟩ after rfl went
      rw [reached]
    | error cause =>
      unfold Machine.next at went
      unfold next at fine
      dsimp only [Option.isSome_none] at fine
      rw [if_neg Bool.false_ne_true] at fine
      cases fetched : machine.fetch with
      | error fault =>
        rw [fetched] at fine
        contradiction
      | ok fetch =>
        obtain ⟨word, past⟩ := fetch
        have performed : past.perform word = .error cause := by
          rw [fetched] at went
          exact went
        rw [fetched] at fine
        simp [perform, performed] at fine
  · contradiction

theorem ok_of_repeat (fine : (Nat.repeat next count progress).fault = none) :
    progress.fault = none ∧
      progress.machine.instructions count = .ok (Nat.repeat next count progress).machine := by
  induction count with
  | zero => exact ⟨fine, rfl⟩
  | succ count ih =>
    obtain ⟨between, last⟩ := ok_of_next fine
    obtain ⟨before, front⟩ := ih between
    refine ⟨before, ?_⟩
    rw [Machine.instructions, front]
    exact last

theorem ok_of_burst (fine : (progress.burst count).fault = none) :
    progress.fault = none ∧
      progress.machine.tick.instructions count = .ok (progress.burst count).machine := by
  unfold burst at fine ⊢
  obtain ⟨before, front⟩ := ok_of_repeat fine
  split at before
  · rename_i stopped
    rw [before] at stopped
    contradiction
  · rename_i going
    rw [if_neg going] at front ⊢
    exact ⟨before, front⟩

theorem ok_of_bursts (fine : (counts.foldl burst progress).fault = none) :
    progress.fault = none ∧
      progress.machine.bursts counts = .ok (counts.foldl burst progress).machine := by
  induction counts generalizing progress with
  | nil => exact ⟨fine, rfl⟩
  | cons count rest ih =>
    obtain ⟨between, back⟩ := ih fine
    obtain ⟨before, front⟩ := ok_of_burst between
    refine ⟨before, ?_⟩
    rw [Machine.bursts, front]
    exact back

theorem ok_of_follow (fine : (progress.follow schedule).fault = none) :
    schedule.fault = none ∧
      { progress.machine with clock := schedule.clock }.bursts schedule.bursts =
        .ok (progress.follow schedule).machine := by
  unfold follow at fine ⊢
  dsimp only at fine ⊢
  split at fine
  · rename_i stopped
    rw [fine] at stopped
    contradiction
  · rename_i going
    rw [if_neg going]
    exact ⟨fine, (ok_of_bursts (Option.not_isSome_iff_eq_none.mp going)).2⟩

end Progress

/-- A schedule without a fault goes on until no more ticks are due. -/
theorem Schedule.ofElapsed_eq {rate elapsed : Float} {clock : Clock}
    (fine : (Schedule.ofElapsed rate clock elapsed).fault = none) :
    ∃ ticks, Clock.ticks (clock.seconds + elapsed) = (ticks, false) ∧
      Schedule.ofElapsed rate clock elapsed =
        .ofTicks (rate / ticksPerSecond) ⟨clock.seconds + elapsed, clock.cycles⟩ ticks := by
  unfold Schedule.ofElapsed at fine ⊢
  dsimp only at fine ⊢
  generalize Clock.ticks (clock.seconds + elapsed) = ticked at fine ⊢
  obtain ⟨ticks, _ | _⟩ := ticked
  · refine ⟨ticks, rfl, ?_⟩
    rw [Bool.and_false, if_neg Bool.false_ne_true]
  · split at fine
    · contradiction
    · rename_i going
      simp only [fine, Option.isNone_none, Bool.and_self, not_true_eq_false] at going

namespace Machine

variable {machine other after otherAfter : Machine} {elapsed : Float}
  {counts otherCounts : List Nat}

/-- A call that returns has followed its schedule, which is what the loop comes to. -/
theorem passes_of_advance (fine : (machine.advance elapsed).fault = none) :
    let schedule := Schedule.ofElapsed machine.rate machine.clock elapsed
    let after := (machine.advance elapsed).machine
    Passes machine elapsed schedule.bursts after ∧
      machine.bursts schedule.bursts = .ok { after with clock := machine.clock } ∧
      after.clock = schedule.clock := by
  intro schedule after
  have scheduled : schedule.fault = none := (Progress.ok_of_follow fine).1
  have ran : { machine with clock := schedule.clock }.bursts schedule.bursts = .ok after :=
    (Progress.ok_of_follow fine).2
  obtain ⟨bursts, clock⟩ := bursts_of_withClock ran
  refine ⟨?_, bursts, clock⟩
  obtain ⟨ticks, ended, same⟩ := Schedule.ofElapsed_eq scheduled
  change schedule = _ at same
  have passed := (ticksFrom_of_ticks ended).eachTick (by rw [← same]; exact scheduled)
    (by rw [← same]; exact bursts)
  rw [← same, ← clock] at passed
  exact passed

/-! ## Two machines -/

theorem WorksOff.settings {perTick : Float} {count : Nat}
    (works : WorksOff perTick machine count after) :
    after.clock.seconds = machine.clock.seconds ∧ after.rate = machine.rate := by
  obtain ⟨_, worked⟩ := works
  obtain ⟨clock, rate⟩ := instructions_settings worked
  exact ⟨by rw [clock], rate⟩

/-- The cycles that are owed decide how many of them are worked off and how many remain. -/
theorem WorksOff.clock_eq {perTick : Float} {count otherCount : Nat}
    (works : WorksOff perTick machine count after)
    (otherWorks : WorksOff perTick other otherCount otherAfter)
    (same : machine.clock = other.clock) :
    count = otherCount ∧ after.clock = otherAfter.clock := by
  obtain ⟨settled, worked⟩ := works
  obtain ⟨otherSettled, otherWorked⟩ := otherWorks
  rw [same, otherSettled] at settled
  cases settled
  refine ⟨rfl, ?_⟩
  rw [(instructions_settings worked).1, (instructions_settings otherWorked).1, same]

/-- The carried seconds decide how many ticks there are, whatever happens behind them. -/
theorem EachTick.ticks_eq {body otherBody : Machine → Nat → Machine → Prop}
    (keeps : ∀ {before count after}, body before count after →
      after.clock.seconds = before.clock.seconds)
    (otherKeeps : ∀ {before count after}, otherBody before count after →
      after.clock.seconds = before.clock.seconds)
    (each : EachTick body machine counts after)
    (otherEach : EachTick otherBody other otherCounts otherAfter)
    (same : machine.clock.seconds = other.clock.seconds) :
    counts.length = otherCounts.length ∧ after.clock.seconds = otherAfter.clock.seconds := by
  induction each generalizing other otherCounts with
  | done none =>
    cases otherEach with
    | done => exact ⟨rfl, same⟩
    | tick due =>
      rw [same, due] at none
      contradiction
  | tick due happens _ ih =>
    cases otherEach with
    | done none =>
      rw [same, none] at due
      contradiction
    | tick _ otherHappens rest =>
      have left := congrArg (fun seconds => seconds - tickInterval) same
      have behind := (keeps happens).trans (left.trans (otherKeeps otherHappens).symm)
      obtain ⟨lengths, seconds⟩ := ih rest behind
      exact ⟨congrArg (fun length => length + 1) lengths, seconds⟩

/-- The clock decides how many instructions follow each tick. -/
theorem EachTick.counts_eq {perTick : Float}
    (each : EachTick (WorksOff perTick) machine counts after)
    (otherEach : EachTick (WorksOff perTick) other otherCounts otherAfter)
    (same : machine.clock = other.clock) :
    counts = otherCounts ∧ after.clock = otherAfter.clock := by
  induction each generalizing other otherCounts with
  | done none =>
    cases otherEach with
    | done => exact ⟨rfl, same⟩
    | tick due =>
      rw [same, due] at none
      contradiction
  | @tick machine _ _ _ _ due works _ ih =>
    cases otherEach with
    | done none =>
      rw [same, none] at due
      contradiction
    | tick _ otherWorks rest =>
      have ticked : machine.passTick.clock = other.passTick.clock := by
        rw [passTick, passTick, same]
      obtain ⟨count, clock⟩ := works.clock_eq otherWorks ticked
      obtain ⟨later, final⟩ := ih rest clock
      exact ⟨congrArg₂ List.cons count later, final⟩

theorem EachTick.rate_eq {perTick : Float}
    (each : EachTick (WorksOff perTick) machine counts after) :
    after.rate = machine.rate := by
  induction each with
  | done => rfl
  | tick _ works _ ih => exact ih.trans works.settings.2

theorem Passes.ticks_eq (passes : Passes machine elapsed counts after)
    (otherPasses : Passes other elapsed otherCounts otherAfter)
    (same : machine.clock.seconds = other.clock.seconds) :
    counts.length = otherCounts.length ∧ after.clock.seconds = otherAfter.clock.seconds := by
  have accrued := congrArg (fun seconds => seconds + elapsed) same
  exact EachTick.ticks_eq (fun works => works.settings.1) (fun works => works.settings.1) passes
    otherPasses accrued

theorem Passes.counts_eq (passes : Passes machine elapsed counts after)
    (otherPasses : Passes other elapsed otherCounts otherAfter)
    (same : machine.clock = other.clock) (rate : machine.rate = other.rate) :
    counts = otherCounts ∧ after.clock = otherAfter.clock ∧ after.rate = otherAfter.rate := by
  have rates := (EachTick.rate_eq passes).trans (rate.trans (EachTick.rate_eq otherPasses).symm)
  unfold Passes at passes otherPasses
  rw [rate] at passes
  have accrued : (machine.accrue elapsed).clock = (other.accrue elapsed).clock := by
    rw [accrue, accrue, same]
  obtain ⟨counts, clock⟩ := passes.counts_eq otherPasses accrued
  exact ⟨counts, clock, rates⟩

/-! ## Rows of calls -/

/-- A row of calls that let some times pass for a machine and return, with any keys moving in
between. Of each call it is collected how many instructions followed each tick. -/
inductive Runs : Machine → List Float → List (List Nat) → Prop where
  | done {machine : Machine} : Runs machine [] []
  | time {machine after : Machine} {elapsed : Float} {times : List Float} {counts : List Nat}
      {laps : List (List Nat)} :
      (machine.advance elapsed).fault = none → (machine.advance elapsed).machine = after →
      Passes machine elapsed counts after → Runs after times laps →
      Runs machine (elapsed :: times) (counts :: laps)
  | press {machine : Machine} {times : List Float} {laps : List (List Nat)} (number : Int) :
      Runs (machine.press number) times laps → Runs machine times laps
  | release {machine : Machine} {times : List Float} {laps : List (List Nat)} (number : Int) :
      Runs (machine.release number) times laps → Runs machine times laps

variable {times : List Float} {laps otherLaps : List (List Nat)}

theorem Runs.nil_laps (runs : Runs machine [] laps) : laps = [] := by
  generalize none : ([] : List Float) = times at runs
  induction runs with
  | done => rfl
  | time => contradiction
  | press _ _ ih | release _ _ ih => exact ih none

/-- The keys that move before some time passes touch neither the clock nor the rate. -/
theorem Runs.exists_lap (runs : Runs machine (elapsed :: times) laps) :
    ∃ before counts after rest, before.clock = machine.clock ∧ before.rate = machine.rate ∧
      Passes before elapsed counts after ∧ Runs after times rest ∧ laps = counts :: rest := by
  generalize some : elapsed :: times = all at runs
  induction runs with
  | done => contradiction
  | time _ _ passes runs =>
    cases some
    exact ⟨_, _, _, _, rfl, rfl, passes, runs, rfl⟩
  | press _ _ ih | release _ _ ih => exact ih some

/-- The carried seconds and the times that pass decide how many ticks there are in each call. -/
theorem Runs.ticks_eq (runs : Runs machine times laps) (otherRuns : Runs other times otherLaps)
    (same : machine.clock.seconds = other.clock.seconds) :
    laps.map List.length = otherLaps.map List.length := by
  induction runs generalizing other otherLaps with
  | done => rw [otherRuns.nil_laps]
  | time _ _ passes _ ih =>
    obtain ⟨before, _, after, rest, clock, _, otherPasses, otherRest, rfl⟩ := otherRuns.exists_lap
    obtain ⟨lengths, seconds⟩ := passes.ticks_eq otherPasses (by rw [same, clock])
    rw [List.map_cons, List.map_cons, lengths, ih otherRest seconds]
  | press _ _ ih | release _ _ ih => exact ih otherRuns same

/-- The clock, the rate and the times that pass decide how many instructions follow each tick. -/
theorem Runs.laps_eq (runs : Runs machine times laps) (otherRuns : Runs other times otherLaps)
    (same : machine.clock = other.clock) (rate : machine.rate = other.rate) : laps = otherLaps := by
  induction runs generalizing other otherLaps with
  | done => rw [otherRuns.nil_laps]
  | time _ _ passes _ ih =>
    obtain ⟨before, _, after, rest, clock, keptRate, otherPasses, otherRest, rfl⟩ :=
      otherRuns.exists_lap
    obtain ⟨counts, clocks, rates⟩ :=
      passes.counts_eq otherPasses (same.trans clock.symm) (rate.trans keptRate.symm)
    rw [counts, ih otherRest clocks rates]
  | press _ _ ih | release _ _ ih => exact ih otherRuns same rate

/-- The ticks that pass without any instruction are as many as a call lets pass, at any rate. -/
theorem Passes.consumeTicks_eq (passes : Passes machine elapsed counts after) (rate : Float)
    {ticks : List Float} (ended : Clock.ticks (machine.clock.seconds + elapsed) = (ticks, false)) :
    ∃ consumed,
      { machine.accrue elapsed with rate := rate }.consumeTicks = .ok (counts.length, consumed) ∧
        EachTick Rests { machine.accrue elapsed with rate := rate }
          (List.replicate counts.length 0) consumed ∧
        consumed.clock.seconds = after.clock.seconds := by
  have rests := (ticksFrom_of_ticks ended).eachTick_rests
    { machine.accrue elapsed with rate := rate } machine.clock.cycles
  obtain ⟨lengths, seconds⟩ := EachTick.ticks_eq
    (fun rested => by rw [rested.2]) (fun works => works.settings.1) rests passes rfl
  rw [List.length_replicate] at lengths
  refine ⟨_, ?_, lengths ▸ rests, seconds⟩
  dsimp only [consumeTicks, accrue]
  rw [ended, ← lengths]

/-- What the laps of some times come to at a rate and a clock, if there is a schedule for each. -/
def lapsOf? (rate : Float) (clock : Clock) : List Float → Option (List (List Nat))
  | [] => some []
  | elapsed :: times =>
    let schedule := Schedule.ofElapsed rate clock elapsed
    match schedule.fault with
    | some _ => none
    | none => (lapsOf? rate schedule.clock times).map fun laps => schedule.bursts :: laps

theorem WellFormed.advance_fault (well : machine.WellFormed) (elapsed : Float) :
    (machine.advance elapsed).fault =
      (Schedule.ofElapsed machine.rate machine.clock elapsed).fault :=
  well.faultOf_eq (.advance elapsed)

/-- A well-formed machine runs whenever there is a schedule for each of the times. -/
theorem WellFormed.runs (well : machine.WellFormed)
    (scheduled : lapsOf? machine.rate machine.clock times = some laps) :
    Runs machine times laps := by
  induction times generalizing machine laps with
  | nil =>
    cases scheduled
    exact .done
  | cons elapsed times ih =>
    rw [lapsOf?] at scheduled
    split at scheduled
    · contradiction
    · rename_i none
      have fine : (machine.advance elapsed).fault = .none :=
        (well.advance_fault elapsed).trans none
      obtain ⟨later, rest, rfl⟩ := Option.map_eq_some_iff.mp scheduled
      obtain ⟨passes, _, clock⟩ := passes_of_advance fine
      refine .time fine rfl passes (ih (keptByHost_wellFormed.serve well (.advance elapsed)) ?_)
      rw [EachTick.rate_eq passes, clock]
      exact rest

/-- The pace of a machine does not depend on its program. A call that lets some time pass and
returns has done nothing but follow a schedule, which is computed from the clock, the rate and the
time, and there are as many ticks in it as without any instruction at any rate. So what follows each
tick is the same in two machines whose clocks and rates agree, whatever their programs are and
whichever keys move, and the ticks are as many even where the rates differ. -/
theorem pace_ignores_program :
    (∀ (machine : Machine) (elapsed : Float), (machine.advance elapsed).fault = none →
      let schedule := Schedule.ofElapsed machine.rate machine.clock elapsed
      let after := (machine.advance elapsed).machine
      Passes machine elapsed schedule.bursts after ∧
      machine.bursts schedule.bursts = .ok { after with clock := machine.clock } ∧
      after.clock = schedule.clock ∧
      ∀ rate, ∃ consumed,
        { machine.accrue elapsed with rate := rate }.consumeTicks =
            .ok (schedule.bursts.length, consumed) ∧
          consumed.clock.seconds = after.clock.seconds) ∧
    ∀ (machine other : Machine) (times : List Float) (laps otherLaps : List (List Nat)),
      Runs machine times laps → Runs other times otherLaps →
      machine.clock.seconds = other.clock.seconds →
      laps.map List.length = otherLaps.map List.length ∧
        (machine.clock = other.clock → machine.rate = other.rate → laps = otherLaps) := by
  constructor
  · intro machine elapsed fine schedule after
    obtain ⟨passes, bursts, clock⟩ := passes_of_advance fine
    refine ⟨passes, bursts, clock, ?_⟩
    intro rate
    obtain ⟨ticks, ended, _⟩ := Schedule.ofElapsed_eq (Progress.ok_of_follow fine).1
    obtain ⟨consumed, consumes, _, seconds⟩ := passes.consumeTicks_eq rate ended
    exact ⟨consumed, consumes, seconds⟩
  · intro machine other times laps otherLaps runs otherRuns seconds
    constructor
    · exact runs.ticks_eq otherRuns seconds
    · intro clock rate
      exact runs.laps_eq otherRuns clock rate

/-- A machine whose program jumps to itself and nothing else. -/
def idling (rate : Float) : Machine :=
  (start rate .wrap (.ofSeed 0)).serve (.load [0x12, 0x00])

/-- A machine whose program draws random glyphs and calls itself until the stack is full. -/
def busy (rate : Float) : Machine :=
  (start rate .clip (.ofSeed 7)).serve
    (.load [0xC1, 0x3F, 0xF1, 0x29, 0xD1, 0x15, 0x22, 0x00])

theorem idling_fresh (rate : Float) :
    (idling rate).WellFormed ∧ (idling rate).clock = .zero ∧ (idling rate).rate = rate :=
  ⟨keptByHost_wellFormed.serve (wellFormed_start rate .wrap (.ofSeed 0)) _, rfl, rfl⟩

theorem busy_fresh (rate : Float) : (busy rate).clock = .zero ∧ (busy rate).rate = rate :=
  ⟨rfl, rfl⟩

theorem idling_keeps_pace_with_busy :
    (idling 500).bursts [8, 8, 9] =
        .ok { ((idling 500).advance 0.05).machine with clock := (idling 500).clock } ∧
      (∀ laps, Runs (busy 500) [0.05, 0.02] laps → laps = [[8, 8, 9], [8]]) ∧
      ∀ laps, Runs (busy 700) [0.05, 0.02] laps → laps.map List.length = [3, 1] := by
  obtain ⟨well, clock, rate⟩ := idling_fresh 500
  have scheduled : lapsOf? 500 .zero [0.05, 0.02] = some [[8, 8, 9], [8]] := by decide +kernel
  have runs : Runs (idling 500) [0.05, 0.02] [[8, 8, 9], [8]] := by
    rw [← rate, ← clock] at scheduled
    exact well.runs scheduled
  obtain ⟨paced, agree⟩ := pace_ignores_program
  refine ⟨?_, ?_, ?_⟩
  · have bursts : (Schedule.ofElapsed 500 .zero 0.05).bursts = [8, 8, 9] := by decide +kernel
    have fine : (Schedule.ofElapsed 500 .zero 0.05).fault = none := by decide +kernel
    rw [← rate, ← clock] at fine bursts
    rw [← bursts]
    exact (paced (idling 500) 0.05 ((well.advance_fault 0.05).trans fine)).2.1
  · intro laps busyRuns
    obtain ⟨busyClock, busyRate⟩ := busy_fresh 500
    have clocks := clock.trans busyClock.symm
    obtain ⟨_, same⟩ := agree _ _ _ _ _ runs busyRuns (congrArg Clock.seconds clocks)
    exact (same clocks (rate.trans busyRate.symm)).symm
  · intro laps busyRuns
    have clocks := clock.trans (busy_fresh 700).1.symm
    exact (agree _ _ _ _ _ runs busyRuns (congrArg Clock.seconds clocks)).1.symm

end Machine

end Chip8

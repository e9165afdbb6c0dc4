import Mathlib.Data.List.Basic
import Mathlib.Data.List.Induction
import Chip8.Keypad

/-! # The history of a keypad

What a keypad tells about its keys and hands out to a wait depends on nothing but the requests that
it has served. A key is down if it was last pressed and not released, and a wait gets the first key
that was pressed behind the first wait that is still open (`follows_history`).
-/

namespace Chip8

theorem Key.ofNumber?_val (key : Key) : Key.ofNumber? key.val = some key := by
  revert key
  decide

theorem Key.ofNumber?_eq_some {number : Int} {key : Key} :
    Key.ofNumber? number = some key ↔ number = key.val := by
  constructor
  · intro found
    unfold Key.ofNumber? at found
    split at found
    · cases found
      simp only [Fin.ofNat]
      omega
    · contradiction
  · rintro rfl
    exact key.ofNumber?_val

theorem Key.ofNumber?_isSome {number : Int} :
    (Key.ofNumber? number).isSome ↔ 0 ≤ number ∧ number < 16 := by
  unfold Key.ofNumber?
  split <;> simp_all

theorem Key.exists_eq_val {number : Int} (inside : 0 ≤ number ∧ number < 16) :
    ∃ key : Key, number = key.val := by
  obtain ⟨key, known⟩ := Option.isSome_iff_exists.mp (Key.ofNumber?_isSome.mpr inside)
  exact ⟨key, Key.ofNumber?_eq_some.mp known⟩

namespace Keypad

/-! ## Requests -/

inductive Request where
  | press (number : Int)
  | release (number : Int)
  | await
  | reset
deriving DecidableEq, Repr

def serve (keypad : Keypad) : Request → Keypad
  | .press number => keypad.press number
  | .release number => keypad.release number
  | .await => keypad.await.2
  | .reset => released

def after (history : List Request) : Keypad := history.foldl serve released

/-- What a wait is handed out that comes behind a history of requests. -/
def answer (history : List Request) : Option Key := (after history).await.1

theorem after_concat (history : List Request) (request : Request) :
    after (history ++ [request]) = (after history).serve request := by
  rw [after, List.foldl_append]
  rfl

/-! ## Keys that are down -/

theorem isPressed_released (number : Int) : released.isPressed number = false := by
  unfold isPressed
  split
  · exact Vector.getElem_replicate _
  · rfl

/-- Of the keypad, only the keys count. -/
theorem isPressed_congr {one other : Keypad} (same : one.keys = other.keys) (number : Int) :
    one.isPressed number = other.isPressed number := by
  rw [isPressed, isPressed, same]

theorem isPressed_of_set {before after : Keypad} {key : Key} {down : Bool}
    (keys : after.keys = before.keys.set key down key.isLt) (number : Int) :
    after.isPressed number = if number = key.val then down else before.isPressed number := by
  cases known : Key.ofNumber? number with
  | none =>
    have apart : number ≠ key.val := by
      rintro rfl
      rw [key.ofNumber?_val] at known
      contradiction
    rw [if_neg apart, isPressed, isPressed, known]
  | some other =>
    rw [Key.ofNumber?_eq_some.mp known, isPressed, isPressed, other.ofNumber?_val, keys]
    have numbers : (other.val : Int) = key.val ↔ key.val = other.val := by omega
    simp only [numbers]
    exact Vector.getElem_set key.isLt other.isLt

theorem press_outside {number : Int} (outside : ¬(0 ≤ number ∧ number < 16)) (keypad : Keypad) :
    keypad.press number = keypad := by
  rw [press, Key.ofNumber?, if_neg outside]

theorem release_outside {number : Int} (outside : ¬(0 ≤ number ∧ number < 16)) (keypad : Keypad) :
    keypad.release number = keypad := by
  rw [release, Key.ofNumber?, if_neg outside]

theorem isPressed_outside {number : Int} (outside : ¬(0 ≤ number ∧ number < 16))
    (keypad : Keypad) : keypad.isPressed number = false := by
  rw [isPressed, Key.ofNumber?, if_neg outside]

theorem keys_press (keypad : Keypad) (key : Key) :
    (keypad.press key.val).keys = keypad.keys.set key true key.isLt := by
  rw [press, key.ofNumber?_val]
  dsimp only
  split <;> rfl

theorem keys_release (keypad : Keypad) (key : Key) :
    (keypad.release key.val).keys = keypad.keys.set key false key.isLt := by
  rw [release, key.ofNumber?_val]

/-- A press puts down its key if there is one, and no other. -/
theorem isPressed_press (keypad : Keypad) (pressed number : Int) :
    (keypad.press pressed).isPressed number = true ↔
      (pressed = number ∧ 0 ≤ number ∧ number < 16) ∨ keypad.isPressed number = true := by
  by_cases inside : 0 ≤ pressed ∧ pressed < 16
  · obtain ⟨key, rfl⟩ := Key.exists_eq_val inside
    rw [isPressed_of_set (keypad.keys_press key)]
    by_cases here : number = key.val
    · simp [here, inside]
    · simp [here, Ne.symm here]
  · rw [press_outside inside]
    by_cases here : pressed = number
    · simp [← here, inside]
    · simp [here]

/-- A release puts up its key if there is one, and no other. -/
theorem isPressed_release (keypad : Keypad) (released number : Int) :
    (keypad.release released).isPressed number = true ↔
      keypad.isPressed number = true ∧ released ≠ number := by
  by_cases inside : 0 ≤ released ∧ released < 16
  · obtain ⟨key, rfl⟩ := Key.exists_eq_val inside
    rw [isPressed_of_set (keypad.keys_release key)]
    by_cases here : number = key.val
    · simp [here]
    · simp [here, Ne.symm here]
  · rw [release_outside inside]
    by_cases here : released = number
    · simp [← here, isPressed_outside inside]
    · simp [here]

theorem isPressed_await (keypad : Keypad) (number : Int) :
    keypad.await.2.isPressed number = keypad.isPressed number := by
  apply isPressed_congr
  unfold await
  split <;> rfl

/-- The last press or release of a number since the last reset was a press. -/
def LastPressed (number : Int) (history : List Request) : Prop :=
  ∃ before later, history = before ++ .press number :: later ∧
    ∀ request ∈ later, request ≠ .press number ∧ request ≠ .release number ∧ request ≠ .reset

theorem lastPressed_concat {number : Int} {history : List Request} {request : Request} :
    LastPressed number (history ++ [request]) ↔
      request = .press number ∨
        (LastPressed number history ∧ request ≠ .release number ∧ request ≠ .reset) := by
  constructor
  · rintro ⟨before, later, same, quiet⟩
    rcases later.eq_nil_or_concat' with rfl | ⟨earlier, last, rfl⟩
    · exact .inl (List.singleton_inj.mp (List.append_inj' same rfl).2)
    · rw [← List.cons_append, ← List.append_assoc] at same
      obtain ⟨rfl, final⟩ := List.append_inj' same rfl
      cases List.singleton_inj.mp final
      have here := quiet request (List.mem_append_right _ (List.mem_singleton_self _))
      refine .inr ⟨⟨before, earlier, rfl, ?_⟩, here.2⟩
      intro other member
      exact quiet other (List.mem_append_left _ member)
  · rintro (rfl | ⟨⟨before, later, rfl, quiet⟩, noRelease, noReset⟩)
    · exact ⟨history, [], rfl, by simp⟩
    · by_cases again : request = .press number
      · exact ⟨_, [], by rw [again], by simp⟩
      · refine ⟨before, later ++ [request], by simp, ?_⟩
        intro other member
        rcases List.mem_append.mp member with earlier | last
        · exact quiet other earlier
        · rw [List.mem_singleton.mp last]
          exact ⟨again, noRelease, noReset⟩

/-- A key is down exactly when it was the last thing that happened to it to be pressed. -/
theorem isPressed_after {history : List Request} {number : Int} :
    (after history).isPressed number = true ↔
      0 ≤ number ∧ number < 16 ∧ LastPressed number history := by
  induction history using List.reverseRecOn with
  | nil =>
    have dark : (after []).isPressed number = false := isPressed_released number
    simp [dark, LastPressed]
  | append_singleton history request ih =>
    rw [after_concat, lastPressed_concat]
    cases request with
    | press pressed =>
      rw [serve, isPressed_press, ih]
      simp
      tauto
    | release released =>
      rw [serve, isPressed_release, ih]
      simp [and_assoc]
    | await =>
      rw [serve, isPressed_await, ih]
      simp
    | reset =>
      rw [serve, isPressed_released]
      simp

/-! ## Waits -/

def Request.key? : Request → Option Key
  | .press number => Key.ofNumber? number
  | .release _ | .await | .reset => none

/-- Whether a request can have to do with what waits are handed out. -/
def Request.concernsWait : Request → Bool
  | .press number => (Key.ofNumber? number).isSome
  | .release _ => false
  | .await | .reset => true

/-- Some requests that reach back to the last reset or to the last wait that was handed out a key,
but not beyond. -/
structure Window (before window : List Request) : Prop where
  start : before = [] ∨ (∃ earlier, before = earlier ++ [.reset]) ∨
    ∃ earlier, before = earlier ++ [.await] ∧ (answer earlier).isSome
  noReset : .reset ∉ window
  unanswered : ∀ early late, window = early ++ .await :: late → answer (before ++ early) = none

/-- A window grows by a request that neither is a reset nor is handed out a key. -/
theorem Window.concat {before window : List Request} {request : Request}
    (cut : Window before window) (stays : request ≠ .reset)
    (unanswered : request = .await → answer (before ++ window) = none) :
    Window before (window ++ [request]) where
  start := cut.start
  noReset := by simp [cut.noReset, Ne.symm stays]
  unanswered := by
    intro early late same
    rcases late.eq_nil_or_concat' with rfl | ⟨late, last, rfl⟩
    · obtain ⟨rfl, here⟩ := List.append_inj' same rfl
      exact unanswered (List.singleton_inj.mp here)
    · rw [← List.cons_append, ← List.append_assoc] at same
      exact cut.unanswered early late (List.append_inj' same rfl).1

theorem Window.of_concat {before window : List Request} {request : Request}
    (cut : Window before (window ++ [request])) :
    Window before window ∧ request ≠ .reset ∧
      (request = .await → answer (before ++ window) = none) := by
  refine ⟨⟨cut.start, fun member => cut.noReset (List.mem_append_left _ member), ?_⟩, ?_, ?_⟩
  · rintro early late rfl
    exact cut.unanswered early (late ++ [request]) (by rw [List.append_assoc, List.cons_append])
  · rintro rfl
    exact cut.noReset (List.mem_append_right _ (List.mem_singleton_self _))
  · rintro rfl
    exact cut.unanswered window [] rfl

theorem Window.empty {before : List Request}
    (start : before = [] ∨ (∃ earlier, before = earlier ++ [.reset]) ∨
      ∃ earlier, before = earlier ++ [.await] ∧ (answer earlier).isSome) : Window before [] :=
  ⟨start, List.not_mem_nil, by simp⟩

/-- Every history ends with a window. -/
theorem exists_window (history : List Request) :
    ∃ before window, history = before ++ window ∧ Window before window := by
  induction history using List.reverseRecOn with
  | nil => exact ⟨[], [], rfl, .empty (.inl rfl)⟩
  | append_singleton history request ih =>
    obtain ⟨before, window, rfl, cut⟩ := ih
    by_cases again : request = .reset
    · refine ⟨before ++ window ++ [request], [], (List.append_nil _).symm, .empty (.inr (.inl ?_))⟩
      exact ⟨_, by rw [again]⟩
    · by_cases handed : request = .await ∧ (answer (before ++ window)).isSome
      · refine ⟨before ++ window ++ [request], [], (List.append_nil _).symm, ?_⟩
        exact .empty (.inr (.inr ⟨_, by rw [handed.1], handed.2⟩))
      · refine ⟨before, window ++ [request], List.append_assoc .., cut.concat again ?_⟩
        intro waits
        simpa [waits] using handed

/-- What the requests of a window leave of the wait. -/
inductive Stands (window : List Request) (keypad : Keypad) : Prop where
  | idle : .await ∉ window → keypad.wait = .idle → Stands window keypad
  | waiting {early later : List Request} : window = early ++ .await :: later → .await ∉ early →
      later.findSome? Request.key? = none → keypad.wait = .waiting → Stands window keypad
  | captured {early later : List Request} : window = early ++ .await :: later → .await ∉ early →
      later.findSome? Request.key? = some keypad.received → keypad.wait = .captured →
      Stands window keypad

/-- Two keypads that hand out the same to a wait, now and later on. -/
def SameWait (one other : Keypad) : Prop := one.wait = other.wait ∧ one.received = other.received

theorem SameWait.trans {one two three : Keypad} (first : SameWait one two)
    (second : SameWait two three) : SameWait one three :=
  ⟨first.1.trans second.1, first.2.trans second.2⟩

theorem SameWait.symm {one other : Keypad} (same : SameWait one other) : SameWait other one :=
  ⟨same.1.symm, same.2.symm⟩

theorem SameWait.eq_withKeys {one other : Keypad} (same : SameWait one other) :
    one = { other with keys := one.keys } := by
  rw [← same.1, ← same.2]

theorem release_sameWait (keypad : Keypad) (number : Int) :
    SameWait (keypad.release number) keypad := by
  unfold release
  split <;> exact ⟨rfl, rfl⟩

theorem press_of_not_waiting {keypad : Keypad} (other : keypad.wait ≠ .waiting) (number : Int) :
    SameWait (keypad.press number) keypad := by
  unfold press
  split
  · exact ⟨rfl, rfl⟩
  · rw [if_neg other]
    exact ⟨rfl, rfl⟩

/-- The first press of a key during a wait is captured. -/
theorem press_of_waiting {keypad : Keypad} (waiting : keypad.wait = .waiting) (key : Key) :
    (keypad.press key.val).wait = .captured ∧ (keypad.press key.val).received = key := by
  rw [press, key.ofNumber?_val]
  dsimp only
  rw [if_pos waiting]
  exact ⟨rfl, rfl⟩

theorem await_of_not_captured {keypad : Keypad} (other : keypad.wait ≠ .captured) :
    keypad.await = (none, { keypad with wait := .waiting }) := if_neg other

theorem await_of_captured {keypad : Keypad} (captured : keypad.wait = .captured) :
    keypad.await = (some keypad.received, { keypad with wait := .idle }) := if_pos captured

theorem Stands.released : Stands [] released := .idle List.not_mem_nil rfl

/-- One more request in the window. -/
theorem Stands.serve {window : List Request} {keypad : Keypad} {request : Request}
    (stands : Stands window keypad) (stays : request ≠ .reset)
    (unanswered : request = .await → keypad.await.1 = none) :
    Stands (window ++ [request]) (keypad.serve request) := by
  cases stands with
  | idle noWait wait =>
    have notWaiting : keypad.wait ≠ .waiting := by simp [wait]
    have notCaptured : keypad.wait ≠ .captured := by simp [wait]
    cases request with
    | press number =>
      exact .idle (by simp [noWait]) ((press_of_not_waiting notWaiting number).1.trans wait)
    | release number =>
      exact .idle (by simp [noWait]) ((release_sameWait keypad number).1.trans wait)
    | await =>
      refine .waiting (show window ++ [.await] = window ++ .await :: [] from rfl) noWait rfl ?_
      rw [Keypad.serve, await_of_not_captured notCaptured]
    | reset => exact absurd rfl stays
  | @waiting early later shape first none wait =>
    have longer : window ++ [request] = early ++ .await :: (later ++ [request]) := by
      rw [shape, List.append_assoc, List.cons_append]
    have keyless (quiet : request.key? = .none) :
        (later ++ [request]).findSome? Request.key? = .none := by
      rw [List.findSome?_append, none, List.findSome?_singleton, quiet]
      rfl
    have notCaptured : keypad.wait ≠ .captured := by simp [wait]
    cases request with
    | press number =>
      by_cases inside : 0 ≤ number ∧ number < 16
      · obtain ⟨key, rfl⟩ := Key.exists_eq_val inside
        obtain ⟨captured, received⟩ := press_of_waiting wait key
        refine .captured longer first ?_ captured
        rw [List.findSome?_append, none, List.findSome?_singleton, Option.none_or]
        exact key.ofNumber?_val.trans (congrArg some received.symm)
      · refine .waiting longer first (keyless ?_) ?_
        · exact if_neg inside
        · rw [Keypad.serve, press_outside inside, wait]
    | release number =>
      exact .waiting longer first (keyless rfl) ((release_sameWait keypad number).1.trans wait)
    | await =>
      refine .waiting longer first (keyless rfl) ?_
      rw [Keypad.serve, await_of_not_captured notCaptured]
    | reset => exact absurd rfl stays
  | @captured early later shape first key wait =>
    have longer : window ++ [request] = early ++ .await :: (later ++ [request]) := by
      rw [shape, List.append_assoc, List.cons_append]
    have still : (later ++ [request]).findSome? Request.key? = some keypad.received := by
      rw [List.findSome?_append, key, Option.some_or]
    have notWaiting : keypad.wait ≠ .waiting := by simp [wait]
    cases request with
    | press number =>
      obtain ⟨sameWait, received⟩ := press_of_not_waiting notWaiting number
      exact .captured longer first (still.trans (congrArg some received.symm))
        (sameWait.trans wait)
    | release number =>
      obtain ⟨sameWait, received⟩ := release_sameWait keypad number
      exact .captured longer first (still.trans (congrArg some received.symm))
        (sameWait.trans wait)
    | await =>
      have handed := unanswered rfl
      rw [await_of_captured wait] at handed
      contradiction
    | reset => exact absurd rfl stays

/-- Behind a window the wait stands as the requests in the window say. -/
theorem Window.stands {before window : List Request} (cut : Window before window) :
    Stands window (after (before ++ window)) := by
  induction window using List.reverseRecOn with
  | nil =>
    rw [List.append_nil]
    rcases cut.start with rfl | ⟨earlier, rfl⟩ | ⟨earlier, rfl, handed⟩
    · exact .released
    · rw [after_concat]
      exact .released
    · rw [after_concat]
      by_cases captured : (after earlier).wait = .captured
      · exact .idle List.not_mem_nil (by rw [Keypad.serve, await_of_captured captured])
      · rw [answer, await_of_not_captured captured] at handed
        contradiction
  | append_singleton window request ih =>
    obtain ⟨shorter, stays, unanswered⟩ := cut.of_concat
    rw [← List.append_assoc, after_concat]
    exact (ih shorter).serve stays unanswered

/-- What stands behind some occurrence of a request stands behind its first one. -/
theorem suffix_of_first {request : Request} {early late other rest : List Request}
    (first : request ∉ early) (same : early ++ request :: late = other ++ request :: rest) :
    rest <:+ late := by
  rcases List.append_eq_append_iff.mp same with ⟨between, rfl, later⟩ | ⟨between, rfl, later⟩
  · cases between with
    | nil =>
      cases later
      exact List.suffix_rfl
    | cons head between =>
      rw [(List.cons.inj later).2]
      exact ⟨between ++ [request], by simp⟩
  · cases between with
    | nil =>
      cases later
      exact List.suffix_rfl
    | cons head between =>
      refine absurd (List.mem_append_right _ ?_) first
      rw [(List.cons.inj later).1]
      exact List.mem_cons_self ..

theorem eq_of_first {request : Request} {early late other rest : List Request}
    (first : request ∉ early) (otherFirst : request ∉ other)
    (same : early ++ request :: late = other ++ request :: rest) : rest = late := by
  have short := suffix_of_first first same
  have long := suffix_of_first otherFirst same.symm
  exact short.eq_of_length (Nat.le_antisymm short.length_le long.length_le)

/-- A wait is handed out the first key that was pressed behind the first wait of the window. -/
theorem Stands.await_eq_some {window : List Request} {keypad : Keypad}
    (stands : Stands window keypad) {key : Key} :
    keypad.await.1 = some key ↔
      ∃ early later, window = early ++ .await :: later ∧ .await ∉ early ∧
        later.findSome? Request.key? = some key := by
  cases stands with
  | idle noWait wait =>
    rw [await_of_not_captured (by simp [wait])]
    refine ⟨nofun, ?_⟩
    rintro ⟨early, later, rfl, _⟩
    exact absurd (List.mem_append_right _ (List.mem_cons_self ..)) noWait
  | @waiting early later shape first none wait =>
    rw [await_of_not_captured (by simp [wait])]
    refine ⟨nofun, ?_⟩
    rintro ⟨other, rest, same, otherFirst, found⟩
    rw [eq_of_first first otherFirst (shape.symm.trans same), none] at found
    contradiction
  | @captured early later shape first known wait =>
    rw [await_of_captured wait]
    constructor
    · rintro ⟨⟩
      exact ⟨early, later, shape, first, known⟩
    · rintro ⟨other, rest, same, otherFirst, found⟩
      rw [eq_of_first first otherFirst (shape.symm.trans same), known] at found
      exact found

theorem Request.key?_isSome {request : Request} :
    request.key?.isSome ↔ ∃ number, request = .press number ∧ 0 ≤ number ∧ number < 16 := by
  cases request <;> simp [key?, Key.ofNumber?_isSome]

/-- A wait is handed out a key exactly when one was pressed behind a wait of the window. -/
theorem Window.answer_isSome {before window : List Request} (cut : Window before window) :
    (answer (before ++ window)).isSome ↔
      ∃ early later number, window = early ++ .await :: later ∧ .press number ∈ later ∧
        0 ≤ number ∧ number < 16 := by
  rw [Option.isSome_iff_exists]
  constructor
  · rintro ⟨key, handed⟩
    obtain ⟨early, later, same, _, found⟩ := cut.stands.await_eq_some.mp handed
    obtain ⟨request, member, pressed⟩ := List.exists_of_findSome?_eq_some found
    obtain ⟨number, rfl, inside⟩ := Request.key?_isSome.mp (Option.isSome_of_eq_some pressed)
    exact ⟨early, later, number, same, member, inside⟩
  · rintro ⟨early, later, number, same, member, inside⟩
    have waits : Request.await ∈ window := by simp [same]
    obtain ⟨front, back, shape, first⟩ := List.eq_append_cons_of_mem waits
    have behind : later <:+ back := suffix_of_first first (shape.symm.trans same)
    have found : (back.findSome? Request.key?).isSome :=
      List.findSome?_isSome_iff.mpr
        ⟨_, behind.mem member, Request.key?_isSome.mpr ⟨number, rfl, inside⟩⟩
    obtain ⟨key, known⟩ := Option.isSome_iff_exists.mp found
    exact ⟨key, cut.stands.await_eq_some.mpr ⟨front, back, shape, first, known⟩⟩

/-! ## Requests that do not count -/

theorem SameWait.await {one other : Keypad} (same : SameWait one other) :
    one.await.1 = other.await.1 ∧ SameWait one.await.2 other.await.2 := by
  by_cases captured : one.wait = .captured
  · rw [await_of_captured captured, await_of_captured (same.1.symm.trans captured)]
    exact ⟨congrArg some same.2, rfl, same.2⟩
  · rw [await_of_not_captured captured,
      await_of_not_captured fun other => captured (same.1.trans other)]
    exact ⟨rfl, rfl, same.2⟩

theorem SameWait.press {one other : Keypad} (same : SameWait one other) (number : Int) :
    SameWait (one.press number) (other.press number) := by
  by_cases inside : 0 ≤ number ∧ number < 16
  · obtain ⟨key, rfl⟩ := Key.exists_eq_val inside
    by_cases waiting : one.wait = .waiting
    · obtain ⟨wait, received⟩ := press_of_waiting waiting key
      obtain ⟨otherWait, otherReceived⟩ := press_of_waiting (same.1.symm.trans waiting) key
      exact ⟨wait.trans otherWait.symm, received.trans otherReceived.symm⟩
    · have otherBusy : other.wait ≠ .waiting := fun late => waiting (same.1.trans late)
      exact (press_of_not_waiting waiting key.val).trans
        (same.trans (press_of_not_waiting otherBusy key.val).symm)
  · rw [press_outside inside, press_outside inside]
    exact same

theorem SameWait.serve {one other : Keypad} (same : SameWait one other) (request : Request) :
    SameWait (one.serve request) (other.serve request) := by
  cases request with
  | press number => exact same.press number
  | release number =>
    exact (release_sameWait one number).trans (same.trans (release_sameWait other number).symm)
  | await => exact same.await.2
  | reset => exact ⟨rfl, rfl⟩

/-- Releases and presses of numbers without a key leave the wait alone. -/
theorem sameWait_serve_of_unconcerned {request : Request}
    (apart : request.concernsWait = false) (keypad : Keypad) :
    SameWait (keypad.serve request) keypad := by
  cases request with
  | press number =>
    have outside : ¬(0 ≤ number ∧ number < 16) := by
      rw [← Key.ofNumber?_isSome]
      exact Bool.eq_false_iff.mp apart
    rw [serve, press_outside outside]
    exact ⟨rfl, rfl⟩
  | release number => exact release_sameWait keypad number
  | await | reset => contradiction

theorem sameWait_foldl_filter {one other : Keypad} (same : SameWait one other)
    (history : List Request) :
    SameWait (history.foldl serve one)
      ((history.filter Request.concernsWait).foldl serve other) := by
  induction history generalizing one other with
  | nil => exact same
  | cons request rest ih =>
    cases concerned : request.concernsWait with
    | true =>
      rw [List.filter_cons_of_pos concerned]
      exact ih (same.serve request)
    | false =>
      rw [List.filter_cons_of_neg (by simp [concerned])]
      exact ih ((sameWait_serve_of_unconcerned concerned one).trans same)

/-- What a wait is handed out depends on nothing but the requests that concern waits. -/
theorem answer_filter (history : List Request) :
    answer (history.filter Request.concernsWait) = answer history := by
  have same : SameWait (after history) (after (history.filter Request.concernsWait)) :=
    sameWait_foldl_filter ⟨rfl, rfl⟩ history
  exact same.await.1.symm

/-! ## The whole law -/

/-- A keypad is a function of the requests that it has served since it was fresh. A number's key is
down exactly when there is one and the last press or release of it since the last reset was a press.
Since the last reset and the last wait that was handed out a key, a wait is handed out a key exactly
when one was pressed behind a wait, and then it is the first that was pressed behind the first of
these. Releases and presses of numbers without a key never make a difference to that. -/
theorem follows_history (history : List Request) :
    (∀ number, (after history).isPressed number = true ↔
      0 ≤ number ∧ number < 16 ∧ LastPressed number history) ∧
    (∃ before window, history = before ++ window ∧ Window before window) ∧
    (∀ before window, history = before ++ window → Window before window →
      ((answer history).isSome ↔
        ∃ early later number, window = early ++ .await :: later ∧ .press number ∈ later ∧
          0 ≤ number ∧ number < 16) ∧
      ∀ key, answer history = some key ↔
        ∃ early later, window = early ++ .await :: later ∧ .await ∉ early ∧
          later.findSome? Request.key? = some key) ∧
    ∀ other, other.filter Request.concernsWait = history.filter Request.concernsWait →
      answer other = answer history := by
  refine ⟨fun number => isPressed_after, exists_window history, ?_, ?_⟩
  · rintro before window rfl cut
    exact ⟨cut.answer_isSome, fun key => cut.stands.await_eq_some⟩
  · intro other same
    rw [← answer_filter, same, answer_filter]

/-- Requests that end with a wait that is handed out a key. -/
def handedOut : List Request := [.await, .press 5, .await]

/-- Requests with a key in front of the wait and, behind it, a number without a key and two keys. -/
def twoKeysLate : List Request := [.press 3, .await, .press 16, .press 11, .press 2]

theorem twoKeysLate_follow_history :
    Window handedOut twoKeysLate ∧ answer (handedOut ++ twoKeysLate) = some 11 ∧
      (after (handedOut ++ twoKeysLate)).isPressed 2 = true ∧
      answer ([.release 7] ++ handedOut ++ twoKeysLate) = some 11 := by
  have start : Window handedOut [] :=
    .empty (.inr (.inr ⟨[.await, .press 5], rfl, by decide⟩))
  have cut : Window handedOut
      ([] ++ [.press 3] ++ [.await] ++ [.press 16] ++ [.press 11] ++ [.press 2]) :=
    ((((start.concat (by decide) (by decide)).concat (by decide) (by decide)).concat
      (by decide) (by decide)).concat (by decide) (by decide)).concat (by decide) (by decide)
  obtain ⟨down, _, waits, others⟩ := follows_history (handedOut ++ twoKeysLate)
  have handed : answer (handedOut ++ twoKeysLate) = some 11 :=
    ((waits handedOut twoKeysLate rfl cut).2 11).mpr
      ⟨[.press 3], [.press 16, .press 11, .press 2], rfl, by decide, by decide⟩
  refine ⟨cut, handed, ?_, (others _ (by decide)).trans handed⟩
  exact (down 2).mpr ⟨by decide, by decide, handedOut ++ [.press 3, .await, .press 16, .press 11],
    [], rfl, by simp⟩

end Keypad

end Chip8

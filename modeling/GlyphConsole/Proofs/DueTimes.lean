import Mathlib.Data.List.DropRight
import GlyphConsole.Proofs.Blinking

/-!
# GlyphConsole.Proofs.DueTimes — when the timer is due, and what comes of it

The reference is the exact time since the last call that was due, `timeSince`: a sum without
bound, over a log that says of each call what time it brought and what it came to.  The timer
`Keeps` a log if the time it holds is that sum.  Its sum is cut off at the largest word, but no
interval is longer than that, so the cut makes no call due too early or too late
(`advance_cases`).

What a call comes to decides nothing about the next one except whether it was due: a call that
finds the console held, or input waiting, begins a new interval like any other (`Keeps.called`).
So the timer keeps the log of a whole run, whatever its calls found (`Keeps.live`).
-/

namespace GlyphConsole

set_option autoImplicit false

/-! ## The exact time -/

/-- All these times together, however much that is. -/
def totalTime : List UInt32 → Nat
  | [] => 0
  | time :: rest => time.toNat + totalTime rest

theorem totalTime_concat (times : List UInt32) (time : UInt32) :
    totalTime (times ++ [time]) = totalTime times + time.toNat := by
  induction times with
  | nil => exact Nat.add_comm _ _
  | cons first rest ih => rw [List.cons_append, totalTime, totalTime, ih, Nat.add_assoc]

section Log

variable {α : Type} {due : α → Bool} {log : List (UInt32 × α)}

/-- The time that calls have brought since the last one that was due. -/
def timeSince (due : α → Bool) (log : List (UInt32 × α)) : Nat :=
  totalTime ((log.rtakeWhile fun call => !due call.2).map Prod.fst)

theorem timeSince_nil (due : α → Bool) : timeSince due [] = 0 := by
  rw [timeSince, List.rtakeWhile_nil]
  rfl

theorem timeSince_concat_of_due {answer : α} (now : due answer = true) (elapsed : UInt32) :
    timeSince due (log ++ [(elapsed, answer)]) = 0 := by
  rw [timeSince, List.rtakeWhile_concat_neg _ _ _ (by simp [now])]
  rfl

theorem timeSince_concat_of_early {answer : α} (early : due answer = false) (elapsed : UInt32) :
    timeSince due (log ++ [(elapsed, answer)]) = timeSince due log + elapsed.toNat := by
  rw [timeSince, List.rtakeWhile_concat_pos _ _ _ (by simp [early]), List.map_append]
  exact totalTime_concat _ _

end Log

/-! ## The timer -/

namespace BlinkTimer

variable {α : Type} {due : α → Bool} {log : List (UInt32 × α)} {timer : BlinkTimer}

/-- A call is due, and the time starts again from zero, or the time is not up, and all of it is
added. -/
theorem advance_cases (timer : BlinkTimer) (elapsed : UInt32) :
    (timer.interval.toNat ≤ timer.elapsed.toNat + elapsed.toNat ∧
        timer.advance elapsed = ({ timer with elapsed := 0 }, true)) ∨
      (timer.elapsed.toNat + elapsed.toNat < timer.interval.toNat ∧
        ∃ total : UInt32, total.toNat = timer.elapsed.toNat + elapsed.toNat ∧
          timer.advance elapsed = ({ timer with elapsed := total }, false)) := by
  have capped := toNat_addCapped timer.elapsed elapsed
  have word : timer.interval.toNat < UInt32.size := timer.interval.toNat_lt
  have reached : timer.interval ≤ addCapped timer.elapsed elapsed ↔
      timer.interval.toNat ≤ timer.elapsed.toNat + elapsed.toNat := by
    rw [UInt32.le_iff_toNat_le, capped]
    omega
  by_cases now : timer.interval ≤ addCapped timer.elapsed elapsed
  · exact .inl ⟨reached.1 now, if_pos now⟩
  · have early := Nat.not_le.1 (mt reached.2 now)
    refine .inr ⟨early, addCapped timer.elapsed elapsed, ?_, if_neg now⟩
    omega

/-- The time that the timer holds is the exact time since the last call that was due, and it is
short of the interval unless it is nothing. -/
structure Keeps (timer : BlinkTimer) (due : α → Bool) (log : List (UInt32 × α)) : Prop where
  elapsed : timer.elapsed.toNat = timeSince due log
  short : timer.elapsed = 0 ∨ timer.elapsed < timer.interval

theorem keeps_new (interval : UInt32) (due : α → Bool) :
    ({ interval } : BlinkTimer).Keeps due [] := ⟨(timeSince_nil due).symm, .inl rfl⟩

/-- A call is due exactly if the exact time has reached the interval. -/
theorem Keeps.due_iff (keeps : timer.Keeps due log) (elapsed : UInt32) :
    (timer.advance elapsed).2 = true ↔
      timer.interval.toNat ≤ timeSince due log + elapsed.toNat := by
  rw [← keeps.elapsed]
  rcases timer.advance_cases elapsed with ⟨reached, advanced⟩ | ⟨early, total, -, advanced⟩
  · simp [advanced, reached]
  · simp [advanced, early]

/-- The timer keeps the log with one call more, if that says whether the call was due. -/
theorem Keeps.advance (keeps : timer.Keeps due log) {elapsed : UInt32} {answer : α}
    (logged : due answer = (timer.advance elapsed).2) :
    (timer.advance elapsed).1.Keeps due (log ++ [(elapsed, answer)]) := by
  rcases timer.advance_cases elapsed with ⟨reached, advanced⟩ | ⟨early, total, grown, advanced⟩
  · rw [advanced] at logged ⊢
    exact ⟨(timeSince_concat_of_due logged elapsed).symm, .inl rfl⟩
  · rw [advanced] at logged ⊢
    constructor
    · rw [timeSince_concat_of_early logged, ← keeps.elapsed]
      exact grown
    · exact .inr (UInt32.lt_iff_toNat_lt.2 (grown ▸ early))

theorem elapsed_advance_of_due {elapsed : UInt32} (now : (timer.advance elapsed).2 = true) :
    (timer.advance elapsed).1.elapsed = 0 := by
  rcases timer.advance_cases elapsed with ⟨-, advanced⟩ | ⟨-, total, -, advanced⟩
  · rw [advanced]
  · rw [advanced] at now
    cases now

@[simp] theorem interval_advance (timer : BlinkTimer) (elapsed : UInt32) :
    (timer.advance elapsed).1.interval = timer.interval := by
  rcases timer.advance_cases elapsed with ⟨-, advanced⟩ | ⟨-, total, -, advanced⟩ <;> rw [advanced]

/-- Let time pass call by call; the log says which calls were due. -/
def advances (timer : BlinkTimer) : List UInt32 → BlinkTimer × List (UInt32 × Bool)
  | [] => (timer, [])
  | elapsed :: rest =>
      let first := timer.advance elapsed
      let after := first.1.advances rest
      (after.1, (elapsed, first.2) :: after.2)

theorem Keeps.advances {log : List (UInt32 × Bool)} (keeps : timer.Keeps id log)
    (times : List UInt32) :
    (timer.advances times).1.Keeps id (log ++ (timer.advances times).2) ∧
      (timer.advances times).1.interval = timer.interval := by
  induction times generalizing timer log with
  | nil => exact ⟨by simpa [BlinkTimer.advances] using keeps, rfl⟩
  | cons elapsed rest ih =>
      have first : (timer.advance elapsed).1.Keeps id
          (log ++ [(elapsed, (timer.advance elapsed).2)]) := keeps.advance rfl
      obtain ⟨kept, same⟩ := ih first
      rw [List.append_assoc] at kept
      exact ⟨kept, same.trans (interval_advance timer elapsed)⟩

end BlinkTimer

/-- The call was due, whatever it found. -/
def BlinkOutcome.isDue (outcome : BlinkOutcome) : Bool := outcome != .notDue

/-! ## A station where nobody works -/

/-- What happens next at a station on whose console nobody works. -/
inductive Moment where
  /-- The timer calls, and finds the console held or free. -/
  | call (t : Tick) (held : Bool)
  /-- A console is installed, on this surface. -/
  | install (con : Console) (picture : Picture)

/-- A toggle flips the flag of the cursor. -/
theorem Console.visible_toggle (con : Console) :
    (con.toggle false).1.1.viewport.visible = !con.viewport.visible := by
  have flipped := congrArg (·.1.viewport) (con.act_eq (.toggle false))
  have viewport : (con.toggle false).1.1.viewport = con.viewport.flipCursor :=
    flipped.trans con.viewport_penAfter_toggle
  rw [viewport]
  rfl

namespace Station

/-- A call of the timer that finds the console held or free, if there is one. -/
def call (s : Station) (t : Tick) (held : Bool) : Station × BlinkOutcome :=
  { s with display := { s.display with held } }.tick t

/-- Let moments pass; the log says what became of the calls of the timer. -/
def live (s : Station) : List Moment → Station × List (UInt32 × BlinkOutcome)
  | [] => (s, [])
  | .call t held :: rest =>
      let called := s.call t held
      let after := called.1.live rest
      (after.1, (t.elapsed, called.2) :: after.2)
  | .install con picture :: rest =>
      { s with display := s.display.install con, picture }.live rest

/-- The cursor is to be seen or not, if there is a console. -/
def visible? (s : Station) : Option Bool := s.display.ask fun con => con.viewport.visible

theorem timer_call (s : Station) (t : Tick) (held : Bool) :
    (s.call t held).1.timer = (s.timer.advance t.elapsed).1 := by
  unfold call tick BlinkTimer.onTimer
  dsimp only
  split <;> rfl

/-- What a call comes to, and what becomes of the flag of the cursor. -/
theorem call_cases (s : Station) (t : Tick) (held : Bool) :
    ((s.timer.advance t.elapsed).2 = false ∧ (s.call t held).2 = .notDue ∧
        (s.call t held).1.visible? = s.visible?) ∨
      ((s.timer.advance t.elapsed).2 = true ∧ (held = true ∨ s.display.console = none) ∧
        (s.call t held).2 = .busy ∧ (s.call t held).1.visible? = s.visible?) ∨
      ((s.timer.advance t.elapsed).2 = true ∧ held = false ∧ s.display.console ≠ none ∧
        t.pending = true ∧ (s.call t held).2 = .suppressed ∧
        (s.call t held).1.visible? = s.visible?) ∨
      ((s.timer.advance t.elapsed).2 = true ∧ held = false ∧ s.display.console ≠ none ∧
        t.pending = false ∧ ∃ visible, (s.call t held).2 = .toggled visible ∧
          (s.call t held).1.visible? = some visible ∧ s.visible? = some (!visible)) := by
  obtain ⟨timer, ⟨console, engaged⟩, picture⟩ := s
  unfold call tick BlinkTimer.onTimer
  dsimp only
  cases (timer.advance t.elapsed).2 with
  | false => exact .inl ⟨rfl, rfl, rfl⟩
  | true =>
      cases held with
      | true => exact .inr (.inl ⟨rfl, .inl rfl, rfl, rfl⟩)
      | false =>
          cases console with
          | none => exact .inr (.inl ⟨rfl, .inr rfl, rfl, rfl⟩)
          | some con =>
              have there : some con ≠ none := Option.some_ne_none con
              cases t.pending with
              | true => exact .inr (.inr (.inl ⟨rfl, rfl, there, rfl, rfl, rfl⟩))
              | false =>
                  refine .inr (.inr (.inr
                    ⟨rfl, rfl, there, rfl, !con.viewport.visible, rfl, ?_, ?_⟩))
                  · exact congrArg some con.visible_toggle
                  · exact congrArg some (Bool.not_not _).symm

/-- Each outcome has one cause, and the flag of the cursor changes with the last one only. -/
theorem call_iff (s : Station) (t : Tick) (held : Bool) {due free : Prop}
    (exact : (s.timer.advance t.elapsed).2 = true ↔ due)
    (unused : held = false ∧ s.display.console ≠ none ↔ free) :
    ((s.call t held).2 = .notDue ↔ ¬due) ∧
    ((s.call t held).2 = .busy ↔ due ∧ ¬free) ∧
    ((s.call t held).2 = .suppressed ↔ due ∧ free ∧ t.pending = true) ∧
    ((∃ visible, (s.call t held).2 = .toggled visible) ↔ due ∧ free ∧ t.pending = false) ∧
    (∀ visible, (s.call t held).2 = .toggled visible →
      (s.call t held).1.visible? = some visible ∧ s.visible? = some (!visible)) ∧
    ((∀ visible, (s.call t held).2 ≠ .toggled visible) →
      (s.call t held).1.visible? = s.visible?) := by
  rw [← exact]
  rcases s.call_cases t held with ⟨early, outcome, flag⟩ | ⟨now, engaged, outcome, flag⟩ |
    ⟨now, unheld, there, pending, outcome, flag⟩ |
    ⟨now, unheld, there, pending, visible, outcome, flag, before⟩
  · simpa [outcome, early] using flag
  · have taken : ¬free := by
      intro here
      obtain ⟨unheld, there⟩ := unused.2 here
      rcases engaged with engaged | missing
      · rw [unheld] at engaged
        cases engaged
      · exact there missing
    simpa [outcome, now, taken] using flag
  · have here : free := unused.1 ⟨unheld, there⟩
    simpa [outcome, now, here, pending] using flag
  · have here : free := unused.1 ⟨unheld, there⟩
    simpa [outcome, now, here, pending] using And.intro flag before

/-- The outcome of a call says whether the call was due. -/
theorem isDue_call (s : Station) (t : Tick) (held : Bool) :
    (s.call t held).2.isDue = (s.timer.advance t.elapsed).2 := by
  rcases s.call_cases t held with ⟨due, outcome, -⟩ | ⟨due, -, outcome, -⟩ |
    ⟨due, -, -, -, outcome, -⟩ | ⟨due, -, -, -, _, outcome, -⟩ <;> rw [due, outcome] <;> rfl

end Station

namespace BlinkTimer

variable {s : Station} {log : List (UInt32 × BlinkOutcome)}

theorem Keeps.called (keeps : s.timer.Keeps BlinkOutcome.isDue log) (t : Tick) (held : Bool) :
    (s.call t held).1.timer.Keeps BlinkOutcome.isDue
      (log ++ [(t.elapsed, (s.call t held).2)]) := by
  rw [s.timer_call]
  exact keeps.advance (s.isDue_call t held)

theorem Keeps.live (keeps : s.timer.Keeps BlinkOutcome.isDue log) (moments : List Moment) :
    (s.live moments).1.timer.Keeps BlinkOutcome.isDue (log ++ (s.live moments).2) ∧
      (s.live moments).1.timer.interval = s.timer.interval := by
  induction moments generalizing s log with
  | nil => exact ⟨by simpa [Station.live] using keeps, rfl⟩
  | cons moment rest ih =>
      cases moment with
      | call t held =>
          obtain ⟨kept, same⟩ := ih (keeps.called t held)
          rw [List.append_assoc] at kept
          rw [s.timer_call, interval_advance] at same
          exact ⟨kept, same⟩
      | install con picture =>
          exact ih (s := { s with display := s.display.install con, picture }) keeps

end BlinkTimer

/-- **The timer is due when the exact time is up, and the cursor blinks if it can.**  For every
interval and whatever times the calls bring, a call is due exactly if the times since the last
call that was due, its own included, add up to the interval or more, and between calls the timer
holds nothing or less than the interval.

Let the timer call at a station, at any times, while the console is held or free or not there
yet, and with or without input waiting, and let nobody else work there.  Every call comes to one
thing:

* it is not due, by the exact time since the last call that was;
* it is due, and finds no console, or one that is held;
* it is due, the console is there and free, and input is waiting;
* it is due, the console is there and free, and no input is waiting.  Then the flag of the cursor
  is flipped, and the outcome reports the new flag; at no other call does the flag change.

A call that is due leaves the timer with nothing, whatever it comes to, so that a whole interval
has to pass before the next one. -/
theorem blinks_on_time (interval : UInt32) (display : Display) (picture : Picture) :
    (∀ times : List UInt32,
      let ran := BlinkTimer.advances { interval } times
      (ran.1.elapsed = 0 ∨ ran.1.elapsed < interval) ∧
      ∀ elapsed, (ran.1.advance elapsed).2 = true ↔
        interval.toNat ≤ timeSince id ran.2 + elapsed.toNat) ∧
    ∀ moments : List Moment,
      let lived := Station.live { timer := { interval }, display, picture } moments
      let s := lived.1
      (s.timer.elapsed = 0 ∨ s.timer.elapsed < interval) ∧
      ∀ (t : Tick) (held : Bool),
        let called := s.call t held
        let due := interval.toNat ≤ timeSince BlinkOutcome.isDue lived.2 + t.elapsed.toNat
        let free := held = false ∧ s.display.console ≠ none
        (called.2 = .notDue ↔ ¬due) ∧
        (called.2 = .busy ↔ due ∧ ¬free) ∧
        (called.2 = .suppressed ↔ due ∧ free ∧ t.pending = true) ∧
        ((∃ visible, called.2 = .toggled visible) ↔ due ∧ free ∧ t.pending = false) ∧
        (∀ visible, called.2 = .toggled visible →
          called.1.visible? = some visible ∧ s.visible? = some (!visible)) ∧
        ((∀ visible, called.2 ≠ .toggled visible) → called.1.visible? = s.visible?) ∧
        (due → called.1.timer.elapsed = 0) := by
  constructor
  · intro times ran
    obtain ⟨keeps, same⟩ := (BlinkTimer.keeps_new interval id).advances times
    change ran.1.Keeps id ran.2 at keeps
    change ran.1.interval = interval at same
    refine ⟨same ▸ keeps.short, ?_⟩
    intro elapsed
    rw [keeps.due_iff, same]
  · intro moments lived s
    obtain ⟨keeps, same⟩ := BlinkTimer.Keeps.live
      (s := { timer := { interval }, display, picture })
      (BlinkTimer.keeps_new interval BlinkOutcome.isDue) moments
    change s.timer.Keeps BlinkOutcome.isDue lived.2 at keeps
    change s.timer.interval = interval at same
    refine ⟨same ▸ keeps.short, ?_⟩
    intro t held called due free
    have exact : (s.timer.advance t.elapsed).2 = true ↔ due := by
      rw [keeps.due_iff, same]
    obtain ⟨notDue, busy, suppressed, toggled, flipped, still⟩ := s.call_iff t held exact Iff.rfl
    refine ⟨notDue, busy, suppressed, toggled, flipped, still, ?_⟩
    intro now
    show (s.call t held).1.timer.elapsed = 0
    rw [s.timer_call]
    exact BlinkTimer.elapsed_advance_of_due (exact.2 now)

/-- A call that finds the console held uses up its interval, and one that flips the cursor uses
up no more. -/
example :
    let calls : List Moment :=
      [.call ⟨2, false⟩ false, .call ⟨5, false⟩ true, .call ⟨2, false⟩ false,
        .call ⟨1, false⟩ false, .call ⟨3, true⟩ false]
    (Station.live ⟨{ interval := 3 }, { console := some (Console.start ⟨3, 2⟩ {}).1 },
      .blank ⟨3, 2⟩⟩ calls).2.map Prod.snd =
      [.notDue, .busy, .notDue, .toggled false, .suppressed] := by
  decide +kernel

end GlyphConsole

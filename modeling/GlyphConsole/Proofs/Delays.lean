import Mathlib.Algebra.Order.Floor.Div
import GlyphConsole.Machine.Power

/-!
# GlyphConsole.Proofs.Delays — waiting by a counter that wraps around

All that a wait goes by is the `Clock.lapse` of a reading, the difference to the first one as a
word shows it.  It is the exact number of ticks only as long as that number fits the word
(`lapse_eq`), and it repeats with the readings (`lapse_add_size`).

A wait ends with the first reading whose lapse reaches the target (`FirstLate`).  The bound on
the readings in `Clock.wait?` cuts nothing short: if there is a first late reading, it is within
the bound, and the wait ends there (`wait?_of_firstLate`); and a wait without end is one in which
no reading is ever late (`wait?_eq_none_iff`).

A clock whose steps are small enough to not jump over the target reaches it before it wraps
around, which says when (`firstLate_of_step`), and with it when a machine is turned off.
-/

namespace GlyphConsole.Machine

set_option autoImplicit false

namespace Clock

/-! ## Readings -/

/-- The clock after so many readings. -/
def after (c : Clock) : Nat → Clock
  | 0 => c
  | n + 1 => (c.after n).read.2

/-- What the `n`-th reading after the first differs from it by. -/
def lapse (c : Clock) (n : Nat) : Nat := ((c.after n).next - c.next).toNat

theorem after_eq (start : UInt64) (step n : Nat) :
    after ⟨start, .ofNat step⟩ n = ⟨start + .ofNat (n * step), .ofNat step⟩ := by
  induction n with
  | zero =>
      rw [Nat.zero_mul]
      exact congrArg (Clock.mk · _) (UInt64.add_zero start).symm
  | succ n ih =>
      rw [after, ih, read, Nat.succ_mul, UInt64.ofNat_add, ← UInt64.add_assoc]

theorem lapse_mk (start : UInt64) (step n : Nat) :
    lapse ⟨start, .ofNat step⟩ n = n * step % UInt64.size := by
  rw [lapse, after_eq, UInt64.add_comm, UInt64.add_sub_cancel, UInt64.toNat_ofNat']

/-- The lapse is the time that has passed, as far as a word can show it. -/
theorem lapse_eq (c : Clock) (n : Nat) : c.lapse n = n * c.step.toNat % UInt64.size := by
  rw [← lapse_mk c.next, UInt64.ofNat_toNat]

theorem lapse_add_size (c : Clock) (n : Nat) : c.lapse (n + UInt64.size) = c.lapse n := by
  rw [lapse_eq, lapse_eq, Nat.add_mul, Nat.add_mul_mod_self_left]

/-! ## When a wait ends -/

/-- The `n`-th reading after the first is late, and none before it was. -/
structure FirstLate (c : Clock) (target n : Nat) : Prop where
  pos : 0 < n
  late : target ≤ c.lapse n
  early : ∀ i, 0 < i → i < n → c.lapse i < target

/-- A wait that goes on: so many readings after the first were early. -/
def underway (c : Clock) (n : Nat) : Wait :=
  { clock := c.after (n + 1), polls := n + 1, halts := n }

/-- A wait that ended with the `n`-th reading after the first. -/
def ended (c : Clock) (n : Nat) : Wait :=
  { clock := c.after (n + 1), polls := n + 1, halts := n - 1 }

theorem waitFrom_succ (c : Clock) (target : UInt64) (limit n : Nat) :
    waitFrom c.next target (limit + 1) (c.underway n) =
      if c.lapse (n + 1) < target.toNat then waitFrom c.next target limit (c.underway (n + 1))
      else some (c.ended (n + 1)) := by
  simp only [waitFrom, UInt64.lt_iff_toNat_lt]
  rfl

/-- On the readings that are still allowed. -/
theorem waitFrom_of_firstLate {c : Clock} {target : UInt64} {limit n last : Nat}
    (first : c.FirstLate target.toNat last) (before : n < last) (within : last ≤ n + limit) :
    waitFrom c.next target limit (c.underway n) = some (c.ended last) := by
  induction limit generalizing n with
  | zero => omega
  | succ limit ih =>
      rw [waitFrom_succ]
      by_cases here : n + 1 = last
      · subst here
        rw [if_neg (Nat.not_lt.2 first.late)]
      · have early := first.early (n + 1) (Nat.succ_pos n) (by omega)
        rw [if_pos early]
        exact ih (by omega) (by omega)

theorem waitFrom_of_early {c : Clock} {target : UInt64} {limit n : Nat}
    (early : ∀ i, 0 < i → c.lapse i < target.toNat) :
    waitFrom c.next target limit (c.underway n) = none := by
  induction limit generalizing n with
  | zero => rfl
  | succ limit ih =>
      rw [waitFrom_succ, if_pos (early (n + 1) (Nat.succ_pos n))]
      exact ih

/-- What is late after a whole turn of the counter was so the turn before. -/
theorem FirstLate.le_size {c : Clock} {target n : Nat} (first : c.FirstLate target n) :
    n ≤ UInt64.size := by
  by_contra beyond
  have before : n - UInt64.size < n := Nat.sub_lt first.pos (by decide)
  have early := first.early (n - UInt64.size) (by omega) before
  rw [← lapse_add_size, Nat.sub_add_cancel (by omega)] at early
  exact absurd first.late (Nat.not_le.2 early)

theorem wait?_of_firstLate {c : Clock} {target : UInt64} {n : Nat}
    (first : c.FirstLate target.toNat n) : c.wait? target = some (c.ended n) := by
  have within : n ≤ 0 + UInt64.size := by
    rw [Nat.zero_add]
    exact first.le_size
  exact waitFrom_of_firstLate first first.pos within

/-- A wait has no end exactly if no reading is ever late. -/
theorem wait?_eq_none_iff {c : Clock} {target : UInt64} :
    c.wait? target = none ↔ ∀ n, 0 < n → c.lapse n < target.toNat := by
  constructor
  · intro endless
    by_contra someLate
    push Not at someLate
    -- The first of the late readings would have ended the wait.
    have first : c.FirstLate target.toNat (Nat.find someLate) := by
      refine ⟨(Nat.find_spec someLate).1, (Nat.find_spec someLate).2, ?_⟩
      intro i pos before
      have early := Nat.find_min someLate before
      push Not at early
      exact early pos
    rw [wait?_of_firstLate first] at endless
    cases endless
  · intro early
    exact waitFrom_of_early (n := 0) early

/-! ## Steps that cannot jump over the target -/

/-- The first late reading is the first one for which the target has passed. -/
theorem firstLate_of_step {step target : Nat} (runs : 1 ≤ step)
    (fits : step + target ≤ UInt64.size) (start : UInt64) :
    FirstLate ⟨start, .ofNat step⟩ target (max 1 (target ⌈/⌉ step)) := by
  have reaches : ∀ i, target ⌈/⌉ step ≤ i ↔ target ≤ step * i :=
    fun i => ceilDiv_le_iff_le_mul runs
  constructor
  · exact Nat.le_max_left _ _
  · rw [lapse_mk]
    rcases Nat.eq_zero_or_pos target with none | some
    · rw [none]
      exact Nat.zero_le _
    · obtain ⟨last, count⟩ : ∃ last, target ⌈/⌉ step = last + 1 := by
        apply Nat.exists_eq_succ_of_ne_zero
        intro zero
        have nothing := (reaches 0).1 zero.le
        omega
      have enough := (reaches (last + 1)).1 count.le
      have short : step * last < target := by
        by_contra reached
        have counted := (reaches last).2 (Nat.not_lt.1 reached)
        omega
      -- The step to the target begins before it, so it does not lead around the counter.
      rw [count, Nat.max_eq_right (Nat.succ_pos last), Nat.mul_comm, Nat.mod_eq_of_lt]
      · exact enough
      · rw [Nat.mul_succ]
        omega
  · intro i pos before
    have short : ¬target ⌈/⌉ step ≤ i := by omega
    rw [reaches, Nat.not_le] at short
    rw [lapse_mk, Nat.mul_comm]
    exact (Nat.mod_le _ _).trans_lt short

end Clock

/-! ## Turning the machine off and on -/

namespace Board

theorem toNat_ticks (b : Board) (seconds : UInt32) :
    (b.ticks seconds).toNat = seconds.toNat * b.hertz.toNat := by
  have small : seconds.toNat * b.hertz.toNat < 2 ^ 64 := by
    have first := seconds.toNat_lt
    have second := b.hertz.toNat_lt
    calc
      seconds.toNat * b.hertz.toNat ≤ 2 ^ 32 * b.hertz.toNat := Nat.mul_le_mul_right _ first.le
      _ < 2 ^ 32 * 2 ^ 32 := Nat.mul_lt_mul_of_pos_left second (by decide)
      _ = 2 ^ 64 := by decide
  rw [ticks, UInt64.toNat_mul, UInt32.toNat_toUInt64, UInt32.toNat_toUInt64,
    Nat.mod_eq_of_lt small]

/-- A wait that ends is followed by the one device write. -/
theorem delayed_of_firstLate {b : Board} {seconds : UInt32} {n : Nat}
    (first : b.clock.FirstLate (b.ticks seconds).toNat n) (call : PowerCall)
    (notice : Log.Notice) (write : DeviceWrite) :
    b.delayed call seconds notice write =
      ({ b with clock := b.clock.after (n + 1) },
        { call, wait := some (b.clock.ended n), writes := [write], notices := [notice] }) := by
  rw [delayed, Clock.wait?_of_firstLate first]
  rfl

/-- **The power goes after the delay, also when the counter wraps around meanwhile.**  Let the
counter of a machine read `start` first and run by `step` between two readings, modulo 2^64, and
let a restart or a power-off be asked for after a delay of `target` ticks, which 64 bits always
hold.  If `step` is not zero and no more than `2 ^ 64 - target`, the wait comes to its end.  With
the ticks in steps rounded up to `k`, but at least one, it takes `k + 1` readings and `k - 1`
halts, wherever the counter started.  From the first reading to the last at least `target` ticks
pass; then follows one write to a device, and no other. -/
theorem acts_after_delay (start : UInt64) (step : Nat) (hertz seconds : UInt32)
    (runs : 1 ≤ step) (slow : step ≤ 2 ^ 64 - seconds.toNat * hertz.toNat) :
    let target := seconds.toNat * hertz.toNat
    let k := max 1 (target ⌈/⌉ step)
    let board : Board := { clock := ⟨start, .ofNat step⟩, hertz }
    let later : Board := { clock := ⟨start + .ofNat ((k + 1) * step), .ofNat step⟩, hertz }
    let wait : Clock.Wait := { clock := later.clock, polls := k + 1, halts := k - 1 }
    (board.ticks seconds).toNat = target ∧ target < 2 ^ 64 ∧
    target ≤ (wait.polls - 1) * step ∧
    board.perform (.reboot seconds) =
      (later,
        { call := .reboot seconds, wait := some wait, writes := [.byte 0x64 0xFE]
          notices := [.pulsingReset] }) ∧
    board.perform (.shutdown seconds) =
      (later,
        { call := .shutdown seconds, wait := some wait, writes := [.word 0x604 0x2000]
          notices := [.requestingOff 0x604] }) := by
  intro target k board later wait
  have ticks : (board.ticks seconds).toNat = target := board.toNat_ticks seconds
  have small : target < 2 ^ 64 := ticks ▸ (board.ticks seconds).toNat_lt
  have fits : step + target ≤ UInt64.size := by
    show step + target ≤ 2 ^ 64
    change step ≤ 2 ^ 64 - target at slow
    omega
  have first : board.clock.FirstLate (board.ticks seconds).toNat k := by
    rw [ticks]
    exact Clock.firstLate_of_step runs fits start
  have clock : board.clock.after (k + 1) = later.clock := Clock.after_eq start step (k + 1)
  have ended : board.clock.ended k = wait := by rw [Clock.ended, clock]
  have passed : target ≤ (wait.polls - 1) * step := by
    show target ≤ k * step
    rw [Nat.mul_comm]
    exact (ceilDiv_le_iff_le_mul runs).1 (Nat.le_max_right _ _)
  refine ⟨ticks, small, passed, ?_, ?_⟩
  · have acted := delayed_of_firstLate first (.reboot seconds) .pulsingReset resetWrite
    rw [ended, clock] at acted
    exact acted
  · have acted := delayed_of_firstLate first (.shutdown seconds)
      (.requestingOff sleepAddress) sleepWrite
    rw [ended, clock] at acted
    exact acted

/-- Five seconds of two ticks, three ticks from one reading to the next, begun five ticks before
the counter wraps around. -/
theorem acts_after_delay_around :
    1 ≤ 3 ∧ 3 ≤ 2 ^ 64 - (5 : UInt32).toNat * (2 : UInt32).toNat ∧
      Board.perform { clock := ⟨0xFFFFFFFFFFFFFFFB, 3⟩, hertz := 2 } (.reboot 5) =
        ({ clock := ⟨10, 3⟩, hertz := 2 },
          { call := .reboot 5, wait := some { clock := ⟨10, 3⟩, polls := 5, halts := 3 }
            writes := [.byte 0x64 0xFE], notices := [.pulsingReset] }) := by
  have slow : 3 ≤ 2 ^ 64 - (5 : UInt32).toNat * (2 : UInt32).toNat := by decide
  obtain ⟨-, -, -, reboot, -⟩ := acts_after_delay 0xFFFFFFFFFFFFFFFB 3 2 5 (by decide) slow
  exact ⟨by decide, slow, reboot⟩

end Board

end GlyphConsole.Machine

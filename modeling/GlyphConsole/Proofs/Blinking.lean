import GlyphConsole.Console.Blink
import GlyphConsole.Proofs.Twins

/-!
# GlyphConsole.Proofs.Blinking — the timer does not get in the way

A `Station` is a display, the timer that makes its cursor blink, and the surface.  Its
`Turn`s are operations on the console and calls of the timer, in any order.  The display
is held during an operation, and the timer may call then as well, between any two draw
calls (`Station.draw`).

Without the timer the same operations lead to the twin of the console they lead to with
it (`Paired.run`): a call changes nothing, or flips the cursor of a display that nobody
holds (`tick_cases`), and no operation but a toggle tells twins apart.
-/

namespace GlyphConsole

set_option autoImplicit false

open Console (Action Reply Twins)
open Picture (Agree)

/-- A call of the timer: the time since the last one, and whether input is waiting. -/
structure Tick where
  elapsed : UInt32
  pending : Bool

/-- A shared console, its timer, and the surface it draws on. -/
structure Station where
  timer : BlinkTimer := {}
  display : Display
  picture : Picture

/-- What happens at a station next. -/
inductive Turn where
  /-- An operation, and the calls of the timer before each of its draw calls. -/
  | operation (action : Action) (inside : List (List Tick))
  | tick (t : Tick)

/-- How a run of a station ended, what its operations answered, and what the calls of the
timer during operations came to. -/
structure Session where
  station : Station
  replies : List (Option Reply) := []
  during : List BlinkOutcome := []

namespace Turn

/-- An operation is not a toggle. -/
def Foreground : Turn → Prop
  | .operation action _ => ∀ pending, action ≠ .toggle pending
  | .tick _ => True

/-- The turn without the timer, if anything is left of it. -/
def silent? : Turn → Option Turn
  | .operation action _ => some (.operation action [])
  | .tick _ => none

end Turn

/-- The turns without the timer. -/
def silenced (turns : List Turn) : List Turn := turns.filterMap Turn.silent?

theorem silenced_concat (turns : List Turn) (action : Action) (inside : List (List Tick)) :
    silenced (turns ++ [.operation action inside]) = silenced turns ++ [.operation action []] :=
  List.filterMap_append

namespace Station

def tick (s : Station) (t : Tick) : Station × BlinkOutcome :=
  let fired := s.timer.onTimer t.elapsed s.display t.pending
  ({ timer := fired.1, display := fired.2.1.1, picture := s.picture.run fired.2.1.2.draws },
    fired.2.2)

def ticks (s : Station) : List Tick → Station × List BlinkOutcome
  | [] => (s, [])
  | t :: rest =>
      let first := s.tick t
      let after := first.1.ticks rest
      (after.1, first.2 :: after.2)

/-- Make calls on the surface one by one, while the timer calls before each and at the
end. -/
def draw (s : Station) : List DrawCall → List (List Tick) → Station × List BlinkOutcome
  | [], inside => s.ticks inside.flatten
  | call :: rest, inside =>
      let ticked := s.ticks (inside.headD [])
      let after :=
        { ticked.1 with picture := ticked.1.picture.apply call }.draw rest inside.tail
      (after.1, ticked.2 ++ after.2)

/-- Carry out an operation.  The display is held until everything has been drawn. -/
def operate (s : Station) (action : Action) (inside : List (List Tick)) :
    Station × Option Reply × List BlinkOutcome :=
  let used := s.display.hold.use fun con => con.act action
  let drawn := { s with display := used.1.1 }.draw used.1.2.draws.toList inside
  ({ drawn.1 with display := drawn.1.display.release }, used.2, drawn.2)

def run (s : Station) : List Turn → Session
  | [] => { station := s }
  | .operation action inside :: rest =>
      let done := s.operate action inside
      let after := done.1.run rest
      { after with replies := done.2.1 :: after.replies, during := done.2.2 ++ after.during }
  | .tick t :: rest => (s.tick t).1.run rest

theorem run_concat (s : Station) (turns : List Turn) (action : Action)
    (inside : List (List Tick)) :
    (s.run (turns ++ [.operation action inside])).station =
      ((s.run turns).station.operate action inside).1 := by
  induction turns generalizing s with
  | nil => rfl
  | cons turn rest ih =>
      cases turn with
      | operation first during => exact ih _
      | tick t => exact ih _

/-! ## One call of the timer -/

/-- A call leaves the station alone, or flips the cursor of a display that nobody holds. -/
theorem tick_cases (s : Station) (t : Tick) :
    ((s.tick t).1.display = s.display ∧ (s.tick t).1.picture = s.picture ∧
        ((s.tick t).2 = .notDue ∨ (s.tick t).2 = .busy ∨
          (s.tick t).2 = .suppressed ∧ s.display.held = false)) ∨
      ∃ con visible, s.display = { console := some con } ∧ (s.tick t).2 = .toggled visible ∧
        (s.tick t).1.display = { console := some (con.toggle false).1.1 } ∧
        (s.tick t).1.picture = s.picture.run (con.toggle false).1.2.draws := by
  obtain ⟨timer, ⟨console, held⟩, picture⟩ := s
  unfold tick BlinkTimer.onTimer
  dsimp only
  cases (timer.advance t.elapsed).2 with
  | false => exact .inl ⟨rfl, rfl, .inl rfl⟩
  | true =>
      cases held with
      | true => exact .inl ⟨rfl, rfl, .inr (.inl rfl)⟩
      | false =>
          cases console with
          | none => exact .inl ⟨rfl, rfl, .inr (.inl rfl)⟩
          | some con =>
              cases t.pending with
              | true => exact .inl ⟨rfl, rfl, .inr (.inr ⟨rfl, rfl⟩)⟩
              | false => exact .inr ⟨con, _, rfl, rfl, rfl, rfl⟩

/-- A call that does not flip the cursor changes nothing. -/
theorem tick_of_not_toggled {s : Station} {t : Tick}
    (still : ∀ visible, (s.tick t).2 ≠ .toggled visible) :
    (s.tick t).1.display = s.display ∧ (s.tick t).1.picture = s.picture := by
  rcases s.tick_cases t with ⟨display, picture, -⟩ | ⟨_, visible, -, toggled, -⟩
  · exact ⟨display, picture⟩
  · exact absurd toggled (still visible)

/-! ## Calls during an operation -/

/-- The outcomes that leave a console alone because it is held or the time is not up. -/
def Idle (outcomes : List BlinkOutcome) : Prop :=
  ∀ outcome ∈ outcomes, outcome = .notDue ∨ outcome = .busy

theorem ticks_held {s : Station} (held : s.display.held = true) (ts : List Tick) :
    (s.ticks ts).1.display = s.display ∧ (s.ticks ts).1.picture = s.picture ∧
      Idle (s.ticks ts).2 := by
  induction ts generalizing s with
  | nil => exact ⟨rfl, rfl, nofun⟩
  | cons t rest ih =>
      rcases s.tick_cases t with ⟨display, picture, outcome⟩ | ⟨con, _, installed, -⟩
      · obtain ⟨restDisplay, restPicture, idle⟩ := ih (display ▸ held)
        refine ⟨restDisplay.trans display, restPicture.trans picture, ?_⟩
        rintro o (_ | ⟨_, later⟩)
        · rcases outcome with notDue | busy | ⟨-, free⟩
          · exact .inl notDue
          · exact .inr busy
          · exact absurd (held.symm.trans free) (by decide)
        · exact idle o later
      · rw [installed] at held
        exact absurd held Bool.false_ne_true

/-- While the display is held, all that changes is what is drawn. -/
theorem draw_held {s : Station} (held : s.display.held = true) (calls : List DrawCall)
    (inside : List (List Tick)) :
    (s.draw calls inside).1.display = s.display ∧
      (s.draw calls inside).1.picture = s.picture.run calls.toArray ∧
      Idle (s.draw calls inside).2 := by
  -- On what is left to draw: the timer finds the display held before each call.
  induction calls generalizing s inside with
  | nil => exact ticks_held held inside.flatten
  | cons call rest ih =>
      obtain ⟨display, picture, idle⟩ := ticks_held held (inside.headD [])
      have still : (s.ticks (inside.headD [])).1.display.held = true := display ▸ held
      obtain ⟨restDisplay, restPicture, restIdle⟩ :=
        ih (s := { (s.ticks (inside.headD [])).1 with
          picture := (s.ticks (inside.headD [])).1.picture.apply call }) still inside.tail
      refine ⟨restDisplay.trans display, ?_, ?_⟩
      · refine restPicture.trans ?_
        rw [picture]
        simp only [Picture.run, List.foldl_toArray, List.foldl_cons]
      · intro o during
        rcases List.mem_append.1 during with before | after
        · exact idle o before
        · exact restIdle o after

/-- An operation does the same whether or not the timer calls during it. -/
theorem operate_of_installed {s : Station} {con : Console}
    (installed : s.display = { console := some con }) (action : Action)
    (inside : List (List Tick)) :
    (s.operate action inside).1.display = { console := some (con.act action).1.1 } ∧
      (s.operate action inside).1.picture = s.picture.run (con.act action).1.2.draws ∧
      (s.operate action inside).2.1 = some (con.act action).2 ∧
      Idle (s.operate action inside).2.2 := by
  obtain ⟨timer, display, picture⟩ := s
  subst installed
  obtain ⟨display, drawn, idle⟩ :=
    draw_held (s := ⟨timer, ⟨some (con.act action).1.1, true⟩, picture⟩) rfl
      (con.act action).1.2.draws.toList inside
  refine ⟨?_, drawn, rfl, idle⟩
  show Display.release _ = _
  exact congrArg Display.release display

end Station

/-! ## With the timer and without -/

/-- Two stations whose consoles are twins, with nobody using either. -/
structure Paired (con other : Console) (quiet blinking : Station) : Prop where
  quiet_display : quiet.display = { console := some con }
  blinking_display : blinking.display = { console := some other }
  twins : Twins con other quiet.picture blinking.picture

namespace Paired

variable {con other : Console} {quiet blinking : Station}

theorem tick (paired : Paired con other quiet blinking) (t : Tick) :
    ∃ other', Paired con other' quiet (blinking.tick t).1 := by
  rcases blinking.tick_cases t with
    ⟨display, picture, -⟩ | ⟨other', _, installed, -, display, picture⟩
  · refine ⟨other, paired.quiet_display, display.trans paired.blinking_display, ?_⟩
    rw [picture]
    exact paired.twins
  · rw [paired.blinking_display] at installed
    obtain rfl : other = other' := Option.some.inj (congrArg Display.console installed)
    refine ⟨_, paired.quiet_display, display, ?_⟩
    rw [picture]
    exact paired.twins.toggle false

theorem operate (paired : Paired con other quiet blinking) {action : Action}
    (foreground : ∀ pending, action ≠ .toggle pending) (inside : List (List Tick)) :
    Paired (con.act action).1.1 (other.act action).1.1 (quiet.operate action []).1
        (blinking.operate action inside).1 ∧
      (blinking.operate action inside).2.1 = (quiet.operate action []).2.1 ∧
      Station.Idle (blinking.operate action inside).2.2 := by
  obtain ⟨quietDisplay, quietPicture, quietReply, -⟩ :=
    Station.operate_of_installed paired.quiet_display action []
  obtain ⟨display, picture, reply, idle⟩ :=
    Station.operate_of_installed paired.blinking_display action inside
  obtain ⟨twins, same⟩ := paired.twins.act foreground
  refine ⟨⟨quietDisplay, display, ?_⟩, ?_, idle⟩
  · rw [quietPicture, picture]
    exact twins
  · rw [quietReply, reply, same]

/-- The operations of a run lead to twins and are answered alike. -/
theorem run (paired : Paired con other quiet blinking) (turns : List Turn)
    (foreground : ∀ turn ∈ turns, turn.Foreground) :
    (∃ con' other', Paired con' other' (quiet.run (silenced turns)).station
        (blinking.run turns).station) ∧
      (blinking.run turns).replies = (quiet.run (silenced turns)).replies ∧
      Station.Idle (blinking.run turns).during := by
  induction turns generalizing con other quiet blinking with
  | nil => exact ⟨⟨con, other, paired⟩, rfl, nofun⟩
  | cons turn rest ih =>
      have later : ∀ turn ∈ rest, turn.Foreground := fun turn member =>
        foreground turn (List.mem_cons_of_mem _ member)
      cases turn with
      | tick t =>
          obtain ⟨_, ticked⟩ := paired.tick t
          exact ih ticked later
      | operation action inside =>
          obtain ⟨done, reply, idle⟩ := paired.operate (foreground _ List.mem_cons_self) inside
          obtain ⟨ended, replies, restIdle⟩ := ih done later
          refine ⟨ended, ?_, ?_⟩
          · show _ :: _ = _ :: ((quiet.operate action []).1.run (silenced rest)).replies
            rw [reply, replies]
          · intro o during
            rcases List.mem_append.1 during with first | after
            · exact idle o first
            · exact restIdle o after

/-- After a write nothing tells the two apart any more. -/
theorem written (paired : Paired con other quiet blinking) {action : Action}
    (writes : action = .backspace ∨ ∃ text color, action = .write text color)
    (inside : List (List Tick)) :
    (other.act action).1.1 = (con.act action).1.1 ∧
      ∀ c, (blinking.operate action inside).1.picture.get? c =
        (quiet.operate action []).1.picture.get? c := by
  obtain ⟨-, quietPicture, -⟩ := Station.operate_of_installed paired.quiet_display action []
  obtain ⟨-, picture, -⟩ := Station.operate_of_installed paired.blinking_display action inside
  have equal : ∀ text color, (other.act (.write text color)).1.1 =
        (con.act (.write text color)).1.1 ∧
      Agree none (quiet.picture.run (con.act (.write text color)).1.2.draws)
        (blinking.picture.run (other.act (.write text color)).1.2.draws) := fun text color =>
    ⟨congrArg Prod.fst (paired.twins.write text color).1, (paired.twins.write text color).2⟩
  have settled : (other.act action).1.1 = (con.act action).1.1 ∧
      Agree none (quiet.picture.run (con.act action).1.2.draws)
        (blinking.picture.run (other.act action).1.2.draws) := by
    rcases writes with rfl | ⟨text, color, rfl⟩
    · obtain ⟨visible, rfl⟩ := paired.twins.flag
      exact equal "\x08" con.config.foreground
    · exact equal text color
  refine ⟨settled.1, fun c => ?_⟩
  rw [quietPicture, picture]
  exact (settled.2.same c nofun).symm

end Paired

/-- **Blinking does not interfere with output.**  Let the timer call as often as it likes,
between operations and during them.  After every operation the history, the cursor, the
offset, the shadow, the answers and every cell but the cursor's are what they are without
the timer; after a write or a backspace so are the cursor's visibility and its cell.
Calls during operations find the console held, and only a toggle changes anything. -/
theorem output_ignores_timer (con : Console) (picture : Picture) (timer : BlinkTimer)
    (turns : List Turn) (foreground : ∀ turn ∈ turns, turn.Foreground) :
    let start : Station := { timer, display := { console := some con }, picture }
    let quiet := start.run (silenced turns)
    let blinking := start.run turns
    (∃ plain lively : Console, quiet.station.display = { console := some plain } ∧
      blinking.station.display = { console := some lively } ∧
      lively.history = plain.history ∧ lively.cursor = plain.cursor ∧
      lively.viewport.offset = plain.viewport.offset ∧ lively.shadow = plain.shadow ∧
      (∀ c, plain.viewport.cursorCell? ≠ some c →
        blinking.station.picture.get? c = quiet.station.picture.get? c) ∧
      ∀ before action inside, turns = before ++ [.operation action inside] →
        (action = .backspace ∨ ∃ text color, action = .write text color) →
        lively.viewport.visible = plain.viewport.visible ∧
          ∀ c, blinking.station.picture.get? c = quiet.station.picture.get? c) ∧
    blinking.replies = quiet.replies ∧
    (∀ outcome ∈ blinking.during, outcome = .notDue ∨ outcome = .busy) ∧
    ∀ (s : Station) (t : Tick), (∀ visible, (s.tick t).2 ≠ .toggled visible) →
      (s.tick t).1.display = s.display ∧ (s.tick t).1.picture = s.picture := by
  intro start quiet blinking
  have started : Paired con con start start := ⟨rfl, rfl, Twins.refl con picture⟩
  obtain ⟨⟨plain, lively, paired⟩, replies, idle⟩ := started.run turns foreground
  refine ⟨⟨plain, lively, paired.quiet_display, paired.blinking_display, ?_⟩, replies, idle,
    fun _ _ still => Station.tick_of_not_toggled still⟩
  obtain ⟨visible, twin⟩ := paired.twins.flag
  refine ⟨twin ▸ rfl, twin ▸ rfl, twin ▸ rfl, twin ▸ rfl, ?_, ?_⟩
  · intro c other
    exact (paired.twins.agree.same c other).symm
  · rintro before action inside rfl writes
    have earlier : ∀ turn ∈ before, turn.Foreground := fun turn member =>
      foreground turn (List.mem_append_left _ member)
    obtain ⟨⟨_, _, reached⟩, -⟩ := started.run before earlier
    obtain ⟨same, pictures⟩ := reached.written writes inside
    have quietEnd := start.run_concat (silenced before) action []
    rw [← silenced_concat before action inside] at quietEnd
    have blinkingEnd := start.run_concat before action inside
    refine ⟨?_, fun c => ?_⟩
    · have plainDisplay := (Station.operate_of_installed reached.quiet_display action []).1
      have livelyDisplay := (Station.operate_of_installed reached.blinking_display action inside).1
      rw [← quietEnd, paired.quiet_display] at plainDisplay
      rw [← blinkingEnd, paired.blinking_display, same, ← plainDisplay] at livelyDisplay
      rw [Option.some.inj (congrArg Display.console livelyDisplay)]
    · rw [show blinking.station = _ from blinkingEnd, show quiet.station = _ from quietEnd]
      exact pictures c

/-- The timer flips the cursor before a write and calls again in the middle of it. -/
theorem output_ignores_timer_small :
    (∀ turn ∈ [.tick ⟨125, false⟩, Turn.operation (.write "ab" .pureRed) [[], [⟨200, false⟩]]],
        turn.Foreground) ∧
      ∀ c, (Station.run ⟨{}, { console := some (Console.start ⟨3, 2⟩ {}).1 }, .blank ⟨3, 2⟩⟩
          [.tick ⟨125, false⟩,
            .operation (.write "ab" .pureRed) [[], [⟨200, false⟩]]]).station.picture.get? c =
        (Station.run ⟨{}, { console := some (Console.start ⟨3, 2⟩ {}).1 }, .blank ⟨3, 2⟩⟩
          (silenced [.tick ⟨125, false⟩,
            .operation (.write "ab" .pureRed) [[], [⟨200, false⟩]]])).station.picture.get? c := by
  have foreground : ∀ turn ∈ [.tick ⟨125, false⟩,
      Turn.operation (.write "ab" .pureRed) [[], [⟨200, false⟩]]], turn.Foreground := by
    intro turn member
    simp only [List.mem_cons, List.not_mem_nil, or_false] at member
    rcases member with rfl | rfl
    · trivial
    · exact nofun
  obtain ⟨⟨_, _, -, -, -, -, -, -, -, written⟩, -⟩ := output_ignores_timer
    (Console.start ⟨3, 2⟩ {}).1 (.blank ⟨3, 2⟩) {} _ foreground
  exact ⟨foreground, (written [.tick ⟨125, false⟩] _ _ rfl (.inr ⟨_, _, rfl⟩)).2⟩

end GlyphConsole

import GlyphConsole.Proofs.Twins

/-!
# GlyphConsole.Proofs.Forgetting — a cleared console is a new one

A console that has been cleared differs from one that was just created in nothing but
whether the cursor is to be seen, and their surfaces in nothing but the cell under it, since
a new console shows its cursor and a cleared one does not: the two are twins
(`twins_of_cleared`).  What the console was before, it takes only its size, its choices and
its capacity from, and no operation changes these (`capacity_run`).

Twins stay twins under every operation, a toggle of both included (`Twins.step`,
`Twins.run`), and the first write makes them one for good (`Twins.merge`).  So nothing that
is done afterwards brings back anything from before the clear (`clear_forgets`).
-/

namespace GlyphConsole

set_option autoImplicit false

open Picture (Agree)

/-- The same calls on two pictures change what they show in the same way. -/
theorem Picture.Agree.run {except : Option Cell} {first second : Picture}
    (agree : Agree except first second) (calls : Array DrawCall) :
    Agree except (first.run calls) (second.run calls) := by
  obtain ⟨calls⟩ := calls
  induction calls generalizing first second with
  | nil => exact agree
  | cons call rest ih =>
      have applied := ih (agree.apply call)
      simp only [Picture.run, List.foldl_toArray, List.foldl_cons] at applied ⊢
      exact applied

namespace Console

variable {con other : Console} {first second : Picture}

/-! ## Twins in step -/

theorem Twins.symm (twins : Twins con other first second) : Twins other con second first := by
  obtain ⟨⟨visible, rfl⟩, agree⟩ := twins
  exact ⟨⟨con.viewport.visible, rfl⟩, agree.symm⟩

/-- Every operation keeps twins twins, also one that flips the cursor of both. -/
theorem Twins.step (twins : Twins con other first second) (action : Action) :
    Twins (con.act action).1.1 (other.act action).1.1 (first.run (con.act action).1.2.draws)
      (second.run (other.act action).1.2.draws) := by
  by_cases flips : ∃ pending, action = .toggle pending
  · obtain ⟨pending, rfl⟩ := flips
    exact ((twins.toggle pending).symm.toggle pending).symm
  · exact (twins.act fun pending same => flips ⟨pending, same⟩).1

theorem Twins.run (twins : Twins con other first second) (actions : List Action) :
    Twins (con.run actions).1 (other.run actions).1 (first.run (con.run actions).2.draws)
      (second.run (other.run actions).2.draws) := by
  induction actions generalizing con other first second with
  | nil => exact twins
  | cons action rest ih =>
      simp only [run_cons, Output.draws_append, Picture.run_append]
      exact ih (twins.step action)

/-- A write makes twins one, and leaves surfaces that show the same. -/
theorem Twins.merge (twins : Twins con other first second) {action : Action}
    (writes : action.Writes) :
    (other.act action).1 = (con.act action).1 ∧
      Agree none (first.run (con.act action).1.2.draws)
        (second.run (other.act action).1.2.draws) := by
  cases action with
  | write text color => exact twins.write text color
  | backspace =>
      have foreground : other.config.foreground = con.config.foreground := by
        obtain ⟨visible, rfl⟩ := twins.flag
        rfl
      rw [act_backspace, act_backspace, foreground]
      exact twins.write "\x08" con.config.foreground
  | redraw => exact writes.elim
  | scrollNewer => exact writes.elim
  | scrollOlder => exact writes.elim
  | clear => exact writes.elim
  | moveBy columns rows => exact writes.elim
  | toggle pending => exact writes.elim

/-- From the first write on nothing tells twins apart. -/
theorem Twins.merged (twins : Twins con other first second) {actions : List Action}
    (writes : ∃ action ∈ actions, action.Writes) :
    (other.run actions).1 = (con.run actions).1 ∧
      Agree none (first.run (con.run actions).2.draws)
        (second.run (other.run actions).2.draws) := by
  induction actions generalizing con other first second with
  | nil =>
      obtain ⟨action, member, -⟩ := writes
      cases member
  | cons action rest ih =>
      simp only [run_cons, Output.draws_append, Picture.run_append]
      by_cases now : action.Writes
      · obtain ⟨same, agree⟩ := twins.merge now
        rw [same] at agree ⊢
        exact ⟨rfl, agree.run _⟩
      · refine ih (twins.step action) ?_
        obtain ⟨later, member, writesLater⟩ := writes
        rcases List.mem_cons.1 member with rfl | inRest
        · exact absurd writesLater now
        · exact ⟨later, inRest, writesLater⟩

/-- Twins answer every operation but a toggle alike. -/
theorem Twins.answers (twins : Twins con other first second) {action : Action}
    (plain : ∀ pending, action ≠ .toggle pending) : (con.act action).2 = (other.act action).2 :=
  (twins.act plain).2

/-! ## What is left of a console -/

theorem capacity_historyAfter (con : Console) (action : Action) :
    (con.historyAfter action).capacity = con.history.capacity := by
  cases action with
  | write text color => exact Scrollback.capacity_append _ _
  | backspace => exact Scrollback.capacity_append _ _
  | redraw => rfl
  | scrollNewer => rfl
  | scrollOlder => rfl
  | clear => rfl
  | moveBy columns rows => rfl
  | toggle pending => rfl

@[simp] theorem capacity_run (con : Console) (actions : List Action) :
    (con.run actions).1.history.capacity = con.history.capacity := by
  refine run_induction (P := fun after => after.history.capacity = con.history.capacity) ?_ rfl
    actions
  intro before action same
  rw [history_act, capacity_historyAfter, same]

/-- A console that is cleared is the twin of one that was just created with its size, its
choices and its capacity. -/
theorem twins_of_cleared {grid : Grid} {used fresh : Picture} {bare : Bool}
    (displays : con.Displays used bare) (sized : con.grid = grid)
    (capacity : con.history.capacity = max con.config.historyCapacity 1)
    (blank : fresh.grid = grid) :
    Twins (start grid con.config).1 (con.act .clear).1.1
      (fresh.run (start grid con.config).2.draws) (used.run (con.act .clear).1.2.draws) := by
  have shadowed : con.shadow.grid = grid := displays.shadowed.trans sized
  have origin := viewport_start grid con.config
  have empty := shadow_start grid con.config
  constructor
  · refine ⟨con.viewport.visible, ?_⟩
    have history : (start grid con.config).1.history = con.history.clear := by
      show Scrollback.ofCapacity con.config.historyCapacity = con.history.clear
      rw [Scrollback.ofCapacity, Scrollback.clear, capacity]
    have viewport : con.viewport.reset =
        (start grid con.config).1.viewport.showCursor con.viewport.visible := by
      rw [origin, ← sized]
      rfl
    have shadow : con.shadow.fill none = (start grid con.config).1.shadow := by
      rw [empty, Cells.fill, shadowed]
    show Console.mk con.config con.viewport.reset (con.shadow.fill none) con.history.clear = _
    rw [viewport, shadow, ← history]
    rfl
  · have sameGrid : fresh.grid = used.grid := by
      rw [blank, ← sized]
      exact displays.sized.symm
    -- Both surfaces are cleared first, and after that only the new cursor is drawn.
    let begun : Pen :=
      { config := con.config, viewport := { grid }, shadow := Cells.replicate grid none }
    let noted : Pen := begun.wipe.note (.consoleReady grid con.config.historyCapacity)
    have cleared : Agree none (noted.screen fresh) (used.run (con.act .clear).1.2.draws) :=
      Agree.clear sameGrid con.config.background
    have shown : fresh.run (start grid con.config).2.draws = noted.highlight.screen fresh :=
      Pen.screen_present _ _
    rw [origin, shown]
    exact Pen.agree_highlight_left cleared.weaken rfl

/-- **Clearing a console forgets everything.**  Whatever was done with a console before it
was cleared, from then on it goes the way of a new console of the same size and with the
same choices: after any further operations the history, the cursor, the offset, the shadow,
what the operations answer and every cell but the cursor's are the same, and from the first
write on so are the cursor's visibility and its cell. -/
theorem clear_forgets {surface cell : Extent} {config : ConsoleConfig} {out : Output}
    {picture fresh : Picture} (created : create surface cell config = .ok (con, out))
    (sized : picture.grid = con.grid) (freshSized : fresh.grid = con.grid)
    (actions rest : List Action) :
    let used := con.run (actions ++ .clear :: rest)
    let new := con.run rest
    let usedShown := (picture.run out.draws).run used.2.draws
    let newShown := (fresh.run out.draws).run new.2.draws
    used.1.history = new.1.history ∧ used.1.cursor = new.1.cursor ∧
    used.1.viewport.offset = new.1.viewport.offset ∧ used.1.shadow = new.1.shadow ∧
    (∀ c, new.1.viewport.cursorCell? ≠ some c → usedShown.get? c = newShown.get? c) ∧
    (∀ action, (∀ pending, action ≠ .toggle pending) →
      (used.1.act action).2 = (new.1.act action).2) ∧
    ((∃ action ∈ rest, action.Writes) →
      used.1 = new.1 ∧ ∀ c, usedShown.get? c = newShown.get? c) := by
  intro used new usedShown newShown
  obtain ⟨-, configNow, displays⟩ := displays_created created sized actions
  obtain ⟨grid, -, -, made⟩ := start_of_create created
  let cleared := (con.run actions).1.act .clear
  have origin : con.grid = grid := by
    have begun := viewport_start grid config
    rw [← made] at begun
    exact congrArg Viewport.grid begun
  have same : (con.run actions).1.grid = grid :=
    (grid_run (regular_of_create created) actions).trans origin
  have capacity : (con.run actions).1.history.capacity =
      max (con.run actions).1.config.historyCapacity 1 := by
    rw [capacity_run, configNow]
    exact congrArg (fun made : Console × Output => made.1.history.capacity) made
  have twins := twins_of_cleared displays same capacity (freshSized.trans origin)
  rw [configNow, ← made] at twins
  have later : used.1 = (cleared.1.1.run rest).1 := by
    simp only [used, cleared, run_append, run_cons]
  have drawn : usedShown = (((picture.run out.draws).run (con.run actions).2.draws).run
      cleared.1.2.draws).run (cleared.1.1.run rest).2.draws := by
    simp only [usedShown, used, cleared, run_append, run_cons, Output.draws_append,
      Picture.run_append]
  have after := twins.run rest
  rw [← later, ← drawn] at after
  obtain ⟨visible, twin⟩ := after.flag
  refine ⟨twin ▸ rfl, twin ▸ rfl, twin ▸ rfl, twin ▸ rfl, ?_, ?_, ?_⟩
  · intro c other
    exact (after.agree.same c other).symm
  · intro action plain
    exact (after.answers plain).symm
  · intro writes
    obtain ⟨same, agree⟩ := twins.merged writes
    rw [← later] at same
    rw [← drawn] at agree
    exact ⟨same, fun c => (agree.same c nofun).symm⟩

/-- On three columns and two rows a console is scrolled back, hidden and cleared before a
letter is written and the cursor moved. -/
theorem clear_forgets_small :
    create ⟨24, 32⟩ ⟨8, 16⟩ {} = .ok (start ⟨3, 2⟩ {}) ∧
      (Picture.blank ⟨3, 2⟩).grid = (start ⟨3, 2⟩ {}).1.grid ∧
      ((start ⟨3, 2⟩ {}).1.run ([.write "ab\ncd" .pureRed, .scrollOlder, .toggle false] ++
        .clear :: [.write "e" .white, .moveBy (-1) 0])).1 =
      ((start ⟨3, 2⟩ {}).1.run [.write "e" .white, .moveBy (-1) 0]).1 := by
  have created : create ⟨24, 32⟩ ⟨8, 16⟩ {} =
      .ok ((start ⟨3, 2⟩ {}).1, (start ⟨3, 2⟩ {}).2) := rfl
  have sized : (Picture.blank ⟨3, 2⟩).grid = (start ⟨3, 2⟩ {}).1.grid := rfl
  obtain ⟨-, -, -, -, -, -, same⟩ := clear_forgets created sized sized
    [.write "ab\ncd" .pureRed, .scrollOlder, .toggle false] [.write "e" .white, .moveBy (-1) 0]
  exact ⟨created, sized, (same ⟨_, List.mem_cons_self, trivial⟩).1⟩

end Console

end GlyphConsole

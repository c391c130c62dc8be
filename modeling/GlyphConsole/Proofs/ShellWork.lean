import GlyphConsole.Proofs.Operations
import GlyphConsole.Terminal

/-!
# GlyphConsole.Proofs.ShellWork — what the shell does with the console

The shell, its keys and the timer all reach the console through the display, and all they do
there is to carry out operations of the console one after the other.  `Shell.Works s actions
s'` says which: from `s` to `s'` the console carried out `actions`, and what it drew meanwhile
was put out behind what had been put out before.  The processor is the same all the time.
Nothing else is said of a shell without a console, which shows nothing.

Steps are joined by `Works.trans`.  Every key event and every line that is executed is some
list of operations (`works_key`, `works_execute`), and so is every call of the timer
(`works_blink`).  So a console that a shell works on stays what some run of operations makes
of a console that was created (`Shell.Ran`, `Ran.works`), whatever happens to the terminal
(`Terminal.ran_history`).
-/

namespace GlyphConsole

set_option autoImplicit false

open Console (Action)
open Machine (PowerUnit PowerCall)

/-- The operation that writes a fragment. -/
def Fragment.write (fragment : Fragment) : Action := .write fragment.text fragment.color

namespace Shell

variable {π : Type} {s s' s'' : Shell π} {first second : List Action}

/-- From one state of the shell to another the console carried out these operations. -/
structure Works (s : Shell π) (actions : List Action) (s' : Shell π) : Prop where
  console : ∀ con, s.display.console = some con →
    s'.display.console = some (con.run actions).1
  draws : ∀ con, s.display.console = some con →
    s'.output.draws = s.output.draws ++ (con.run actions).2.draws
  processor : s'.processor = s.processor

/-- The console of the shell is what these operations make of `con`, and all that has been
drawn since, with what was taken away `earlier`, are the calls that made `con` and theirs. -/
structure Ran (s : Shell π) (con : Console) (out : Output) (earlier : Array DrawCall)
    (actions : List Action) : Prop where
  console : s.display.console = some (con.run actions).1
  draws : earlier ++ s.output.draws = out.draws ++ (con.run actions).2.draws

/-- What leaves the console alone and draws nothing is no work. -/
theorem works_nil (console : s'.display.console = s.display.console)
    (draws : s'.output.draws = s.output.draws) (processor : s'.processor = s.processor) :
    s.Works [] s' where
  console con installed := by rw [console, installed]; rfl
  draws con _ := by
    rw [draws]
    exact (Array.append_empty).symm
  processor := processor

theorem Works.trans (works : s.Works first s') (later : s'.Works second s'') :
    s.Works (first ++ second) s'' where
  console con installed := by
    rw [later.console _ (works.console con installed), Console.run_append]
  draws con installed := by
    rw [later.draws _ (works.console con installed), works.draws con installed,
      Console.run_append, Output.draws_append, Array.append_assoc]
  processor := later.processor.trans works.processor

/-- Using the console for an operation is that operation. -/
theorem works_use {α : Type} (s : Shell π) {task : Console → (Console × Output) × α}
    {action : Action} (does : ∀ con, (task con).1 = (con.act action).1) :
    s.Works [action]
      ({ s with display := (s.display.use task).1.1 }.emit (s.display.use task).1.2) := by
  constructor
  · intro con installed
    show (s.display.use task).1.1.console = _
    simp [Display.use, installed, does, Console.run]
  · intro con installed
    show s.output.draws ++ (s.display.use task).1.2.draws = _
    simp [Display.use, installed, does, Console.run]
  · rfl

theorem works_emit (s : Shell π) (notices : Array Log.Notice) : s.Works [] (s.emit { notices }) :=
  works_nil rfl Array.append_empty rfl

/-! ## Writing -/

theorem works_print (s : Shell π) (text : String) (color : Color) :
    s.Works [.write text color] (s.print text color) :=
  s.works_use fun _ => rfl

theorem works_printAll (s : Shell π) (fragments : List Fragment) :
    s.Works (fragments.map Fragment.write) (s.printAll fragments) := by
  induction fragments generalizing s with
  | nil => exact works_nil rfl rfl rfl
  | cons fragment rest ih => exact (s.works_print fragment.text fragment.color).trans (ih _)

theorem works_say (s : Shell π) (kind : MessageKind) (message : String) :
    s.Works ((kind.fragments message).map Fragment.write) (s.say kind message) :=
  s.works_printAll _

theorem works_prompt (s : Shell π) (apart : Prop) [Decidable apart] :
    ∃ actions, s.Works actions (if apart then s.print Page.lineEnd .white else s).prompt := by
  split
  · exact ⟨_, (s.works_print _ _).trans (works_printAll _ _)⟩
  · exact ⟨_, works_printAll _ _⟩

/-! ## Lines -/

/-- What carrying out an order prints. -/
def printed (s : Shell π) : Order → List Fragment
  | .help => [⟨Page.help, .white⟩]
  | .about => Page.about
  | .clear => []
  | .echo words => [⟨String.ofList (Text.unwords words) ++ Page.lineEnd, .white⟩]
  | .history => [⟨Page.history s.history.lines, .white⟩]
  | .cpuInfo => [⟨Page.processor s.processor, .white⟩]
  | .sysInfo => s.systemState.toList.map fun page => ⟨page, .white⟩
  | .reboot seconds =>
      MessageKind.info.fragments (Page.rebooting seconds) ++
        MessageKind.error.fragments Page.stillRunning
  | .shutdown seconds =>
      MessageKind.info.fragments (Page.shuttingDown seconds) ++
        MessageKind.warning.fragments Page.notOff

/-- The operations of carrying out an order. -/
def does (s : Shell π) : Order → List Action
  | .clear => [.clear]
  | order => (s.printed order).map Fragment.write

/-- The operations of running a line, which begin on the row below it. -/
def runs (s : Shell π) (line : List Char) : List Action :=
  .write Page.lineEnd .white ::
    match Order.parse line with
    | .ok (some order) => (s.noted line).does order
    | .ok none => []
    | .error e => (MessageKind.error.fragments (e.message ++ Page.lineEnd)).map Fragment.write

theorem works_noted (s : Shell π) (line : List Char) :
    s.Works [.write Page.lineEnd .white] (s.noted line) :=
  (s.works_print _ _).trans (works_nil rfl Array.append_empty rfl)

section Lines

variable [PowerUnit π]

theorem works_request (s : Shell π) (call : PowerCall) : s.Works [] (s.request call) :=
  works_nil rfl Array.append_empty rfl

theorem works_carryOut (s : Shell π) (order : Order) :
    s.Works (s.does order) (s.carryOut order) := by
  cases order with
  | help => exact s.works_print _ _
  | about => exact s.works_printAll _
  | clear => exact s.works_use fun _ => rfl
  | echo words => exact s.works_print _ _
  | history => exact s.works_print _ _
  | cpuInfo => exact s.works_print _ _
  | sysInfo =>
      simp only [does, printed, carryOut]
      cases s.systemState with
      | none => exact works_nil rfl rfl rfl
      | some page => exact s.works_print _ _
  | reboot seconds =>
      have told := s.works_say .info (Page.rebooting seconds)
      have asked := told.trans (works_request _ (.reboot seconds))
      simpa [does, printed, carryOut] using asked.trans (works_say _ .error Page.stillRunning)
  | shutdown seconds =>
      have told := s.works_say .info (Page.shuttingDown seconds)
      have asked := told.trans (works_request _ (.shutdown seconds))
      have failed := asked.trans (works_say _ .warning Page.notOff)
      simpa [does, printed, carryOut] using failed.trans (works_request _ .halt)

/-- Executing a line is some list of operations. -/
theorem works_execute (s : Shell π) (line : List Char) :
    ∃ actions, s.Works actions (s.execute line).1 := by
  unfold execute
  split
  · exact ⟨_, s.works_carryOut _⟩
  · exact ⟨[], works_nil rfl rfl rfl⟩
  · exact ⟨[], works_nil rfl rfl rfl⟩

theorem works_runLine (s : Shell π) (line : List Char) :
    s.Works (s.runs line) (s.runLine line) := by
  have begun := s.works_noted line
  unfold runs
  cases read : Order.parse line with
  | error e =>
      rw [runLine_of_error read]
      exact begun.trans (works_say _ _ _)
  | ok order =>
      cases order with
      | none =>
          rw [runLine_of_blank read]
          exact begun
      | some order =>
          rw [runLine_of_order read]
          exact begun.trans ((s.noted line).works_carryOut order)

theorem works_submit (s : Shell π) : ∃ actions, s.Works actions s.submit := by
  have begun : s.Works [] { s with line := .empty } := works_nil rfl rfl rfl
  obtain ⟨line, ran⟩ : ∃ actions, s.Works actions
      (if Text.trim s.line.chars = [] then { s with line := .empty }
        else runLine { s with line := .empty } s.line.chars) := by
    split
    · exact ⟨_, begun⟩
    · exact ⟨_, begun.trans (works_runLine { s with line := .empty } s.line.chars)⟩
  unfold submit
  extract_lets line blank startRow taken done apart
  obtain ⟨last, prompted⟩ := works_prompt done (blank ∨ 2 ≤ done.cursorRow - startRow)
  exact ⟨_, ran.trans prompted⟩

end Lines

/-! ## Keys -/

/-- What a key that edits or pages asks of the console. -/
def asks (s : Shell π) : KeyEvent → List Action
  | .char c =>
      if isTypable c = true ∧ s.line.chars.length < 128 then [.write (String.singleton c) .white]
      else []
  | .backspace => if s.line.chars = [] then [] else [.backspace]
  | .pageUp => [.scrollOlder]
  | .pageDown => [.scrollNewer]
  | .enter => []

theorem type_of_room {c : Char} (room : isTypable c = true ∧ s.line.chars.length < 128) :
    ∃ longer : InputLine, longer.chars = s.line.chars ++ [c] ∧
      s.type c = { s with line := longer }.print (String.singleton c) .white := by
  cases pushed : s.line.push? c with
  | none =>
      have full : s.line.chars.length = 128 := (InputLine.push?_eq_none_iff _ _).1 pushed
      omega
  | some longer =>
      refine ⟨longer, InputLine.chars_push? pushed, ?_⟩
      simp only [type, room.1, pushed, if_true]

theorem type_of_no_room {c : Char} (refused : ¬(isTypable c = true ∧ s.line.chars.length < 128)) :
    s.type c = s := by
  unfold type
  split
  · rename_i typable
    have full : s.line.chars.length = 128 := by
      rcases Nat.lt_or_eq_of_le s.line.length_le with shorter | full
      · exact absurd ⟨typable, shorter⟩ refused
      · exact full
    rw [(InputLine.push?_eq_none_iff _ _).2 full]
  · rfl

theorem erase_of_typed (typed : s.line.chars ≠ []) :
    ∃ shorter : InputLine, shorter.chars = s.line.chars.dropLast ∧
      s.erase = { s with line := shorter }.work Console.backspace := by
  cases popped : s.line.pop? with
  | none => simp [InputLine.pop?, typed] at popped
  | some shorter =>
      refine ⟨shorter, InputLine.chars_pop? popped, ?_⟩
      simp only [erase, popped]

theorem erase_of_empty (empty : s.line.chars = []) : s.erase = s := by
  simp [erase, InputLine.pop?, empty]

/-- Another line on the same display. -/
theorem Works.of_line {line : InputLine}
    (works : Works { s with line } first s') : s.Works first s' :=
  ⟨works.console, works.draws, works.processor⟩

section Keys

variable [PowerUnit π]

/-- A key that edits or pages is the operations it asks for. -/
theorem works_asks (s : Shell π) {event : KeyEvent} (edits : event ≠ .enter) :
    s.Works (s.asks event) (s.key event) := by
  cases event with
  | char c =>
      by_cases room : isTypable c = true ∧ s.line.chars.length < 128
      · obtain ⟨longer, -, typed⟩ := type_of_room room
        rw [asks, if_pos room, key, typed]
        exact (works_print _ _ _).of_line
      · rw [asks, if_neg room, key, type_of_no_room room]
        exact works_nil rfl rfl rfl
  | backspace =>
      by_cases empty : s.line.chars = []
      · rw [asks, if_pos empty, key, erase_of_empty empty]
        exact works_nil rfl rfl rfl
      · obtain ⟨shorter, -, erased⟩ := erase_of_typed empty
        rw [asks, if_neg empty, key, erased]
        exact Works.of_line (works_use _ fun _ => rfl)
  | pageUp => exact s.works_use fun _ => rfl
  | pageDown => exact s.works_use fun _ => rfl
  | enter => exact absurd rfl edits

/-- Every key is some list of operations. -/
theorem works_key (s : Shell π) (event : KeyEvent) : ∃ actions, s.Works actions (s.key event) := by
  by_cases submits : event = .enter
  · subst submits
    exact s.works_submit
  · exact ⟨_, s.works_asks submits⟩

end Keys

/-! ## Runs -/

/-- Whatever is done from then on continues the run of the console. -/
theorem Ran.works {con : Console} {out : Output} {earlier : Array DrawCall}
    (ran : s.Ran con out earlier first) (works : s.Works second s') :
    s'.Ran con out earlier (first ++ second) := by
  constructor
  · rw [works.console _ ran.console, Console.run_append]
  · rw [works.draws _ ran.console, Console.run_append, Output.draws_append, ← Array.append_assoc,
      ran.draws, Array.append_assoc]

/-- What was taken away has been drawn earlier. -/
theorem Ran.collect {con : Console} {out : Output} {earlier : Array DrawCall}
    (ran : s.Ran con out earlier first) :
    s.collect.Ran con out (earlier ++ s.output.draws) first :=
  ⟨ran.console, Array.append_empty.trans ran.draws⟩

end Shell

/-! ## Keyboard and timer -/

namespace Terminal

variable {π : Type}

/-- What a call of the timer asks of the console. -/
def asks (t : Terminal π) (elapsed : UInt32) (pending : Bool) : List Action :=
  if (t.timer.advance elapsed).2 = true ∧ t.shell.display.held = false then [.toggle pending]
  else []

theorem onTimer_of_idle {timer : BlinkTimer} {elapsed : UInt32} {display : Display}
    (idle : ¬((timer.advance elapsed).2 = true ∧ display.held = false)) (pending : Bool) :
    (timer.onTimer elapsed display pending).2.1 = (display, {}) := by
  unfold BlinkTimer.onTimer
  cases due : (timer.advance elapsed).2 with
  | false => simp [due]
  | true =>
      have held : display.held = true := by simpa [due] using idle
      simp [due, Display.tryUse_of_held held]

theorem onTimer_of_due {timer : BlinkTimer} {elapsed : UInt32} {display : Display}
    (due : (timer.advance elapsed).2 = true ∧ display.held = false) (pending : Bool) :
    (timer.onTimer elapsed display pending).2.1 =
      (display.use fun con => con.toggle pending).1 := by
  simp [BlinkTimer.onTimer, due.1, Display.tryUse, due.2]

/-- A call of the timer is the operation it asks for. -/
theorem works_blink (t : Terminal π) (elapsed : UInt32) (pending : Bool) :
    t.shell.Works (t.asks elapsed pending) (t.blink elapsed pending).1.shell := by
  have shell : (t.blink elapsed pending).1.shell =
      { t.shell with
        display := (t.timer.onTimer elapsed t.shell.display pending).2.1.1 }.emit
        (t.timer.onTimer elapsed t.shell.display pending).2.1.2 := rfl
  rw [shell]
  by_cases due : (t.timer.advance elapsed).2 = true ∧ t.shell.display.held = false
  · rw [asks, if_pos due, onTimer_of_due due]
    exact t.shell.works_use fun _ => rfl
  · rw [asks, if_neg due, onTimer_of_idle due]
    exact Shell.works_nil rfl Array.append_empty rfl

/-- Nobody works on a console that is held. -/
theorem works_blinkWhileHeld (t : Terminal π) (elapsed : UInt32) (pending : Bool) :
    t.shell.Works [] (t.blinkWhileHeld elapsed pending).1.shell := by
  unfold blinkWhileHeld
  split
  · have idle : t.hold.asks elapsed pending = [] :=
      if_neg fun due => Bool.false_ne_true due.2.symm
    have blinked := t.hold.works_blink elapsed pending
    rw [idle] at blinked
    exact ⟨blinked.console, blinked.draws, blinked.processor⟩
  · exact Shell.works_nil rfl rfl rfl

/-- An operation on the console from outside. -/
theorem works_act (t : Terminal π) (action : Action) :
    t.shell.Works [action] (t.act action).1.shell :=
  Shell.works_use t.shell fun _ => rfl

theorem works_tryWrite (t : Terminal π) (text : String) (color : Color) :
    ∃ actions, t.shell.Works actions (t.tryWrite text color).1.shell := by
  unfold tryWrite
  cases held : t.shell.display.held with
  | true =>
      simp only [Display.tryUse_of_held held]
      exact ⟨[], Shell.works_nil rfl Array.append_empty rfl⟩
  | false =>
      simp only [Display.tryUse, held, Bool.false_eq_true, if_false]
      exact ⟨[.write text color], Shell.works_use t.shell fun _ => rfl⟩

section Keyboard

variable [PowerUnit π]

theorem works_handle (t : Terminal π) (event : Option KeyEvent) :
    ∃ actions, t.shell.Works actions (t.handle event).shell := by
  cases event with
  | none => exact ⟨[], Shell.works_nil rfl rfl rfl⟩
  | some event => exact t.shell.works_key event

/-- A byte from the keyboard is some list of operations. -/
theorem works_feed (t : Terminal π) (byte : UInt8) :
    ∃ actions, t.shell.Works actions (t.feed byte).1.shell := by
  have noted := t.shell.works_emit (t.keyboard.feed byte).notices
  obtain ⟨actions, handled⟩ := works_handle
    { t with
      keyboard := (t.keyboard.feed byte).state
      shell := t.shell.emit { notices := (t.keyboard.feed byte).notices } }
    (t.keyboard.feed byte).event
  exact ⟨_, noted.trans handled⟩

/-- A poll of the queue is some list of operations. -/
theorem works_poll (t : Terminal π) : ∃ actions, t.shell.Works actions t.poll.1.shell := by
  have noted := t.shell.works_emit (t.queue.poll Decoder.feed t.keyboard).2.notices
  obtain ⟨actions, handled⟩ := works_handle
    { t with
      queue := (t.queue.poll Decoder.feed t.keyboard).1
      keyboard := (t.queue.poll Decoder.feed t.keyboard).2.state
      shell := t.shell.emit { notices := (t.queue.poll Decoder.feed t.keyboard).2.notices } }
    (t.queue.poll Decoder.feed t.keyboard).2.event
  exact ⟨_, noted.trans handled⟩

/-! ## Histories -/

/-- One thing that happens to a terminal. -/
inductive Happening where
  /-- A key reaches the shell. -/
  | press (event : KeyEvent)
  /-- A line is executed without being typed. -/
  | execute (line : List Char)
  /-- The shell asks for a prompt. -/
  | prompt
  /-- The keyboard interrupt brings a byte. -/
  | interrupt (byte : UInt8)
  /-- A byte comes straight from the keyboard. -/
  | feed (byte : UInt8)
  | poll
  | blink (elapsed : UInt32) (pending : Bool)
  | blinkWhileHeld (elapsed : UInt32) (pending : Bool)
  | advance (elapsed : UInt32)
  | act (action : Action)
  | tryWrite (text : String) (color : Color)
  /-- What was put out is taken away. -/
  | collect

def undergo (t : Terminal π) : Happening → Terminal π
  | .press event => t.handle (some event)
  | .execute line => { t with shell := (t.shell.execute line).1 }
  | .prompt => { t with shell := t.shell.prompt }
  | .interrupt byte => t.interrupt byte
  | .feed byte => (t.feed byte).1
  | .poll => t.poll.1
  | .blink elapsed pending => (t.blink elapsed pending).1
  | .blinkWhileHeld elapsed pending => (t.blinkWhileHeld elapsed pending).1
  | .advance elapsed => (t.advance elapsed).1
  | .act action => (t.act action).1
  | .tryWrite text color => (t.tryWrite text color).1
  | .collect => t.collect

/-- Unless it takes away what was put out, whatever happens is some list of operations. -/
theorem works_undergo (t : Terminal π) {happening : Happening} (stays : happening ≠ .collect) :
    ∃ actions, t.shell.Works actions (t.undergo happening).shell := by
  cases happening with
  | press event => exact t.works_handle (some event)
  | execute line => exact t.shell.works_execute line
  | prompt => exact ⟨_, t.shell.works_printAll _⟩
  | interrupt byte => exact ⟨[], Shell.works_nil rfl rfl rfl⟩
  | feed byte => exact t.works_feed byte
  | poll => exact t.works_poll
  | blink elapsed pending => exact ⟨_, t.works_blink elapsed pending⟩
  | blinkWhileHeld elapsed pending => exact ⟨_, t.works_blinkWhileHeld elapsed pending⟩
  | advance elapsed => exact ⟨[], Shell.works_nil rfl rfl rfl⟩
  | act action => exact ⟨_, t.works_act action⟩
  | tryWrite text color => exact t.works_tryWrite text color
  | collect => exact absurd rfl stays

/-- Whatever happens, the processor stays what it was. -/
theorem processor_undergo (t : Terminal π) (happening : Happening) :
    (t.undergo happening).shell.processor = t.shell.processor := by
  by_cases taken : happening = .collect
  · subst taken
    rfl
  · obtain ⟨_, works⟩ := t.works_undergo taken
    exact works.processor

theorem processor_history (t : Terminal π) (history : List Happening) :
    (history.foldl undergo t).shell.processor = t.shell.processor := by
  induction history generalizing t with
  | nil => rfl
  | cons happening rest ih => exact (ih _).trans (t.processor_undergo happening)

/-- After any history the console of the shell is what a run of operations made of it. -/
theorem ran_history {t : Terminal π} {con : Console} {out : Output} {earlier : Array DrawCall}
    {actions : List Action} (ran : t.shell.Ran con out earlier actions)
    (history : List Happening) :
    ∃ before since, (history.foldl undergo t).shell.Ran con out before (actions ++ since) := by
  induction history generalizing t earlier actions with
  | nil => exact ⟨earlier, [], by simpa using ran⟩
  | cons happening rest ih =>
      by_cases taken : happening = .collect
      · subst taken
        exact ih ran.collect
      · obtain ⟨since, works⟩ := t.works_undergo taken
        obtain ⟨before, later, done⟩ := ih (ran.works works)
        exact ⟨before, since ++ later, by rwa [List.append_assoc] at done⟩

end Keyboard

end Terminal

end GlyphConsole

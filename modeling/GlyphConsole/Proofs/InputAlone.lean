import GlyphConsole.Proofs.CommandLine

/-!
# GlyphConsole.Proofs.InputAlone — input is handled without the display

What the shell makes of its input is said here without a display.  `Notes` are the line and
the history, and `Notes.take` is what an input does to them.  `Notes.asks` are the calls of the
power unit that an input leads to, and what executing a line answers is found in the line alone
(`Order.fault?`).

One step of the shell follows this reference on every display, and without one
(`Shell.follows_take`), so any number of steps do (`Shell.follows_takeAll`): two shells with
the same notes keep step whatever they show (`input_ignores_display`).
-/

namespace GlyphConsole

set_option autoImplicit false

open Machine (Board Notebook PowerCall PowerReport PowerUnit)

namespace Order

/-- What a line asks of the power unit. -/
def asks (line : List Char) : List PowerCall :=
  match parse line with
  | .ok (some order) => order.calls
  | .ok none | .error _ => []

/-- What is wrong with a line. -/
def fault? (line : List Char) : Option CommandError :=
  match parse line with
  | .ok _ => none
  | .error e => some e

end Order

/-! ## The reference -/

/-- Something that reaches the shell. -/
inductive Input where
  | key (event : KeyEvent)
  /-- A line is executed without being typed. -/
  | execute (line : List Char)
deriving DecidableEq

/-- What executing a line answers; a key answers nothing. -/
def Input.answers : Input → List (Option CommandError)
  | .key _ => []
  | .execute line => [Order.fault? line]

/-- What the shell keeps of its input. -/
structure Notes where
  line : InputLine := .empty
  history : CommandHistory := .empty
deriving DecidableEq

namespace Notes

def type (n : Notes) (c : Char) : Notes :=
  if isTypable c then { n with line := (n.line.push? c).getD n.line } else n

def erase (n : Notes) : Notes := { n with line := n.line.pop?.getD n.line }

/-- The line is taken, and remembered unless it is blank. -/
def submit (n : Notes) : Notes :=
  if Text.trim n.line.chars = [] then { n with line := .empty }
  else { line := .empty, history := n.history.remember (Text.trim n.line.chars) }

/-- What an input does to the line and the history. -/
def take (n : Notes) : Input → Notes
  | .key (.char c) => n.type c
  | .key .backspace => n.erase
  | .key .enter => n.submit
  | .key .pageUp | .key .pageDown | .execute _ => n

def takeAll (n : Notes) (inputs : List Input) : Notes := inputs.foldl take n

/-- What an input asks of the power unit. -/
def asks (n : Notes) : Input → List PowerCall
  | .key .enter => if Text.trim n.line.chars = [] then [] else Order.asks n.line.chars
  | .key _ => []
  | .execute line => Order.asks line

/-- What inputs in turn ask of the power unit, input by input. -/
def asksAll (n : Notes) : List Input → List (List PowerCall)
  | [] => []
  | input :: rest => n.asks input :: (n.take input).asksAll rest

end Notes

/-! ## The shell -/

namespace Shell

variable {π : Type}

/-- What the shell keeps apart from its display. -/
def notes (s : Shell π) : Notes := ⟨s.line, s.history⟩

@[simp] theorem notes_emit (s : Shell π) (output : Output) : (s.emit output).notes = s.notes := rfl

@[simp] theorem notes_work (s : Shell π) (task : Console → Console × Output) :
    (s.work task).notes = s.notes := rfl

@[simp] theorem notes_print (s : Shell π) (text : String) (color : Color) :
    (s.print text color).notes = s.notes := rfl

@[simp] theorem notes_printAll (s : Shell π) (fragments : List Fragment) :
    (s.printAll fragments).notes = s.notes := by
  induction fragments generalizing s with
  | nil => rfl
  | cons fragment rest ih => exact (ih _).trans (notes_print ..)

@[simp] theorem notes_say (s : Shell π) (kind : MessageKind) (message : String) :
    (s.say kind message).notes = s.notes := notes_printAll ..

theorem notes_type (s : Shell π) (c : Char) : (s.type c).notes = s.notes.type c := by
  unfold type Notes.type
  split
  · split
    · rename_i longer pushed
      show (⟨longer, s.history⟩ : Notes) = { s.notes with line := (s.line.push? c).getD s.line }
      rw [pushed]
      rfl
    · rename_i full
      show s.notes = { s.notes with line := (s.line.push? c).getD s.line }
      rw [full]
      rfl
  · rfl

theorem notes_erase (s : Shell π) : s.erase.notes = s.notes.erase := by
  show s.erase.notes = { s.notes with line := s.line.pop?.getD s.line }
  unfold erase
  cases s.line.pop? <;> rfl

section Orders

variable [PowerUnit π]

@[simp] theorem notes_request (s : Shell π) (call : PowerCall) :
    (s.request call).notes = s.notes := rfl

/-- Orders neither touch the line nor are they remembered. -/
@[simp] theorem notes_carryOut (s : Shell π) (order : Order) :
    (s.carryOut order).notes = s.notes := by
  cases order with
  | help | echo words | history | cpuInfo => rw [carryOut, notes_print]
  | about => rw [carryOut, notes_printAll]
  | clear => rw [carryOut, notes_work]
  | sysInfo =>
      rw [carryOut]
      split
      · rw [notes_print]
      · rfl
  | reboot seconds => rw [carryOut, notes_say, notes_request, notes_say]
  | shutdown seconds => rw [carryOut, notes_request, notes_say, notes_request, notes_say]

@[simp] theorem notes_execute (s : Shell π) (line : List Char) :
    (s.execute line).1.notes = s.notes := by
  unfold execute
  split
  · exact notes_carryOut ..
  · rfl
  · rfl

/-- A line that is run is remembered, whatever comes of it. -/
@[simp] theorem notes_runLine (s : Shell π) (line : List Char) :
    (s.runLine line).notes = { s.notes with history := s.history.remember (Text.trim line) } := by
  cases read : Order.parse line with
  | error e =>
      rw [runLine_of_error read, notes_say]
      rfl
  | ok order =>
      cases order with
      | none =>
          rw [runLine_of_blank read]
          rfl
      | some order =>
          rw [runLine_of_order read, notes_carryOut]
          rfl

@[simp] theorem notes_submit (s : Shell π) : s.submit.notes = s.notes.submit := by
  unfold submit
  extract_lets line blank startRow taken done apart
  have prompted : apart.prompt.notes = done.notes := by
    refine (notes_printAll ..).trans ?_
    simp only [apart]
    split
    · exact notes_print ..
    · rfl
  have ran : done.notes = s.notes.submit := by
    by_cases nothing : Text.trim s.line.chars = []
    · have left : done = taken := if_pos nothing
      have submitted : s.notes.submit = { s.notes with line := .empty } := if_pos nothing
      rw [left, submitted]
      rfl
    · have left : done = taken.runLine line := if_neg nothing
      have submitted : s.notes.submit =
          { line := .empty, history := s.history.remember (Text.trim s.line.chars) } :=
        if_neg nothing
      rw [left, submitted, notes_runLine]
      rfl
  exact prompted.trans ran

theorem notes_key (s : Shell π) (event : KeyEvent) :
    (s.key event).notes = s.notes.take (.key event) := by
  cases event with
  | char c => exact s.notes_type c
  | backspace => exact s.notes_erase
  | pageUp => rfl
  | pageDown => rfl
  | enter => exact s.notes_submit

/-! ## Calls -/

/-- From one state of the shell to another the power unit was asked these things and no others,
and what it reported was kept. -/
structure Asked (s : Shell π) (calls : List PowerCall) (s' : Shell π) : Prop where
  power : s'.power = (performed s.power calls).1
  reports : s'.reports.toList = s.reports.toList ++ (performed s.power calls).2

theorem performed_append (unit : π) (first second : List PowerCall) :
    performed unit (first ++ second) =
      ((performed (performed unit first).1 second).1,
        (performed unit first).2 ++ (performed (performed unit first).1 second).2) := by
  induction first generalizing unit with
  | nil => rfl
  | cons call rest ih => simp only [List.cons_append, performed, ih]

variable {s s' s'' : Shell π} {first second : List PowerCall}

theorem asked_nil (power : s'.power = s.power) (reports : s'.reports = s.reports) :
    s.Asked [] s' :=
  ⟨power, by rw [reports, performed, List.append_nil]⟩

theorem Asked.trans (asked : s.Asked first s') (later : s'.Asked second s'') :
    s.Asked (first ++ second) s'' := by
  constructor
  · rw [later.power, asked.power, performed_append]
  · rw [later.reports, asked.reports, asked.power, performed_append, List.append_assoc]

theorem asked_carryOut (s : Shell π) (order : Order) : s.Asked order.calls (s.carryOut order) :=
  ⟨(s.power_carryOut order).1, (s.power_carryOut order).2⟩

theorem asked_execute (s : Shell π) (line : List Char) :
    s.Asked (Order.asks line) (s.execute line).1 := by
  unfold execute Order.asks
  cases Order.parse line with
  | error e => exact asked_nil rfl rfl
  | ok order =>
      cases order with
      | none => exact asked_nil rfl rfl
      | some order => exact s.asked_carryOut order

theorem asked_runLine (s : Shell π) (line : List Char) :
    s.Asked (Order.asks line) (s.runLine line) := by
  have noted : s.Asked [] (s.noted line) := asked_nil rfl rfl
  unfold Order.asks
  cases read : Order.parse line with
  | error e =>
      rw [runLine_of_error read]
      exact noted.trans (asked_nil (power_say ..) (reports_say ..))
  | ok order =>
      cases order with
      | none =>
          rw [runLine_of_blank read]
          exact noted
      | some order =>
          rw [runLine_of_order read]
          exact noted.trans ((s.noted line).asked_carryOut order)

theorem asked_submit (s : Shell π) : s.Asked (s.notes.asks (.key .enter)) s.submit := by
  unfold submit
  extract_lets line blank startRow taken done apart
  have prompted : done.Asked [] apart.prompt := by
    refine asked_nil ((power_printAll ..).trans ?_) ((reports_printAll ..).trans ?_)
    · simp only [apart]
      split <;> rfl
    · simp only [apart]
      split <;> rfl
  have ran : s.Asked (s.notes.asks (.key .enter)) done := by
    by_cases nothing : Text.trim s.line.chars = []
    · have left : done = taken := if_pos nothing
      have asks : s.notes.asks (.key .enter) = [] := if_pos nothing
      rw [left, asks]
      exact asked_nil rfl rfl
    · have left : done = taken.runLine line := if_neg nothing
      have asks : s.notes.asks (.key .enter) = Order.asks s.line.chars := if_neg nothing
      have taking : s.Asked [] taken := asked_nil rfl rfl
      rw [left, asks]
      exact taking.trans (taken.asked_runLine line)
  simpa using ran.trans prompted

theorem asked_type (s : Shell π) (c : Char) : s.Asked [] (s.type c) := by
  unfold type
  split
  · split <;> exact asked_nil rfl rfl
  · exact asked_nil rfl rfl

theorem asked_erase (s : Shell π) : s.Asked [] s.erase := by
  unfold erase
  split <;> exact asked_nil rfl rfl

theorem asked_key (s : Shell π) (event : KeyEvent) :
    s.Asked (s.notes.asks (.key event)) (s.key event) := by
  cases event with
  | char c => exact s.asked_type c
  | backspace => exact s.asked_erase
  | pageUp => exact asked_nil rfl rfl
  | pageDown => exact asked_nil rfl rfl
  | enter => exact s.asked_submit

/-! ## Inputs -/

/-- Take an input; the second part is what executing a line answers. -/
def take (s : Shell π) : Input → Shell π × List (Option CommandError)
  | .key event => (s.key event, [])
  | .execute line => ((s.execute line).1, [(s.execute line).2])

/-- Take inputs in turn. -/
def takeAll (s : Shell π) : List Input → Shell π × List (Option CommandError)
  | [] => (s, [])
  | input :: rest =>
      let first := s.take input
      let later := first.1.takeAll rest
      (later.1, first.2 ++ later.2)

theorem notes_take (s : Shell π) (input : Input) :
    (s.take input).1.notes = s.notes.take input := by
  cases input with
  | key event => exact s.notes_key event
  | execute line => exact s.notes_execute line

/-- The answer is found in the line alone. -/
theorem answers_take (s : Shell π) (input : Input) : (s.take input).2 = input.answers := by
  cases input with
  | key event => rfl
  | execute line =>
      show [(s.execute line).2] = [Order.fault? line]
      unfold execute Order.fault?
      cases Order.parse line with
      | error e => rfl
      | ok order => cases order <;> rfl

theorem asked_take (s : Shell π) (input : Input) :
    s.Asked (s.notes.asks input) (s.take input).1 := by
  cases input with
  | key event => exact s.asked_key event
  | execute line => exact s.asked_execute line

/-- Inputs in turn were taken as the reference takes them. -/
structure Follows (s : Shell π) (inputs : List Input)
    (done : Shell π × List (Option CommandError)) : Prop where
  notes : done.1.notes = s.notes.takeAll inputs
  answers : done.2 = inputs.flatMap Input.answers
  asked : s.Asked (s.notes.asksAll inputs).flatten done.1

/-- The shell takes its inputs as the reference does, on every display. -/
theorem follows_takeAll (s : Shell π) (inputs : List Input) :
    s.Follows inputs (s.takeAll inputs) := by
  induction inputs generalizing s with
  | nil => exact ⟨rfl, rfl, asked_nil rfl rfl⟩
  | cons input rest ih =>
      have later := ih (s.take input).1
      have asked := (s.asked_take input).trans later.asked
      rw [notes_take] at asked
      refine ⟨?_, ?_, asked⟩
      · exact later.notes.trans (congrArg (Notes.takeAll · rest) (s.notes_take input))
      · show (s.take input).2 ++ ((s.take input).1.takeAll rest).2 = _
        rw [answers_take, later.answers, List.flatMap_cons]

end Orders

end Shell

theorem Notes.asksAll_take (n : Notes) (inputs : List Input) (count : Nat) :
    n.asksAll (inputs.take count) = (n.asksAll inputs).take count := by
  induction inputs generalizing n count with
  | nil => simp [asksAll]
  | cons input rest ih =>
      cases count with
      | zero => rfl
      | succ count => simp [asksAll, ih]

/-- **Input is handled without the display.**  Let two shells have the same line and the same
history, and be as different as may be in all else: their consoles, or that only one has one,
and even their power units.  Then any keys and lines to execute leave both, after each of
them, with the same line and the same history, and they have answered the same and have asked
their power units for the same, input by input. -/
theorem input_ignores_display {π ρ : Type} [PowerUnit π] [PowerUnit ρ] {s : Shell π} {t : Shell ρ}
    (line : s.line = t.line) (history : s.history = t.history) (inputs : List Input) :
    let calls := s.notes.asksAll inputs
    ∀ count,
      let ours := s.takeAll (inputs.take count)
      let theirs := t.takeAll (inputs.take count)
      ours.1.line = theirs.1.line ∧ ours.1.history = theirs.1.history ∧ ours.2 = theirs.2 ∧
      s.Asked (calls.take count).flatten ours.1 ∧ t.Asked (calls.take count).flatten theirs.1 := by
  intro calls count ours theirs
  have same : s.notes = t.notes := congrArg₂ Notes.mk line history
  have first := s.follows_takeAll (inputs.take count)
  have second := t.follows_takeAll (inputs.take count)
  have asked := first.asked
  have asked' := second.asked
  have notes : ours.1.notes = theirs.1.notes := by rw [first.notes, second.notes, same]
  rw [Notes.asksAll_take] at asked asked'
  rw [← same] at asked'
  exact ⟨congrArg Notes.line notes, congrArg Notes.history notes,
    first.answers.trans second.answers.symm, asked, asked'⟩

/-- A shell on three columns and two rows and one without a console take the same line, whose
delay is no number, and then a restart. -/
theorem input_ignores_display_small :
    let shown : Shell Notebook :=
      { display := ({} : Display).install (Console.start ⟨3, 2⟩ {}).1, power := ⟨⟩ }
    let blind : Shell Board := { power := {} }
    let inputs : List Input := [.key (.char 'a'), .key .enter, .execute "reboot x".toList,
      .execute "reboot 7".toList]
    shown.line = blind.line ∧ shown.history = blind.history ∧
      (shown.takeAll inputs).1.history = (blind.takeAll inputs).1.history ∧
      (shown.takeAll inputs).2 = (blind.takeAll inputs).2 ∧
      shown.notes.asksAll inputs = [[], [], [], [.reboot 7]] := by
  intro shown blind inputs
  have line : shown.line = blind.line := rfl
  have history : shown.history = blind.history := rfl
  have calls : shown.notes.asksAll inputs = [[], [], [], [.reboot 7]] := by decide +kernel
  obtain ⟨-, same, answers, -, -⟩ := input_ignores_display line history inputs 4
  exact ⟨line, history, same, answers, calls⟩

end GlyphConsole

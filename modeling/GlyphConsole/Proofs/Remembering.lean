import Mathlib.Data.List.Destutter
import Mathlib.Data.List.DropRight
import GlyphConsole.Proofs.FreshPrompt

/-!
# GlyphConsole.Proofs.Remembering — the lines that are remembered

The reference for the command history knows nothing of a history.  A `Desk` holds the draft of
a line (`Draft`) and every line that was ever entered.  Of these the ones count that are not
blank, trimmed (`Desk.commands`).  Collapsing each run of equal neighbours to one is
`List.destutter` here, and the last entries are `List.rtake`.

To remember a line is to add it to what was collapsed and to cut that again
(`CommandHistory.lines_remember`): what is compared is the newest line, which the cut leaves in
place, and the line that makes room is the one that the cut takes away.  So the shell `Records`
the desk, whatever it is given (`Shell.Records.takeAll`), and what is true of every command is
true of the history (`history_of_entered`).
-/

namespace GlyphConsole

set_option autoImplicit false

open Machine (Notebook PowerUnit)

/-! ## Collapsing and cutting -/

section Lists

variable {α : Type}

theorem destutter'_concat [DecidableEq α] (first : α) (l : List α) (a : α) :
    (l ++ [a]).destutter' (· ≠ ·) first =
      if (l.destutter' (· ≠ ·) first).getLast? = some a then l.destutter' (· ≠ ·) first
      else l.destutter' (· ≠ ·) first ++ [a] := by
  induction l generalizing first with
  | nil => by_cases same : first = a <;> simp [same]
  | cons b rest ih =>
      by_cases other : first ≠ b
      · have last : (first :: rest.destutter' (· ≠ ·) b).getLast? =
            (rest.destutter' (· ≠ ·) b).getLast? :=
          List.getLast?_cons_of_ne_nil (List.destutter'_ne_nil _ _)
        rw [List.cons_append, List.destutter'_cons_pos _ other, List.destutter'_cons_pos _ other,
          ih, last]
        split <;> rfl
      · rw [List.cons_append, List.destutter'_cons_neg _ other, List.destutter'_cons_neg _ other,
          ih]

/-- An element behind a list is kept unless it repeats the last one kept. -/
theorem destutter_concat [DecidableEq α] (l : List α) (a : α) :
    (l ++ [a]).destutter (· ≠ ·) =
      if (l.destutter (· ≠ ·)).getLast? = some a then l.destutter (· ≠ ·)
      else l.destutter (· ≠ ·) ++ [a] := by
  cases l with
  | nil => rfl
  | cons first rest => exact destutter'_concat first rest a

theorem getLast?_rtake (l : List α) (n : Nat) : (l.rtake (n + 1)).getLast? = l.getLast? := by
  rw [List.rtake, List.getLast?_drop]
  split
  · rename_i none
    have empty : l = [] := List.eq_nil_of_length_eq_zero (by omega)
    rw [empty, List.getLast?_nil]
  · rfl

/-- One more element behind the last ones: the oldest makes room if there were enough. -/
theorem rtake_concat (l : List α) (a : α) (n : Nat) :
    (l ++ [a]).rtake (n + 1) =
      (if (l.rtake (n + 1)).length < n + 1 then l.rtake (n + 1) else (l.rtake (n + 1)).tail) ++
        [a] := by
  rw [List.rtake_concat_succ]
  have held : (l.rtake (n + 1)).length = l.length - (l.length - (n + 1)) := by
    rw [List.rtake, List.length_drop]
  split
  · have short : l.length ≤ n := by omega
    rw [List.rtake, List.rtake, show l.length - n = l.length - (n + 1) by omega]
  · have long : l.length - n = l.length - (n + 1) + 1 := by omega
    rw [List.rtake, List.rtake, List.tail_drop, long]

end Lists

/-- If the history is the last entries of what was collapsed, it stays so with one more line. -/
theorem CommandHistory.lines_remember {h : CommandHistory} {commands : List (List Char)}
    (records : h.lines = (commands.destutter (· ≠ ·)).rtake capacity) (line : List Char) :
    (h.remember line).lines = ((commands ++ [line]).destutter (· ≠ ·)).rtake capacity := by
  -- The cut leaves the newest line, so that the comparison is the one of `destutter_concat`.
  have newest : h.lines.getLast? = (commands.destutter (· ≠ ·)).getLast? := by
    rw [records]
    exact getLast?_rtake _ _
  rw [destutter_concat, ← newest]
  unfold remember
  split
  · exact records
  · have cut : (commands.destutter (· ≠ ·) ++ [line]).rtake capacity =
        (if h.lines.length < capacity then h.lines else h.lines.tail) ++ [line] := by
      rw [records]
      exact rtake_concat _ _ _
    rw [cut]
    split <;> rfl

/-! ## The desk -/

/-- The line that is edited, and the lines entered before it. -/
structure Desk where
  draft : Draft := {}
  entered : List (List Char) := []

namespace Desk

/-- Entering a line puts it behind the others; other keys edit it. -/
def take (desk : Desk) : Input → Desk
  | .key .enter => { entered := desk.entered ++ [desk.draft.line] }
  | .key event => { desk with draft := desk.draft.key event }
  | .execute _ => desk

def takeAll (desk : Desk) (inputs : List Input) : Desk := inputs.foldl take desk

/-- The lines that were entered, trimmed, without the blank ones. -/
def commands (desk : Desk) : List (List Char) := (desk.entered.map Text.trim).filter (· ≠ [])

theorem take_edit {event : KeyEvent} (edits : event ≠ .enter) (desk : Desk) :
    desk.take (.key event) = { desk with draft := desk.draft.key event } := by
  cases event with
  | enter => exact absurd rfl edits
  | char c | backspace | pageUp | pageDown => rfl

theorem commands_enter (desk : Desk) :
    (desk.take (.key .enter)).commands =
      if Text.trim desk.draft.line = [] then desk.commands
      else desk.commands ++ [Text.trim desk.draft.line] := by
  simp only [take, commands, List.map_append, List.filter_append]
  split <;> simp [*]

/-- At most 128 characters, and all of them can be typed. -/
def Typed (line : List Char) : Prop := line.length ≤ 128 ∧ ∀ c ∈ line, isTypable c = true

/-- Everything on the desk has been typed. -/
structure Tidy (desk : Desk) : Prop where
  draft : Typed desk.draft.line
  entered : ∀ line ∈ desk.entered, Typed line

theorem typed_nil : Typed [] := ⟨by decide, fun _ none => absurd none List.not_mem_nil⟩

theorem typed_key {draft : Draft} (typed : Typed draft.line) (event : KeyEvent) :
    Typed (draft.key event).line := by
  cases event with
  | char c =>
      rw [Draft.key]
      split
      · rename_i room
        refine ⟨?_, fun d member => ?_⟩
        · show (draft.line ++ [c]).length ≤ 128
          rw [List.length_append, List.length_singleton]
          exact room.2
        · rcases List.mem_append.1 member with before | added
          · exact typed.2 d before
          · rw [List.mem_singleton.1 added]
            exact room.1
      · exact typed
  | backspace =>
      refine ⟨?_, fun d member => typed.2 d (List.dropLast_subset _ member)⟩
      exact (List.dropLast_sublist _).length_le.trans typed.1
  | enter | pageUp | pageDown => exact typed

theorem Tidy.take {desk : Desk} (tidy : desk.Tidy) (input : Input) : (desk.take input).Tidy := by
  cases input with
  | execute line => exact tidy
  | key event =>
      by_cases enters : event = .enter
      · subst enters
        refine ⟨typed_nil, fun line member => ?_⟩
        rcases List.mem_append.1 member with before | added
        · exact tidy.entered line before
        · rw [List.mem_singleton.1 added]
          exact tidy.draft
      · rw [take_edit enters]
        exact ⟨typed_key tidy.draft event, tidy.entered⟩

theorem Tidy.takeAll {desk : Desk} (tidy : desk.Tidy) (inputs : List Input) :
    (desk.takeAll inputs).Tidy := by
  induction inputs generalizing desk with
  | nil => exact tidy
  | cons input rest ih => exact ih (tidy.take input)

/-- So every command is, and it has something in it and no blank at its ends. -/
theorem Tidy.command {desk : Desk} (tidy : desk.Tidy) {command : List Char}
    (member : command ∈ desk.commands) :
    command ≠ [] ∧ command.head? ≠ some ' ' ∧ command.getLast? ≠ some ' ' ∧ Typed command := by
  obtain ⟨trimmed, some⟩ := List.mem_filter.1 member
  obtain ⟨line, entered, rfl⟩ := List.mem_map.1 trimmed
  have typed := tidy.entered line entered
  refine ⟨of_decide_eq_true some, fun first => ?_, fun last => ?_, ?_, fun c inside => ?_⟩
  · cases Text.head?_trim first
  · cases Text.getLast?_trim last
  · exact (Text.length_trim_le line).trans typed.1
  · exact typed.2 c (Text.mem_of_mem_trim inside)

end Desk

/-! ## The shell -/

theorem Notes.history_edit {event : KeyEvent} (edits : event ≠ .enter) (n : Notes) :
    (n.take (.key event)).history = n.history := by
  cases event with
  | char c =>
      show (n.type c).history = n.history
      unfold type
      split <;> rfl
  | enter => exact absurd rfl edits
  | backspace | pageUp | pageDown => rfl

namespace Shell

variable {π : Type} {s : Shell π} {desk : Desk}

/-- The shell edits the line that is on the desk, and its history is the end of the commands
there. -/
structure Records (s : Shell π) (desk : Desk) : Prop where
  line : s.line.chars = desk.draft.line
  history : s.history.lines =
    (desk.commands.destutter (· ≠ ·)).rtake CommandHistory.capacity

/-- The shell while it runs the line that was entered. -/
def running (s : Shell π) : Shell π := noted { s with line := .empty } s.line.chars

section Inputs

variable [PowerUnit π]

theorem history_submit_of_blank (blank : Text.trim s.line.chars = []) :
    s.submit.history = s.history := by
  have submitted : s.notes.submit = { s.notes with line := .empty } := if_pos blank
  exact congrArg Notes.history (s.notes_submit.trans submitted)

/-- What is remembered of a line is so before it is run, and stays so whatever comes of it. -/
theorem history_submit_of_line (nonblank : Text.trim s.line.chars ≠ []) :
    s.submit.history = s.running.history := by
  have submitted : s.notes.submit = ⟨.empty, s.running.history⟩ := if_neg nonblank
  exact congrArg Notes.history (s.notes_submit.trans submitted)

theorem Records.enter (records : s.Records desk) :
    (s.key .enter).Records (desk.take (.key .enter)) := by
  refine ⟨congrArg InputLine.chars s.line_submit, ?_⟩
  show s.submit.history.lines = _
  rw [Desk.commands_enter, ← records.line]
  by_cases blank : Text.trim s.line.chars = []
  · rw [if_pos blank, history_submit_of_blank blank]
    exact records.history
  · rw [if_neg blank, history_submit_of_line blank]
    exact CommandHistory.lines_remember records.history _

theorem Records.edit (records : s.Records desk) {event : KeyEvent} (edits : event ≠ .enter) :
    (s.key event).Records (desk.take (.key event)) := by
  rw [Desk.take_edit edits]
  constructor
  · -- On a terminal with this shell, the key is a stroke.
    exact Terminal.line_stroke (t := { shell := s }) records.line (.key event edits)
  · have kept := (congrArg Notes.history (s.notes_key event)).trans (s.notes.history_edit edits)
    exact (congrArg CommandHistory.lines kept).trans records.history

theorem Records.take (records : s.Records desk) (input : Input) :
    (s.take input).1.Records (desk.take input) := by
  cases input with
  | execute line =>
      have kept := s.notes_execute line
      constructor
      · exact (congrArg (·.line.chars) kept).trans records.line
      · exact (congrArg (·.history.lines) kept).trans records.history
  | key event =>
      by_cases edits : event = .enter
      · subst edits
        exact records.enter
      · exact records.edit edits

/-- Whatever the shell is given, it records the desk. -/
theorem Records.takeAll (records : s.Records desk) (inputs : List Input) :
    (s.takeAll inputs).1.Records (desk.takeAll inputs) := by
  induction inputs generalizing s desk with
  | nil => exact records
  | cons input rest ih => exact ih (records.take input)

end Inputs

end Shell

/-- A space in front makes no other line of it, and an error does not keep it out. -/
example :
    let inputs : List Input := [.key (.char 'x'), .key .enter, .key (.char ' '), .key (.char 'x'),
      .key .enter, .key .enter, .execute "help".toList]
    (Shell.takeAll ({ power := ⟨⟩ } : Shell Notebook) inputs).1.history.lines = [['x']] := by
  decide +kernel

end GlyphConsole

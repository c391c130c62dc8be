import GlyphConsole.Proofs.CommandLine
import GlyphConsole.Proofs.Operations

/-!
# GlyphConsole.Proofs.Splitting — words that are joined come apart again

`Text.spaced` puts words on a line with gaps of any blanks between them, and `words_spaced` takes
them off it again: a word ends where a gap begins, and the blanks in front of a word are skipped.
Joining with single spaces is the case of one gap (`unwords_eq_spaced`).  The shell splits at the
same places, as long as there are not too many words (`Order.splitWords_eq`).

What `echo` writes is made of words and of blanks that separate them, none of them a tab, so that
it is kept as it is (`expandTabs_of_no_tab`), and so that the words come out of it unchanged when
it is echoed once more (`Shell.echoes_of_words`).
-/

namespace GlyphConsole

set_option autoImplicit false

open Machine (Notebook PowerUnit)

/-! ## Words on a line -/

namespace Text

/-- A word is not empty and holds no blanks. -/
def IsWord (cs : List Char) : Prop := cs ≠ [] ∧ ∀ c ∈ cs, isBlank c = false

/-- A gap between words is not empty and holds nothing but blanks. -/
def IsGap (cs : List Char) : Prop := cs ≠ [] ∧ ∀ c ∈ cs, isBlank c = true

instance (cs : List Char) : Decidable (IsWord cs) :=
  decidable_of_iff (cs ≠ [] ∧ (cs.all fun c => !isBlank c) = true) (by simp [IsWord])

instance (cs : List Char) : Decidable (IsGap cs) :=
  decidable_of_iff (cs ≠ [] ∧ cs.all isBlank = true) (by simp [IsGap])

/-- Words on a line with gaps between them, the first gap behind the first word. -/
def spaced (gaps : Nat → List Char) : List (List Char) → List Char
  | [] => []
  | [word] => word
  | word :: next :: rest => word ++ (gaps 0 ++ spaced (fun i => gaps (i + 1)) (next :: rest))

/-- Joined words are words with a space in every gap. -/
theorem unwords_eq_spaced (ws : List (List Char)) : unwords ws = spaced (fun _ => [' ']) ws := by
  induction ws with
  | nil => rfl
  | cons word rest ih =>
      cases rest with
      | nil => exact List.intercalate_singleton
      | cons next others =>
          have joined : [' '].intercalate (word :: next :: others) =
              word ++ [' '] ++ [' '].intercalate (next :: others) := List.intercalate_cons_cons
          rw [unwords, joined, List.append_assoc]
          exact congrArg (fun others => word ++ ([' '] ++ others)) ih

/-- What begins with a blank, or ends before it began, ends the word in front of it. -/
theorem ends_of_blank {blanks rest : List Char} (white : ∀ c ∈ blanks, isBlank c = true)
    (some : blanks ≠ [] ∨ rest = []) : (blanks ++ rest).head?.all isBlank = true := by
  cases blanks with
  | nil =>
      rcases some with absent | rfl
      · exact absurd rfl absent
      · rfl
  | cons c cs => exact white c List.mem_cons_self

/-- The words of a line with gaps are the words that were put there. -/
theorem words_spaced {gaps : Nat → List Char} {ws : List (List Char)} {trail : List Char}
    (solid : ∀ word ∈ ws, IsWord word) (apart : ∀ i, IsGap (gaps i))
    (white : ∀ c ∈ trail, isBlank c = true) : words (spaced gaps ws ++ trail) = ws := by
  induction ws generalizing gaps with
  | nil =>
      have blank := words_of_blank white []
      rw [List.append_nil] at blank
      exact blank
  | cons word rest ih =>
      obtain ⟨some, plain⟩ := solid word List.mem_cons_self
      have later : ∀ next ∈ rest, IsWord next :=
        fun next member => solid next (List.mem_cons_of_mem _ member)
      have known := ih later fun i => apart (i + 1)
      cases rest with
      | nil =>
          have ends := ends_of_blank white (.inr rfl)
          rw [List.append_nil] at ends
          rw [spaced, words_of_solid some plain ends]
          exact congrArg (word :: ·) known
      | cons next others =>
          obtain ⟨gap, blank⟩ := apart 0
          have ends :
              (gaps 0 ++ (spaced (fun i => gaps (i + 1)) (next :: others) ++ trail)).head?.all
                isBlank = true := ends_of_blank blank (.inl gap)
          rw [spaced, List.append_assoc, List.append_assoc, words_of_solid some plain ends,
            words_of_blank blank, known]

/-- Joined words come apart again, whatever blanks follow. -/
theorem words_unwords {ws : List (List Char)} {trail : List Char}
    (solid : ∀ word ∈ ws, IsWord word)
    (white : ∀ c ∈ trail, isBlank c = true) : words (unwords ws ++ trail) = ws := by
  rw [unwords_eq_spaced]
  exact words_spaced solid (fun _ => by decide) white

/-- What follows the first word of a line is words. -/
theorem isWord_of_words {line name : List Char} {others : List (List Char)}
    (split : words line = name :: others) : ∀ word ∈ others, IsWord word := by
  intro word member
  apply words_wellFormed line
  rw [split]
  exact List.mem_cons_of_mem _ member

theorem isBlank_of_letter {c : Char} (low : 65 ≤ c.toNat) (high : c.toNat ≤ 122) :
    isBlank c = false := by
  simp only [isBlank, blankRanges, List.any_cons, List.any_nil, Bool.or_false,
    Bool.or_eq_false_iff, decide_eq_false_iff_not]
  omega

end Text

/-! ## Names -/

namespace Command

open Text (IsWord isBlank isBlank_of_letter)

theorem SameButCase.isBlank_eq {c d : Char} (same : SameButCase c d) : isBlank c = isBlank d := by
  rcases same with rfl | ⟨low, high, lower⟩ | ⟨low, high, upper⟩
  · rfl
  · rw [isBlank_of_letter low (by omega), isBlank_of_letter (c := d) (by omega) (by omega)]
  · rw [isBlank_of_letter (c := c) (by omega) (by omega), isBlank_of_letter low (by omega)]

theorem names_solid : ∀ command ∈ all, ∀ name ∈ command.names, IsWord name.toList := by
  decide +kernel

/-- A word that names a command is a word. -/
theorem GoesBy.isWord {command : Command} {word : List Char} (goes : command.GoesBy word) :
    IsWord word := by
  obtain ⟨name, named, same⟩ := goes
  obtain ⟨some, plain⟩ := names_solid command (mem_all command) name named
  generalize name.toList = letters at same some plain
  constructor
  · rintro rfl
    exact some (List.forall₂_nil_right_iff.1 same)
  · clear some
    induction same with
    | nil => exact fun c none => absurd none List.not_mem_nil
    | cons alike _ ih =>
        intro c member
        rcases List.mem_cons.1 member with rfl | later
        · rw [← alike.isBlank_eq]
          exact plain _ List.mem_cons_self
        · exact ih (fun d inside => plain d (List.mem_cons_of_mem _ inside)) c later

end Command

/-! ## Splitting -/

/-- Up to sixteen words are taken, and one more is too many. -/
theorem Order.splitWords_eq (line : List Char) :
    splitWords line =
      if (Text.words line).length ≤ 16 then .ok (Text.words line)
      else .error (.tooManyWords 16) := by
  split
  · rename_i few
    exact splitWords_of_few few
  · rename_i many
    exact splitWords_of_many (Nat.not_le.1 many)

/-! ## Echo -/

theorem expandTabs_of_no_tab {text : String} (plain : '\t' ∉ text.toList) (width : Nat) :
    expandTabs width text = text := by
  have alone : ∀ c ∈ text.toList, (if c = '\t' then List.replicate width ' ' else [c]) = [c] := by
    intro c member
    exact if_neg fun tab : c = '\t' => plain (tab ▸ member)
  rw [expandTabs, List.flatMap_congr alone, List.flatMap_singleton', String.ofList_toList]

/-- Words joined by single spaces, and the end of a line. -/
def echoed (ws : List (List Char)) : String := String.ofList (Text.unwords ws) ++ "\n\r"

theorem toList_echoed (ws : List (List Char)) :
    (echoed ws).toList = Text.unwords ws ++ ['\n', '\r'] := by
  rw [echoed, String.toList_append, String.toList_ofList]
  rfl

theorem no_tab_echoed {ws : List (List Char)} (solid : ∀ word ∈ ws, Text.IsWord word) :
    '\t' ∉ (echoed ws).toList := by
  intro tab
  rw [toList_echoed, List.mem_append] at tab
  rcases tab with joined | ended
  · rcases Text.mem_of_mem_unwords joined with space | ⟨word, member, inside⟩
    · exact absurd space (by decide)
    · have blank := (solid word member).2 '\t' inside
      exact absurd blank (by decide)
  · exact absurd ended (by decide)

namespace Shell

variable {π : Type} [PowerUnit π]

/-- The line is executed without an error, and all that this does is to write this text on the
console.  The text is kept as one span. -/
structure Echoes (s : Shell π) (line : List Char) (text : String) : Prop where
  executed : s.execute line = (s.print text .white, none)
  written : ∀ con, s.display.console = some con → ∃ after,
    (s.execute line).1.display.console = some after ∧
      after.history = (con.history.append ⟨text, .white, con.cursor⟩).1

/-- A line that begins with a name of `echo` writes the other words. -/
theorem echoes_of_words {s : Shell π} {line name : List Char} {arguments : List (List Char)}
    (words : Text.words line = name :: arguments) (few : arguments.length < 16)
    (goes : Command.echo.GoesBy name) : s.Echoes line (echoed arguments) := by
  have read : Order.parse line = .ok (some (.echo arguments)) :=
    Order.parse_of_command words few goes
  have executed : s.execute line = (s.print (echoed arguments) .white, none) := by
    simp only [execute, read]
    rfl
  refine ⟨executed, ?_⟩
  intro con installed
  refine ⟨(con.act (.write (echoed arguments) .white)).1.1, ?_, ?_⟩
  · rw [executed]
    show (s.display.use _).1.1.console = _
    simp only [Display.use, installed]
    rfl
  · have kept := con.history_act (.write (echoed arguments) .white)
    rw [kept, Console.historyAfter, Console.kept, Console.spanFor,
      expandTabs_of_no_tab (no_tab_echoed (Text.isWord_of_words words))]

end Shell

/-- **Splitting takes apart what joining puts together.**  Put words on a line, with any gaps
between them and any blanks in front and behind.  Splitting the line gives back the words, in
order, if there are sixteen or fewer, and an error if there are more.  From any line that is split
at all come the characters that are not blank, in order, and nothing else.

Therefore a line of sixteen words or fewer, the first of which names `echo`, writes one span on a
console: the other words with single spaces between them, and the end of a line.  To echo this
text again, by any name of `echo`, in any shell and after any gap, writes the same text. -/
theorem split_inverts_join {π : Type} [PowerUnit π] :
    (∀ (ws : List (List Char)) (gaps : Nat → List Char) (lead trail : List Char),
      (∀ word ∈ ws, Text.IsWord word) → (∀ i, Text.IsGap (gaps i)) →
      (∀ c ∈ lead ++ trail, Text.isBlank c = true) →
      Order.splitWords (lead ++ (Text.spaced gaps ws ++ trail)) =
        if ws.length ≤ 16 then .ok ws else .error (.tooManyWords 16)) ∧
    (∀ line ws, Order.splitWords line = .ok ws →
      ws.flatten = line.filter fun c => !Text.isBlank c) ∧
    ∀ (s : Shell π) (line name : List Char) (arguments : List (List Char)),
      Text.Runs line (name :: arguments) → arguments.length + 1 ≤ 16 →
      Command.echo.GoesBy name →
      let text := String.ofList ([' '].intercalate arguments) ++ "\n\r"
      s.Echoes line text ∧
      ∀ (again : Shell π) (other gap : List Char), Command.echo.GoesBy other →
        Text.IsGap gap → again.Echoes (other ++ (gap ++ text.toList)) text := by
  refine ⟨?_, ?_, ?_⟩
  · intro ws gaps lead trail solid apart white
    have before : ∀ c ∈ lead, Text.isBlank c = true :=
      fun c member => white c (List.mem_append_left _ member)
    have behind : ∀ c ∈ trail, Text.isBlank c = true :=
      fun c member => white c (List.mem_append_right _ member)
    rw [Order.splitWords_eq, Text.words_of_blank before, Text.words_spaced solid apart behind]
  · intro line ws taken
    rw [Order.splitWords_eq] at taken
    split at taken
    · cases taken
      exact Text.flatten_words line
    · cases taken
  · intro s line name arguments runs few goes text
    have words : Text.words line = name :: arguments := (Text.runs_iff.1 runs).symm
    refine ⟨Shell.echoes_of_words words few goes, ?_⟩
    intro again other gap named ⟨apart, blank⟩
    have ended : Text.IsGap ['\n', '\r'] := by decide
    have others : Text.words text.toList = arguments := by
      rw [show text.toList = _ from toList_echoed arguments]
      exact Text.words_unwords (Text.isWord_of_words words) ended.2
    obtain ⟨some, plain⟩ := named.isWord
    have ends : (gap ++ text.toList).head?.all Text.isBlank = true :=
      Text.ends_of_blank blank (.inl apart)
    have both : Text.words (other ++ (gap ++ text.toList)) = other :: arguments := by
      rw [Text.words_of_solid some plain ends, Text.words_of_blank blank, others]
    exact Shell.echoes_of_words both few named

/-- Blanks that are no spaces separate words too, and they come back as spaces. -/
theorem split_inverts_join_small :
    let shell : Shell Notebook :=
      { display := { console := some (Console.start ⟨9, 2⟩ {}).1 }, power := ⟨⟩ }
    let ws : List (List Char) := ["ECHO".toList, ['a'], ['b']]
    (∀ word ∈ ws, Text.IsWord word) ∧ Text.IsGap ['\u2003'] ∧
      Order.splitWords "\tECHO\u2003a\u2003b\n".toList = .ok ws ∧
      Command.echo.GoesBy "ECHO".toList ∧
      shell.Echoes "\tECHO\u2003a\u2003b\n".toList "a b\n\r" ∧
      shell.Echoes "ECHO\u2003a b\n\r".toList "a b\n\r" := by
  intro shell ws
  obtain ⟨splits, -, echoes⟩ := @split_inverts_join Notebook _
  have solid : ∀ word ∈ ws, Text.IsWord word := by decide
  have gap : Text.IsGap ['\u2003'] := by decide
  have around : Text.IsGap (['\t'] ++ ['\n']) := by decide
  have split := splits ws (fun _ => ['\u2003']) ['\t'] ['\n'] solid (fun _ => gap) around.2
  have named : Command.echo.GoesBy "ECHO".toList := Command.lookup_eq_some_iff.1 (by decide +kernel)
  have runs : Text.Runs "\tECHO\u2003a\u2003b\n".toList ws := Text.runs_iff.2 (by decide +kernel)
  obtain ⟨first, again⟩ := echoes shell _ "ECHO".toList [['a'], ['b']] runs (by decide) named
  exact ⟨solid, gap, split, named, first, again shell _ _ named gap⟩

end GlyphConsole

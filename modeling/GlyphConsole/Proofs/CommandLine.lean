import Mathlib.Data.List.Forall2
import Mathlib.Data.Nat.Digits.Defs
import GlyphConsole.Shell.Basic

/-!
# GlyphConsole.Proofs.CommandLine — what a line does, and what is wrong with it

What the shell computes from a line is described here without its functions.  `Text.Runs`
says what the words of a line are, `Command.GoesBy` which word names a command, and
`Numeral` which number a row of digits stands for, by place value.  Each of them is what the
function of the shell finds (`runs_iff`, `lookup_eq_some_iff`, `numeral?_eq_some_iff`).

On words, `Order.Faulty` lists what can be wrong, and `Order.Calls` what is asked of the
power unit if nothing is.  A line is parsed to an error exactly if its words have that fault
(`parse_eq_error_iff`), and every order that comes out of a line carries the calls of its
words (`parse_eq_ok`).  Carrying it out makes just these calls, in order and whatever the
unit is (`power_carryOut`).  `execute_exact` is the outcome for every line in every state of
the shell.
-/

namespace GlyphConsole

set_option autoImplicit false

open Machine (PowerCall PowerReport PowerUnit)

/-! ## Words -/

namespace Text

/-- The maximal runs of a line without blanks: blanks, a run that ends where the line does or
before a blank, and what follows. -/
inductive Runs : List Char → List (List Char) → Prop where
  | blank {blanks : List Char} (white : ∀ c ∈ blanks, isBlank c = true) : Runs blanks []
  | word {blanks run rest : List Char} {others : List (List Char)}
      (white : ∀ c ∈ blanks, isBlank c = true) (some : run ≠ [])
      (solid : ∀ c ∈ run, isBlank c = false) (ends : rest.head?.all isBlank = true)
      (following : Runs rest others) : Runs (blanks ++ (run ++ rest)) (run :: others)

/-- A run at the beginning of a line. -/
theorem Runs.of_solid {run rest : List Char} {others : List (List Char)} (some : run ≠ [])
    (solid : ∀ c ∈ run, isBlank c = false) (ends : rest.head?.all isBlank = true)
    (following : Runs rest others) : Runs (run ++ rest) (run :: others) :=
  .word (fun _ none => absurd none List.not_mem_nil) some solid ends following

theorem Runs.cons_blank {c : Char} {cs : List Char} {runs : List (List Char)}
    (white : isBlank c = true) (following : Runs cs runs) : Runs (c :: cs) runs := by
  cases following with
  | blank others => exact .blank (by simpa [white] using others)
  | @word blanks run rest others before some solid ends after =>
      rw [← List.cons_append]
      exact .word (by simpa [white] using before) some solid ends after

/-- A character in front of a run makes the run longer. -/
theorem Runs.cons_solid {c : Char} {cs : List Char} {runs : List (List Char)}
    (solid : isBlank c = false) (goesOn : cs.head?.all isBlank = false)
    (following : Runs cs runs) :
    ∃ run others, runs = run :: others ∧ Runs (c :: cs) ((c :: run) :: others) := by
  cases following with
  | blank white =>
      cases cs with
      | nil => simp at goesOn
      | cons d rest => simp [white] at goesOn
  | @word blanks run rest others white some rigid ends after =>
      cases blanks with
      | cons d blanks => simp [white] at goesOn
      | nil =>
          refine ⟨run, others, rfl, ?_⟩
          have whole : ∀ d ∈ c :: run, isBlank d = false := by simpa [solid] using rigid
          exact Runs.of_solid (List.cons_ne_nil c run) whole ends after

theorem runs_words (line : List Char) : Runs line (words line) := by
  induction line with
  | nil => exact .blank (by simp)
  | cons c cs ih =>
      cases white : isBlank c with
      | true =>
          simp only [words, white, if_true]
          exact ih.cons_blank white
      | false =>
          cases last : cs.head?.all isBlank with
          | true =>
              simp only [words, white, last, if_true, Bool.false_eq_true, if_false]
              have whole : ∀ d ∈ [c], isBlank d = false := by simpa using white
              exact Runs.of_solid (List.cons_ne_nil c []) whole last ih
          | false =>
              obtain ⟨run, others, found, longer⟩ := ih.cons_solid white last
              simpa [words, white, last, found] using longer

theorem words_of_blank {blanks : List Char} (white : ∀ c ∈ blanks, isBlank c = true)
    (rest : List Char) : words (blanks ++ rest) = words rest := by
  induction blanks with
  | nil => rfl
  | cons c cs ih =>
      have first := white c List.mem_cons_self
      have later : ∀ d ∈ cs, isBlank d = true :=
        fun d inside => white d (List.mem_cons_of_mem _ inside)
      simp [words, first, ih later]

theorem words_of_solid {run rest : List Char} (some : run ≠ [])
    (solid : ∀ c ∈ run, isBlank c = false) (ends : rest.head?.all isBlank = true) :
    words (run ++ rest) = run :: words rest := by
  induction run with
  | nil => exact absurd rfl some
  | cons c cs ih =>
      have first := solid c List.mem_cons_self
      cases cs with
      | nil => simp [words, first, ends]
      | cons d ds =>
          have later : ∀ e ∈ d :: ds, isBlank e = false :=
            fun e inside => solid e (List.mem_cons_of_mem _ inside)
          have next := later d List.mem_cons_self
          have known := ih (by simp) later
          rw [List.cons_append, words, known]
          simp [first, next]

/-- The words of a line are its runs, and nothing else is. -/
theorem runs_iff {line : List Char} {runs : List (List Char)} :
    Runs line runs ↔ runs = words line := by
  constructor
  · intro here
    induction here with
    | blank white => simpa [words] using (words_of_blank white []).symm
    | word white some solid ends following ih =>
        rw [words_of_blank white, words_of_solid some solid ends, ih]
  · rintro rfl
    exact runs_words line

end Text

/-! ## Names -/

namespace Command

/-- The same character, or the same ASCII letter in the other case. -/
def SameButCase (c d : Char) : Prop :=
  c = d ∨ (65 ≤ c.toNat ∧ c.toNat ≤ 90 ∧ d.toNat = c.toNat + 32) ∨
    (65 ≤ d.toNat ∧ d.toNat ≤ 90 ∧ c.toNat = d.toNat + 32)

/-- One of the names of the command is this word, up to the case of ASCII letters. -/
def GoesBy (command : Command) (word : List Char) : Prop :=
  ∃ name ∈ command.names, List.Forall₂ SameButCase name.toList word

theorem toNat_toLower (c : Char) :
    c.toLower.toNat = if 65 ≤ c.toNat ∧ c.toNat ≤ 90 then c.toNat + 32 else c.toNat := by
  unfold Char.toLower
  split
  · rename_i upper
    have low : 65 ≤ c.toNat := upper.1
    have high : c.toNat ≤ 90 := upper.2
    rw [if_pos ⟨low, high⟩]
    change (c.val + 32).toNat = c.val.toNat + 32
    have small : c.val.toNat ≤ 90 := high
    rw [UInt32.toNat_add]
    change (c.val.toNat + 32) % 2 ^ 32 = c.val.toNat + 32
    omega
  · rename_i other
    rw [if_neg]
    intro upper
    exact other ⟨upper.1, upper.2⟩

theorem toLower_eq_iff (c d : Char) : c.toLower = d.toLower ↔ SameButCase c d := by
  rw [← Char.toNat_inj, toNat_toLower, toNat_toLower, SameButCase, ← Char.toNat_inj]
  split <;> split <;> omega

theorem foldCase_eq_iff (name word : List Char) :
    foldCase name = foldCase word ↔ List.Forall₂ SameButCase name word := by
  induction name generalizing word with
  | nil =>
      rw [List.forall₂_nil_left_iff]
      simp [foldCase, eq_comm]
  | cons c cs ih =>
      cases word with
      | nil =>
          rw [List.forall₂_nil_right_iff]
          simp [foldCase]
      | cons d ds =>
          have later : cs.map Char.toLower = ds.map Char.toLower ↔
            List.Forall₂ SameButCase cs ds := ih ds
          simp [foldCase, toLower_eq_iff, later]

theorem answersTo_iff (command : Command) (word : List Char) :
    command.answersTo word = true ↔ command.GoesBy word := by
  simp [answersTo, GoesBy, foldCase_eq_iff]

/-- No name belongs to two commands. -/
theorem names_apart : ∀ first ∈ all, ∀ second ∈ all, ∀ one ∈ first.names, ∀ other ∈ second.names,
    foldCase one.toList = foldCase other.toList → first = second := by
  decide +kernel

theorem GoesBy.unique {first second : Command} {word : List Char} (one : first.GoesBy word)
    (other : second.GoesBy word) : first = second := by
  obtain ⟨name, named, same⟩ := one
  obtain ⟨alternative, listed, alike⟩ := other
  have folded := (foldCase_eq_iff _ _).2 same
  have again := (foldCase_eq_iff _ _).2 alike
  exact names_apart first (mem_all first) second (mem_all second) name named
    alternative listed (folded.trans again.symm)

theorem goesBy_of_lookup {word : List Char} {command : Command}
    (found : lookup word = some command) : command.GoesBy word := by
  obtain ⟨name, named, same⟩ := mem_names_of_lookup found
  exact ⟨name, named, (foldCase_eq_iff _ _).1 same⟩

theorem lookup_eq_some_iff {word : List Char} {command : Command} :
    lookup word = some command ↔ command.GoesBy word := by
  constructor
  · exact goesBy_of_lookup
  · intro goes
    have answers : (lookup word).isSome = true := by
      rw [lookup, List.find?_isSome]
      exact ⟨command, mem_all command, (answersTo_iff _ _).2 goes⟩
    obtain ⟨found, here⟩ := Option.isSome_iff_exists.1 answers
    rw [here, (goesBy_of_lookup here).unique goes]

theorem lookup_eq_none_iff {word : List Char} :
    lookup word = none ↔ ∀ command : Command, ¬command.GoesBy word := by
  rw [Option.eq_none_iff_forall_ne_some]
  simp only [ne_eq, lookup_eq_some_iff]

end Command

/-! ## Delays -/

theorem map_eq_ok_iff {ε α β : Type} {x : Except ε α} {f : α → β} {b : β} :
    x.map f = .ok b ↔ ∃ a, x = .ok a ∧ f a = b := by
  cases x <;> simp [Except.map]

theorem map_eq_error_iff {ε α β : Type} {x : Except ε α} {f : α → β} {e : ε} :
    x.map f = .error e ↔ x = .error e := by
  cases x <;> simp [Except.map]

namespace Order

/-- The word is a row of ASCII digits, and this is its decimal value. -/
def Numeral (word : List Char) (value : Nat) : Prop :=
  word ≠ [] ∧ (∀ c ∈ word, 48 ≤ c.toNat ∧ c.toNat ≤ 57) ∧
    value = Nat.ofDigits 10 (word.reverse.map fun c => c.toNat - 48)

/-- The arguments of a power command ask for this delay. -/
inductive Asks : List (List Char) → UInt32 → Prop where
  | default : Asks [] 5
  | given {word : List Char} {seconds : UInt32} (digits : Numeral word seconds.toNat) :
      Asks [word] seconds

theorem decimal_eq_ofDigits (digits : List Char) :
    decimal digits = Nat.ofDigits 10 (digits.reverse.map fun c => c.toNat - 48) := by
  rw [Nat.ofDigits_eq_foldr, List.foldr_map, decimal, List.foldl_eq_foldr_reverse]
  congr 1
  funext c value
  exact Nat.add_comm _ _

theorem all_isDigit_iff (word : List Char) :
    word.all Char.isDigit = true ↔ ∀ c ∈ word, 48 ≤ c.toNat ∧ c.toNat ≤ 57 := by
  simp only [List.all_eq_true, Char.isDigit_iff_toNat]
  rfl

theorem numeral?_eq_some_iff {word : List Char} {seconds : UInt32} :
    numeral? word = some seconds ↔ Numeral word seconds.toNat := by
  constructor
  · intro read
    unfold numeral? at read
    split at read
    · rename_i row
      cases read
      refine ⟨row.1, (all_isDigit_iff word).1 row.2.1, ?_⟩
      rw [← decimal_eq_ofDigits, UInt32.toNat_ofNat_of_lt' row.2.2]
    · cases read
  · rintro ⟨some, digits, value⟩
    rw [← decimal_eq_ofDigits] at value
    have fits : decimal word < UInt32.size := value ▸ seconds.toNat_lt
    rw [numeral?, if_pos ⟨some, (all_isDigit_iff word).2 digits, fits⟩, ← value,
      UInt32.ofNat_toNat]

/-- Zeros in front are read over; 2^32 is the first number that is too big. -/
example : numeral? "007".toList = some 7 ∧ numeral? "4294967296".toList = none := by
  decide +kernel

theorem numeral?_eq_none_iff {word : List Char} :
    numeral? word = none ↔ ∀ seconds : UInt32, ¬Numeral word seconds.toNat := by
  rw [Option.eq_none_iff_forall_ne_some]
  simp only [ne_eq, numeral?_eq_some_iff]

theorem delay_eq_ok_iff {name : List Char} {arguments : List (List Char)} {seconds : UInt32} :
    delay name arguments = .ok seconds ↔ Asks arguments seconds := by
  constructor
  · intro read
    match arguments with
    | [] =>
        cases read
        exact .default
    | [word] =>
        cases number : numeral? word with
        | none => simp [delay, number] at read
        | some value =>
            obtain rfl : value = seconds := by simpa [delay, number] using read
            exact .given (numeral?_eq_some_iff.1 number)
    | _ :: _ :: _ => simp [delay] at read
  · intro asks
    cases asks with
    | default => rfl
    | given digits => simp [delay, numeral?_eq_some_iff.2 digits]

/-! ## Faults -/

/-- The command waits before it acts, and so takes an argument. -/
def Delays (command : Command) : Prop := command = .reboot ∨ command = .shutdown

/-- What is wrong with the arguments of a power command. -/
inductive Declines (name : List Char) : List (List Char) → CommandError → Prop where
  | surplus {arguments : List (List Char)} (more : 2 ≤ arguments.length) :
      Declines name arguments (.argumentCount name 0 1 arguments.length)
  | garbled {word : List Char} (unread : ∀ seconds : UInt32, ¬Numeral word seconds.toNat) :
      Declines name [word] (.notNumeric name)

/-- What is wrong with the words of a line: there are more than sixteen, the first names no
command, or it names a power command that does not take the others. -/
inductive Faulty : List (List Char) → CommandError → Prop where
  | crowded {words : List (List Char)} (more : 16 < words.length) :
      Faulty words (.tooManyWords 16)
  | stranger {name : List Char} {arguments : List (List Char)} (few : arguments.length < 16)
      (unknown : ∀ command : Command, ¬command.GoesBy name) :
      Faulty (name :: arguments) (.unknown name)
  | declined {name : List Char} {arguments : List (List Char)} {command : Command}
      {e : CommandError} (few : arguments.length < 16) (goes : command.GoesBy name)
      (delays : Delays command) (declines : Declines name arguments e) :
      Faulty (name :: arguments) e

/-- What the words of a line ask of the power unit. -/
inductive Calls : List (List Char) → List PowerCall → Prop where
  | blank : Calls [] []
  | other {name : List Char} {arguments : List (List Char)} {command : Command}
      (goes : command.GoesBy name) (harmless : ¬Delays command) : Calls (name :: arguments) []
  | reboot {name : List Char} {arguments : List (List Char)} {seconds : UInt32}
      (goes : Command.reboot.GoesBy name) (asks : Asks arguments seconds) :
      Calls (name :: arguments) [.reboot seconds]
  | shutdown {name : List Char} {arguments : List (List Char)} {seconds : UInt32}
      (goes : Command.shutdown.GoesBy name) (asks : Asks arguments seconds) :
      Calls (name :: arguments) [.shutdown seconds, .halt]

/-- What an order asks of the power unit. -/
def calls : Order → List PowerCall
  | .reboot seconds => [.reboot seconds]
  | .shutdown seconds => [.shutdown seconds, .halt]
  | _ => []

theorem delay_eq_error_iff {name : List Char} {arguments : List (List Char)} {e : CommandError} :
    delay name arguments = .error e ↔ Declines name arguments e := by
  constructor
  · intro wrong
    match arguments with
    | [] => cases wrong
    | [word] =>
        cases number : numeral? word with
        | some value => simp [delay, number] at wrong
        | none =>
            obtain rfl : .notNumeric name = e := by simpa [delay, number] using wrong
            exact .garbled (numeral?_eq_none_iff.1 number)
    | first :: second :: rest =>
        obtain rfl : .argumentCount name 0 1 (rest.length + 2) = e := by
          simpa [delay] using wrong
        have more : 2 ≤ (first :: second :: rest).length := by simp
        exact .surplus more
  · intro declines
    cases declines with
    | surplus more =>
        match arguments with
        | [] => simp at more
        | [word] => simp at more
        | _ :: _ :: _ => rfl
    | garbled unread => simp [delay, numeral?_eq_none_iff.2 unread]

theorem ofCommand_eq_error_iff {name : List Char} {arguments : List (List Char)}
    {command : Command} {e : CommandError} :
    ofCommand name arguments command = .error e ↔ Delays command ∧ Declines name arguments e := by
  rw [← delay_eq_error_iff]
  cases command with
  | reboot | shutdown => simp [ofCommand, Delays, map_eq_error_iff]
  | help | about | clear | echo | history | cpuInfo | sysInfo => simp [ofCommand, Delays]

/-- An order carries the calls of the words that it was made from. -/
theorem ofCommand_eq_ok {name : List Char} {arguments : List (List Char)} {command : Command}
    {order : Order} (goes : command.GoesBy name)
    (made : ofCommand name arguments command = .ok order) :
    Calls (name :: arguments) order.calls := by
  cases command with
  | reboot =>
      obtain ⟨seconds, read, rfl⟩ := map_eq_ok_iff.1 made
      exact .reboot goes (delay_eq_ok_iff.1 read)
  | shutdown =>
      obtain ⟨seconds, read, rfl⟩ := map_eq_ok_iff.1 made
      exact .shutdown goes (delay_eq_ok_iff.1 read)
  | help | about | clear | echo | history | cpuInfo | sysInfo =>
      cases made
      exact .other goes (by simp [Delays])

theorem splitWords_of_many {line : List Char} (many : 16 < (Text.words line).length) :
    splitWords line = .error (.tooManyWords 16) := by
  rw [splitWords]
  exact if_pos many

theorem splitWords_of_few {line : List Char} (few : (Text.words line).length ≤ 16) :
    splitWords line = .ok (Text.words line) := by
  rw [splitWords]
  exact if_neg (Nat.not_lt.2 few)

theorem splitWords_of_words {line name : List Char} {arguments : List (List Char)}
    (words : Text.words line = name :: arguments) (few : arguments.length < 16) :
    splitWords line = .ok (name :: arguments) := by
  rw [← words]
  apply splitWords_of_few
  rw [words]
  exact few

theorem parse_of_command {line name : List Char} {arguments : List (List Char)}
    {command : Command} (words : Text.words line = name :: arguments)
    (few : arguments.length < 16) (goes : command.GoesBy name) :
    parse line = (ofCommand name arguments command).map some := by
  simp only [parse, splitWords_of_words words few, Command.lookup_eq_some_iff.2 goes]

theorem parse_of_stranger {line name : List Char} {arguments : List (List Char)}
    (words : Text.words line = name :: arguments) (few : arguments.length < 16)
    (unknown : ∀ command : Command, ¬command.GoesBy name) :
    parse line = .error (.unknown name) := by
  simp only [parse, splitWords_of_words words few, Command.lookup_eq_none_iff.2 unknown]

/-- A name belongs to a command or to none. -/
theorem goesBy_or_unknown (name : List Char) :
    (∃ command : Command, command.GoesBy name) ∨ ∀ command : Command, ¬command.GoesBy name := by
  cases found : Command.lookup name with
  | none => exact .inr (Command.lookup_eq_none_iff.1 found)
  | some command => exact .inl ⟨command, Command.lookup_eq_some_iff.1 found⟩

/-- What there is to find in a line: too many words, none, a name that no command has, or a
command with its arguments. -/
theorem parse_cases (line : List Char) :
    (16 < (Text.words line).length ∧ parse line = .error (.tooManyWords 16)) ∨
    (Text.words line = [] ∧ parse line = .ok none) ∨
    ∃ name arguments, Text.words line = name :: arguments ∧ arguments.length < 16 ∧
      ((∀ command : Command, ¬command.GoesBy name) ∧ parse line = .error (.unknown name) ∨
        ∃ command : Command, command.GoesBy name ∧
          parse line = (ofCommand name arguments command).map some) := by
  by_cases many : 16 < (Text.words line).length
  · exact .inl ⟨many, by rw [parse, splitWords_of_many many]⟩
  have short := Nat.not_lt.1 many
  cases words : Text.words line with
  | nil => exact .inr (.inl ⟨rfl, by rw [parse, splitWords_of_few short, words]⟩)
  | cons name arguments =>
      have few : arguments.length < 16 := by
        rw [words] at short
        exact short
      refine .inr (.inr ⟨name, arguments, rfl, few, ?_⟩)
      rcases goesBy_or_unknown name with ⟨command, goes⟩ | unknown
      · exact .inr ⟨command, goes, parse_of_command words few goes⟩
      · exact .inl ⟨unknown, parse_of_stranger words few unknown⟩

/-- A line is parsed to an error exactly if its words have that fault. -/
theorem parse_eq_error_iff {line : List Char} {e : CommandError} :
    parse line = .error e ↔ Faulty (Text.words line) e := by
  constructor
  · intro wrong
    rcases parse_cases line with ⟨many, read⟩ | ⟨-, read⟩ |
      ⟨name, arguments, words, few, ⟨unknown, read⟩ | ⟨command, goes, read⟩⟩
    · cases read.symm.trans wrong
      exact .crowded many
    · cases read.symm.trans wrong
    · cases read.symm.trans wrong
      rw [words]
      exact .stranger few unknown
    · obtain ⟨delays, declines⟩ :=
        ofCommand_eq_error_iff.1 (map_eq_error_iff.1 (read.symm.trans wrong))
      rw [words]
      exact .declined few goes delays declines
  · intro faulty
    generalize words : Text.words line = known at faulty
    cases faulty with
    | crowded more =>
        rw [← words] at more
        rw [parse, splitWords_of_many more]
    | stranger few unknown => exact parse_of_stranger words few unknown
    | declined few goes delays declines =>
        have refused := ofCommand_eq_error_iff.2 ⟨delays, declines⟩
        rw [parse_of_command words few goes, refused]
        rfl

theorem parse_eq_ok {line : List Char} {order : Option Order} (read : parse line = .ok order) :
    Calls (Text.words line) (order.elim [] calls) := by
  rcases parse_cases line with ⟨-, wrong⟩ | ⟨words, blank⟩ |
    ⟨name, arguments, words, -, ⟨-, wrong⟩ | ⟨command, goes, made⟩⟩
  · cases wrong.symm.trans read
  · cases blank.symm.trans read
    rw [words]
    exact .blank
  · cases wrong.symm.trans read
  · obtain ⟨plain, ordered, rfl⟩ := map_eq_ok_iff.1 (made.symm.trans read)
    rw [words]
    exact ofCommand_eq_ok goes ordered

end Order

/-! ## Calls -/

namespace Shell

variable {π : Type}

@[simp] theorem power_emit (s : Shell π) (output : Output) : (s.emit output).power = s.power := rfl

@[simp] theorem reports_emit (s : Shell π) (output : Output) :
    (s.emit output).reports = s.reports := rfl

@[simp] theorem power_print (s : Shell π) (text : String) (color : Color) :
    (s.print text color).power = s.power := rfl

@[simp] theorem reports_print (s : Shell π) (text : String) (color : Color) :
    (s.print text color).reports = s.reports := rfl

@[simp] theorem power_printAll (s : Shell π) (fragments : List Fragment) :
    (s.printAll fragments).power = s.power := by
  induction fragments generalizing s with
  | nil => rfl
  | cons fragment rest ih => exact (ih _).trans (power_print ..)

@[simp] theorem reports_printAll (s : Shell π) (fragments : List Fragment) :
    (s.printAll fragments).reports = s.reports := by
  induction fragments generalizing s with
  | nil => rfl
  | cons fragment rest ih => exact (ih _).trans (reports_print ..)

@[simp] theorem power_say (s : Shell π) (kind : MessageKind) (message : String) :
    (s.say kind message).power = s.power := power_printAll ..

@[simp] theorem reports_say (s : Shell π) (kind : MessageKind) (message : String) :
    (s.say kind message).reports = s.reports := reports_printAll ..

variable [PowerUnit π]

/-- A power unit after it was asked these things in order, and what it reported. -/
def performed (unit : π) : List PowerCall → π × List PowerReport
  | [] => (unit, [])
  | call :: rest =>
      let first := PowerUnit.perform unit call
      let later := performed first.1 rest
      (later.1, first.2 :: later.2)

/-- Carrying out an order asks the power unit for its calls, and for nothing else. -/
theorem power_carryOut (s : Shell π) (order : Order) :
    (s.carryOut order).power = (performed s.power order.calls).1 ∧
      (s.carryOut order).reports.toList =
        s.reports.toList ++ (performed s.power order.calls).2 := by
  cases order with
  | reboot seconds => simp [carryOut, request, Order.calls, performed]
  | shutdown seconds => simp [carryOut, request, Order.calls, performed]
  | sysInfo =>
      simp only [carryOut]
      split <;> simp [Order.calls, performed]
  | help | clear | echo words | history | cpuInfo =>
      exact ⟨rfl, (List.append_nil _).symm⟩
  | about => simp [carryOut, Order.calls, performed]

theorem execute_eq_error_iff {s : Shell π} {line : List Char} {e : CommandError} :
    (s.execute line).2 = some e ↔ Order.parse line = .error e := by
  unfold execute
  cases read : Order.parse line with
  | error other => simp
  | ok order => cases order <;> simp

/-- **A line does what its words ask for, or it does nothing.**  Every line has runs of
characters that are not blank, in one way only, and with these for words:

* the line is refused with an error exactly if its words have that fault: there are more than
  sixteen; or else the first is no command's name; or else it is a power command's, and it is
  followed by two words or more, or by one that is no number below 2^32;
* a line that is refused leaves the shell, its console, its power unit and all, as it was;
* a line that is not refused asks the power unit for the calls of its words, in that order,
  and for nothing else: none, or a restart, or turning off and then a halt, after the delay
  that was given or else five seconds. -/
theorem execute_exact (s : Shell π) (line : List Char) :
    ∃ words, Text.Runs line words ∧ (∀ others, Text.Runs line others → others = words) ∧
      (∀ e, (s.execute line).2 = some e ↔ Order.Faulty words e) ∧
      (∀ e, (s.execute line).2 = some e → (s.execute line).1 = s) ∧
      ((s.execute line).2 = none → ∃ calls, Order.Calls words calls ∧
        (s.execute line).1.power = (performed s.power calls).1 ∧
        (s.execute line).1.reports.toList =
          s.reports.toList ++ (performed s.power calls).2) := by
  refine ⟨Text.words line, Text.runs_words line, fun _ runs => Text.runs_iff.1 runs, ?_, ?_, ?_⟩
  · intro e
    rw [execute_eq_error_iff, Order.parse_eq_error_iff]
  · intro e wrong
    exact execute_error wrong
  · intro fine
    cases read : Order.parse line with
    | error e =>
        have wrong := (execute_eq_error_iff (s := s)).2 read
        rw [fine] at wrong
        cases wrong
    | ok order =>
        have asked := Order.parse_eq_ok read
        refine ⟨_, asked, ?_⟩
        cases order with
        | none => simp [execute, read, performed]
        | some order =>
            simp only [execute, read]
            exact power_carryOut s order

end Shell

end GlyphConsole

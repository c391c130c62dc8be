import GlyphConsole.Shell.Command
import GlyphConsole.Text.Words

/-!
# GlyphConsole.Shell.Order — from a line to what it asks for

An `Order` is a command together with arguments that have been checked, so an order
can always be carried out.  `Order.parse` reads one from a line; a blank line asks for
nothing.

All that can be wrong with a line is found here, in this order: too many words, a first
word that is no command, and arguments that the command does not take.  A delay is at
most one argument, a row of ASCII digits whose value fits 32 bits.
-/

namespace GlyphConsole

set_option autoImplicit false

/-- What is wrong with a line. -/
inductive CommandError where
  | unknown (name : List Char)
  | argumentCount (name : List Char) (least most got : Nat)
  | notNumeric (name : List Char)
  | tooManyWords (most : Nat)
deriving DecidableEq, Inhabited

def CommandError.message : CommandError → String
  | .unknown name => "Invalid command \"" ++ String.ofList name ++ "\"."
  | .argumentCount name least most got =>
      "The " ++ String.ofList name ++ " command must have " ++ toString least ++ "-" ++
        toString most ++ " argument(s) supplied, not " ++ toString got ++ "."
  | .notNumeric name =>
      "The " ++ String.ofList name ++ " command must have numeric arguments supplied."
  | .tooManyWords most =>
      "The command line has more than " ++ toString most ++ " arguments."

/-- A command with its arguments checked. -/
inductive Order where
  | help
  | about
  | clear
  | echo (words : List (List Char))
  | history
  | cpuInfo
  | sysInfo
  | reboot (seconds : UInt32)
  | shutdown (seconds : UInt32)
deriving DecidableEq, Inhabited

namespace Order

/-- The most words on a line, the name of the command included. -/
def mostWords : Nat := 16

/-- The delay when none is given. -/
def defaultDelay : UInt32 := 5

/-- The words of a line, unless there are too many. -/
def splitWords (line : List Char) : Except CommandError (List (List Char)) :=
  let words := Text.words line
  if mostWords < words.length then .error (.tooManyWords mostWords) else .ok words

/-- The value of a row of decimal digits. -/
def decimal (digits : List Char) : Nat :=
  digits.foldl (fun value digit => 10 * value + (digit.toNat - '0'.toNat)) 0

/-- The number that a word stands for, if it is a row of digits and fits 32 bits. -/
def numeral? (word : List Char) : Option UInt32 :=
  if word ≠ [] ∧ word.all Char.isDigit ∧ decimal word < UInt32.size then
    some (UInt32.ofNat (decimal word))
  else none

/-- The delay that the arguments of a command ask for. -/
def delay (name : List Char) : List (List Char) → Except CommandError UInt32
  | [] => .ok defaultDelay
  | [word] =>
      match numeral? word with
      | some seconds => .ok seconds
      | none => .error (.notNumeric name)
  | words => .error (.argumentCount name 0 1 words.length)

/-- The order that a command and its arguments make. -/
def ofCommand (name : List Char) (arguments : List (List Char)) :
    Command → Except CommandError Order
  | .help => .ok .help
  | .about => .ok .about
  | .clear => .ok .clear
  | .echo => .ok (.echo arguments)
  | .history => .ok .history
  | .cpuInfo => .ok .cpuInfo
  | .sysInfo => .ok .sysInfo
  | .reboot => (delay name arguments).map .reboot
  | .shutdown => (delay name arguments).map .shutdown

/-- What a line asks for; `none` if it is blank. -/
def parse (line : List Char) : Except CommandError (Option Order) :=
  match splitWords line with
  | .error e => .error e
  | .ok [] => .ok none
  | .ok (name :: arguments) =>
      match Command.lookup name with
      | some command => (ofCommand name arguments command).map some
      | none => .error (.unknown name)

end Order

end GlyphConsole

/-!
# GlyphConsole.Shell.Command — the commands of the shell

Each command has one or more names, a usage line and a summary.  `Command.all` lists
them in the order in which the shell shows them (`mem_all`).  A name is looked up
without regard to the case of ASCII letters, and `Command.lookup` finds exactly the
commands that go by it (`mem_names_of_lookup`).
-/

namespace GlyphConsole

set_option autoImplicit false

inductive Command where
  | help
  | about
  | clear
  | echo
  | history
  | cpuInfo
  | sysInfo
  | reboot
  | shutdown
deriving DecidableEq, Inhabited

namespace Command

/-- The commands in the order of the help text. -/
def all : List Command :=
  [.help, .about, .clear, .echo, .history, .cpuInfo, .sysInfo, .reboot, .shutdown]

/-- The names that a command goes by, the usual one first. -/
def names : Command → List String
  | .help => ["help"]
  | .about => ["about"]
  | .clear => ["clear", "cls"]
  | .echo => ["echo"]
  | .history => ["history"]
  | .cpuInfo => ["cpuinfo"]
  | .sysInfo => ["sysinfo"]
  | .reboot => ["reboot", "restart"]
  | .shutdown => ["shutdown", "poweroff", "turnoff"]

def usage : Command → String
  | .help => "help"
  | .about => "about"
  | .clear => "clear"
  | .echo => "echo <text>"
  | .history => "history"
  | .cpuInfo => "cpuinfo"
  | .sysInfo => "sysinfo"
  | .reboot => "reboot [seconds]"
  | .shutdown => "shutdown [seconds]"

def summary : Command → String
  | .help => "Lists available commands."
  | .about => "Prints the system name and version."
  | .clear => "Clears the screen and the scrollback."
  | .echo => "Prints text to the console."
  | .history => "Lists recently entered commands."
  | .cpuInfo => "Shows CPU vendor, brand and features."
  | .sysInfo => "Shows console and scrollback usage."
  | .reboot => "Restarts the machine after a delay."
  | .shutdown => "Turns the machine off after a delay."

/-- A word with its ASCII letters in lower case. -/
def foldCase (word : List Char) : List Char := word.map Char.toLower

/-- The command goes by this word. -/
def answersTo (command : Command) (word : List Char) : Bool :=
  command.names.any fun name => foldCase name.toList == foldCase word

/-- The command that goes by a word. -/
def lookup (word : List Char) : Option Command := all.find? fun command => command.answersTo word

theorem mem_all (command : Command) : command ∈ all := by
  cases command <;> simp [all]

theorem mem_names_of_lookup {word : List Char} {command : Command}
    (found : lookup word = some command) :
    ∃ name ∈ command.names, foldCase name.toList = foldCase word := by
  have answers := List.find?_some found
  simpa [answersTo] using answers

end Command

end GlyphConsole

import GlyphConsole.Color
import GlyphConsole.Machine.Processor
import GlyphConsole.Shell.Command
import GlyphConsole.Text.Field
import GlyphConsole.Text.Words

/-!
# GlyphConsole.Shell.Message — what the shell writes

The fixed texts of the shell: the name of the system, the prompt as six fragments with
their colors, messages with a colored tag, and the pages that commands print.  A page
ends each of its lines by moving down and then to the left edge.
-/

namespace GlyphConsole

set_option autoImplicit false

/-- A text and the color it is written in. -/
structure Fragment where
  text : String
  color : Color := .white
deriving DecidableEq, Inhabited

/-- What a message is about. -/
inductive MessageKind where
  | info
  | error
  | warning
  | debug
deriving DecidableEq, Inhabited

namespace MessageKind

def tag : MessageKind → String
  | .info => "INFO"
  | .error => "ERROR"
  | .warning => "WARN"
  | .debug => "DEBUG"

def color : MessageKind → Color
  | .info => .pureGreen
  | .error => .pureRed
  | .warning => .yellow
  | .debug => .magenta

/-- A message is written in four fragments, its tag in the color of its kind. -/
def fragments (kind : MessageKind) (message : String) : List Fragment :=
  [⟨"[", .white⟩, ⟨kind.tag, kind.color⟩, ⟨"] >> ", .white⟩, ⟨message, .white⟩]

end MessageKind

namespace Page

open Machine (Features Processor)

/-- How a line ends on the console. -/
def lineEnd : String := "\n\r"

def system : String := "Borealis 0.4.2"

/-- The prompt: user, host and path. -/
def prompt : List Fragment :=
  [⟨"root", .cyan⟩, ⟨"@", .white⟩, ⟨"borealis", .magenta⟩, ⟨"[", .white⟩, ⟨"NoFS", .pureRed⟩,
    ⟨"] >> ", .white⟩]

/-- The line of the help page for one command, with its other names if it has any. -/
def helpLine (command : Command) : String :=
  let aliases := command.names.tail
  Text.padRight 20 command.usage ++ command.summary ++
    (if aliases = [] then "" else " Aliases: " ++ ", ".intercalate aliases ++ ".") ++ lineEnd

def help : String := "[== COMMANDS ==]" ++ lineEnd ++ String.join (Command.all.map helpLine)

def about : List Fragment :=
  [⟨"[== ABOUT ==]" ++ lineEnd, .white⟩, ⟨system ++ lineEnd, .teal⟩,
    ⟨"Framebuffer console with scrollback. Built with Rust." ++ lineEnd, .white⟩]

/-- The lines entered before, numbered from one. -/
def history (lines : List (List Char)) : String :=
  String.join <| lines.zipIdx.map fun entry =>
    Text.padLeft 3 (toString (entry.2 + 1)) ++ "  " ++ String.ofList entry.1 ++ lineEnd

def vendorLine : Option String → String
  | some vendor => "Vendor ID: \"" ++ vendor ++ "\""
  | none => "Vendor ID: unknown"

def brandLine (brand : String) : String :=
  "Brand string: \"" ++ String.ofList (Text.trim brand.toList) ++ "\""

def modelLine (f : Features) : String :=
  "Model: " ++ toString f.model.toNat ++ " Family: " ++ toString f.family.toNat ++
    " Stepping: " ++ toString f.stepping.toNat

def featuresLine (f : Features) : String :=
  "Features: SSE=" ++ toString f.sse ++ " SSE2=" ++ toString f.sse2 ++
    " SSE3=" ++ toString f.sse3 ++ " AVX=" ++ toString f.avx

/-- The lines about the processor.  Its vendor is missed if it is not known, everything else is
left out. -/
def processorLines (p : Processor) : List String :=
  ["[== CPU INFORMATION (CPUID) ==]", vendorLine p.vendor] ++ p.brand.toList.map brandLine ++
    p.features.toList.flatMap fun f => [modelLine f, featuresLine f]

def processor (p : Processor) : String :=
  String.join ((processorLines p).map fun line => line ++ lineEnd)

/-- The state of the console and of the command history. -/
def systemState (columns rows spans capacity commands most : Nat) : String :=
  "[== SYSTEM INFORMATION ==]" ++ lineEnd ++
    "OS: " ++ system ++ lineEnd ++
    "Console: " ++ toString columns ++ "x" ++ toString rows ++ " cells" ++ lineEnd ++
    "Scrollback: " ++ toString spans ++ "/" ++ toString capacity ++ " spans" ++ lineEnd ++
    "Command history: " ++ toString commands ++ "/" ++ toString most ++ lineEnd

def rebooting (seconds : UInt32) : String :=
  "Rebooting in " ++ toString seconds.toNat ++ "s..." ++ lineEnd

def stillRunning : String := "The machine did not reset." ++ lineEnd

def shuttingDown (seconds : UInt32) : String :=
  "Shutting down in " ++ toString seconds.toNat ++ "s..." ++ lineEnd

def notOff : String :=
  "Shutdown failed. Halting, the machine can be switched off safely." ++ lineEnd

end Page

end GlyphConsole

import GlyphConsole.Console.Basic

/-!
# GlyphConsole.Console.Display — one console, several users

The shell and the timer share one console.  A `Display` holds it once it has been
installed, and says whether someone is using it at the moment.

`use` is for those who may wait: it works on the console if there is one.  `tryUse`
is for those who may not: it also gives up while the console is `held`.  Giving up
leaves the display as it was and puts nothing out (`tryUse_of_held`).
-/

namespace GlyphConsole

set_option autoImplicit false

/-- A console that is shared, once it is installed. -/
structure Display where
  console : Option Console := none
  held : Bool := false

namespace Display

variable {α : Type}

def isInstalled (d : Display) : Bool := d.console.isSome

def install (d : Display) (con : Console) : Display := { d with console := some con }

/-- Someone begins to use the console. -/
def hold (d : Display) : Display := { d with held := true }

/-- The user is done with the console. -/
def release (d : Display) : Display := { d with held := false }

/-- Work on the console; `none` if there is none. -/
def use (d : Display) (work : Console → (Console × Output) × α) :
    (Display × Output) × Option α :=
  match d.console with
  | some con =>
      let done := work con
      (({ d with console := some done.1.1 }, done.1.2), some done.2)
  | none => ((d, {}), none)

/-- Work on the console unless it is held; `none` if it is held or missing. -/
def tryUse (d : Display) (work : Console → (Console × Output) × α) :
    (Display × Output) × Option α :=
  if d.held then ((d, {}), none) else d.use work

/-- What the console says of itself; `none` if there is none. -/
def ask (d : Display) (question : Console → α) : Option α := d.console.map question

theorem tryUse_of_held {d : Display} (held : d.held = true)
    (work : Console → (Console × Output) × α) : d.tryUse work = ((d, {}), none) := by
  simp [tryUse, held]

end Display

end GlyphConsole

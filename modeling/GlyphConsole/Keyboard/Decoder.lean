import GlyphConsole.Keyboard.Layout
import GlyphConsole.Log.Notice

/-!
# GlyphConsole.Keyboard.Decoder — from scancodes to key events

A byte is a prefix, or a key going down, or, with the top bit set, a key coming up.
The `Decoder` remembers the prefix it is behind and the state of the modifiers.
`feed` takes one byte; most bytes mean nothing to the console.  A code that is no
key is reported to the log and forgotten together with its prefix.

Only presses give events.  Shift is held, caps lock and num lock flip at each press,
and upper case takes exactly one of shift and caps lock.
-/

namespace GlyphConsole

set_option autoImplicit false

/-- The table in which the next code is looked up. -/
inductive CodeTable where
  | plain
  | extended
  | pause
deriving DecidableEq, Inhabited

def CodeTable.banks : CodeTable → List Key.Bank
  | .plain => Key.plainKeys
  | .extended => Key.extendedKeys
  | .pause => Key.pauseKeys

/-- The table that a prefix byte switches to. -/
def CodeTable.ofPrefix? (byte : UInt8) : Option CodeTable :=
  if byte = 0xE0 then some .extended else if byte = 0xE1 then some .pause else none

/-- What the keyboard has sent so far, as far as it matters for what comes next. -/
structure Decoder where
  table : CodeTable := .plain
  leftShift : Bool := false
  rightShift : Bool := false
  capsLock : Bool := false
  numLock : Bool := true
  pauseHeld : Bool := false
deriving DecidableEq, Inhabited

/-- What became of one byte. -/
structure Fed (σ : Type) where
  state : σ
  event : Option KeyEvent := none
  notices : Array Log.Notice := #[]

namespace Decoder

def shifted (d : Decoder) : Bool := d.leftShift || d.rightShift

/-- The modifiers after a key went down (`true`) or came up. -/
def hold (d : Decoder) (key : Key) (down : Bool) : Decoder :=
  match key with
  | .leftShift => { d with leftShift := down }
  | .rightShift => { d with rightShift := down }
  | .pauseControl => { d with pauseHeld := down }
  | .capsLock => if down then { d with capsLock := !d.capsLock } else d
  | .numLock => if down && !d.pauseHeld then { d with numLock := !d.numLock } else d
  | _ => d

/-- What a press of the key means under the modifiers. -/
def press (d : Decoder) : Key → Option KeyEvent
  | .pair plain shifted => some (.char (if d.shifted then shifted else plain))
  | .letter lower => some (.char (if d.shifted != d.capsLock then lower.toUpper else lower))
  | .keypad digit otherwise => if d.numLock then some (.char digit) else otherwise
  | .fixed event => some event
  | _ => none

/-- Take one byte from the keyboard. -/
def feed (d : Decoder) (byte : UInt8) : Fed Decoder :=
  match (if d.table = .plain then CodeTable.ofPrefix? byte else none) with
  | some table => { state := { d with table } }
  | none =>
      let code := byte.toNat % 128
      let down := byte.toNat < 128
      match Key.find? d.table.banks code with
      | some key =>
          { state := { d with table := .plain }.hold key down
            event := if down then d.press key else none }
      | none =>
          { state := { d with table := .plain }, notices := #[.unknownScancode byte] }

/-- The events of a sequence of bytes. -/
def events (d : Decoder) : List UInt8 → List KeyEvent
  | [] => []
  | byte :: rest => (d.feed byte).event.toList ++ (d.feed byte).state.events rest

end Decoder

end GlyphConsole

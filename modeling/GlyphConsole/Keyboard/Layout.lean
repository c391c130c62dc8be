import GlyphConsole.Keyboard.Event

/-!
# GlyphConsole.Keyboard.Layout — the keys of a 104-key keyboard

A `Key` says what a key does, whatever its code: type one of two characters, type a
letter, type a digit or page, hold or flip a modifier, or nothing at all.

The codes of set 1 are given as `Bank`s, runs of neighbouring codes, in three
tables: `plainKeys`, `extendedKeys` for the codes behind the first prefix, and
`pauseKeys` for those behind the second.  A code in no bank is not a key.
-/

namespace GlyphConsole

set_option autoImplicit false

/-- What a key does. -/
inductive Key where
  /-- Types one character, or the other while shift is held. -/
  | pair (plain shifted : Char)
  /-- Types a letter, in upper case under shift or caps lock but not both. -/
  | letter (lower : Char)
  /-- Types a digit with num lock on, and has another meaning without. -/
  | keypad (digit : Char) (otherwise : Option KeyEvent)
  /-- Means the same whatever is held. -/
  | fixed (event : KeyEvent)
  | leftShift
  | rightShift
  | capsLock
  | numLock
  /-- Held while the pause key sends its codes; num lock does not flip meanwhile. -/
  | pauseControl
  /-- A key without meaning for the console. -/
  | silent
deriving DecidableEq, Inhabited

namespace Key

/-- Neighbouring codes, from the first one on. -/
abbrev Bank := Nat × List Key

def pairs (plain shifted : String) : List Key := List.zipWith pair plain.toList shifted.toList

def letters (lower : String) : List Key := lower.toList.map letter

def plainKeys : List Bank :=
  [(0x01, [silent]),
    (0x02, pairs "1234567890-=" "!@#$%^&*()_+"),
    (0x0E, [fixed .backspace]),
    (0x0F, [silent]),
    (0x10, letters "qwertyuiop"),
    (0x1A, pairs "[]" "\x7b\x7d"),
    (0x1C, [fixed .enter]),
    (0x1D, [silent]),
    (0x1E, letters "asdfghjkl"),
    (0x27, pairs ";'`" ":\"~"),
    (0x2A, [leftShift]),
    (0x2B, [silent]),
    (0x2C, letters "zxcvbnm"),
    (0x33, pairs ",./" "<>?"),
    (0x36, [rightShift]),
    (0x37, [fixed (.char '*')]),
    (0x38, [silent]),
    (0x39, [fixed (.char ' ')]),
    (0x3A, [capsLock]),
    (0x3B, List.replicate 10 silent),
    (0x45, [numLock]),
    (0x46, [silent]),
    (0x47, [keypad '7' none, keypad '8' none, keypad '9' (some .pageUp)]),
    (0x4A, [fixed (.char '-')]),
    (0x4B, [keypad '4' none, fixed (.char '5'), keypad '6' none]),
    (0x4E, [fixed (.char '+')]),
    (0x4F, [keypad '1' none, keypad '2' none, keypad '3' (some .pageDown)]),
    (0x52, [keypad '0' none, keypad '.' none]),
    (0x54, [silent]),
    (0x56, pairs "\\" "|"),
    (0x57, [silent, silent])]

def extendedKeys : List Bank :=
  [(0x10, [silent]), (0x19, [silent]),
    (0x1C, [fixed .enter]),
    (0x1D, [silent]), (0x20, [silent, silent, silent]), (0x24, [silent]), (0x2A, [silent]),
    (0x2E, [silent]), (0x30, [silent]), (0x32, [silent]),
    (0x35, [fixed (.char '/')]),
    (0x37, [silent, silent]), (0x47, [silent, silent]),
    (0x49, [fixed .pageUp]),
    (0x4B, [silent]), (0x4D, [silent]), (0x4F, [silent, silent]),
    (0x51, [fixed .pageDown]),
    (0x52, [silent, silent]), (0x5B, [silent, silent, silent]), (0x70, [silent]),
    (0x73, [silent]), (0x79, [silent]), (0x7B, [silent]), (0x7D, [silent])]

def pauseKeys : List Bank := [(0x1D, [pauseControl])]

/-- The key with this code. -/
def find? (banks : List Bank) (code : Nat) : Option Key :=
  banks.findSome? fun bank => if bank.1 ≤ code then bank.2[code - bank.1]? else none

end Key

end GlyphConsole

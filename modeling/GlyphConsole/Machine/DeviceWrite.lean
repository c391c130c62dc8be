/-!
# GlyphConsole.Machine.DeviceWrite — what the devices are told

Devices are programmed by writing bytes and 16-bit words to numbered addresses of their
own, apart from memory.  What a device is told is the list of these writes, in order.
-/

namespace GlyphConsole.Machine

set_option autoImplicit false

/-- One write to a device. -/
inductive DeviceWrite where
  | byte (address : UInt16) (value : UInt8)
  | word (address : UInt16) (value : UInt16)
deriving DecidableEq, Inhabited

namespace DeviceWrite

def address : DeviceWrite → UInt16
  | .byte address _ => address
  | .word address _ => address

/-- The number of bytes written. -/
def size : DeviceWrite → Nat
  | .byte .. => 1
  | .word .. => 2

def value : DeviceWrite → Nat
  | .byte _ value => value.toNat
  | .word _ value => value.toNat

end DeviceWrite

end GlyphConsole.Machine

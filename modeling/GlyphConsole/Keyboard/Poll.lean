import GlyphConsole.Keyboard.Decoder
import GlyphConsole.Keyboard.Queue

/-!
# GlyphConsole.Keyboard.Poll — the next key event

The interrupt queues bytes, and the shell asks for events.  `poll` feeds queued bytes
to a decoder until one of them completes an event or none is left.  It never touches
the bytes behind that one.  If the queue lost input, the loss is reported before the
next byte is taken.

The loop does not depend on what the decoder is, so it is stated for any step
function on any state.
-/

namespace GlyphConsole

set_option autoImplicit false

namespace ScancodeQueue

/-- Report lost input, then take the oldest byte. -/
def take (q : ScancodeQueue) : (ScancodeQueue × Option UInt8) × Array Log.Notice :=
  let asked := q.takeDropped
  (asked.1.pop, if asked.2 then #[.inputDropped] else #[])

theorem size_take_lt {q : ScancodeQueue} {byte : UInt8} (taken : q.take.1.2 = some byte) :
    q.take.1.1.size < q.size :=
  size_pop_lt (q := q.takeDropped.1) taken

/-- Feed queued bytes until one completes an event. -/
def poll {σ : Type} (feed : σ → UInt8 → Fed σ) (q : ScancodeQueue) (state : σ) :
    ScancodeQueue × Fed σ :=
  match _taken : q.take.1.2 with
  | none => (q.take.1.1, { state, notices := q.take.2 })
  | some byte =>
      let fed := feed state byte
      match fed.event with
      | some event => (q.take.1.1, { state := fed.state, event, notices := q.take.2 ++ fed.notices })
      | none =>
          let rest := poll feed q.take.1.1 fed.state
          (rest.1, { rest.2 with notices := q.take.2 ++ fed.notices ++ rest.2.notices })
termination_by q.size
decreasing_by exact size_take_lt _taken

end ScancodeQueue

end GlyphConsole

import Mathlib.Data.List.Induction
import GlyphConsole.Keyboard.Poll

/-!
# GlyphConsole.Proofs.Delivery — from the keyboard to the shell, byte by byte

Seen through `toList` the ring is a queue: a byte that is popped comes off the front, and a
byte that is stored goes to the end (`toList_store`), wherever head and tail stand.
`push_cases` says which bytes are stored.

A `Channel` is the ring with a decoder behind it, and with a record of what happened: the
bytes that the ring accepted, the bytes that were taken from it, and the events that these
made.  There are two `Move`s: a byte arrives, or the shell takes one and decodes it.
Neither can be interrupted, so a run of moves is any interleaving of the interrupt with the
shell, also one in which bytes arrive in the middle of a poll.

What holds at every moment is `Channel.InOrder`: the bytes taken and the bytes that wait
are together the bytes accepted, and the decoder stands where the bytes taken bring it.
Every move keeps that (`InOrder.step`), so every run does.

A poll is what happens until a byte completes an event or none is left (`Polls`).  It comes
to its end under every schedule that lets the shell take one byte more than there are
(`polls_of_takes`), and the loop of the shell is the poll in which nothing arrives
(`polls_poll`).  `delivery_in_order` puts all this together.
-/

namespace GlyphConsole

set_option autoImplicit false

/-! ## The ring as a queue -/

namespace ScancodeQueue

variable {q : ScancodeQueue}

/-- The ring does not hold more than it can, and its tail is as far from its head as the
bytes it holds reach. -/
structure Sound (q : ScancodeQueue) : Prop where
  size_le : q.size ≤ capacity
  tail_eq : q.tail = q.slot q.size

/-- Bytes that are both in the ring stand in different slots. -/
theorem slot_ne {i j : Nat} (hij : i < j) (hj : j < 128) : q.slot i ≠ q.slot j := by
  intro same
  have values := congrArg Fin.val same
  rw [val_slot, val_slot] at values
  omega

/-- What becomes of a byte: an answer is left out, and any other byte is lost or stored. -/
theorem push_cases (q : ScancodeQueue) (byte : UInt8) :
    ((byte = 0xFA ∨ byte = 0xFE) ∧ q.push byte = q) ∨
    ((byte ≠ 0xFA ∧ byte ≠ 0xFE) ∧ q.size = 128 ∧ q.push byte = { q with dropped := true }) ∨
    ((byte ≠ 0xFA ∧ byte ≠ 0xFE) ∧ q.size ≠ 128 ∧ q.push byte = q.store byte) := by
  cases key : isAnswer byte with
  | true =>
      have answer : byte = 0xFA ∨ byte = 0xFE := by simpa [isAnswer] using key
      exact .inl ⟨answer, by simp [push, key]⟩
  | false =>
      have keys : byte ≠ 0xFA ∧ byte ≠ 0xFE := by simpa [isAnswer] using key
      by_cases full : q.size = 128
      · exact .inr (.inl ⟨keys, full, by simp [push, key, full, capacity]⟩)
      · exact .inr (.inr ⟨keys, full, by simp [push, key, full, capacity, store]⟩)

theorem size_push_le (q : ScancodeQueue) (byte : UInt8) : (q.push byte).size ≤ q.size + 1 := by
  rcases q.push_cases byte with ⟨-, same⟩ | ⟨-, -, lost⟩ | ⟨-, -, stored⟩
  · rw [same]
    exact Nat.le_succ _
  · rw [lost]
    exact Nat.le_succ _
  · rw [stored]
    exact Nat.le_refl _

theorem head_push (q : ScancodeQueue) (byte : UInt8) : (q.push byte).head = q.head := by
  rcases q.push_cases byte with ⟨-, same⟩ | ⟨-, -, lost⟩ | ⟨-, -, stored⟩
  · rw [same]
  · rw [lost]
  · rw [stored]
    rfl

theorem dropped_push (q : ScancodeQueue) (byte : UInt8) :
    (q.push byte).dropped = true ↔
      q.dropped = true ∨ byte ≠ 0xFA ∧ byte ≠ 0xFE ∧ q.size = 128 := by
  rcases q.push_cases byte with ⟨answer, same⟩ | ⟨key, full, lost⟩ | ⟨-, room, stored⟩
  · rw [same]
    tauto
  · rw [lost]
    tauto
  · rw [stored, store]
    tauto

/-- A byte that is stored goes to the end of the queue. -/
theorem toList_store (sound : q.Sound) (room : q.size ≠ 128) (byte : UInt8) :
    (q.store byte).toList = q.toList ++ [byte] := by
  have below : q.size < 128 := Nat.lt_of_le_of_ne sound.size_le room
  have old : ∀ i ∈ List.range q.size,
      (q.slots.set q.tail.val byte q.tail.isLt)[q.slot i] = q.slots[q.slot i] := by
    intro i member
    have apart := slot_ne (q := q) (List.mem_range.1 member) below
    rw [← sound.tail_eq] at apart
    have values : q.tail.val ≠ (q.slot i).val := fun same => apart (Fin.ext same.symm)
    exact Vector.getElem_set_ne q.tail.isLt (q.slot i).isLt values
  have new : (q.slots.set q.tail.val byte q.tail.isLt)[q.slot q.size] = byte := by
    simp only [← sound.tail_eq]
    exact Vector.getElem_set_self q.tail.isLt
  have stored : (q.store byte).toList =
      (List.range (q.size + 1)).map fun i =>
        (q.slots.set q.tail.val byte q.tail.isLt)[q.slot i] := rfl
  rw [stored, List.range_succ, List.map_append, List.map_congr_left old, List.map_singleton, new]
  rfl

theorem sound_empty : empty.Sound := ⟨by decide, by decide⟩

theorem Sound.store (sound : q.Sound) (room : q.size ≠ 128) (byte : UInt8) :
    (q.store byte).Sound := by
  have below : q.size < 128 := Nat.lt_of_le_of_ne sound.size_le room
  have tail := congrArg Fin.val sound.tail_eq
  rw [val_slot] at tail
  constructor
  · exact below
  · apply Fin.ext
    rw [val_slot]
    simp only [ScancodeQueue.store, Fin.val_add, Fin.val_one, tail]
    omega

theorem Sound.push (sound : q.Sound) (byte : UInt8) : (q.push byte).Sound := by
  rcases q.push_cases byte with ⟨-, same⟩ | ⟨-, -, lost⟩ | ⟨-, room, stored⟩
  · rw [same]
    exact sound
  · rw [lost]
    exact ⟨sound.size_le, sound.tail_eq⟩
  · rw [stored]
    exact sound.store room byte

theorem Sound.pop (sound : q.Sound) : q.pop.1.Sound := by
  by_cases empty : q.size = 0
  · rw [pop_of_empty empty]
    exact sound
  · have bound := sound.size_le
    have tail := congrArg Fin.val sound.tail_eq
    rw [val_slot] at tail
    rw [pop_of_waiting empty]
    constructor
    · dsimp only
      omega
    · apply Fin.ext
      rw [val_slot]
      simp only [Fin.val_add, Fin.val_one, tail]
      omega

theorem take_eq_none_iff (q : ScancodeQueue) : q.take.1.2 = none ↔ q.size = 0 :=
  q.takeDropped.1.pop_eq_none_iff

theorem take_of_empty (empty : q.size = 0) : q.take.1 = (q.takeDropped.1, none) :=
  pop_of_empty (q := q.takeDropped.1) empty

theorem take_of_waiting (waiting : q.size ≠ 0) :
    q.take.1 = ({ q.pop.1 with dropped := false }, q.pop.2) := by
  rw [pop_of_waiting waiting]
  exact pop_of_waiting (q := q.takeDropped.1) waiting

theorem Sound.take (sound : q.Sound) : q.take.1.1.Sound :=
  Sound.pop (q := q.takeDropped.1) ⟨sound.size_le, sound.tail_eq⟩

theorem toList_take {byte : UInt8} (taken : q.take.1.2 = some byte) :
    q.toList = byte :: q.take.1.1.toList := by
  by_cases empty : q.size = 0
  · simp [take_of_empty empty] at taken
  · have first : q.slots[q.head] = byte := by
      simpa [take_of_waiting empty, pop_of_waiting empty] using taken
    rw [← first]
    exact toList_pop (q := q.takeDropped.1) empty

theorem dropped_take (q : ScancodeQueue) : q.take.1.1.dropped = false := by
  by_cases empty : q.size = 0
  · rw [take_of_empty empty]
    rfl
  · rw [take_of_waiting empty]

/-! ## One round of a poll -/

section Poll

variable {σ : Type} {feed : σ → UInt8 → Fed σ}

theorem poll_of_exhausted {q : ScancodeQueue} (state : σ) (out : q.take.1.2 = none) :
    q.poll feed state = (q.take.1.1, { state, notices := q.take.2 }) := by
  rw [poll]
  split
  · rfl
  · simp_all

theorem poll_of_completed {q : ScancodeQueue} {state : σ} {byte : UInt8} {event : KeyEvent}
    (out : q.take.1.2 = some byte) (made : (feed state byte).event = some event) :
    q.poll feed state =
      (q.take.1.1,
        { state := (feed state byte).state, event
          notices := q.take.2 ++ (feed state byte).notices }) := by
  rw [poll]
  split
  · simp_all
  · rename_i other found
    cases found.symm.trans out
    simp [made]

theorem poll_of_silent {q : ScancodeQueue} {state : σ} {byte : UInt8}
    (out : q.take.1.2 = some byte) (silent : (feed state byte).event = none) :
    q.poll feed state =
      let rest := q.take.1.1.poll feed (feed state byte).state
      (rest.1,
        { rest.2 with notices := q.take.2 ++ (feed state byte).notices ++ rest.2.notices }) := by
  rw [poll]
  split
  · simp_all
  · rename_i other found
    cases found.symm.trans out
    simp [silent]

end Poll

end ScancodeQueue

/-! ## What a decoder makes of bytes -/

section Feeding

variable {σ : Type} (feed : σ → UInt8 → Fed σ)

/-- The state of a decoder that was fed these bytes. -/
def stateAfter (fresh : σ) (bytes : List UInt8) : σ :=
  bytes.foldl (fun state byte => (feed state byte).state) fresh

/-- The events that these bytes make in a decoder, in order. -/
def eventsOf (fresh : σ) : List UInt8 → List KeyEvent
  | [] => []
  | byte :: rest => (feed fresh byte).event.toList ++ eventsOf (feed fresh byte).state rest

theorem stateAfter_snoc (fresh : σ) (bytes : List UInt8) (byte : UInt8) :
    stateAfter feed fresh (bytes ++ [byte]) = (feed (stateAfter feed fresh bytes) byte).state := by
  simp [stateAfter]

theorem eventsOf_snoc (fresh : σ) (bytes : List UInt8) (byte : UInt8) :
    eventsOf feed fresh (bytes ++ [byte]) =
      eventsOf feed fresh bytes ++ (feed (stateAfter feed fresh bytes) byte).event.toList := by
  induction bytes generalizing fresh with
  | nil => simp [eventsOf, stateAfter]
  | cons first rest ih => simp [eventsOf, stateAfter, ih]

end Feeding

/-! ## The channel -/

/-- One uninterrupted step on the way of a byte. -/
inductive Move where
  /-- The interrupt brings a byte. -/
  | arrive (byte : UInt8)
  /-- The shell takes the oldest byte, if there is one, and decodes it. -/
  | take
deriving DecidableEq

namespace Move

def arrivals (moves : List Move) : Nat := moves.countP (· ≠ take)

def takes (moves : List Move) : Nat := moves.count take

end Move

/-- The ring and the decoder, and what happened to them so far. -/
structure Channel (σ : Type) where
  queue : ScancodeQueue
  state : σ
  /-- The bytes that arrived, without the answers and without those that found 128 bytes
  waiting. -/
  accepted : List UInt8
  /-- The bytes that came out of the ring. -/
  taken : List UInt8
  /-- The events that they completed. -/
  events : List KeyEvent

namespace Channel

variable {σ : Type}

/-- Nothing happened yet. -/
def start (fresh : σ) : Channel σ :=
  { queue := .empty, state := fresh, accepted := [], taken := [], events := [] }

/-- The bytes accepted, after one more arrived. -/
def accept (c : Channel σ) (byte : UInt8) : List UInt8 :=
  if byte = 0xFA ∨ byte = 0xFE ∨ c.queue.size = 128 then c.accepted else c.accepted ++ [byte]

variable (feed : σ → UInt8 → Fed σ)

def step (c : Channel σ) : Move → Channel σ
  | .arrive byte => { c with queue := c.queue.push byte, accepted := c.accept byte }
  | .take =>
      match c.queue.take.1.2 with
      | none => { c with queue := c.queue.take.1.1 }
      | some byte =>
          { c with
            queue := c.queue.take.1.1
            state := (feed c.state byte).state
            taken := c.taken ++ [byte]
            events := c.events ++ (feed c.state byte).event.toList }

def run (c : Channel σ) (moves : List Move) : Channel σ := moves.foldl (step feed) c

@[simp] theorem run_nil (c : Channel σ) : c.run feed [] = c := rfl

@[simp] theorem run_cons (c : Channel σ) (move : Move) (moves : List Move) :
    c.run feed (move :: moves) = (c.step feed move).run feed moves := rfl

theorem run_append (c : Channel σ) (before after : List Move) :
    c.run feed (before ++ after) = (c.run feed before).run feed after := by
  simp [run]

theorem run_snoc (c : Channel σ) (moves : List Move) (move : Move) :
    c.run feed (moves ++ [move]) = (c.run feed moves).step feed move := by
  simp [run]

variable {feed}

theorem step_take_of_none {c : Channel σ} (empty : c.queue.take.1.2 = none) :
    c.step feed .take = { c with queue := c.queue.take.1.1 } := by
  simp [step, empty]

theorem step_take_of_some {c : Channel σ} {byte : UInt8} (taken : c.queue.take.1.2 = some byte) :
    c.step feed .take =
      { c with
        queue := c.queue.take.1.1
        state := (feed c.state byte).state
        taken := c.taken ++ [byte]
        events := c.events ++ (feed c.state byte).event.toList } := by
  simp [step, taken]

@[simp] theorem queue_step_take (c : Channel σ) : (c.step feed .take).queue = c.queue.take.1.1 := by
  cases out : c.queue.take.1.2 with
  | none => rw [step_take_of_none out]
  | some byte => rw [step_take_of_some out]

/-! ## What holds at every moment -/

/-- Every accepted byte was taken or waits, in the order of arrival, and the decoder is where
the bytes taken bring it. -/
structure InOrder (feed : σ → UInt8 → Fed σ) (fresh : σ) (c : Channel σ) : Prop where
  sound : c.queue.Sound
  conserved : c.taken ++ c.queue.toList = c.accepted
  head_eq : c.queue.head.val = c.taken.length % 128
  state_eq : c.state = stateAfter feed fresh c.taken
  events_eq : c.events = eventsOf feed fresh c.taken

theorem inOrder_start (fresh : σ) : (start fresh).InOrder feed fresh where
  sound := ScancodeQueue.sound_empty
  conserved := rfl
  head_eq := rfl
  state_eq := rfl
  events_eq := rfl

theorem InOrder.arrive {fresh : σ} {c : Channel σ} (before : c.InOrder feed fresh)
    (byte : UInt8) : (c.step feed (.arrive byte)).InOrder feed fresh := by
  have conserved : c.taken ++ (c.queue.push byte).toList = c.accept byte := by
    rcases c.queue.push_cases byte with ⟨answer, same⟩ | ⟨-, full, lost⟩ | ⟨key, room, stored⟩
    · rw [same, before.conserved, accept, if_pos (by tauto)]
    · rw [lost, accept, if_pos (by tauto)]
      exact before.conserved
    · rw [stored, ScancodeQueue.toList_store before.sound room, accept, if_neg (by tauto),
        ← List.append_assoc, before.conserved]
  constructor
  · exact before.sound.push byte
  · exact conserved
  · exact (congrArg Fin.val (c.queue.head_push byte)).trans before.head_eq
  · exact before.state_eq
  · exact before.events_eq

theorem InOrder.take {fresh : σ} {c : Channel σ} (before : c.InOrder feed fresh) :
    (c.step feed .take).InOrder feed fresh := by
  cases out : c.queue.take.1.2 with
  | none =>
      have empty : c.queue.size = 0 := (c.queue.take_eq_none_iff).1 out
      have same : c.queue.take.1.1 = c.queue.takeDropped.1 := by
        rw [ScancodeQueue.take_of_empty empty]
      rw [step_take_of_none out, same]
      exact ⟨⟨before.sound.size_le, before.sound.tail_eq⟩, before.conserved, before.head_eq,
        before.state_eq, before.events_eq⟩
  | some byte =>
      have waiting : c.queue.size ≠ 0 := by
        intro empty
        simp [ScancodeQueue.take_of_empty empty] at out
      rw [step_take_of_some out]
      constructor
      · exact before.sound.take
      · simp only [List.append_assoc, List.singleton_append]
        rw [← ScancodeQueue.toList_take out, before.conserved]
      · have head := before.head_eq
        rw [ScancodeQueue.take_of_waiting waiting, ScancodeQueue.pop_of_waiting waiting]
        simp only [Fin.val_add, Fin.val_one, List.length_append, List.length_singleton]
        omega
      · rw [stateAfter_snoc, ← before.state_eq]
      · rw [eventsOf_snoc, ← before.state_eq, ← before.events_eq]

theorem InOrder.step {fresh : σ} {c : Channel σ} (before : c.InOrder feed fresh) (move : Move) :
    (c.step feed move).InOrder feed fresh := by
  cases move with
  | arrive byte => exact before.arrive byte
  | take => exact before.take

theorem InOrder.run {fresh : σ} {c : Channel σ} (before : c.InOrder feed fresh)
    (moves : List Move) : (c.run feed moves).InOrder feed fresh := by
  induction moves generalizing c with
  | nil => exact before
  | cons move rest ih => exact ih (before.step move)

/-! ## Lost input -/

/-- Since the shell last took a byte, a byte other than an answer found the ring full. -/
def Lost (feed : σ → UInt8 → Fed σ) (fresh : σ) (moves : List Move) : Prop :=
  ∃ before byte after, moves = before ++ .arrive byte :: after ∧ Move.take ∉ after ∧
    byte ≠ 0xFA ∧ byte ≠ 0xFE ∧ ((start fresh).run feed before).queue.size = 128

theorem not_lost_snoc_take (fresh : σ) (moves : List Move) :
    ¬Lost feed fresh (moves ++ [.take]) := by
  rintro ⟨before, byte, after, split, untaken, -⟩
  have last : (Move.arrive byte :: after).getLast? = some .take := by
    have ends := congrArg List.getLast? split
    simpa using ends.symm
  cases after with
  | nil => simp at last
  | cons move rest =>
      apply untaken
      apply List.mem_of_getLast?
      simpa using last

theorem lost_snoc_arrive (fresh : σ) (moves : List Move) (byte : UInt8) :
    Lost feed fresh (moves ++ [.arrive byte]) ↔
      Lost feed fresh moves ∨
        byte ≠ 0xFA ∧ byte ≠ 0xFE ∧ ((start fresh).run feed moves).queue.size = 128 := by
  constructor
  · rintro ⟨before, lost, after, split, untaken, noAck, noResend, full⟩
    cases after using List.reverseRecOn with
    | nil =>
        obtain ⟨rfl, same⟩ := List.append_inj' split rfl
        cases same
        exact .inr ⟨noAck, noResend, full⟩
    | append_singleton rest move =>
        rw [← List.cons_append, ← List.append_assoc] at split
        obtain ⟨rfl, -⟩ := List.append_inj' split rfl
        have still : Move.take ∉ rest := fun member => untaken (List.mem_append_left _ member)
        exact .inl ⟨before, lost, rest, rfl, still, noAck, noResend, full⟩
  · rintro (⟨before, lost, after, rfl, untaken, keys⟩ | ⟨noAck, noResend, full⟩)
    · exact ⟨before, lost, after ++ [.arrive byte], by simp, by simpa using untaken, keys⟩
    · exact ⟨moves, byte, [], rfl, by simp, noAck, noResend, full⟩

/-- The ring remembers a loss until a byte is taken. -/
theorem dropped_run (fresh : σ) (moves : List Move) :
    ((start fresh).run feed moves).queue.dropped = true ↔ Lost feed fresh moves := by
  induction moves using List.reverseRecOn with
  | nil =>
      constructor
      · intro dropped
        cases dropped
      · rintro ⟨before, byte, after, split, -⟩
        simp at split
  | append_singleton moves move ih =>
      rw [run_snoc]
      cases move with
      | arrive byte =>
          rw [lost_snoc_arrive, ← ih]
          exact ScancodeQueue.dropped_push _ byte
      | take =>
          rw [queue_step_take, ScancodeQueue.dropped_take]
          simpa using not_lost_snoc_take fresh moves

/-! ## Polls -/

/-- The moves of one poll, and its answer.  A poll ends when the ring is found empty, or with
the byte that completes an event; bytes may arrive before each of its takes. -/
inductive Polls (feed : σ → UInt8 → Fed σ) : Channel σ → List Move → Option KeyEvent → Prop where
  | exhausted {c : Channel σ} (empty : c.queue.take.1.2 = none) : Polls feed c [.take] none
  | completed {c : Channel σ} {byte : UInt8} {event : KeyEvent}
      (taken : c.queue.take.1.2 = some byte) (made : (feed c.state byte).event = some event) :
      Polls feed c [.take] (some event)
  | continued {c : Channel σ} {byte : UInt8} {moves : List Move} {answer : Option KeyEvent}
      (taken : c.queue.take.1.2 = some byte) (silent : (feed c.state byte).event = none)
      (rest : Polls feed (c.step feed .take) moves answer) : Polls feed c (.take :: moves) answer
  | interrupted {c : Channel σ} {byte : UInt8} {moves : List Move} {answer : Option KeyEvent}
      (rest : Polls feed (c.step feed (.arrive byte)) moves answer) :
      Polls feed c (.arrive byte :: moves) answer

/-- What the last take of a poll finds. -/
def Answers (feed : σ → UInt8 → Fed σ) (c : Channel σ) : Option KeyEvent → Prop
  | none => c.queue.take.1.2 = none
  | some event =>
      ∃ byte, c.queue.take.1.2 = some byte ∧ (feed c.state byte).event = some event

/-- A poll makes no event before its last take. -/
theorem Polls.last {c : Channel σ} {moves : List Move} {answer : Option KeyEvent}
    (polls : Polls feed c moves answer) :
    ∃ silent, moves = silent ++ [.take] ∧ (c.run feed silent).events = c.events ∧
      Answers feed (c.run feed silent) answer := by
  induction polls with
  | exhausted empty => exact ⟨[], rfl, rfl, empty⟩
  | completed taken made => exact ⟨[], rfl, rfl, _, taken, made⟩
  | @continued c byte moves answer taken quiet rest ih =>
      obtain ⟨silent, rfl, same, last⟩ := ih
      have first : (c.step feed .take).events = c.events := by
        rw [step_take_of_some taken]
        simp [quiet]
      exact ⟨.take :: silent, rfl, same.trans first, last⟩
  | @interrupted c byte moves answer rest ih =>
      obtain ⟨silent, rfl, same, last⟩ := ih
      exact ⟨.arrive byte :: silent, rfl, same, last⟩

theorem Polls.events {c : Channel σ} {moves : List Move} {answer : Option KeyEvent}
    (polls : Polls feed c moves answer) :
    (c.run feed moves).events = c.events ++ answer.toList := by
  obtain ⟨silent, rfl, same, last⟩ := polls.last
  rw [run_snoc]
  cases answer with
  | none =>
      rw [step_take_of_none last, same]
      simp
  | some event =>
      obtain ⟨byte, out, made⟩ := last
      rw [step_take_of_some out, same, made]

/-- A poll that answers nothing has emptied the ring. -/
theorem Polls.exhausts {c : Channel σ} {moves : List Move} (polls : Polls feed c moves none) :
    (c.run feed moves).queue.size = 0 := by
  obtain ⟨silent, rfl, -, last⟩ := polls.last
  have empty := (ScancodeQueue.take_eq_none_iff _).1 last
  rw [run_snoc, queue_step_take, ScancodeQueue.take_of_empty empty]
  exact empty

/-- A poll that answers an event ends with the byte that completed it. -/
theorem Polls.completes {c : Channel σ} {moves : List Move} {event : KeyEvent}
    (polls : Polls feed c moves (some event)) :
    ∃ silent byte, moves = silent ++ [.take] ∧ (c.run feed silent).events = c.events ∧
      (feed (c.run feed silent).state byte).event = some event ∧
      (c.run feed moves).taken = (c.run feed silent).taken ++ [byte] ∧
      (c.run feed silent).queue.toList = byte :: (c.run feed moves).queue.toList := by
  obtain ⟨silent, rfl, same, byte, out, made⟩ := polls.last
  refine ⟨silent, byte, rfl, same, made, ?_, ?_⟩
  · rw [run_snoc, step_take_of_some out]
  · rw [run_snoc, queue_step_take]
    exact ScancodeQueue.toList_take out

/-- A poll ends under every schedule in which the shell gets to take more bytes than wait
now and arrive on the way. -/
theorem polls_of_takes (c : Channel σ) (schedule : List Move)
    (enough : c.queue.size + Move.arrivals schedule < Move.takes schedule) :
    ∃ during answer, during <+: schedule ∧ Polls feed c during answer := by
  induction schedule generalizing c with
  | nil => cases enough
  | cons move rest ih =>
      cases move with
      | arrive byte =>
          have still : (c.step feed (.arrive byte)).queue.size + Move.arrivals rest <
              Move.takes rest := by
            have one : (c.step feed (.arrive byte)).queue.size ≤ c.queue.size + 1 :=
              ScancodeQueue.size_push_le c.queue byte
            simp [Move.arrivals, Move.takes] at enough ⊢
            omega
          obtain ⟨during, answer, starts, polls⟩ := ih _ still
          exact ⟨_, answer, (List.prefix_cons_inj _).2 starts, .interrupted polls⟩
      | take =>
          cases out : c.queue.take.1.2 with
          | none => exact ⟨[.take], none, ⟨rest, rfl⟩, .exhausted out⟩
          | some byte =>
              cases made : (feed c.state byte).event with
              | some event => exact ⟨[.take], some event, ⟨rest, rfl⟩, .completed out made⟩
              | none =>
                  have still : (c.step feed .take).queue.size + Move.arrivals rest <
                      Move.takes rest := by
                    have fewer := ScancodeQueue.size_take_lt out
                    rw [queue_step_take]
                    simp [Move.arrivals, Move.takes] at enough ⊢
                    omega
                  obtain ⟨during, answer, starts, polls⟩ := ih _ still
                  exact ⟨_, answer, (List.prefix_cons_inj _).2 starts,
                    .continued out made polls⟩

/-- The loop of the shell is the poll in which nothing arrives. -/
theorem polls_poll (c : Channel σ) :
    ∃ n, n ≤ c.queue.size + 1 ∧
      Polls feed c (List.replicate n .take) (c.queue.poll feed c.state).2.event ∧
      (c.run feed (List.replicate n .take)).queue = (c.queue.poll feed c.state).1 ∧
      (c.run feed (List.replicate n .take)).state = (c.queue.poll feed c.state).2.state := by
  induction size : c.queue.size using Nat.strongRecOn generalizing c with
  | ind size ih =>
  subst size
  cases out : c.queue.take.1.2 with
  | none =>
      refine ⟨1, Nat.le_add_left 1 _, ?_⟩
      rw [ScancodeQueue.poll_of_exhausted c.state out]
      exact ⟨.exhausted out, queue_step_take c, by simp [step_take_of_none out]⟩
  | some byte =>
      cases made : (feed c.state byte).event with
      | some event =>
          refine ⟨1, Nat.le_add_left 1 _, ?_⟩
          rw [ScancodeQueue.poll_of_completed out made]
          exact ⟨.completed out made, queue_step_take c, by simp [step_take_of_some out]⟩
      | none =>
          have fewer : (c.step feed .take).queue.size < c.queue.size := by
            rw [queue_step_take]
            exact ScancodeQueue.size_take_lt out
          have state : (c.step feed .take).state = (feed c.state byte).state := by
            rw [step_take_of_some out]
          obtain ⟨n, few, polls, after⟩ := ih _ fewer (c.step feed .take) rfl
          rw [queue_step_take, state] at polls after
          refine ⟨n + 1, by omega, ?_⟩
          rw [ScancodeQueue.poll_of_silent out made, List.replicate_succ, run_cons]
          exact ⟨.continued out made polls, after⟩

end Channel

/-! ## Delivery -/

open Channel in
/-- **No key is lost, doubled or overtaken on its way to the shell.**  After any run of moves,
that is under any interleaving of the interrupt with the shell's polls:

* the bytes taken are a beginning of the bytes accepted, the ring holds the rest in order,
  at most 128 of them, from its head, which is as far round as bytes were taken, to its
  tail, which is as far round as bytes were accepted;
* the events made are those of feeding the bytes taken to one fresh decoder;
* input is pending exactly if fewer bytes were taken than accepted;
* the ring has a loss to report exactly if, since a byte was last taken, a byte other than an
  answer found it full;
* a poll that starts now ends under every schedule with enough takes, and the loop of the
  shell is a poll of takes only, one more than bytes wait at most;
* a poll that answers nothing made no event and leaves the ring empty; one that answers an
  event made only this one, with its last byte, and leaves the bytes behind it. -/
theorem delivery_in_order {σ : Type} (feed : σ → UInt8 → Fed σ) (fresh : σ)
    (moves : List Move) :
    let now := (start fresh).run feed moves
    (now.taken <+: now.accepted ∧ now.queue.toList = now.accepted.drop now.taken.length ∧
      now.queue.size = now.accepted.length - now.taken.length ∧ now.queue.size ≤ 128 ∧
      now.queue.head.val = now.taken.length % 128 ∧
      now.queue.tail.val = now.accepted.length % 128) ∧
    now.events = eventsOf feed fresh now.taken ∧
    (now.queue.isEmpty = false ↔ now.taken.length < now.accepted.length) ∧
    (now.queue.dropped = true ↔ Lost feed fresh moves) ∧
    (∀ schedule, now.queue.size + Move.arrivals schedule < Move.takes schedule →
      ∃ during answer, during <+: schedule ∧ Polls feed now during answer) ∧
    (∃ n, n ≤ now.queue.size + 1 ∧
      Polls feed now (List.replicate n .take) (now.queue.poll feed now.state).2.event ∧
      (now.run feed (List.replicate n .take)).queue = (now.queue.poll feed now.state).1 ∧
      (now.run feed (List.replicate n .take)).state = (now.queue.poll feed now.state).2.state) ∧
    ∀ during answer, Polls feed now during answer →
      let after := now.run feed during
      after.events = now.events ++ answer.toList ∧
      (answer = none → after.queue.isEmpty = true ∧ after.taken = after.accepted) ∧
      ∀ event, answer = some event → ∃ silent byte, during = silent ++ [.take] ∧
        (now.run feed silent).events = now.events ∧
        (feed (now.run feed silent).state byte).event = some event ∧
        after.taken = (now.run feed silent).taken ++ [byte] ∧
        (now.run feed silent).queue.toList = byte :: after.queue.toList := by
  intro now
  have order : now.InOrder feed fresh := (inOrder_start fresh).run moves
  have lengths : now.accepted.length = now.taken.length + now.queue.size := by
    rw [← order.conserved, List.length_append, ScancodeQueue.length_toList]
  refine ⟨⟨?_, ?_, ?_, order.sound.size_le, order.head_eq, ?_⟩, order.events_eq, ?_,
    dropped_run fresh moves, polls_of_takes now, polls_poll now, ?_⟩
  · exact ⟨now.queue.toList, order.conserved⟩
  · rw [← order.conserved, List.drop_left]
  · omega
  · have head := order.head_eq
    rw [order.sound.tail_eq, ScancodeQueue.val_slot]
    omega
  · simp only [ScancodeQueue.isEmpty, beq_eq_false_iff_ne]
    omega
  · intro during answer polls after
    refine ⟨polls.events, ?_, ?_⟩
    · rintro rfl
      have empty : after.queue.size = 0 := polls.exhausts
      have afterwards : after.InOrder feed fresh := order.run during
      refine ⟨by simp [ScancodeQueue.isEmpty, empty], ?_⟩
      rw [← afterwards.conserved]
      simp [ScancodeQueue.toList, empty]
    · rintro event rfl
      exact polls.completes

/-- An answer of the keyboard is no key; the press of A is, and its release is still there when
the press has been taken. -/
example :
    let now := (Channel.start ({} : Decoder)).run Decoder.feed
      [.arrive 0xFA, .arrive 0x1E, .take, .arrive 0x9E]
    now.events = [.char 'a'] ∧ now.queue.toList = [0x9E] := by
  decide +kernel

end GlyphConsole

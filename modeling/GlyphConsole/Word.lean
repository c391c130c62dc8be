/-!
# GlyphConsole.Word — numbers and the words that hold them

Counts, positions and byte numbers are held in words of 64 bits.  Here they are plain
numbers, and two predicates say which of them a word can hold: `Word.Fits` as a count,
`Word.FitsSigned` as a signed number.  Arithmetic whose result no word can hold has no
answer.

Where a count takes part in arithmetic that may go below zero, its word is read as a
signed number (`Word.signed`).  A count below `2 ^ 63` is read as it is
(`Word.signed_of_lt`), and a larger one falls short of zero by as much as it falls
short of `2 ^ 64`.
-/

namespace GlyphConsole

set_option autoImplicit false

namespace Word

/-- A word can hold the count: it is below `2 ^ 64`. -/
def Fits (count : Nat) : Prop := count < 0x10000000000000000

instance (count : Nat) : Decidable (Fits count) := inferInstanceAs (Decidable (_ < _))

/-- A word can hold the signed number: it is at least `-2 ^ 63` and below `2 ^ 63`. -/
def FitsSigned (number : Int) : Prop :=
  -0x8000000000000000 ≤ number ∧ number < 0x8000000000000000

instance (number : Int) : Decidable (FitsSigned number) := inferInstanceAs (Decidable (_ ∧ _))

/-- The signed number in the word that holds a count. -/
def signed (count : Nat) : Int :=
  let word : Nat := count % 0x10000000000000000
  if word < 0x8000000000000000 then word else word - 0x10000000000000000

theorem signed_of_lt {count : Nat} (small : count < 0x8000000000000000) : signed count = count := by
  unfold signed
  rw [Nat.mod_eq_of_lt (Nat.lt_trans small (by decide)), if_pos small]

end Word

end GlyphConsole

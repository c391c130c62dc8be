import GlyphConsole.Text.Blank

/-!
# GlyphConsole.Text.Words — the words of a line

The words of a line are its maximal runs of characters that are not blank, in
order.  `words` reads them from right to left: a character that is not blank either
begins a word of its own, when a blank or the end follows, or joins the word that
follows it.  No word is empty and none holds a blank (`words_wellFormed`), and the
words together hold all of the line that is not blank (`flatten_words`).

A line has no words exactly if it is blank (`words_eq_nil_iff`).  `trim` takes the blanks off
both of its ends (`head?_trim`, `getLast?_trim`).
-/

namespace GlyphConsole.Text

set_option autoImplicit false

/-- The maximal runs of characters that are not blank. -/
def words : List Char → List (List Char)
  | [] => []
  | c :: cs =>
      if isBlank c then words cs
      else if cs.head?.all isBlank then [c] :: words cs
      else
        match words cs with
        | [] => [[c]]
        | word :: rest => (c :: word) :: rest

/-- The line without the blanks at its ends. -/
def trim (cs : List Char) : List Char :=
  ((cs.dropWhile isBlank).reverse.dropWhile isBlank).reverse

/-- Words joined by single spaces. -/
def unwords (ws : List (List Char)) : List Char := [' '].intercalate ws

/-- No word is empty and no word holds a blank. -/
theorem words_wellFormed (cs : List Char) :
    ∀ word ∈ words cs, word ≠ [] ∧ ∀ c ∈ word, isBlank c = false := by
  induction cs with
  | nil => simp [words]
  | cons c cs ih =>
      by_cases blank : isBlank c = true
      · simpa [words, blank] using ih
      · have solid : isBlank c = false := by simpa using blank
        by_cases last : cs.head?.all isBlank = true
        · simp only [words, blank, last, if_true]
          intro word member
          rcases List.mem_cons.1 member with rfl | inRest
          · exact ⟨by simp, by simpa using solid⟩
          · exact ih word inRest
        · simp only [words, blank, last, if_false, Bool.false_eq_true]
          cases following : words cs with
          | nil =>
              intro word member
              obtain rfl : word = [c] := by simpa using member
              exact ⟨by simp, by simpa using solid⟩
          | cons next rest =>
              rw [following] at ih
              intro word member
              rcases List.mem_cons.1 member with rfl | inRest
              · refine ⟨by simp, fun d inWord => ?_⟩
                rcases List.mem_cons.1 inWord with rfl | inNext
                · exact solid
                · exact (ih next List.mem_cons_self).2 d inNext
              · exact ih word (List.mem_cons_of_mem _ inRest)

/-- The words hold all of the line but its blanks. -/
theorem flatten_words (cs : List Char) :
    (words cs).flatten = cs.filter fun c => !isBlank c := by
  induction cs with
  | nil => rfl
  | cons c cs ih =>
      by_cases blank : isBlank c = true
      · simpa [words, blank] using ih
      · by_cases last : cs.head?.all isBlank = true
        · simp [words, blank, last, ih]
        · simp only [words, blank, last, if_false, Bool.false_eq_true]
          cases following : words cs with
          | nil => simp [following, blank, ← ih]
          | cons next rest => simp [following, blank, ← ih]

theorem mem_of_mem_words {cs word : List Char} {c : Char} (member : word ∈ words cs)
    (inWord : c ∈ word) : c ∈ cs := by
  have inAll : c ∈ (words cs).flatten := List.mem_flatten.2 ⟨word, member, inWord⟩
  rw [flatten_words] at inAll
  exact (List.mem_filter.1 inAll).1

/-- A line without words is blank. -/
theorem words_eq_nil_iff (cs : List Char) : words cs = [] ↔ ∀ c ∈ cs, isBlank c = true := by
  have solid := flatten_words cs
  constructor
  · intro none
    rw [none, List.flatten_nil, eq_comm, List.filter_eq_nil_iff] at solid
    intro c member
    simpa using solid c member
  · intro blank
    have none : (cs.filter fun c => !isBlank c) = [] := by
      rw [List.filter_eq_nil_iff]
      intro c member
      simp [blank c member]
    rw [none, List.flatten_eq_nil_iff] at solid
    rw [List.eq_nil_iff_forall_not_mem]
    intro word member
    exact (words_wellFormed cs word member).1 (solid word member)

theorem mem_of_mem_trim {cs : List Char} {c : Char} (member : c ∈ trim cs) : c ∈ cs := by
  rw [trim, List.mem_reverse] at member
  have inside := List.mem_reverse.1 ((List.dropWhile_suffix _).subset member)
  exact (List.dropWhile_suffix _).subset inside

/-- A line that was trimmed does not begin with a blank. -/
theorem head?_trim {cs : List Char} {c : Char} (first : (trim cs).head? = some c) :
    isBlank c = false := by
  have opens : trim cs <+: cs.dropWhile isBlank := by
    rw [← List.reverse_suffix, trim, List.reverse_reverse]
    exact List.dropWhile_suffix _
  obtain ⟨rest, whole⟩ := opens
  have solid := List.head?_dropWhile_not isBlank cs
  rw [← whole, List.head?_append, first] at solid
  exact solid

/-- Nor does it end with one. -/
theorem getLast?_trim {cs : List Char} {c : Char} (last : (trim cs).getLast? = some c) :
    isBlank c = false := by
  rw [trim, List.getLast?_reverse] at last
  have solid := List.head?_dropWhile_not isBlank (cs.dropWhile isBlank).reverse
  rw [last] at solid
  exact solid

theorem length_trim_le (cs : List Char) : (trim cs).length ≤ cs.length := by
  have front : (cs.dropWhile isBlank).length ≤ cs.length := (List.dropWhile_suffix _).length_le
  have back := (List.dropWhile_suffix isBlank (l := (cs.dropWhile isBlank).reverse)).length_le
  rw [List.length_reverse] at back
  rw [trim, List.length_reverse]
  exact Nat.le_trans back front

theorem mem_of_mem_unwords {ws : List (List Char)} {c : Char} (member : c ∈ unwords ws) :
    c = ' ' ∨ ∃ word ∈ ws, c ∈ word := by
  induction ws with
  | nil => cases member
  | cons word rest ih =>
      cases rest with
      | nil =>
          have inWord : c ∈ word := by simpa [unwords] using member
          exact .inr ⟨word, List.mem_cons_self, inWord⟩
      | cons next others =>
          have split : unwords (word :: next :: others) =
              word ++ ' ' :: unwords (next :: others) := by
            simp [unwords, List.intercalate]
          rw [split, List.mem_append, List.mem_cons] at member
          rcases member with inWord | rfl | later
          · exact .inr ⟨word, List.mem_cons_self, inWord⟩
          · exact .inl rfl
          · exact (ih later).imp id fun ⟨one, inRest, inOne⟩ =>
              ⟨one, List.mem_cons_of_mem _ inRest, inOne⟩

end GlyphConsole.Text

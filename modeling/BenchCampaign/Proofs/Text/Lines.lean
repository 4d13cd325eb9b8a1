import BenchCampaign.Text.Lines

/-!
# Lines of texts put together

A text consists of whole lines if it is empty or ends with a line feed.  Only behind such a
text do the lines of another one begin anew; behind any other, the last line goes on.

* `Text.lines_induction`: a text is empty, or a line that was not ended, or an ended line in
  front of a text.
* `Text.splitLines_append`: the lines of two texts put together, the first of which consists
  of whole lines.
-/

namespace BenchCampaign

namespace Text

/-! ## Line by line -/

theorem consLine_lineFeed (lines : List (List Char)) :
    consLine '\n' lines = ['\n'] :: lines := by
  unfold consLine
  rw [if_pos rfl]

theorem consLine_cons {c : Char} (h : c ≠ '\n') (line : List Char) (rest : List (List Char)) :
    consLine c (line :: rest) = (c :: line) :: rest := by
  unfold consLine
  rw [if_neg h]

/-- A text without line feed is one line. -/
theorem splitLines_of_notMem {line : List Char} (nonempty : line ≠ []) (free : '\n' ∉ line) :
    splitLines line = [line] := by
  induction line with
  | nil => exact (nonempty rfl).elim
  | cons c rest ih =>
    have hc : c ≠ '\n' := fun h => free (h ▸ List.mem_cons_self)
    cases rest with
    | nil => simp [splitLines, consLine, hc]
    | cons d rest =>
      have tail := ih (List.cons_ne_nil d rest) fun h => free (List.mem_cons_of_mem c h)
      rw [splitLines, tail, consLine_cons hc]

/-- The first line feed ends the first line. -/
theorem splitLines_line {line : List Char} (free : '\n' ∉ line) (rest : List Char) :
    splitLines (line ++ '\n' :: rest) = (line ++ ['\n']) :: splitLines rest := by
  induction line with
  | nil =>
    show consLine '\n' (splitLines rest) = ['\n'] :: splitLines rest
    exact consLine_lineFeed _
  | cons c line ih =>
    have hc : c ≠ '\n' := fun h => free (h ▸ List.mem_cons_self)
    have tail := ih fun h => free (List.mem_cons_of_mem c h)
    rw [List.cons_append, splitLines, tail, consLine_cons hc]
    rfl

/-- Texts from the last line to the first: no text, a line that was not ended, and an ended
line in front of a text. -/
@[elab_as_elim]
theorem lines_induction {motive : List Char → Prop} (empty : motive [])
    (opened : ∀ line, line ≠ [] → '\n' ∉ line → motive line)
    (ended : ∀ line rest, '\n' ∉ line → motive rest → motive (line ++ '\n' :: rest))
    (text : List Char) : motive text := by
  by_cases feed : '\n' ∈ text
  · obtain ⟨line, rest, split, free⟩ := List.eq_append_cons_of_mem feed
    have shorter : rest.length < text.length := by
      rw [split, List.length_append, List.length_cons]
      omega
    rw [split]
    exact ended line rest free (lines_induction empty opened ended rest)
  · by_cases none : text = []
    · rw [none]
      exact empty
    · exact opened text none feed
termination_by text.length

/-! ## Whole lines -/

/-- A text that is empty or ends with a line feed. -/
def IsWhole (text : List Char) : Prop := text = [] ∨ text.getLast? = some '\n'

instance (text : List Char) : Decidable (IsWhole text) :=
  inferInstanceAs (Decidable (text = [] ∨ text.getLast? = some '\n'))

theorem isWhole_nil : IsWhole [] := Or.inl rfl

theorem isWhole_append_lineFeed (line : List Char) : IsWhole (line ++ ['\n']) :=
  Or.inr List.getLast?_concat

theorem not_isWhole_of_notMem {line : List Char} (nonempty : line ≠ []) (free : '\n' ∉ line) :
    ¬ IsWhole line := by
  rintro (none | last)
  · exact nonempty none
  · exact free (List.mem_of_getLast? last)

/-- What is whole is so by what stands behind its first line. -/
theorem isWhole_line_iff (line rest : List Char) :
    IsWhole (line ++ '\n' :: rest) ↔ IsWhole rest := by
  cases rest with
  | nil => exact ⟨fun _ => isWhole_nil, fun _ => isWhole_append_lineFeed line⟩
  | cons c rest => simp [IsWhole, List.getLast?_append, List.getLast?_cons_cons]

theorem IsWhole.append {a b : List Char} (ha : IsWhole a) (hb : IsWhole b) :
    IsWhole (a ++ b) := by
  rcases hb with rfl | last
  · rw [List.append_nil]
    exact ha
  · exact Or.inr (by rw [List.getLast?_append, last, Option.some_or])

/-- Behind whole lines, lines begin anew. -/
theorem splitLines_append {a : List Char} (whole : IsWhole a) (b : List Char) :
    splitLines (a ++ b) = splitLines a ++ splitLines b := by
  induction a using lines_induction with
  | empty => rfl
  | opened line nonempty free => exact (not_isWhole_of_notMem nonempty free whole).elim
  | ended line rest free ih =>
    have tail := ih ((isWhole_line_iff line rest).mp whole)
    rw [List.append_assoc, List.cons_append, splitLines_line free, tail, splitLines_line free,
      List.cons_append]

/-! ## Contents of lines -/

/-- An ended line without its end, to which a carriage return belongs. -/
theorem lineContent_line (line : List Char) :
    lineContent (line ++ ['\n']) =
      if line.getLast? = some '\r' then line.dropLast else line := by
  unfold lineContent
  rw [List.reverse_append, List.reverse_singleton, List.singleton_append]
  by_cases last : line.getLast? = some '\r'
  · rw [if_pos last]
    obtain ⟨front, rfl⟩ := List.getLast?_eq_some_iff.mp last
    rw [List.reverse_append, List.dropLast_concat]
    exact List.reverse_reverse front
  · rw [if_neg last]
    split
    · next front eq =>
      rw [← List.head?_reverse, (List.cons.inj eq).2] at last
      exact (last rfl).elim
    · next front _ eq => rw [← (List.cons.inj eq).2, List.reverse_reverse]
    · next other => exact (other _ rfl).elim

/-- A line that was not ended is its own content. -/
theorem lineContent_of_notMem {line : List Char} (free : '\n' ∉ line) :
    lineContent line = line := by
  have first : ∀ front, line.reverse ≠ '\n' :: front := by
    intro front eq
    exact free (List.mem_reverse.mp (eq ▸ List.mem_cons_self))
  unfold lineContent
  split
  · next eq => exact (first _ eq).elim
  · next eq => exact (first _ eq).elim
  · rfl

end Text

end BenchCampaign

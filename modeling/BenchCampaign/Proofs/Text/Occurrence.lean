import BenchCampaign.Proofs.Text.Words

/-!
# First occurrences and first words

What a search finds is said here by what surrounds it.  A pattern of which the first character
stands nowhere else in it cannot overlap with itself, so that it is found where the text in front
has no occurrence of it.  A first word has white space or nothing around it.

* `Text.after?_eq_none_iff`, `Text.after?_eq_some_iff`: where a pattern is found.
* `Text.IsFirstWord`, `Text.isFirstWord_iff`: what the first word of a text is.
-/

namespace BenchCampaign

namespace Text

variable {pattern text rest : List Char}

/-! ## Patterns -/

theorem dropPrefix?_eq_none_iff : dropPrefix? pattern text = none ↔ ¬ pattern <+: text := by
  rw [Option.eq_none_iff_forall_ne_some]
  constructor
  · rintro none ⟨rest, whole⟩
    exact none rest (dropPrefix?_eq_some_iff.mpr whole.symm)
  · intro absent rest found
    exact absent ⟨rest, (dropPrefix?_eq_some_iff.mp found).symm⟩

/-- A search fails where the pattern does not occur. -/
theorem after?_eq_none_iff : after? pattern text = none ↔ ¬ pattern <:+: text := by
  induction text with
  | nil => rw [after?, dropPrefix?_eq_none_iff, List.prefix_nil, List.infix_nil]
  | cons c text ih =>
    rw [List.infix_cons_iff, not_or, ← ih, ← dropPrefix?_eq_none_iff, after?]
    cases dropPrefix? pattern (c :: text) with
    | none => exact (and_iff_right rfl).symm
    | some rest =>
      exact iff_of_false (Option.some_ne_none rest) fun absent => Option.some_ne_none rest absent.1

section Single

variable {p : Char} {ps : List Char}

/-- A pattern does not begin within a text and reach beyond it, where it begins again. -/
theorem not_prefix_append (once : p ∉ ps) (nonempty : text ≠ []) (absent : ¬ p :: ps <+: text)
    (rest : List Char) : ¬ p :: ps <+: text ++ (p :: ps ++ rest) := by
  intro begins
  rcases List.prefix_or_prefix_of_prefix begins (List.prefix_append text _) with
    inside | ⟨tail, whole⟩
  · exact absent inside
  · obtain ⟨c, cs, rfl⟩ := List.exists_cons_of_ne_nil nonempty
    obtain ⟨rfl, rfl⟩ := List.cons.inj whole
    have again := (List.prefix_append_right_inj (c :: cs)).mp begins
    cases tail with
    | nil =>
      rw [List.append_nil] at whole
      exact absent (whole ▸ List.prefix_refl (c :: cs))
    | cons d tail =>
      obtain ⟨rfl, -⟩ := List.cons_prefix_cons.mp again
      exact once (List.mem_append_right cs List.mem_cons_self)

theorem after?_of_first (once : p ∉ ps) {front : List Char} (absent : ¬ p :: ps <:+: front)
    (rest : List Char) : after? (p :: ps) (front ++ (p :: ps ++ rest)) = some rest := by
  induction front with
  | nil => exact after?_append_left (p :: ps) rest
  | cons c front ih =>
    rw [List.infix_cons_iff, not_or] at absent
    have missed := dropPrefix?_eq_none_iff.mpr
      (not_prefix_append once (List.cons_ne_nil c front) absent.1 rest)
    rw [List.cons_append] at missed ⊢
    rw [after?, missed]
    exact ih absent.2

/-- What a search finds stands behind the first occurrence of the pattern. -/
theorem after?_eq_some_iff (once : p ∉ ps) :
    after? (p :: ps) text = some rest ↔
      ∃ front, text = front ++ (p :: ps ++ rest) ∧ ¬ p :: ps <:+: front := by
  refine ⟨fun found => ?_, ?_⟩
  · induction text with
    | nil => cases found
    | cons c text ih =>
      rw [after?] at found
      cases here : dropPrefix? (p :: ps) (c :: text) with
      | some behind =>
        rw [here] at found
        cases found
        refine ⟨[], @dropPrefix?_eq_some_iff (p :: ps) _ _ |>.mp here, ?_⟩
        exact fun inside => List.cons_ne_nil p ps (List.infix_nil.mp inside)
      | none =>
        rw [here] at found
        obtain ⟨front, rfl, absent⟩ := ih found
        refine ⟨c :: front, rfl, ?_⟩
        rw [List.infix_cons_iff, not_or]
        refine ⟨fun begins => ?_, absent⟩
        exact dropPrefix?_eq_none_iff.mp here (begins.trans (List.prefix_append (c :: front) _))
  · rintro ⟨front, rfl, absent⟩
    exact after?_of_first once absent rest

end Single

/-! ## Words -/

/-- A text that is empty or begins with white space. -/
def BeginsBlank (text : List Char) : Prop := ∀ c ∈ text.head?, isBlank c = true

/-- The first word of a text: there is only white space in front of it, and white space or nothing
behind it.  It is empty only if there is nothing else than white space. -/
def IsFirstWord (text word : List Char) : Prop :=
  ∃ gap rest, text = gap ++ (word ++ rest) ∧ (∀ c ∈ gap, isBlank c = true) ∧
    (∀ c ∈ word, isBlank c = false) ∧ BeginsBlank rest ∧ (word = [] → rest = [])

theorem firstWord_of_gap {gap word rest : List Char} (blank : ∀ c ∈ gap, isBlank c = true)
    (visible : ∀ c ∈ word, isBlank c = false) (ends : BeginsBlank rest)
    (empty : word = [] → rest = []) : firstWord (gap ++ (word ++ rest)) = word := by
  unfold firstWord
  rw [List.dropWhile_append_of_pos blank]
  cases word with
  | nil =>
    rw [empty rfl]
    rfl
  | cons c cs =>
    have first := visible c List.mem_cons_self
    have all : ∀ d ∈ c :: cs, (!isBlank d) = true := fun d member => by rw [visible d member]; rfl
    rw [List.cons_append, List.dropWhile_cons_of_neg (by rw [first]; decide), ← List.cons_append,
      List.takeWhile_append_of_pos all]
    cases rest with
    | nil => exact List.append_nil _
    | cons b rest =>
      rw [List.takeWhile_cons_of_neg (by rw [ends b rfl]; decide), List.append_nil]

theorem isFirstWord_firstWord (text : List Char) : IsFirstWord text (firstWord text) := by
  refine ⟨text.takeWhile isBlank, (text.dropWhile isBlank).dropWhile fun c => !isBlank c,
    ?_, fun c member => List.mem_takeWhile_imp member, ?_, ?_, ?_⟩
  · rw [firstWord, List.takeWhile_append_dropWhile, List.takeWhile_append_dropWhile]
  · intro c member
    have visible := List.mem_takeWhile_imp member
    rwa [Bool.not_eq_true'] at visible
  · intro c first
    have stopped := List.head?_dropWhile_not (fun c => !isBlank c) (text.dropWhile isBlank)
    rw [Option.mem_def.mp first] at stopped
    exact (Bool.not_eq_false' _).mp stopped
  · intro empty
    have none : text.dropWhile isBlank = [] := by
      cases shown : text.dropWhile isBlank with
      | nil => rfl
      | cons c rest =>
        have stopped := List.head?_dropWhile_not isBlank text
        rw [shown, List.head?_cons] at stopped
        rw [firstWord, shown, List.takeWhile_cons_of_pos (by rw [stopped]; rfl)] at empty
        cases empty
    rw [none, List.dropWhile_nil]

theorem isFirstWord_iff {word : List Char} : IsFirstWord text word ↔ firstWord text = word := by
  constructor
  · rintro ⟨gap, rest, rfl, blank, visible, ends, empty⟩
    exact firstWord_of_gap blank visible ends empty
  · rintro rfl
    exact isFirstWord_firstWord text

end Text

end BenchCampaign

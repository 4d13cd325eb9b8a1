import BenchCampaign.Chart.Svg
import Mathlib.Data.List.Basic

/-!
# Escaped text

Escaped text shows no character that markup is made of, except for ampersands that begin an
entity, and it reads back as the text that was escaped, whatever that was.

* `Svg.escape_eq_replace`: escaping is four replacements, one after the other.
* `Svg.mem_entities_of_escape`: an ampersand begins an entity.
* `Svg.unescape_escape`: escaped text reads back.
-/

namespace BenchCampaign

namespace Svg

/-! ## Entities and their characters -/

/-- What stands behind an ampersand in escaped text. -/
def entities : List (List Char) :=
  ["amp;".toList, "lt;".toList, "gt;".toList, "quot;".toList]

/-- Puts the characters in place of the entities, from left to right. -/
def unescape : List Char → List Char
  | '&' :: 'a' :: 'm' :: 'p' :: ';' :: rest => '&' :: unescape rest
  | '&' :: 'l' :: 't' :: ';' :: rest => '<' :: unescape rest
  | '&' :: 'g' :: 't' :: ';' :: rest => '>' :: unescape rest
  | '&' :: 'q' :: 'u' :: 'o' :: 't' :: ';' :: rest => '"' :: unescape rest
  | c :: rest => c :: unescape rest
  | [] => []

/-- Puts a text in place of a character, wherever that stands. -/
def replace (c : Char) (instead : String) (text : List Char) : List Char :=
  text.flatMap fun d => if d = c then instead.toList else [d]

theorem unescape_cons {c : Char} (plain : c ≠ '&') (text : List Char) :
    unescape (c :: text) = c :: unescape text := by
  rw [unescape]
  all_goals exact fun _ same => absurd same plain

/-- The five ways in which a character is escaped. -/
theorem escapeChar_cases (c : Char) :
    c = '&' ∨ c = '<' ∨ c = '>' ∨ c = '"' ∨
      c ≠ '&' ∧ c ≠ '<' ∧ c ≠ '>' ∧ c ≠ '"' ∧ escapeChar c = [c] := by
  by_cases ampersand : c = '&'
  · exact Or.inl ampersand
  by_cases less : c = '<'
  · exact Or.inr (Or.inl less)
  by_cases greater : c = '>'
  · exact Or.inr (Or.inr (Or.inl greater))
  by_cases quote : c = '"'
  · exact Or.inr (Or.inr (Or.inr (Or.inl quote)))
  refine Or.inr (Or.inr (Or.inr (Or.inr ⟨ampersand, less, greater, quote, ?_⟩)))
  rw [escapeChar, if_neg ampersand, if_neg less, if_neg greater, if_neg quote]

theorem escape_cons (c : Char) (text : List Char) :
    escape (c :: text) = escapeChar c ++ escape text := List.flatMap_cons

/-! ## One replacement after the other -/

/-- The ampersands have to be replaced first, since those of the other entities must stay. -/
theorem escape_eq_replace (text : List Char) :
    escape text =
      replace '"' "&quot;" (replace '>' "&gt;" (replace '<' "&lt;" (replace '&' "&amp;" text))) := by
  simp only [escape, replace, List.flatMap_assoc]
  congr 1
  funext c
  rcases escapeChar_cases c with rfl | rfl | rfl | rfl | ⟨ampersand, less, greater, quote, plain⟩
  · decide
  · decide
  · decide
  · decide
  · simp only [plain, ampersand, less, greater, quote, if_false, List.flatMap_singleton]

/-! ## What escaped text shows -/

/-- A character is escaped as an entity, or it is none that needs it and stays. -/
theorem escapeChar_eq (c : Char) :
    (∃ e ∈ entities, escapeChar c = '&' :: e) ∨
      c ∉ ['&', '<', '>', '"'] ∧ escapeChar c = [c] := by
  rcases escapeChar_cases c with rfl | rfl | rfl | rfl | ⟨ampersand, less, greater, quote, plain⟩
  · exact Or.inl ⟨"amp;".toList, by simp [entities], rfl⟩
  · exact Or.inl ⟨"lt;".toList, by simp [entities], rfl⟩
  · exact Or.inl ⟨"gt;".toList, by simp [entities], rfl⟩
  · exact Or.inl ⟨"quot;".toList, by simp [entities], rfl⟩
  · exact Or.inr ⟨by simp [ampersand, less, greater, quote], plain⟩

/-- An entity has no sign of markup, and no other ampersand. -/
theorem not_mem_entity : ∀ e ∈ entities, ∀ d ∈ ['&', '<', '>', '"'], d ∉ e := by
  simp [entities]

theorem not_mem_escape (text : List Char) : ∀ d ∈ ['<', '>', '"'], d ∉ escape text := by
  intro d markup shown
  obtain ⟨c, -, shown⟩ := List.mem_flatMap.mp shown
  have special : d ∈ ['&', '<', '>', '"'] := List.mem_cons_of_mem '&' markup
  rcases escapeChar_eq c with ⟨e, entity, eq⟩ | ⟨ordinary, eq⟩
  · rw [eq, List.mem_cons] at shown
    rcases shown with rfl | shown
    · exact absurd markup (by decide)
    · exact not_mem_entity e entity d special shown
  · rw [eq, List.mem_singleton] at shown
    exact ordinary (shown ▸ special)

/-- An ampersand stands in front of an entity, and in no other place. -/
theorem mem_entities_of_escapeChar {c : Char} {before behind : List Char}
    (shown : escapeChar c = before ++ '&' :: behind) : behind ∈ entities := by
  rcases escapeChar_eq c with ⟨e, entity, eq⟩ | ⟨ordinary, eq⟩
  · rw [eq] at shown
    cases before with
    | nil => exact (List.cons.inj shown).2 ▸ entity
    | cons d before =>
      refine absurd ?_ (not_mem_entity e entity '&' (by decide))
      exact (List.cons.inj shown).2 ▸ List.mem_append_right before List.mem_cons_self
  · rw [eq] at shown
    have there : '&' ∈ [c] := shown ▸ List.mem_append_right before List.mem_cons_self
    exact absurd (List.mem_singleton.mp there) fun same => ordinary (same ▸ List.mem_cons_self)

/-- An ampersand in escaped text begins an entity. -/
theorem mem_entities_of_escape {text before behind : List Char}
    (shown : escape text = before ++ '&' :: behind) : ∃ e ∈ entities, e <+: behind := by
  induction text generalizing before with
  | nil => exact absurd shown.symm (by simp [escape])
  | cons c text ih =>
    rw [escape_cons, List.append_eq_append_iff] at shown
    rcases shown with ⟨inside, rfl, later⟩ | ⟨inside, char, later⟩
    · exact ih later
    · cases inside with
      | nil =>
        have next : escape text = [] ++ '&' :: behind := later.symm
        exact ih next
      | cons d inside =>
        obtain ⟨rfl, rest⟩ := List.cons.inj later
        exact ⟨inside, mem_entities_of_escapeChar char, rest ▸ List.prefix_append inside _⟩

/-! ## Reading back -/

theorem unescape_escapeChar (c : Char) (text : List Char) :
    unescape (escapeChar c ++ text) = c :: unescape text := by
  rcases escapeChar_cases c with rfl | rfl | rfl | rfl | ⟨ampersand, -, -, -, plain⟩
  · rfl
  · rfl
  · rfl
  · rfl
  · rw [plain]
    exact unescape_cons ampersand text

theorem unescape_escape (text : List Char) : unescape (escape text) = text := by
  induction text with
  | nil => rfl
  | cons c text ih => rw [escape_cons, unescape_escapeChar, ih]

theorem escape_injective : Function.Injective escape :=
  Function.LeftInverse.injective unescape_escape

end Svg

end BenchCampaign

/-!
# Finding text in text

* `Text.after?`: what follows the first occurrence of a pattern.
* `Text.dropPrefix?`: what follows a text that another begins with.
-/

namespace BenchCampaign

namespace Text

/-- What follows `pattern` at the beginning of a text. -/
def dropPrefix? : List Char → List Char → Option (List Char)
  | [], text => some text
  | _ :: _, [] => none
  | p :: pattern, c :: text => if p = c then dropPrefix? pattern text else none

/-- What follows the first occurrence of `pattern` in a text. -/
def after? (pattern : List Char) : List Char → Option (List Char)
  | [] => dropPrefix? pattern []
  | c :: text =>
    match dropPrefix? pattern (c :: text) with
    | some rest => some rest
    | none => after? pattern text

/-- A text begins with a pattern exactly if it is the pattern and something after it. -/
theorem dropPrefix?_eq_some_iff {pattern text rest : List Char} :
    dropPrefix? pattern text = some rest ↔ text = pattern ++ rest := by
  induction pattern generalizing text with
  | nil => simp [dropPrefix?, eq_comm]
  | cons p pattern ih =>
    cases text with
    | nil => simp [dropPrefix?]
    | cons c text =>
      by_cases h : p = c
      · simp [dropPrefix?, h, ih]
      · have h' : c ≠ p := fun hc => h hc.symm
        simp [dropPrefix?, h, h']

end Text

end BenchCampaign

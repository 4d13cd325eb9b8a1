import BenchCampaign.Text.Utf8

/-!
# Bytes of texts

* `Text.utf8_append`: the bytes of texts concatenate as the texts do.
* `Text.ofUtf8?_utf8`: a text is read back from its bytes.
* `Text.ofUtf8?_eq_some_iff`: nothing else is read as this text.
* `Text.prefix_of_utf8_prefix`: where bytes are cut off and are text, the text is cut off.
-/

namespace BenchCampaign

namespace Text

theorem utf8_append (front back : List Char) : utf8 (front ++ back) = utf8 front ++ utf8 back :=
  List.flatMap_append

/-- A text is read back from its bytes. -/
theorem ofUtf8?_utf8 (text : List Char) : ofUtf8? (utf8 text) = some text := by
  have encoded : (utf8 text).toByteArray = text.utf8Encode := rfl
  unfold ofUtf8?
  rw [encoded, List.utf8Decode?_utf8Encode, Option.map_some]

/-- Only the bytes of a text are read as the text. -/
theorem ofUtf8?_eq_some_iff {bytes : List UInt8} {text : List Char} :
    ofUtf8? bytes = some text ↔ bytes = utf8 text := by
  constructor
  · intro read
    obtain ⟨decoded, found, rfl⟩ := Option.map_eq_some_iff.mp read
    obtain ⟨chars, same⟩ := ByteArray.isSome_utf8Decode?_iff.mp (Option.isSome_of_eq_some found)
    have encoded : bytes.toByteArray.utf8Decode? = some chars.toArray := by
      rw [same, List.utf8Decode?_utf8Encode]
    rw [found] at encoded
    cases encoded
    simpa [List.utf8Encode, utf8] using congrArg (fun b => b.data.toList) same
  · rintro rfl
    exact ofUtf8?_utf8 text

/-! ## Text that is cut off -/

theorem utf8_cons (c : Char) (text : List Char) :
    utf8 (c :: text) = String.utf8EncodeChar c ++ utf8 text := rfl

/-- The bytes of a character are not the beginning of those of another one. -/
theorem eq_of_utf8EncodeChar_append {c d : Char} {a b : List UInt8}
    (same : String.utf8EncodeChar c ++ a = String.utf8EncodeChar d ++ b) : c = d := by
  have decoded (e : Char) (rest : List UInt8) :
      (String.utf8EncodeChar e ++ rest).toByteArray.utf8DecodeChar? 0 = some e := by
    rw [List.toByteArray_append]
    exact ByteArray.utf8DecodeChar?_utf8EncodeChar_append
  have first := decoded c a
  rw [same, decoded d b] at first
  exact (Option.some.inj first).symm

/-- A text whose bytes another text begins with is what that text begins with. -/
theorem prefix_of_utf8_prefix {front text : List Char} (bytes : utf8 front <+: utf8 text) :
    front <+: text := by
  induction front generalizing text with
  | nil => exact List.nil_prefix
  | cons c front ih =>
    obtain ⟨rest, whole⟩ := bytes
    rw [utf8_cons, List.append_assoc] at whole
    cases text with
    | nil =>
      have lengths := congrArg List.length whole
      have positive := c.utf8Size_pos
      simp only [List.length_append, String.length_utf8EncodeChar] at lengths
      have none : (utf8 []).length = 0 := rfl
      omega
    | cons d text =>
      rw [utf8_cons] at whole
      obtain rfl := eq_of_utf8EncodeChar_append whole
      obtain ⟨more, rfl⟩ := ih ⟨rest, List.append_cancel_left whole⟩
      exact ⟨more, rfl⟩

end Text

end BenchCampaign

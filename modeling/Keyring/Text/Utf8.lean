import Keyring.Bytes

namespace Keyring

/-- The bytes of a text. -/
def textBytes (text : String) : Bytes :=
  text.toUTF8.data.toList

/-- The text that a byte string spells, if it spells one. -/
def textOf? (bytes : Bytes) : Option String :=
  String.fromUTF8? ⟨bytes.toArray⟩

theorem textBytes_append (first second : String) :
    textBytes (first ++ second) = textBytes first ++ textBytes second := by
  simp [textBytes, String.toUTF8_eq_toByteArray, String.toByteArray_append]

theorem textOf?_textBytes (text : String) : textOf? (textBytes text) = some text := by
  show String.fromUTF8? text.toUTF8 = some text
  rw [String.toUTF8_eq_toByteArray, String.fromUTF8?, dif_pos text.isValidUTF8]
  rfl

/-- Only the empty text has no bytes. -/
theorem textBytes_ne_nil {text : String} (nonempty : text.isEmpty = false) : textBytes text ≠ [] := by
  intro none
  have spelled := textOf?_textBytes text
  rw [none, ← show textBytes "" = [] from rfl, textOf?_textBytes] at spelled
  cases spelled
  cases nonempty

theorem isEmpty_textBytes (text : String) : (textBytes text).isEmpty = text.isEmpty := by
  cases empty : text.isEmpty with
  | true =>
    obtain rfl := String.isEmpty_iff.mp empty
    rfl
  | false => simpa using textBytes_ne_nil empty

theorem textBytes_of_textOf? {bytes : Bytes} {text : String} (spelled : textOf? bytes = some text) :
    textBytes text = bytes := by
  unfold textOf? String.fromUTF8? at spelled
  split at spelled
  · cases spelled
    simp [textBytes, String.fromUTF8]
  · cases spelled

/-- Only the bytes of a text spell it. -/
theorem textOf?_eq_some_iff {bytes : Bytes} {text : String} :
    textOf? bytes = some text ↔ bytes = textBytes text :=
  ⟨fun spelled => (textBytes_of_textOf? spelled).symm, fun same => same ▸ textOf?_textBytes text⟩

end Keyring

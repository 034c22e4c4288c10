import Keyring.Text.Quoted
import Keyring.Text.Utf8

namespace Keyring.KeyText

/-- A key as it is shown: quoted if it is text, else in hexadecimal digits. -/
def ofBytes (key : Bytes) : String :=
  match textOf? key with
  | some text => Quoted.ofString text
  | none => String.ofList (Hex.ofBytes key)

end Keyring.KeyText

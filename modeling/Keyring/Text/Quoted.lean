import Keyring.Text.Extending
import Keyring.Text.Hex
import Keyring.Text.Unprintable

namespace Keyring.Quoted

/-- A character by its number: `\u`, then the hexadecimal digits in braces. -/
def byNumber (c : Char) : List Char :=
  ['\\', 'u', '{'] ++ Hex.ofNat c.toNat ++ ['}']

/-- A character as it stands between double quotes. -/
def ofChar (c : Char) : List Char :=
  if c = '\x00' then ['\\', '0']
  else if c = '\t' then ['\\', 't']
  else if c = '\r' then ['\\', 'r']
  else if c = '\n' then ['\\', 'n']
  else if c = '"' ∨ c = '\\' then ['\\', c]
  else if Extending.isExtending c ∨ Unprintable.isUnprintable c then byNumber c
  else [c]

/-- A text between double quotes. -/
def ofChars (text : List Char) : List Char :=
  '"' :: (text.flatMap ofChar ++ ['"'])

def ofString (text : String) : String :=
  String.ofList (ofChars text.toList)

end Keyring.Quoted

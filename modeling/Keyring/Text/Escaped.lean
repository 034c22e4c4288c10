import Keyring.Text.Hex

namespace Keyring.Escaped

/-- Whether a byte is a printable character of ASCII. -/
def isPlain (byte : UInt8) : Bool :=
  0x20 ≤ byte && byte ≤ 0x7e

/-- A byte as it stands between quotes: quotes and the backslash after a backslash, plain
characters as they are, all else by name or number. -/
def ofByte (byte : UInt8) : List Char :=
  if byte = 0x09 then ['\\', 't']
  else if byte = 0x0d then ['\\', 'r']
  else if byte = 0x0a then ['\\', 'n']
  else if byte = 0x22 ∨ byte = 0x27 ∨ byte = 0x5c then ['\\', Char.ofNat byte.toNat]
  else if isPlain byte then [Char.ofNat byte.toNat]
  else '\\' :: 'x' :: Hex.ofByte byte

def ofBytes (bytes : Bytes) : List Char :=
  bytes.flatMap ofByte

end Keyring.Escaped

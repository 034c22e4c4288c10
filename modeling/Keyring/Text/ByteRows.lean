import Keyring.Text.Escaped

namespace Keyring.ByteRows

/-- The number of bytes that share a line. -/
def columns : Nat := 16

/-- The two characters of a byte: a plain character after a blank, or two digits. -/
def cell (byte : UInt8) : List Char :=
  if Escaped.isPlain byte then [' ', Char.ofNat byte.toNat] else Hex.ofByte byte

/-- One line, whose cells stand a blank apart. -/
def row (indent : List Char) (bytes : Bytes) : List Char :=
  indent ++ ((bytes.map cell).intersperse [' ']).flatten ++ ['\n']

/-- The lines of a byte string. -/
def ofBytes (indent : List Char) (bytes : Bytes) : List Char :=
  (rows columns bytes).flatMap (row indent)

end Keyring.ByteRows

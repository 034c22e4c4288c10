import Keyring.Bytes

namespace Keyring.Hex

/-- The digit of a number below 16. -/
def digit (n : Nat) : Char :=
  if n < 10 then Char.ofNat (48 + n) else Char.ofNat (87 + n)

/-- The two digits of a byte, the high one first. -/
def ofByte (byte : UInt8) : List Char :=
  [digit (byte.toNat / 16), digit (byte.toNat % 16)]

/-- The digits of a byte string. -/
def ofBytes (bytes : Bytes) : List Char :=
  bytes.flatMap ofByte

/-- The digits of a number, the highest first; at least one. -/
def ofNat (n : Nat) : List Char :=
  Nat.toDigits 16 n

end Keyring.Hex

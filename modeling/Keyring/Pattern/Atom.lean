import Keyring.Pattern.Options

namespace Keyring.Pattern

/-- A part of a pattern that has no parts of its own. -/
inductive Atom where
  /-- A character. It may be written as a byte. -/
  | literal (c : Char) (asByte : Bool)
  /-- Any character of a kind. -/
  | kind
  /-- A place in the text. -/
  | place
  /-- The edge of a word, or any place but that. -/
  | wordEdge
  deriving DecidableEq, Repr

/-- Whether a character can be sought. The cases of characters are not known, and a byte outside of
ASCII is no text. -/
def Atom.isPlain (options : Options) : Atom → Bool
  | literal c asByte => if options.unicode then !options.caseless else !asByte || c.toNat < 0x80
  | _ => true

/-- The value of a hexadecimal digit. -/
def hexValue? (c : Char) : Option Nat :=
  if c.isDigit then some (c.toNat - 48)
  else if 'a' ≤ c ∧ c ≤ 'f' then some (c.toNat - 87)
  else if 'A' ≤ c ∧ c ≤ 'F' then some (c.toNat - 55)
  else none

/-- The number that `count` hexadecimal digits make when they are put after those of `value`. -/
def hexNumber? (options : Options) : Nat → Nat → List Char → Option (Nat × List Char)
  | 0, value, text => some (value, text)
  | count + 1, value, text =>
    match skip options text with
    | [] => none
    | c :: rest => do
      let digit ← hexValue? c
      hexNumber? options count (value * 16 + digit) rest

/-- The character whose number follows in so many digits. -/
def numbered? (options : Options) (count : Nat) (text : List Char) :
    Option (Atom × List Char) := do
  let (value, rest) ← hexNumber? options count 0 text
  if value.isValidChar then
    return (.literal (Char.ofNat value) (count = 2), rest)
  else none

/-- The control characters that have a letter. -/
def controls : List (Char × Char) :=
  [('a', '\x07'), ('t', '\t'), ('n', '\n'), ('v', '\x0b'), ('f', '\x0c'), ('r', '\r')]

/-- What a letter or a sign stands for after a backslash. The kinds of characters are known for
ASCII only, and all that is not of such a kind is no text. -/
def escaped? (options : Options) (c : Char) : Option Atom :=
  if ['d', 's', 'w'].contains c then if options.unicode then none else some .kind
  else if ['A', 'z'].contains c then some .place
  else if ['b', 'B', '<', '>'].contains c then some .wordEdge
  else if c.toNat < 0x80 ∧ !c.isAlphanum then some (.literal c false)
  else (controls.lookup c).map fun control => .literal control false

/-- What follows a backslash. -/
def escape? (options : Options) : List Char → Option (Atom × List Char)
  | [] => none
  | 'x' :: rest => numbered? options 2 rest
  | 'u' :: rest => numbered? options 4 rest
  | 'U' :: rest => numbered? options 8 rest
  | 'b' :: '{' :: _ => none
  | c :: rest => (escaped? options c).map fun atom => (atom, rest)

end Keyring.Pattern

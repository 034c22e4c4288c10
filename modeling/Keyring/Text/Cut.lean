import Keyring.Fault

namespace Keyring.Cut

/-- The bytes that a text takes. -/
def size (text : List Char) : Nat :=
  text.foldr (fun c size => c.utf8Size + size) 0

/-- A text in two: the characters that take its first `n` bytes, and the others. No character can
be cut. -/
def parts? : Nat → List Char → Option (List Char × List Char)
  | 0, text => some ([], text)
  | _ + 1, [] => none
  | n + 1, c :: rest =>
    if c.utf8Size ≤ n + 1 then
      (parts? (n + 1 - c.utf8Size) rest).map fun parts => (c :: parts.1, parts.2)
    else none
termination_by _ text => text.length

/-- The text up to a byte. -/
def upTo (stop : Nat) (text : List Char) : Except Fault (List Char) :=
  match parts? stop text with
  | some parts => .ok parts.1
  | none => .error (.characterCut stop)

/-- The text after some bytes. -/
def after (start : Nat) (text : List Char) : Except Fault (List Char) :=
  match parts? start text with
  | some parts => .ok parts.2
  | none => .error (.characterCut start)

/-- The text from one byte up to another. -/
def between (start stop : Nat) (text : List Char) : Except Fault (List Char) := do
  let rest ← after start text
  let front ← upTo stop text
  return front.drop (text.length - rest.length)

end Keyring.Cut

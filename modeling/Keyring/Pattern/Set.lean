import Keyring.Pattern.Atom

namespace Keyring.Pattern

/-- How deep things are nested that stand side by side: one alone is no deeper for it. -/
def together : List Nat → Nat
  | [] => 0
  | [height] => height
  | heights => heights.foldl max 0 + 1

/-- A set that has been opened, up to where it has been read. -/
structure OpenSet where
  /-- How deep the left side of an operation is nested, if there is one. -/
  left : Option Nat
  /-- How deep the parts are nested that come after it. -/
  parts : List Nat
  /-- Whether nothing but hyphens has been read. -/
  isFresh : Bool

namespace OpenSet

def empty : OpenSet :=
  ⟨none, [], true⟩

/-- The set with another part. -/
def add (set : OpenSet) (height : Nat) : OpenSet :=
  ⟨set.left, height :: set.parts, false⟩

/-- How deep all that has been read is nested. -/
def height (set : OpenSet) : Nat :=
  match set.left with
  | some left => max left (together set.parts) + 1
  | none => together set.parts

/-- The set as the left side of an operation. -/
def operate (set : OpenSet) : OpenSet :=
  ⟨some set.height, [], false⟩

/-- Whether a character is a member of the set only because of where it stands: hyphens at the
start, and a closing bracket with nothing in front of it. -/
def startsWith (set : OpenSet) (c : Char) : Bool :=
  set.isFresh && (c = '-' || (c = ']' && set.parts.isEmpty))

end OpenSet

/-- The kinds of ASCII characters that have a name. -/
def kindNames : List String :=
  ["alnum", "alpha", "ascii", "blank", "cntrl", "digit", "graph", "lower", "print", "punct",
    "space", "upper", "word", "xdigit"]

/-- Whether a named kind is turned to its opposite, and what follows it. Its opening bracket has
been read. -/
def namedKind? : List Char → Option (Bool × List Char)
  | ':' :: text =>
    let (opposite, text) :=
      match text with
      | '^' :: rest => (true, rest)
      | _ => (false, text)
    match text.span (· ≠ ':') with
    | (name, ':' :: ']' :: rest) =>
      if kindNames.contains (String.ofList name) then some (opposite, rest) else none
    | _ => none
  | _ => none

/-- Whether a named kind can be sought. -/
def takesKind (options : Options) (opposite : Bool) : Bool :=
  if options.unicode then !options.caseless else !opposite

/-- Whether a character can be in a set. -/
def takesLiteral (options : Options) (c : Char) : Bool :=
  if options.unicode then !options.caseless else c.toNat < 0x80

/-- A member of a set: a character, or any of a kind. -/
def member? (options : Options) : List Char → Option (Option Char × List Char)
  | [] => none
  | '\\' :: rest =>
    match escape? options rest with
    | some (.literal c _, rest) => some (some c, rest)
    | some (.kind, rest) => some (none, rest)
    | _ => none
  | c :: rest => some (some c, rest)

/-- What follows a member of a set, or two of them that are the ends of a range. -/
def afterMember? (options : Options) (text : List Char) : Option (List Char) := do
  let (first, rest) ← member? options text
  let alone := if first.all (takesLiteral options) then some rest else none
  match skip options rest with
  | [] => none
  | '-' :: after =>
    if [some ']', some '-'].contains (peek options after) then alone
    else
      let (second, rest) ← member? options (skip options after)
      match first, second with
      | some low, some high =>
        if low ≤ high ∧ takesLiteral options low ∧ takesLiteral options high then some rest
        else none
      | _, _ => none
  | _ => alone

/-- What follows an opening bracket and the sign that turns a set to its opposite. What is outside
of a set is not known for bytes. -/
def afterOpening? (options : Options) (text : List Char) : Option (List Char) :=
  match skip options text with
  | '^' :: rest => if options.unicode then some rest else none
  | rest => some rest

/-- How deep a set is nested, and what follows it. `outer` are the sets around it. Each step takes
a character at least, so that as many steps as there are characters are enough. -/
def readSet? (options : Options) :
    Nat → OpenSet → List OpenSet → List Char → Option (Nat × List Char)
  | 0, _, _, _ => none
  | steps + 1, set, outer, text =>
    match skip options text with
    | [] => none
    | c :: rest =>
      if set.startsWith c then
        if takesLiteral options c then
          readSet? options steps { set.add 0 with isFresh := c = '-' } outer rest
        else none
      else
        match c, rest with
        | '[', rest =>
          match namedKind? rest with
          | some (opposite, rest) =>
            if takesKind options opposite then readSet? options steps (set.add 0) outer rest
            else none
          | none => do
            let rest ← afterOpening? options rest
            readSet? options steps .empty (set :: outer) rest
        | ']', rest =>
          match outer with
          | [] => some (set.height + 1, rest)
          | around :: outer => readSet? options steps (around.add (set.height + 1)) outer rest
        | '&', '&' :: rest | '-', '-' :: rest | '~', '~' :: rest =>
          readSet? options steps set.operate outer rest
        | c, rest => do
          let rest ← afterMember? options (c :: rest)
          readSet? options steps (set.add 0) outer rest

/-- How deep a set is nested whose opening bracket has been read, and what follows it. -/
def set? (options : Options) (text : List Char) : Option (Nat × List Char) := do
  let rest ← afterOpening? options text
  readSet? options text.length .empty [] rest

end Keyring.Pattern

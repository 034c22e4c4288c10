import Keyring.Pattern.Set
import Keyring.Text.Alphabetic
import Keyring.Text.Numeric

namespace Keyring

/-- Why a text cannot be used as a pattern. -/
inductive PatternError where
  | malformed
  /-- It asks for the edge of a word, where a word may be of any script. -/
  | wordEdge
  deriving DecidableEq, Repr

def PatternError.message : PatternError → String
  | malformed => "error building NFA"
  | wordEdge =>
    "unsupported regex feature for DFAs: cannot build DFAs for regexes with Unicode word " ++
      "boundaries; switch to ASCII word boundaries, or heuristically enable Unicode word " ++
      "boundaries or use a different regex engine"

namespace Pattern

/-- A group that has been opened, up to where it has been read. -/
structure OpenGroup where
  /-- The options that hold again after it. -/
  around : Options
  /-- How deep its branches are nested that are complete. -/
  branches : List Nat
  /-- How deep the parts are nested of the branch under way, the last part first. A change of the
  options is a part as well, but one that is no pattern. -/
  parts : List (Option Nat)

namespace OpenGroup

def empty (around : Options) : OpenGroup :=
  ⟨around, [], []⟩

/-- The group with another part. -/
def add (group : OpenGroup) (part : Option Nat) : OpenGroup :=
  { group with parts := part :: group.parts }

/-- The group with its branch complete. -/
def branch (group : OpenGroup) : OpenGroup :=
  ⟨group.around, together (group.parts.map (·.getD 0)) :: group.branches, []⟩

/-- How deep all that has been read is nested. -/
def height (group : OpenGroup) : Nat :=
  together group.branch.branches

end OpenGroup

/-- A pattern up to where it has been read. -/
structure Progress where
  options : Options
  /-- The names that groups have been given. -/
  names : List (List Char)
  /-- Whether the edge of a word of any script is asked for. -/
  asksEdge : Bool
  group : OpenGroup
  /-- The groups around it, the innermost first. -/
  outer : List OpenGroup

namespace Progress

def initial : Progress :=
  ⟨.initial, [], false, .empty .initial, []⟩

/-- The pattern with another part. -/
def add (progress : Progress) (part : Option Nat) : Progress :=
  { progress with group := progress.group.add part }

/-- The pattern with a new group open. -/
def enter (progress : Progress) (options : Options) : Progress :=
  { progress with
    options := options
    group := .empty progress.options
    outer := progress.group :: progress.outer }

/-- The pattern with a group closed, if one is open. -/
def leave? (progress : Progress) : Option Progress :=
  match progress.outer with
  | [] => none
  | around :: outer =>
    some { progress with
      options := progress.group.around
      group := around.add (some (progress.group.height + 1))
      outer := outer }

/-- The pattern whose last part is repeated, if it is one that can be. -/
def repeat? (progress : Progress) : Option Progress :=
  match progress.group.parts with
  | some height :: parts =>
    some { progress with group := { progress.group with parts := some (height + 1) :: parts } }
  | _ => none

/-- The pattern with a part that has no parts of its own. -/
def addAtom? (progress : Progress) (atom : Atom) : Option Progress :=
  if atom.isPlain progress.options then
    some { progress.add (some 0) with
      asksEdge := progress.asksEdge || (atom = .wordEdge && progress.options.unicode) }
  else none

/-- The pattern with a new group open that has a name. -/
def enterNamed? (progress : Progress) (text : List Char) : Option (Progress × List Char) :=
  match text.span (· ≠ '>') with
  | (c :: name, '>' :: rest) =>
    if (c = '_' ∨ Alphabetic.isAlphabetic c) ∧ name.all isWithin ∧
        !progress.names.contains (c :: name) then
      some ({ progress.enter progress.options with names := (c :: name) :: progress.names }, rest)
    else none
  | _ => none
where
  isWithin (c : Char) : Bool :=
    ['_', '.', '[', ']'].contains c || Alphabetic.isAlphabetic c || Numeric.isNumeric c

/-- What an opening parenthesis begins: a group, or a change of the options. -/
def opened? (progress : Progress) (text : List Char) : Option (Progress × List Char) :=
  match skip progress.options text with
  | '?' :: 'P' :: '<' :: rest | '?' :: '<' :: rest => progress.enterNamed? rest
  | '?' :: rest =>
    let (letters, rest) := rest.span fun c => c ≠ ':' ∧ c ≠ ')'
    match progress.options.change? letters, rest with
    | some options, ':' :: rest => some (progress.enter options, rest)
    | some options, ')' :: rest =>
      if letters.isEmpty then none else some ({ progress.add none with options := options }, rest)
    | _, _ => none
  | rest => some (progress.enter progress.options, rest)

/-- The pattern with one character more, and with those that belong to it. A brace would begin a
count, which cannot end. -/
def step? (progress : Progress) (c : Char) (rest : List Char) : Option (Progress × List Char) :=
  match c with
  | '(' => progress.opened? rest
  | ')' => progress.leave?.map (·, rest)
  | '|' => some ({ progress with group := progress.group.branch }, rest)
  | '[' => do
    let (height, rest) ← set? progress.options rest
    return (progress.add (some height), rest)
  | '?' | '*' | '+' =>
    let rest :=
      match rest with
      | '?' :: rest => rest
      | _ => rest
    progress.repeat?.map (·, rest)
  | '{' => none
  | '.' => if progress.options.unicode then some (progress.add (some 0), rest) else none
  | '^' | '$' => some (progress.add (some 0), rest)
  | '\\' => do
    let (atom, rest) ← escape? progress.options rest
    return (← progress.addAtom? atom, rest)
  | c => (progress.addAtom? (.literal c false)).map (·, rest)

/-- The pattern with all of a text. Each step takes a character at least, so that as many steps
as there are characters are enough. -/
def run? : Nat → Progress → List Char → Option Progress
  | 0, progress, text => if (skip progress.options text).isEmpty then some progress else none
  | steps + 1, progress, text =>
    match skip progress.options text with
    | [] => some progress
    | c :: rest => do
      let (progress, rest) ← progress.step? c rest
      run? steps progress rest

end Progress

/-- How deep a pattern can be nested. -/
def maxHeight : Nat := 250

/-- Refuses a text that cannot be used as a pattern. -/
def check (text : List Char) : Except PatternError Unit :=
  match Progress.initial.run? text.length text with
  | some progress =>
    if !progress.outer.isEmpty ∨ maxHeight < progress.group.height then .error .malformed
    else if progress.asksEdge then .error .wordEdge
    else .ok ()
  | none => .error .malformed

end Pattern

end Keyring

import Keyring.Log.Event
import Keyring.Pattern.Reading
import Keyring.Text.Cut
import Keyring.World

namespace Keyring

/-- Why a text is no directive. -/
inductive DirectiveError where
  | malformed
  /-- The level is not one. -/
  | level
  /-- The value of a field is neither a number nor a pattern. -/
  | value (cause : PatternError)
  deriving DecidableEq, Repr

def DirectiveError.message : DirectiveError → String
  | malformed => "invalid filter directive"
  | level =>
    "error parsing level filter: expected one of \"off\", \"error\", \"warn\", \"info\", " ++
      "\"debug\", \"trace\", or a number 0-5"
  | value cause => "invalid field filter: " ++ cause.message

/-- Lets events through up to a given rank. -/
structure Directive where
  /-- How the target of an event starts; any target if there is none. -/
  target : Option String
  /-- A field that an event has. -/
  field : Option String
  /-- Whether it only holds within a span of work, one with a name or with a field of a given
  value. No event here stands in one. -/
  spanned : Bool
  rank : Nat
  deriving DecidableEq, Repr

namespace Directive

/-- The rank of a level's name. -/
def namedRank? (text : String) : Option Nat :=
  [("", 1), ("off", 0), ("error", 1), ("warn", 2), ("info", 3), ("debug", 4), ("trace", 5)].lookup
    (String.ofList (text.toList.map Char.toLower))

/-- The rank of a level, by its name or its number. -/
def rank? (text : String) : Option Nat :=
  let digits :=
    match text.toList with
    | '+' :: rest => rest
    | chars => chars
  if digits.isEmpty ∨ !digits.all Char.isDigit then namedRank? text
  else
    let n := digits.foldl (fun n c => n * 10 + (c.toNat - 48)) 0
    if n ≤ 5 then some n else none

/-- The rank of everything. -/
def all : Nat := Level.trace.rank

/-- Whether a directive can start with a character. -/
def canStart (c : Char) : Bool :=
  Alphabetic.isAlphabetic c || Numeric.isNumeric c || c = '-' || c = ':' || c = '_'

/-- Whether a text is a number. One too big to be held is one all the same. -/
def isNumber (text : List Char) : Bool :=
  let unsigned := dropSign text
  let (whole, rest) := unsigned.span Char.isDigit
  let (fraction, rest) :=
    match rest with
    | '.' :: rest => rest.span Char.isDigit
    | _ => ([], rest)
  let exponent :=
    match rest with
    | [] => true
    | c :: rest =>
      let digits := dropSign rest
      c.toLower = 'e' && !digits.isEmpty && digits.all Char.isDigit
  ["inf", "infinity", "nan"].contains (String.ofList (unsigned.map Char.toLower)) ||
    ((!whole.isEmpty || !fraction.isEmpty) && exponent)
where
  dropSign : List Char → List Char
    | '+' :: rest | '-' :: rest => rest
    | text => text

/-- The field that is asked for, unless it is asked for with a value: a number, or a pattern. -/
def fieldOf (text : List Char) : Except DirectiveError (Option String) :=
  match text.splitOn '=' with
  | _ :: value :: _ =>
    if isNumber value then .ok none
    else (Pattern.check value).mapError .value |>.map fun _ => none
  | _ => .ok (some (String.ofList text))

/-- A text that is read as a directive. The blanks around it are left out when its signs are
sought, but the bytes up to a sign are counted from its very start. -/
abbrev Read (α : Type) := Except (Failure DirectiveError) α

/-- The part of the text from one byte up to another. -/
def part (start stop : Nat) (text : List Char) : Read (List Char) :=
  (Cut.between start stop text).mapError .fault

/-- The rank that stands from a byte on. -/
def rankAt (start : Nat) (text : List Char) : Read Nat := do
  let name ← (Cut.after start text).mapError .fault
  if name.isEmpty then return all
  match rank? (String.ofList name) with
  | some rank => return rank
  | none => throw (.error .level)

/-- The rank at the end of a directive: `rest` is left of it at byte `start`. -/
def ending (start : Nat) (text rest : List Char) : Read Nat :=
  match rest with
  | [] => return all
  | '=' :: _ => rankAt (start + 1) text
  | _ => throw (.error .malformed)

/-- The field of a directive in braces, whose opening brace has been read at the byte before
`start`. -/
def fieldAt (target : Option String) (spanned : Bool) (start : Nat) (text rest : List Char) :
    Read Directive :=
  let (inside, rest) := rest.span (· ≠ '}')
  let stop := start + Cut.size inside
  match rest with
  | [] => throw (.error .malformed)
  | _ :: rest => do
    let name ← part start stop text
    if name.isEmpty then throw (.error .malformed)
    let field ← (fieldOf name).mapError .error
    match rest with
    | ']' :: rest =>
      let rank ← ending (stop + 2) text rest
      return ⟨target, field, spanned || field.isNone, rank⟩
    | _ => throw (.error .malformed)

/-- The span of a directive in brackets, whose opening bracket has been read at the byte before
`start`. -/
def spanAt (target : Option String) (start : Nat) (text rest : List Char) : Read Directive :=
  let (inside, rest) := rest.span fun c => c ≠ ']' ∧ c ≠ '{'
  let stop := start + Cut.size inside
  match rest with
  | [] => throw (.error .malformed)
  | mark :: rest => do
    let name ← part start stop text
    if mark = ']' then
      let rank ← ending (stop + 1) text rest
      return ⟨target, none, true, rank⟩
    else fieldAt target (!name.isEmpty) (stop + 1) text rest

/-- A directive: a target, a level, a target with a level after an equals sign, or a span with a
level after an equals sign and perhaps a target in front. -/
def parse (piece : String) : Read Directive :=
  let text := piece.toList
  match Blank.trim text with
  | [] => throw (.error .malformed)
  | '[' :: rest => spanAt none 1 text rest
  | first :: others =>
    if !canStart first then throw (.error .malformed)
    else
      let (inside, rest) := (first :: others).span fun c => c ≠ '=' ∧ c ≠ '['
      let stop := Cut.size inside
      match rest with
      | [] =>
        match rank? piece with
        | some rank => return ⟨none, none, false, rank⟩
        | none => return ⟨some piece, none, false, all⟩
      | mark :: rest => do
        let target := some (String.ofList (← part 0 stop text))
        if mark = '=' then
          let rank ← rankAt (stop + 1) text
          return ⟨target, none, false, rank⟩
        else spanAt target (stop + 1) text rest

/-- Whether a directive says anything on an event. -/
def concerns (directive : Directive) (event : Event) : Bool :=
  !directive.spanned && (directive.target.getD "").toList.isPrefixOf event.target.toList &&
    directive.field.all event.hasField

/-- How closely a directive names its target. -/
def closeness (directive : Directive) : Nat :=
  match directive.target with
  | some target => target.utf8ByteSize + 1
  | none => 0

/-- Whether one directive goes before another that concerns the same event: it names the target
more closely, or as closely and a field as well. Of two fields the greater name goes before, and
of two directives that ask for the same the later. -/
def yieldsTo (earlier later : Directive) : Bool :=
  earlier.closeness < later.closeness ||
    (earlier.closeness = later.closeness &&
      match earlier.field, later.field with
      | none, _ => true
      | some _, none => false
      | some name, some other => name ≤ other)

end Directive

end Keyring

import Keyring.Command.Grammar

namespace Keyring

/-- The arguments that are given at one level, with their values. A flag has an empty value. -/
abbrev Given := List (Argument × String)

namespace Given

/-- One more argument, checked. -/
def insert (given : Given) (argument : Argument) (value : String) : Except UsageError Given := do
  if (given.lookup argument).isSome then
    .error .conflict
  argument.check value
  return given ++ [(argument, value)]

def has (given : Given) (argument : Argument) : Bool :=
  (given.lookup argument).isSome

end Given

/-- How far a level has been read. -/
structure Progress where
  given : Given
  /-- The argument that was read last and is still to be checked, with its value if that has
  been read. -/
  pending : Option (Argument × Option String)
  /-- Whether everything that follows is without a name. -/
  trailing : Bool
  /-- The slots that are still free. -/
  slots : List Argument

namespace Progress

def start (layout : Layout) : Progress :=
  ⟨[], none, false, layout.slots⟩

/-- Whether the next word is the value of an option. -/
def awaits (progress : Progress) : Bool :=
  match progress.pending with
  | some (_, none) => true
  | _ => false

/-- All that is given so far, checked. -/
def settle (progress : Progress) : Except UsageError Given :=
  match progress.pending with
  | none => .ok progress.given
  | some (_, none) => .error .valueMissing
  | some (argument, some value) => progress.given.insert argument value

/-- Checks what is pending, and puts another argument in its place. -/
def push (progress : Progress) (argument : Argument) (value : Option String) :
    Except UsageError Progress := do
  let given ← progress.settle
  return { progress with given := given, pending := some (argument, value) }

/-- Checks what is pending, and takes a flag or an option with its value. -/
def take (progress : Progress) (argument : Argument) (value : String) :
    Except UsageError Progress := do
  let given ← progress.settle
  let given ← given.insert argument value
  return { progress with given := given, pending := none }

/-- Checks what is pending, and stops for a cause. -/
def stop (progress : Progress) (cause : UsageError) : Except UsageError Progress := do
  let _ ← progress.settle
  .error cause

/-- Reads a word that starts with two dashes. -/
def long (layout : Layout) (progress : Progress) (word : List Char) :
    Except UsageError Progress :=
  let name := String.ofList (word.takeWhile (· ≠ '='))
  let value :=
    match word.dropWhile (· ≠ '=') with
    | [] => none
    | _ :: value => some (String.ofList value)
  if name = "help" ∨ name = "version" ∧ layout.hasVersion then
    if value.isSome then .error .valueExcess
    else progress.stop (if name = "help" then .help else .version)
  else
    match layout.flags.lookup name, layout.options.lookup name, value with
    | some argument, _, none => progress.take argument ""
    | some _, _, some _ => .error .valueExcess
    | none, some argument, some value => progress.take argument value
    | none, some argument, none => progress.push argument none
    | none, none, _ => .error .argumentUnknown

/-- Reads a word that starts with one dash. -/
def short (layout : Layout) (progress : Progress) (letter : Char) : Except UsageError Progress :=
  if letter = 'h' then progress.stop .help
  else if letter = 'V' ∧ layout.hasVersion then progress.stop .version
  else .error .argumentUnknown

/-- Reads a word for which no slot is free. -/
def excess (layout : Layout) (progress : Progress) (word : String) : UsageError :=
  if layout.verbs.isEmpty then .argumentUnknown
  else if progress.trailing ∧ (word = "help" ∨ (layout.verbs.lookup word).isSome) then
    .argumentUnknown
  else .commandUnknown

/-- Reads a word without a name. -/
def word (layout : Layout) (progress : Progress) (word : String) : Except UsageError Progress :=
  match progress.slots with
  | [] => .error (progress.excess layout word)
  | slot :: slots => do
    let progress ← progress.push slot (some word)
    return { progress with slots := slots }

/-- Reads a word that chooses no verb. -/
def step (layout : Layout) (progress : Progress) (next : String) : Except UsageError Progress :=
  if progress.trailing then progress.word layout next
  else
    match next.toList with
    | ['-', '-'] => .ok { progress with trailing := true }
    | '-' :: '-' :: chars => progress.long layout chars
    | '-' :: letter :: _ => progress.short layout letter
    | _ =>
      match progress.pending with
      | some (argument, none) => .ok { progress with pending := some (argument, some next) }
      | _ => progress.word layout next

end Progress

/-- The verbs of a command line, and what is given at the top and after each of them. -/
structure CommandLine where
  verbs : List Verb
  levels : List Given
  deriving DecidableEq

namespace CommandLine

/-- The cause to stop for when help is asked for on the verbs of a level. -/
def helpOn (layout : Layout) : List String → UsageError
  | [] => .help
  | "help" :: rest => if layout.verbs.isEmpty then .commandUnknown
    else if rest.isEmpty then .help else .commandUnknown
  | name :: rest =>
    match layout.verbs.lookup name with
    | some verb => helpOn (.after verb) rest
    | none => .commandUnknown

/-- What is wrong with all that is given at a level without a verb. -/
def check (layout : Layout) (given : Given) : Except UsageError Unit :=
  if !layout.verbs.isEmpty then
    .error (if given.isEmpty then .helpInstead else .commandMissing)
  else if given.has .key ∧ given.has .random then .error .conflict
  else if layout.required.all given.has then .ok ()
  else .error .argumentMissing

/-- Reads the words of a level and of the levels after it. -/
def read (layout : Layout) (progress : Progress) : List String → Except UsageError CommandLine
  | [] => do
    let given ← progress.settle
    check layout given
    return ⟨[], [given]⟩
  | next :: rest =>
    let chooses := !progress.trailing && !progress.awaits
    if chooses ∧ next = "help" ∧ !layout.verbs.isEmpty then .error (helpOn layout rest)
    else
      match if chooses then layout.verbs.lookup next else none with
      | some verb => do
        let inner ← read (.after verb) (.start (.after verb)) rest
        let given ← progress.settle
        return ⟨verb :: inner.verbs, given :: inner.levels⟩
      | none => do
        let progress ← progress.step layout next
        read layout progress rest

/-- The value of an argument at the innermost level that gives it. -/
def innermost (line : CommandLine) (argument : Argument) : Option String :=
  line.levels.foldl (fun outer given => (given.lookup argument).or outer) none

/-- What the verbs ask for, with what is given after the last of them. -/
def request? (verbs : List Verb) (given : Given) : Option Request := do
  let path ← given.lookup .path
  let key : KeyChoice :=
    ⟨given.lookup .key, (given.lookup .random).bind Argument.length?⟩
  match verbs with
  | [.create] => some (.create path key)
  | [.list] => some (.list path (given.has .showKeys))
  | [.add] => some (.add path key (given.has .activates))
  | [.activate] => (((given.lookup .id).bind Argument.id?).map (Request.activate path))
  | [.rekey] => some (.rekey path)
  | [.debug, .parse] => some (.inspect path (given.has .decrypt))
  | _ => none

/-- The log level if none is given. -/
def defaultLogLevel : String := "warn"

/-- What a command line asks for. -/
def invocation (line : CommandLine) : Except UsageError Invocation :=
  match request? line.verbs (line.levels.getLast?.getD []) with
  | some request =>
    .ok ⟨(line.innermost .logLevel).getD defaultLogLevel, (line.innermost .emptyOk).isSome, request⟩
  | none => .error .commandMissing

end CommandLine

/-- What the words of a command line ask for. -/
def Invocation.parse (words : List String) : Except UsageError Invocation := do
  let line ← CommandLine.read .top (.start .top) words
  line.invocation

end Keyring

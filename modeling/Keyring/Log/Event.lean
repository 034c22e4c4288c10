namespace Keyring

/-- How much an event matters. -/
inductive Level where
  | error
  | warn
  | info
  | debug
  | trace
  deriving DecidableEq, Repr

namespace Level

def name : Level → String
  | error => "ERROR"
  | warn => "WARN"
  | info => "INFO"
  | debug => "DEBUG"
  | trace => "TRACE"

/-- The more is let through, the higher the rank. -/
def rank : Level → Nat
  | error => 1
  | warn => 2
  | info => 3
  | debug => 4
  | trace => 5

end Level

/-- Something that happened, told without any secret. -/
structure Event where
  level : Level
  /-- The part of the program that tells of it. -/
  target : String
  message : String
  fields : List (String × String)
  deriving DecidableEq, Repr

namespace Event

/-- What a ring tells. -/
def ofRing (level : Level) (message : String) (fields : List (String × String)) : Event :=
  ⟨level, "keyring_core::ring", message, fields⟩

/-- What a session tells. -/
def ofSession (message : String) (fields : List (String × String)) : Event :=
  ⟨.debug, "keyring_cli::session", message, fields⟩

/-- Whether the event has a field of that name. The message is a field as well. -/
def hasField (event : Event) (name : String) : Bool :=
  name = "message" || event.fields.any fun field => field.1 = name

/-- The line of a log. -/
def line (event : Event) : String :=
  s!"{event.level.name} {event.target}: {event.message}" ++
    String.join (event.fields.map fun field => s!" {field.1}={field.2}") ++ "\n"

end Event

end Keyring

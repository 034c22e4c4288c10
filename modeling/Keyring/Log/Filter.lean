import Keyring.Log.Directive

namespace Keyring

/-- What is let through to the log. -/
structure Filter where
  directives : List Directive

namespace Filter

/-- Errors only. -/
def quiet : Filter :=
  ⟨[⟨none, none, false, Level.error.rank⟩]⟩

/-- The filter of some directives; quiet if there are none. -/
def ofDirectives (directives : List Directive) : Filter :=
  if directives.isEmpty then quiet else ⟨directives⟩

/-- The pieces of a filter's text between its commas. -/
def pieces (text : String) : List String :=
  ((text.toList.splitOn ',').map String.ofList).filter (· ≠ "")

/-- The filter that a text spells, if all its pieces are in order. -/
def parse (text : String) : Except (Failure DirectiveError) Filter :=
  ((pieces text).mapM Directive.parse).map ofDirectives

/-- The directives among some pieces, and what is said of the pieces that are none. -/
def sort : List String → Except Fault (List Directive × List String)
  | [] => .ok ([], [])
  | piece :: rest =>
    match Directive.parse piece with
    | .error (.fault fault) => .error fault
    | .error (.error cause) => do
      let (directives, complaints) ← sort rest
      return (directives, ("ignoring `" ++ piece ++ "`: " ++ cause.message ++ "\n") :: complaints)
    | .ok directive => do
      let (directives, complaints) ← sort rest
      return (directive :: directives, complaints)

/-- The filter of the pieces that are in order, and what is said of the others. -/
def lenient (text : String) : Except Fault (Filter × List String) :=
  (sort (pieces text)).map fun (directives, complaints) => (ofDirectives directives, complaints)

/-- The directive that decides on an event. -/
def deciding (filter : Filter) (event : Event) : Option Directive :=
  (filter.directives.filter (·.concerns event)).foldl
    (fun best next =>
      match best with
      | none => some next
      | some best => if best.yieldsTo next then some next else some best)
    none

/-- Whether an event is let through. -/
def admits (filter : Filter) (event : Event) : Bool :=
  match filter.deciding event with
  | some directive => event.level.rank ≤ directive.rank
  | none => false

end Filter

end Keyring

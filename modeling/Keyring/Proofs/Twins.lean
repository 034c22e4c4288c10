import Keyring.Proofs.Calls
import Mathlib.Data.List.Forall2

namespace Keyring

/-- Two worlds in which the same was done and as many random bytes are drawn, whatever these bytes are. -/
structure World.Twin (world twin : World) : Prop where
  drawn : world.supply.drawn = twin.supply.drawn
  limit : world.supply.limit = twin.supply.limit
  trace : world.trace = twin.trace

/-- A relation of worlds that have drawn as many random bytes, and that stay related when the same is done in both. -/
structure World.Coupling (coupled : World → World → Prop) : Prop where
  drawn {world twin : World} : coupled world twin → world.supply.drawn = twin.supply.drawn
  limit {world twin : World} : coupled world twin → world.supply.limit = twin.supply.limit
  advance {world twin : World} (count : Nat) (mark : Mark) : coupled world twin →
    coupled ⟨world.supply.after count, world.trace.push mark⟩ ⟨twin.supply.after count, twin.trace.push mark⟩

/-- Bytes of which no more is the same than how many they are. -/
def SameLength (bytes other : Bytes) : Prop :=
  bytes.length = other.length

theorem SameLength.isEmpty {bytes other : Bytes} (size : SameLength bytes other) : bytes.isEmpty = other.isEmpty := by
  rw [Bool.eq_iff_iff, List.isEmpty_iff, List.isEmpty_iff, ← List.length_eq_zero_iff, ← List.length_eq_zero_iff, size]

/-- Values that are related, or the same failure. -/
inductive Outcome.Agree {ε α β : Type} (rel : α → β → Prop) : Except ε α → Except ε β → Prop
  | ok {value : α} {other : β} : rel value other → Agree rel (.ok value) (.ok other)
  | error (cause : ε) : Agree rel (.error cause) (.error cause)

theorem Outcome.Agree.error_inj {ε α β : Type} {rel : α → β → Prop} {cause other : ε}
    (agree : Agree rel (.error cause) (.error other)) : cause = other := by
  cases agree
  rfl

theorem Outcome.Agree.refl {ε α : Type} {rel : α → α → Prop} (outcome : Except ε α) (same : ∀ value, rel value value) :
    Agree rel outcome outcome := by
  cases outcome with
  | ok value => exact .ok (same value)
  | error cause => exact .error cause

theorem Outcome.Agree.mapError {ε ε' α β : Type} {rel : α → β → Prop} {outcome : Except ε α} {other : Except ε β}
    (f : ε → ε') (agree : Agree rel outcome other) : Agree rel (outcome.mapError f) (other.mapError f) := by
  cases agree with
  | ok related => exact .ok related
  | error cause => exact .error (f cause)

theorem Outcome.Agree.unless {ε α β : Type} {rel : α → β → Prop} {p p' : Prop} [Decidable p] [Decidable p'] {cause : ε}
    {outcome : Except ε α} {other : Except ε β} (same : p ↔ p') (agree : Agree rel outcome other) :
    Agree rel (if p then .error cause else outcome) (if p' then .error cause else other) := by
  by_cases stops : p
  · rw [if_pos stops, if_pos (same.mp stops)]
    exact .error cause
  · rw [if_neg stops, if_neg (mt same.mpr stops)]
    exact agree

open Outcome (Agree)

theorem World.Twin.push {world twin : World} (twins : world.Twin twin) (mark : Mark) :
    World.Twin { world with trace := world.trace.push mark } { twin with trace := twin.trace.push mark } :=
  { twins with trace := congrArg (Array.push · mark) twins.trace }

theorem World.Twin.coupling : World.Coupling World.Twin where
  drawn := drawn
  limit := limit
  advance := fun count mark twins =>
    ⟨congrArg (· + count) twins.drawn, twins.limit, congrArg (Array.push · mark) twins.trace⟩

namespace World.Coupling

variable {coupled : World → World → Prop} {world twin : World} (coupling : World.Coupling coupled)
  (worlds : coupled world twin)
include coupling worlds

theorem push (mark : Mark) :
    coupled { world with trace := world.trace.push mark } { twin with trace := twin.trace.push mark } :=
  coupling.advance 0 mark worlds

/-- Of coupled worlds, the one can give as many random bytes as the other. -/
theorem take (count : Nat) : Agree (fun _ _ => True) (world.supply.take count) (twin.supply.take count) := by
  rw [Supply.take, Supply.take, coupling.limit worlds, coupling.drawn worlds]
  split
  · exact .error _
  · split
    · exact .error _
    · exact .ok trivial

end World.Coupling

namespace Action

variable {σ τ ε ε' α α' β β' : Type} {coupled between : σ → τ → Prop} {rel : α → α' → Prop} {next : β → β' → Prop}

/-- Ends of two runs that come to related values, or fail in the same way, and leave coupled states. -/
inductive Ends (coupled : σ → τ → Prop) (rel : α → α' → Prop) :
    EStateM.Result (Failure ε) σ α → EStateM.Result (Failure ε) τ α' → Prop
  | done {value : α} {other : α'} {later : σ} {twin : τ} :
      rel value other → coupled later twin → Ends coupled rel (.ok value later) (.ok other twin)
  | failed (failure : Failure ε) {later : σ} {twin : τ} :
      coupled later twin → Ends coupled rel (.error failure later) (.error failure twin)

/-- Two actions that end alike in coupled states. -/
def Meets (coupled : σ → τ → Prop) (rel : α → α' → Prop) (action : ActionOn σ ε α) (other : ActionOn τ ε α') : Prop :=
  ∀ state twin, coupled state twin → Ends coupled rel (action state) (other twin)

/-- Two actions that end alike in twin worlds. -/
def Twins (rel : α → α' → Prop) (action : Action ε α) (other : Action ε α') : Prop :=
  Meets World.Twin rel action other

theorem Ends.mono {result : EStateM.Result (Failure ε) σ α} {result' : EStateM.Result (Failure ε) τ α'}
    (ends : Ends between rel result result') (looser : ∀ later later', between later later' → coupled later later') :
    Ends coupled rel result result' := by
  cases ends with
  | done related laters => exact .done related (looser _ _ laters)
  | failed failure laters => exact .failed failure (looser _ _ laters)

/-- What comes after two runs that end alike may leave states that are coupled more loosely. -/
theorem Ends.bind {action : ActionOn σ ε α} {other : ActionOn τ ε α'} {rest : α → ActionOn σ ε β}
    {others : α' → ActionOn τ ε β'} {state : σ} {twin : τ} (first : Ends between rel (action state) (other twin))
    (looser : ∀ later later', between later later' → coupled later later')
    (second : ∀ value value' later later', action state = .ok value later → other twin = .ok value' later' →
      rel value value' → between later later' → Ends coupled next (rest value later) (others value' later')) :
    Ends coupled next ((action >>= rest) state) ((other >>= others) twin) := by
  cases ran : action state <;> cases ranToo : other twin <;> rw [ran, ranToo] at first <;> cases first
  case ok.ok value later value' later' related laters =>
    rw [bind_of_ok ran, bind_of_ok ranToo]
    exact second value value' later later' ran ranToo related laters
  case error.error failure later later' laters =>
    rw [bind_of_error ran, bind_of_error ranToo]
    exact .failed failure (looser later later' laters)

theorem Meets.pure {value : α} {other : α'} (related : rel value other) :
    Meets coupled rel (Pure.pure value : ActionOn σ ε α) (Pure.pure other : ActionOn τ ε α') :=
  fun _ _ states => .done related states

theorem Meets.throw (failure : Failure ε) :
    Meets coupled rel (throw failure : ActionOn σ ε α) (throw failure : ActionOn τ ε α') :=
  fun _ _ states => .failed failure states

theorem Meets.ofExcept {outcome : Except ε α} {other : Except ε α'} (agree : Agree rel outcome other) :
    Meets coupled rel (ofExcept outcome : ActionOn σ ε α) (Action.ofExcept other : ActionOn τ ε α') := by
  cases agree with
  | ok related => exact .pure related
  | error cause => exact .throw (.error cause)

theorem Meets.outcome (outcome : Except ε α) :
    Meets coupled Eq (Action.ofExcept outcome : ActionOn σ ε α) (Action.ofExcept outcome : ActionOn τ ε α) :=
  .ofExcept (.refl outcome fun _ => rfl)

theorem Meets.orFault {outcome : Except Fault α} {other : Except Fault α'} (agree : Agree rel outcome other) :
    Meets coupled rel (orFault outcome : ActionOn σ ε α) (Action.orFault other : ActionOn τ ε α') := by
  cases agree with
  | ok related => exact .pure related
  | error fault => exact .throw (.fault fault)

theorem Meets.bind {action : ActionOn σ ε α} {other : ActionOn τ ε α'} {rest : α → ActionOn σ ε β}
    {others : α' → ActionOn τ ε β'} (first : Meets coupled rel action other)
    (second : ∀ value twin, rel value twin → Meets coupled next (rest value) (others twin)) :
    Meets coupled next (action >>= rest) (other >>= others) :=
  fun state twin states => (first state twin states).bind (fun _ _ => id)
    fun value value' later later' _ _ related laters => second value value' related later later' laters

theorem Meets.ite {p p' : Prop} [Decidable p] [Decidable p'] {yes no : ActionOn σ ε α} {yes' no' : ActionOn τ ε α'}
    (same : p ↔ p') (first : p → Meets coupled rel yes yes') (second : ¬ p → Meets coupled rel no no') :
    Meets coupled rel (if p then yes else no) (if p' then yes' else no') := by
  by_cases taken : p
  · rw [if_pos taken, if_pos (same.mp taken)]
    exact first taken
  · rw [if_neg taken, if_neg (mt same.mpr taken)]
    exact second taken

/-- Guards that stop the one run and the other, for the same failure. -/
theorem Ends.guard {p p' : Prop} [Decidable p] [Decidable p'] {failure failure' : Failure ε}
    {rest : PUnit → ActionOn σ ε α} {others : PUnit → ActionOn τ ε α'} {state : σ} {twin : τ} (states : coupled state twin)
    (same : p ↔ p') (told : failure = failure') (passed : ¬ p → Ends coupled rel (rest () state) (others () twin)) :
    Ends coupled rel ((if p then MonadExcept.throw failure >>= rest else rest ()) state)
      ((if p' then MonadExcept.throw failure' >>= others else others ()) twin) := by
  subst told
  by_cases stops : p
  · rw [if_pos stops, if_pos (same.mp stops)]
    exact .failed failure states
  · rw [if_neg stops, if_neg (mt same.mpr stops)]
    exact passed stops

theorem Meets.guard {p p' : Prop} [Decidable p] [Decidable p'] {failure failure' : Failure ε}
    {rest : PUnit → ActionOn σ ε α} {others : PUnit → ActionOn τ ε α'} (same : p ↔ p') (told : failure = failure')
    (passed : ¬ p → Meets coupled rel (rest ()) (others ())) :
    Meets coupled rel (if p then MonadExcept.throw failure >>= rest else rest ())
      (if p' then MonadExcept.throw failure' >>= others else others ()) :=
  fun state twin states => .guard states same told fun stays => passed stays state twin states

theorem Meets.mapCause {f : ε → ε'} {action : ActionOn σ ε α} {other : ActionOn τ ε α'}
    (meets : Meets coupled rel action other) : Meets coupled rel (mapCause f action) (Action.mapCause f other) := by
  intro state twin states
  have ends := meets state twin states
  unfold Action.mapCause
  cases ran : action state <;> cases ranToo : other twin <;> rw [ran, ranToo] at ends <;> cases ends
  case ok.ok related laters => exact .done related laters
  case error.error failure _ _ laters =>
    cases failure with
    | error cause => exact .failed (.error (f cause)) laters
    | fault fault => exact .failed (.fault fault) laters

/-- What either run is known to come to can be used for the relation. -/
theorem Meets.imp {action : ActionOn σ ε α} {other : ActionOn τ ε α'} {further : α → α' → Prop}
    (meets : Meets coupled rel action other)
    (more : ∀ {before before' value value' after after'}, action before = .ok value after →
      other before' = .ok value' after' → rel value value' → further value value') :
    Meets coupled further action other := by
  intro state twin states
  have ends := meets state twin states
  cases ran : action state <;> cases ranToo : other twin <;> rw [ran, ranToo] at ends <;> cases ends
  case ok.ok related laters => exact .done (more ran ranToo related) laters
  case error.error failure _ _ laters => exact .failed failure laters

section Worlds

variable {coupled : World → World → Prop} (coupling : World.Coupling coupled)
include coupling

theorem Meets.record (mark : Mark) :
    Meets coupled (fun _ _ => True) (record mark : Action ε Unit) (Action.record mark : Action ε Unit) :=
  fun _ _ worlds => .done trivial (coupling.push worlds mark)

theorem Meets.log (event : Event) :
    Meets coupled (fun _ _ => True) (log event : Action ε Unit) (Action.log event : Action ε Unit) :=
  .record coupling (.event event)

theorem Meets.draw (purpose : Purpose) (count : Nat) :
    Meets coupled SameLength (draw purpose count : Action ε Bytes) (Action.draw purpose count : Action ε Bytes) := by
  intro world twin worlds
  have start : Mark.drew purpose world.supply.drawn count = .drew purpose twin.supply.drawn count :=
    congrArg (Mark.drew purpose · count) (coupling.drawn worlds)
  have agree := coupling.take worlds count
  cases given : world.supply.take count with
  | ok drawn =>
    cases givenToo : twin.supply.take count with
    | ok other =>
      have enough := (Supply.take_eq_ok_iff.mp given).1
      have enoughToo := (Supply.take_eq_ok_iff.mp givenToo).1
      rw [draw_of_has enough, draw_of_has enoughToo, start]
      refine .done ?_ (coupling.advance count _ worlds)
      rw [SameLength, Supply.length_segment, Supply.length_segment]
    | error fault =>
      rw [given, givenToo] at agree
      cases agree
  | error fault =>
    cases givenToo : twin.supply.take count with
    | ok other =>
      rw [given, givenToo] at agree
      cases agree
    | error other =>
      rw [given, givenToo] at agree
      cases agree
      rw [draw_of_refused given, draw_of_refused givenToo]
      exact .failed (.fault fault) worlds

end Worlds

end Action

end Keyring

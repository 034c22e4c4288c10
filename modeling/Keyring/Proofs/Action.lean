import Keyring.World

namespace Keyring

/-- A supply that can give `count` more bytes. -/
def Supply.Has (supply : Supply) (count : Nat) : Prop :=
  count < lengthLimit ∧ ∀ limit ∈ supply.limit, supply.drawn + count ≤ limit

/-- The supply when `count` more bytes are drawn. -/
def Supply.after (supply : Supply) (count : Nat) : Supply :=
  { supply with drawn := supply.drawn + count }

theorem Supply.take_eq_ok_iff {supply next : Supply} {count : Nat} {bytes : Bytes} :
    supply.take count = .ok (bytes, next) ↔
      supply.Has count ∧ bytes = supply.segment supply.drawn count ∧
        next = supply.after count := by
  unfold take Has after
  cases known : supply.limit with
  | none =>
    by_cases big : lengthLimit ≤ count
    · simp [big, Nat.not_lt.mpr big]
    · simp [big, Nat.lt_of_not_le big, eq_comm]
  | some limit =>
    by_cases big : lengthLimit ≤ count
    · simp [big, Nat.not_lt.mpr big]
    · by_cases short : limit < supply.drawn + count
      · simp [big, short, Nat.not_le.mpr short]
      · simp [big, short, Nat.lt_of_not_le big, Nat.le_of_not_lt short, eq_comm]

variable {σ ε ε' α β : Type}

namespace Outcome

@[simp]
theorem mapError_eq_ok {f : ε → ε'} {outcome : Except ε α} {value : α} :
    outcome.mapError f = .ok value ↔ outcome = .ok value := by
  cases outcome <;> constructor <;> intro same <;> cases same <;> rfl

theorem map_eq_ok {f : α → β} {outcome : Except ε α} {result : β} :
    outcome.map f = .ok result ↔ ∃ value, outcome = .ok value ∧ f value = result := by
  cases outcome <;> simp [Except.map]

theorem bind_eq_ok {outcome : Except ε α} {next : α → Except ε β} {result : β} :
    (outcome >>= next) = .ok result ↔ ∃ value, outcome = .ok value ∧ next value = .ok result := by
  cases outcome <;> simp [bind, Except.bind]

theorem pure_eq_ok {value result : α} :
    (pure value : Except ε α) = .ok result ↔ value = result := by
  simp [pure, Except.pure]

end Outcome

namespace Action

/-- A sequence of two actions finishes if both do. -/
theorem bind_eq_ok {action : ActionOn σ ε α} {next : α → ActionOn σ ε β} {before after : σ}
    {result : β} :
    (action >>= next) before = .ok result after ↔
      ∃ value between, action before = .ok value between ∧ next value between = .ok result after := by
  change EStateM.bind action next before = _ ↔ _
  unfold EStateM.bind
  cases action before with
  | ok value between =>
    constructor
    · intro finished
      exact ⟨value, between, rfl, finished⟩
    · rintro ⟨_, _, same, finished⟩
      cases same
      exact finished
  | error failure between => simp

/-- Once an action is done, what comes next goes on from there. -/
theorem bind_of_ok {action : ActionOn σ ε α} {before between : σ} {value : α}
    (done : action before = .ok value between) (next : α → ActionOn σ ε β) :
    (action >>= next) before = next value between := by
  change EStateM.bind action next before = _
  rw [EStateM.bind, done]

/-- Nothing comes after an action that failed. -/
theorem bind_of_error {action : ActionOn σ ε α} {before between : σ} {failure : Failure ε}
    (failed : action before = .error failure between) (next : α → ActionOn σ ε β) :
    (action >>= next) before = .error failure between := by
  change EStateM.bind action next before = _
  rw [EStateM.bind, failed]

/-- A sequence of two actions fails if one of them does. -/
theorem bind_eq_error {action : ActionOn σ ε α} {next : α → ActionOn σ ε β} {before after : σ} {failure : Failure ε} :
    (action >>= next) before = .error failure after ↔
      action before = .error failure after ∨
        ∃ value between, action before = .ok value between ∧ next value between = .error failure after := by
  cases ran : action before with
  | ok value between =>
    rw [bind_of_ok ran]
    constructor
    · intro failed
      exact .inr ⟨value, between, rfl, failed⟩
    · rintro (same | ⟨_, _, same, failed⟩)
      · cases same
      · cases same
        exact failed
  | error other between => simp [bind_of_error ran]

/-- What comes next is given the state, and goes on from it. -/
theorem bind_get (next : σ → ActionOn σ ε β) (before : σ) : (get >>= next) before = next before before :=
  rfl

@[simp]
theorem pure_eq_ok {value result : α} {before after : σ} :
    (pure value : ActionOn σ ε α) before = .ok result after ↔ value = result ∧ before = after := by
  change EStateM.Result.ok value before = _ ↔ _
  simp

@[simp]
theorem pure_eq_error {value : α} {failure : Failure ε} {before after : σ} :
    (pure value : ActionOn σ ε α) before = .error failure after ↔ False := by
  change EStateM.Result.ok value before = _ ↔ _
  simp

theorem returns_eq_ok {action : ActionOn σ ε α} {f : α → β} {before after : σ} {result : β} :
    (action >>= fun value => pure (f value)) before = .ok result after ↔
      ∃ value, action before = .ok value after ∧ f value = result := by
  rw [bind_eq_ok]
  constructor
  · rintro ⟨value, between, done, finished⟩
    obtain ⟨same, rfl⟩ := pure_eq_ok.mp finished
    exact ⟨value, done, same⟩
  · rintro ⟨value, done, same⟩
    exact ⟨value, after, done, pure_eq_ok.mpr ⟨same, rfl⟩⟩

@[simp]
theorem throw_eq_ok {failure : Failure ε} {result : α} {before after : σ} :
    (throw failure : ActionOn σ ε α) before = .ok result after ↔ False := by
  change EStateM.Result.error failure before = _ ↔ _
  simp

@[simp]
theorem throw_eq_error {failure other : Failure ε} {before after : σ} :
    (throw failure : ActionOn σ ε α) before = .error other after ↔ failure = other ∧ before = after := by
  change EStateM.Result.error failure before = _ ↔ _
  simp

@[simp]
theorem fail_eq_ok {cause : ε} {result : α} {before after : σ} :
    (fail cause : ActionOn σ ε α) before = .ok result after ↔ False :=
  throw_eq_ok

@[simp]
theorem ofExcept_eq_ok {outcome : Except ε α} {result : α} {before after : σ} :
    (ofExcept outcome : ActionOn σ ε α) before = .ok result after ↔
      outcome = .ok result ∧ before = after := by
  cases outcome <;> simp [ofExcept]

@[simp]
theorem ofExcept_eq_error {outcome : Except ε α} {failure : Failure ε} {before after : σ} :
    (ofExcept outcome : ActionOn σ ε α) before = .error failure after ↔
      ∃ cause, outcome = .error cause ∧ .error cause = failure ∧ before = after := by
  cases outcome <;> simp [ofExcept, fail]

/-- What comes after an outcome goes on from the same state. -/
theorem ofExcept_bind_eq_error {outcome : Except ε α} {next : α → ActionOn σ ε β} {failure : Failure ε}
    {before after : σ} :
    (ofExcept outcome >>= next) before = .error failure after ↔
      (∃ cause, outcome = .error cause ∧ .error cause = failure ∧ before = after) ∨
        ∃ value, outcome = .ok value ∧ next value before = .error failure after := by
  rw [bind_eq_error, ofExcept_eq_error]
  refine or_congr_right ⟨?_, ?_⟩
  · rintro ⟨value, _, done, failed⟩
    obtain ⟨same, rfl⟩ := ofExcept_eq_ok.mp done
    exact ⟨value, same, failed⟩
  · rintro ⟨value, same, failed⟩
    exact ⟨value, before, ofExcept_eq_ok.mpr ⟨same, rfl⟩, failed⟩

@[simp]
theorem orFault_eq_ok {outcome : Except Fault α} {result : α} {before after : σ} :
    (orFault outcome : ActionOn σ ε α) before = .ok result after ↔
      outcome = .ok result ∧ before = after := by
  cases outcome <;> simp [orFault]

@[simp]
theorem orFault_eq_error {outcome : Except Fault α} {failure : Failure ε} {before after : σ} :
    (orFault outcome : ActionOn σ ε α) before = .error failure after ↔
      ∃ fault, outcome = .error fault ∧ .fault fault = failure ∧ before = after := by
  cases outcome <;> simp [orFault]

@[simp]
theorem mapCause_eq_ok {f : ε → ε'} {action : ActionOn σ ε α} {result : α} {before after : σ} :
    mapCause f action before = .ok result after ↔ action before = .ok result after := by
  unfold mapCause
  cases action before with
  | ok value between => simp
  | error failure between => cases failure <;> simp

/-- A fault is put in no other words. -/
@[simp]
theorem mapCause_eq_fault {f : ε → ε'} {action : ActionOn σ ε α} {fault : Fault} {before after : σ} :
    mapCause f action before = .error (.fault fault) after ↔ action before = .error (.fault fault) after := by
  unfold mapCause
  cases action before with
  | ok value between => simp
  | error failure between => cases failure <;> simp

/-- An action on a part leaves the rest. -/
theorem onPart_eq_ok {τ : Type} {get : τ → σ} {set : τ → σ → τ} {action : ActionOn σ ε α} {result : α}
    {before after : τ} :
    onPart get set action before = .ok result after ↔
      ∃ part, action (get before) = .ok result part ∧ set before part = after := by
  unfold onPart
  cases action (get before) with
  | ok value part =>
    simp only [EStateM.Result.ok.injEq]
    constructor
    · rintro ⟨rfl, same⟩
      exact ⟨part, ⟨rfl, rfl⟩, same⟩
    · rintro ⟨_, ⟨rfl, rfl⟩, same⟩
      exact ⟨rfl, same⟩
  | error failure part => simp

theorem onPart_eq_error {τ : Type} {get : τ → σ} {set : τ → σ → τ} {action : ActionOn σ ε α} {failure : Failure ε}
    {before after : τ} :
    onPart get set action before = .error failure after ↔
      ∃ part, action (get before) = .error failure part ∧ set before part = after := by
  unfold onPart
  cases action (get before) with
  | ok value part => simp
  | error other part =>
    simp only [EStateM.Result.error.injEq]
    constructor
    · rintro ⟨rfl, same⟩
      exact ⟨part, ⟨rfl, rfl⟩, same⟩
    · rintro ⟨_, ⟨rfl, rfl⟩, same⟩
      exact ⟨rfl, same⟩

/-- An action that is guarded finishes as the branch that is taken. -/
theorem ite_eq_ok {p : Prop} [Decidable p] {yes no : ActionOn σ ε α} {result : α} {before after : σ} :
    (if p then yes else no) before = .ok result after ↔
      p ∧ yes before = .ok result after ∨ ¬ p ∧ no before = .ok result after := by
  by_cases holds : p <;> simp [holds]

theorem ite_eq_error {p : Prop} [Decidable p] {yes no : ActionOn σ ε α} {failure : Failure ε} {before after : σ} :
    (if p then yes else no) before = .error failure after ↔
      p ∧ yes before = .error failure after ∨ ¬ p ∧ no before = .error failure after := by
  by_cases holds : p <;> simp [holds]

@[simp]
theorem get_eq_ok {result before after : σ} :
    (get : ActionOn σ ε σ) before = .ok result after ↔ before = result ∧ before = after := by
  change EStateM.Result.ok before before = _ ↔ _
  simp

@[simp]
theorem record_eq_ok {mark : Mark} {result : Unit} {before after : World} :
    (record mark : Action ε Unit) before = .ok result after ↔
      { before with trace := before.trace.push mark } = after := by
  change EStateM.Result.ok () { before with trace := before.trace.push mark } = _ ↔ _
  simp

@[simp]
theorem log_eq_ok {event : Event} {result : Unit} {before after : World} :
    (log event : Action ε Unit) before = .ok result after ↔
      { before with trace := before.trace.push (.event event) } = after :=
  record_eq_ok

/-- Drawing gives the next bytes of the supply, if there are as many. -/
theorem draw_eq_ok {purpose : Purpose} {count : Nat} {bytes : Bytes} {before after : World} :
    (draw purpose count : Action ε Bytes) before = .ok bytes after ↔
      before.supply.Has count ∧ bytes = before.supply.segment before.supply.drawn count ∧
        after = ⟨before.supply.after count, before.trace.push (.drew purpose before.supply.drawn count)⟩ := by
  have set_eq_ok : ∀ {world later : World} {result : PUnit} {start : World},
      (set world : ActionOn World ε PUnit) start = .ok result later ↔ world = later := by
    intro world later result start
    change EStateM.Result.ok PUnit.unit world = _ ↔ _
    simp
  unfold draw
  simp only [bind_eq_ok, get_eq_ok, orFault_eq_ok, set_eq_ok, record_eq_ok, pure_eq_ok]
  constructor
  · intro finished
    obtain ⟨_, _, ⟨rfl, rfl⟩, ⟨given, supply⟩, _, ⟨taken, rfl⟩, _, _, rfl, _, _, rfl, rfl, rfl⟩ := finished
    obtain ⟨enough, rfl, rfl⟩ := Supply.take_eq_ok_iff.mp taken
    exact ⟨enough, rfl, rfl⟩
  · rintro ⟨enough, rfl, rfl⟩
    have taken := Supply.take_eq_ok_iff.mpr ⟨enough, rfl, rfl⟩
    exact ⟨_, _, ⟨rfl, rfl⟩, _, _, ⟨taken, rfl⟩, .unit, _, rfl, (), _, rfl, rfl, rfl⟩

/-- A request that the supply refuses takes nothing. -/
theorem draw_of_refused {world : World} {count : Nat} {fault : Fault} (refused : world.supply.take count = .error fault)
    (purpose : Purpose) : (draw purpose count : Action ε Bytes) world = .error (.fault fault) world := by
  have failed : (orFault (world.supply.take count) : Action ε (Bytes × Supply)) world =
      .error (.fault fault) world := by
    rw [refused]
    rfl
  have got : (get : Action ε World) world = .ok world world := rfl
  rw [draw, bind_of_ok got]
  exact bind_of_error failed _

theorem draw_of_has {world : World} {count : Nat} (enough : world.supply.Has count) (purpose : Purpose) :
    (draw purpose count : Action ε Bytes) world = .ok (world.supply.segment world.supply.drawn count)
      ⟨world.supply.after count, world.trace.push (.drew purpose world.supply.drawn count)⟩ :=
  draw_eq_ok.mpr ⟨enough, rfl, rfl⟩

end Action

end Keyring

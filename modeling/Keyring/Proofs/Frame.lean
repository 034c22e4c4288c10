import Keyring.Command.Program
import Keyring.Proofs.Action

namespace Keyring

/-- The bytes that went out as answers, in the order in which they went. -/
def World.output (world : World) : Bytes :=
  world.trace.toList.flatMap Program.outputOf

theorem Supply.Has.mono {supply : Supply} {count fewer : Nat} (enough : supply.Has count) (le : fewer ≤ count) :
    supply.Has fewer := by
  obtain ⟨short, within⟩ := enough
  refine ⟨by omega, ?_⟩
  intro limit bounded
  have bound := within limit bounded
  omega

theorem Supply.Has.after {supply : Supply} {drawn rest : Nat} (enough : supply.Has (drawn + rest)) :
    (supply.after drawn).Has rest := by
  obtain ⟨short, within⟩ := enough
  refine ⟨by omega, ?_⟩
  intro limit bounded
  have bound := within limit bounded
  simp only [Supply.after]
  omega

namespace Action

variable {σ τ ε ε' α β : Type} {holds : σ → Prop}

/-- The state after a run, whether it finished or failed. -/
def left : EStateM.Result (Failure ε) σ α → σ
  | .ok _ after => after
  | .error _ after => after

/-- What holds before the action holds after it, whether it finishes or fails. -/
def Keeps (holds : σ → Prop) (action : ActionOn σ ε α) : Prop :=
  ∀ before, holds before → holds (left (action before))

section Rules

theorem Keeps.of_ok {action : ActionOn σ ε α} (keeps : Keeps holds action) {before after : σ} {value : α}
    (given : holds before) (done : action before = .ok value after) : holds after := by
  have kept := keeps before given
  rwa [done] at kept

theorem Keeps.of_error {action : ActionOn σ ε α} (keeps : Keeps holds action) {before after : σ} {failure : Failure ε}
    (given : holds before) (failed : action before = .error failure after) : holds after := by
  have kept := keeps before given
  rwa [failed] at kept

theorem Keeps.pure (value : α) : Keeps holds (Pure.pure value : ActionOn σ ε α) :=
  fun _ given => given

theorem Keeps.throw (failure : Failure ε) : Keeps holds (throw failure : ActionOn σ ε α) :=
  fun _ given => given

theorem Keeps.get : Keeps holds (get : ActionOn σ ε σ) :=
  fun _ given => given

theorem Keeps.ofExcept (outcome : Except ε α) : Keeps holds (ofExcept outcome : ActionOn σ ε α) := by
  cases outcome with
  | ok value => exact .pure value
  | error cause => exact .throw (.error cause)

theorem Keeps.orFault (outcome : Except Fault α) : Keeps holds (orFault outcome : ActionOn σ ε α) := by
  cases outcome with
  | ok value => exact .pure value
  | error fault => exact .throw (.fault fault)

theorem Keeps.bind {action : ActionOn σ ε α} {next : α → ActionOn σ ε β} (first : Keeps holds action)
    (second : ∀ value, Keeps holds (next value)) : Keeps holds (action >>= next) := by
  intro before given
  have between := first before given
  change holds (left (EStateM.bind action next before))
  unfold EStateM.bind
  cases ran : action before with
  | ok value state =>
    rw [ran] at between
    exact second value state between
  | error failure state =>
    rw [ran] at between
    exact between

theorem Keeps.ite {p : Prop} [Decidable p] {yes no : ActionOn σ ε α} (first : Keeps holds yes)
    (second : Keeps holds no) : Keeps holds (if p then yes else no) := by
  by_cases taken : p
  · rwa [if_pos taken]
  · rwa [if_neg taken]

/-- A guard that fails leaves the state, and past it the rest keeps what holds. -/
theorem Keeps.guard {p : Prop} [Decidable p] {failure : Failure ε} {rest : PUnit → ActionOn σ ε α}
    (keeps : ∀ passed, Keeps holds (rest passed)) :
    Keeps holds (if p then MonadExcept.throw failure >>= rest else rest ()) :=
  .ite (.bind (.throw failure) keeps) (keeps ())

theorem Keeps.mapCause {f : ε → ε'} {action : ActionOn σ ε α} (keeps : Keeps holds action) :
    Keeps holds (mapCause f action) := by
  intro before given
  have kept := keeps before given
  unfold Action.mapCause
  cases ran : action before with
  | ok value after =>
    rw [ran] at kept
    exact kept
  | error failure after =>
    rw [ran] at kept
    cases failure <;> exact kept

end Rules

/-- An action that leaves no answer. -/
def Silent (action : Action ε α) : Prop :=
  ∀ holds : Bytes → Prop, Keeps (fun world => holds world.output) action

/-- An action that leaves no answer and draws no random bytes. -/
def Quiet (action : Action ε α) : Prop :=
  ∀ holds : Supply → Bytes → Prop, Keeps (fun world => holds world.supply world.output) action

theorem Quiet.silent {action : Action ε α} (quiet : Quiet action) : Silent action :=
  fun holds => quiet fun _ output => holds output

/-- A mark that is no answer does not show in the output. -/
theorem output_push {mark : Mark} (inward : Program.outputOf mark = []) (supply : Supply) (trace : Array Mark) :
    World.output ⟨supply, trace.push mark⟩ = World.output ⟨supply, trace⟩ := by
  simp [World.output, inward]

theorem output_push_printed (bytes : Bytes) (supply : Supply) (trace : Array Mark) :
    World.output ⟨supply, trace.push (.printed bytes)⟩ = World.output ⟨supply, trace⟩ ++ bytes := by
  simp [World.output, Program.outputOf]

theorem Quiet.record {mark : Mark} (inward : Program.outputOf mark = []) : Quiet (record mark : Action ε Unit) := by
  intro holds before given
  change holds before.supply (World.output ⟨before.supply, before.trace.push mark⟩)
  rw [output_push inward]
  exact given

theorem Quiet.log (event : Event) : Quiet (log event : Action ε Unit) :=
  .record rfl

/-- An action that does nothing but tell of events. -/
def Telling (action : Action ε α) : Prop :=
  ∀ holds : World → Prop,
    (∀ world event, holds world → holds { world with trace := world.trace.push (.event event) }) → Keeps holds action

theorem Telling.log (event : Event) : Telling (log event : Action ε Unit) :=
  fun _ told before given => told before event given

theorem Telling.quiet {action : Action ε α} (telling : Telling action) : Quiet action := by
  intro holds
  refine telling _ fun world event given => ?_
  rw [output_push rfl]
  exact given

theorem Silent.draw (purpose : Purpose) (count : Nat) : Silent (draw purpose count : Action ε Bytes) := by
  intro holds before given
  cases taken : before.supply.take count with
  | error fault =>
    rw [draw_of_refused taken]
    exact given
  | ok drawn =>
    obtain ⟨bytes, supply⟩ := drawn
    have enough := (Supply.take_eq_ok_iff.mp taken).1
    rw [draw_of_has enough]
    change holds (World.output ⟨before.supply.after count, before.trace.push (.drew purpose before.supply.drawn count)⟩)
    rw [output_push rfl]
    exact given

section Spending

/-- An action that draws no more than `count` random bytes. -/
def Spends (count : Nat) (action : Action ε α) : Prop :=
  ∀ before, ∃ drawn ≤ count, (left (action before)).supply = before.supply.after drawn

/-- Whatever is left of a supply after so many bytes is left after the action. -/
theorem Spends.has {action : Action ε α} {count rest : Nat} (spends : Spends count action) {before after : World}
    {value : α} (enough : before.supply.Has (count + rest)) (done : action before = .ok value after) :
    after.supply.Has rest := by
  obtain ⟨drawn, few, left⟩ := spends before
  rw [done] at left
  change after.supply = _ at left
  rw [left]
  exact Supply.Has.after (enough.mono (by omega))

theorem Quiet.spends {action : Action ε α} (quiet : Quiet action) : Spends 0 action := by
  intro before
  have same := quiet (fun supply _ => supply = before.supply) before rfl
  exact ⟨0, Nat.le_refl _, same⟩

theorem Spends.bind {action : Action ε α} {next : α → Action ε β} {first second : Nat} (spends : Spends first action)
    (others : ∀ value, Spends second (next value)) : Spends (first + second) (action >>= next) := by
  intro before
  obtain ⟨drawn, few, left⟩ := spends before
  cases ran : action before with
  | ok value between =>
    obtain ⟨more, fewMore, leftMore⟩ := others value between
    rw [ran] at left
    change between.supply = _ at left
    refine ⟨drawn + more, by omega, ?_⟩
    rw [bind_of_ok ran, leftMore, left]
    simp [Supply.after, Nat.add_assoc]
  | error failure between =>
    rw [ran] at left
    refine ⟨drawn, by omega, ?_⟩
    rw [bind_of_error ran]
    exact left

theorem Spends.guard {p : Prop} [Decidable p] {failure : Failure ε} {rest : PUnit → Action ε α} {count : Nat}
    (spends : ∀ passed, Spends count (rest passed)) :
    Spends count (if p then MonadExcept.throw failure >>= rest else rest ()) := by
  by_cases taken : p
  · rw [if_pos taken]
    intro before
    exact ⟨0, Nat.zero_le count, rfl⟩
  · rw [if_neg taken]
    exact spends ()

theorem Spends.mapCause {f : ε → ε'} {action : Action ε α} {count : Nat} (spends : Spends count action) :
    Spends count (mapCause f action) := by
  intro before
  obtain ⟨drawn, few, left⟩ := spends before
  refine ⟨drawn, few, ?_⟩
  unfold Action.mapCause
  cases ran : action before with
  | ok value after =>
    rw [ran] at left
    exact left
  | error failure after =>
    rw [ran] at left
    cases failure <;> exact left

theorem Spends.draw (purpose : Purpose) (count : Nat) : Spends count (draw purpose count : Action ε Bytes) := by
  intro before
  cases taken : before.supply.take count with
  | error fault =>
    rw [draw_of_refused taken]
    exact ⟨0, Nat.zero_le count, rfl⟩
  | ok drawn =>
    obtain ⟨bytes, supply⟩ := drawn
    have enough := (Supply.take_eq_ok_iff.mp taken).1
    rw [draw_of_has enough]
    exact ⟨count, Nat.le_refl _, rfl⟩

end Spending

end Action

open Keyring.Action

section Reading

theorem Bundle.telling_inspect (activeSeen : Bool) (packets : List Packet) : Telling (inspect activeSeen packets) := by
  intro holds told
  induction packets generalizing activeSeen with
  | nil => exact .pure ()
  | cons packet rest ih =>
    unfold inspect
    split
    · exact Keeps.guard fun _ => .bind (.ofExcept _) fun _ => ih true
    · exact .bind (.ofExcept _) fun _ => ih activeSeen
    · exact .bind (Telling.log _ holds told) fun _ => ih activeSeen
    all_goals exact .throw _

theorem Bundle.telling_viewOf (keys : KeySet) (recorded : Option KeyId) : Telling (viewOf keys recorded) := by
  intro holds told
  unfold viewOf
  split
  · exact .throw _
  · split
    · split
      · exact .pure _
      · exact .throw _
    · exact .bind (Telling.log _ holds told) fun _ => .pure _

/-- Decoding a bundle only tells of what is found in it. -/
theorem Bundle.telling_decode (plain : Bytes) : Telling (decode plain) := by
  intro holds told
  unfold decode
  refine .bind (.ofExcept _) fun packets => ?_
  refine .bind (telling_inspect false packets holds told) fun _ => ?_
  refine .bind (.ofExcept _) fun keys => ?_
  exact .bind (telling_viewOf keys _ holds told) fun _ => .pure _

namespace Ring

theorem telling_inspect (seen : List Role) (packets : List Packet) : Telling (inspect seen packets) := by
  intro holds told
  induction packets generalizing seen with
  | nil => exact .pure ()
  | cons packet rest ih =>
    unfold inspect
    split
    · exact .bind (Telling.log _ holds told) fun _ => ih seen
    · exact .throw _
    · exact .throw _
    · exact .ite (.throw _) (ih _)

theorem telling_parseSupported (data : Bytes) : Telling (parseSupported data) := by
  intro holds _
  unfold parseSupported
  refine .bind (.ofExcept _) fun container => ?_
  exact Keeps.guard fun _ => Keeps.guard fun _ => .pure _

theorem telling_required (type : PacketType) (packets : List Packet) : Telling (required type packets) := by
  intro holds _
  unfold required
  split
  · exact .pure _
  · exact .throw _

theorem quiet_checkAccessKey (key : Bytes) : Quiet (checkAccessKey key) :=
  fun _ => .ite (.pure ()) (.throw _)

theorem quiet_ask (credential : Credential) (salt : Bytes) : Quiet (ask credential salt) := by
  intro holds
  refine .bind (Quiet.record rfl holds) fun _ => ?_
  exact .bind (quiet_checkAccessKey _ holds) fun _ => .pure _

/-- Reading a keyring draws nothing and answers nothing. -/
theorem quiet_read (source : Source) (credential : Credential) : Quiet (read source credential) := by
  intro holds
  unfold read
  refine .bind (.ofExcept _) fun data => ?_
  refine .bind ((telling_parseSupported data).quiet holds) fun container => ?_
  refine .bind ((telling_inspect [] container.packets).quiet holds) fun _ => ?_
  refine .bind ((telling_required .dataKey container.packets).quiet holds) fun wrappedKey => ?_
  refine .bind ((telling_required .bundle container.packets).quiet holds) fun sealedBundle => ?_
  refine .bind (quiet_ask credential _ holds) fun accessKey => ?_
  refine .bind (.ofExcept _) fun dataKey => ?_
  refine Keeps.guard fun _ => ?_
  refine .bind (.ofExcept _) fun plain => ?_
  refine .bind ((Bundle.telling_decode plain).quiet holds) fun bundle => ?_
  exact .bind (Quiet.log _ holds) fun _ => .pure _

theorem quiet_activate (ring : Ring) (id : KeyId) : Quiet (ring.activate id) := by
  intro holds
  refine .bind (.orFault _) fun view => ?_
  exact .bind (Quiet.log _ holds) fun _ => .pure _

theorem quiet_add (ring : Ring) (key : Bytes) : Quiet (ring.add key) := by
  intro holds
  unfold add
  exact Keeps.guard fun _ => Keeps.guard fun _ => .bind (Quiet.log _ holds) fun _ => .pure _

end Ring

end Reading

section Drawing

theorem Sealing.silent_sealFresh (key plain aad : Bytes) : Silent (sealFresh key plain aad) := by
  intro holds
  unfold sealFresh
  exact Keeps.guard fun _ => .bind (Silent.draw .nonce nonceLength holds) fun _ => .ofExcept _

theorem Ring.silent_randomKey {ε : Type} (length : Nat) : Silent (randomKey length : Action ε Bytes) := by
  intro holds
  unfold randomKey
  exact Keeps.guard fun _ => Silent.draw .storedKey length holds

theorem Ring.silent_encode (ring : Ring) : Silent ring.encode := by
  intro holds
  refine .bind ?_ fun sealedBundle => .orFault _
  exact .bind (.orFault _) fun plain => .mapCause (Sealing.silent_sealFresh _ plain [] holds)

theorem Sealing.spends_sealFresh (key plain aad : Bytes) : Spends nonceLength (sealFresh key plain aad) := by
  unfold sealFresh
  exact Spends.guard fun _ => .bind (.draw .nonce nonceLength) fun _ => Quiet.spends fun _ => .ofExcept _

theorem Sealing.spends_newSealedKey (accessKey : Bytes) (length : Nat) :
    Spends (length + nonceLength) (newSealedKey accessKey length) := by
  unfold newSealedKey
  refine Spends.guard fun _ => .bind (.draw .dataKey length) fun key => ?_
  exact .bind (spends_sealFresh accessKey key []) fun _ => Quiet.spends fun _ => .pure _

theorem Ring.spends_new (config : Config) : Spends (dataKeyLength + Sealing.nonceLength) (new config) := by
  have sealing :=
    Spends.mapCause (f := RingError.ofSealing) (Sealing.spends_newSealedKey config.accessKey dataKeyLength)
  have whole : Spends (0 + (dataKeyLength + Sealing.nonceLength + 0)) (new config) := by
    unfold new
    refine .bind (quiet_checkAccessKey config.accessKey).spends fun _ => Spends.guard fun _ => .bind sealing fun _ => ?_
    exact Quiet.spends fun holds => .bind (Quiet.log _ holds) fun _ => .pure _
  exact whole

theorem Ring.spends_rekey (ring : Ring) (accessKey : Bytes) (salt : Option Bytes) :
    Spends Sealing.nonceLength (ring.rekey accessKey salt) := by
  have sealing := Spends.mapCause (f := RingError.ofSealing) (Sealing.spends_sealFresh accessKey ring.dataKey.bytes [])
  have whole : Spends (0 + (Sealing.nonceLength + 0)) (ring.rekey accessKey salt) := by
    refine .bind (quiet_checkAccessKey accessKey).spends fun _ => .bind sealing fun wrappedKey => ?_
    exact Quiet.spends fun holds => .bind (Quiet.log _ holds) fun _ => .pure _
  exact whole

/-- Writing a keyring answers nothing. -/
theorem Ring.silent_write (ring : Ring) (sink : Sink) : Silent (ring.write sink) := by
  intro holds
  refine .bind (silent_encode ring holds) fun data => ?_
  split
  · exact .bind ((Quiet.log _).silent holds) fun _ => .pure _
  · exact .pure _

end Drawing

end Keyring

import Keyring.Proofs.Calls
import Keyring.Proofs.Frame
import Keyring.Proofs.Opening
import Mathlib.Data.List.Forall2

namespace Keyring

/-- A run of bytes that was drawn off the stream. -/
structure Draw where
  purpose : Purpose
  start : Nat
  count : Nat
  deriving DecidableEq

namespace Draw

def order (draw : Draw) : Purpose × Nat :=
  (draw.purpose, draw.count)

def bytes (draw : Draw) (supply : Supply) : Bytes :=
  supply.segment draw.start draw.count

def total : List (Purpose × Nat) → Nat
  | [] => 0
  | (_, count) :: rest => count + total rest

/-- The draws for some orders, each of which begins where the one before it ends. -/
def chain (start : Nat) : List (Purpose × Nat) → List Draw
  | [] => []
  | (purpose, count) :: rest => ⟨purpose, start, count⟩ :: chain (start + count) rest

section Chain

variable {start : Nat} {first second : List (Purpose × Nat)}

theorem total_append (first second : List (Purpose × Nat)) : total (first ++ second) = total first + total second := by
  induction first with
  | nil => exact (Nat.zero_add (total second)).symm
  | cons order rest ih => rw [List.cons_append, total, total, ih, Nat.add_assoc]

theorem chain_append (start : Nat) (first second : List (Purpose × Nat)) :
    chain start (first ++ second) = chain start first ++ chain (start + total first) second := by
  induction first generalizing start with
  | nil => rfl
  | cons order rest ih =>
    obtain ⟨purpose, count⟩ := order
    rw [List.cons_append, chain, ih, chain, List.cons_append, total, Nat.add_assoc]

@[simp]
theorem map_order_chain (start : Nat) (orders : List (Purpose × Nat)) : (chain start orders).map order = orders := by
  induction orders generalizing start with
  | nil => rfl
  | cons order rest ih => rw [chain, List.map_cons, ih]; rfl

theorem start_le_of_mem_chain {draw : Draw} {orders : List (Purpose × Nat)} (drawn : draw ∈ chain start orders) :
    start ≤ draw.start := by
  induction orders generalizing start with
  | nil => cases drawn
  | cons order rest ih =>
    rcases List.mem_cons.mp drawn with rfl | later
    · exact Nat.le_refl start
    · exact Nat.le_of_add_right_le (ih later)

/-- No byte is in two of the draws. -/
theorem pairwise_chain (start : Nat) (orders : List (Purpose × Nat)) :
    (chain start orders).Pairwise fun earlier later => earlier.start + earlier.count ≤ later.start := by
  induction orders generalizing start with
  | nil => exact .nil
  | cons order rest ih => exact .cons (fun _ later => start_le_of_mem_chain later) (ih _)

end Chain

end Draw

def Mark.draw? : Mark → Option Draw
  | drew purpose start count => some ⟨purpose, start, count⟩
  | _ => none

/-- The draws on record, in the order in which they were made. -/
def World.draws (world : World) : List Draw :=
  world.trace.toList.filterMap Mark.draw?

theorem World.draws_push (world : World) (supply : Supply) (mark : Mark) :
    World.draws ⟨supply, world.trace.push mark⟩ = world.draws ++ mark.draw?.toList := by
  cases known : mark.draw? <;> simp [draws, known]

theorem Supply.after_after (supply : Supply) (first second : Nat) :
    (supply.after first).after second = supply.after (first + second) := by
  simp [after, Nat.add_assoc]

namespace Action

open Draw

variable {ε ε' α β : Type} {orders first second : List (Purpose × Nat)}

/-- An action that draws for some orders one after the other. It may fail before it comes to the end of them, and what
it has drawn by then stays drawn. -/
def Draws (orders : List (Purpose × Nat)) (action : Action ε α) : Prop :=
  ∀ before, ∃ filled, filled <+: orders ∧
    (left (action before)).supply = before.supply.after (total filled) ∧
    (left (action before)).draws = before.draws ++ chain before.supply.drawn filled ∧
    ∀ value after, action before = .ok value after → filled = orders

theorem Draws.none {action : Action ε α} (supply : ∀ before, (left (action before)).supply = before.supply)
    (draws : ∀ before, (left (action before)).draws = before.draws) : Draws [] action := by
  intro before
  refine ⟨[], List.prefix_rfl, supply before, ?_, fun _ _ _ => rfl⟩
  rw [draws before, chain, List.append_nil]

theorem Draws.pure (value : α) : Draws [] (Pure.pure value : Action ε α) :=
  .none (fun _ => rfl) fun _ => rfl

theorem Draws.throw (failure : Failure ε) : Draws orders (throw failure : Action ε α) := by
  intro before
  refine ⟨[], List.nil_prefix, rfl, (List.append_nil _).symm, ?_⟩
  intro value after done
  cases done

theorem Draws.ofExcept (outcome : Except ε α) : Draws [] (ofExcept outcome : Action ε α) := by
  cases outcome with
  | ok value => exact .pure value
  | error cause => exact .throw (.error cause)

theorem Draws.orFault (outcome : Except Fault α) : Draws [] (orFault outcome : Action ε α) := by
  cases outcome with
  | ok value => exact .pure value
  | error fault => exact .throw (.fault fault)

theorem Draws.log (event : Event) : Draws [] (log event : Action ε Unit) := by
  refine .none (fun _ => rfl) fun before => ?_
  exact (World.draws_push before before.supply (.event event)).trans (List.append_nil _)

theorem Draws.draw (purpose : Purpose) (count : Nat) :
    Draws [(purpose, count)] (draw purpose count : Action ε Bytes) := by
  intro before
  cases taken : before.supply.take count with
  | error fault =>
    rw [draw_of_refused taken]
    refine ⟨[], List.nil_prefix, rfl, (List.append_nil _).symm, ?_⟩
    intro value after done
    cases done
  | ok drawn =>
    rw [draw_of_has (Supply.take_eq_ok_iff.mp taken).1]
    exact ⟨_, List.prefix_rfl, rfl, World.draws_push before _ _, fun _ _ _ => rfl⟩

theorem Draws.bind {action : Action ε α} {next : α → Action ε β} (begins : Draws first action)
    (ends : ∀ value, Draws second (next value)) : Draws (first ++ second) (action >>= next) := by
  intro before
  obtain ⟨filled, part, supply, draws, whole⟩ := begins before
  cases ran : action before with
  | error failure between =>
    rw [ran] at supply draws
    rw [bind_of_error ran]
    refine ⟨filled, part.trans (List.prefix_append first second), supply, draws, ?_⟩
    intro value after done
    cases done
  | ok value between =>
    obtain ⟨more, morePart, moreSupply, moreDraws, moreWhole⟩ := ends value between
    obtain rfl := whole value between ran
    rw [ran] at supply draws
    change between.supply = _ at supply
    change between.draws = _ at draws
    rw [bind_of_ok ran]
    refine ⟨filled ++ more, (List.prefix_append_right_inj filled).mpr morePart, ?_, ?_, ?_⟩
    · rw [moreSupply, supply, Supply.after_after, total_append]
    · rw [moreDraws, draws, supply, chain_append, List.append_assoc]
      rfl
    · intro result after done
      rw [moreWhole result after done]

theorem Draws.ite {p : Prop} [Decidable p] {yes no : Action ε α} (taken : Draws orders yes)
    (passed : Draws orders no) : Draws orders (if p then yes else no) := by
  by_cases holds : p
  · rwa [if_pos holds]
  · rwa [if_neg holds]

theorem Draws.guard {p : Prop} [Decidable p] {failure : Failure ε} {rest : PUnit → Action ε α}
    (passed : Draws orders (rest ())) :
    Draws orders (if p then MonadExcept.throw failure >>= rest else rest ()) :=
  .ite (.throw failure) passed

theorem Draws.mapCause {f : ε → ε'} {action : Action ε α} (draws : Draws orders action) :
    Draws orders (mapCause f action) := by
  intro before
  obtain ⟨filled, part, supply, drawn, whole⟩ := draws before
  have same : left (Action.mapCause f action before) = left (action before) := by
    unfold Action.mapCause
    cases action before with
    | ok value after => rfl
    | error failure after => cases failure <;> rfl
  refine ⟨filled, part, by rw [same, supply], by rw [same, drawn], ?_⟩
  intro value after done
  exact whole value after (mapCause_eq_ok.mp done)

end Action

/-- A key that is put among others is found under its id, whatever is there. -/
theorem Snapshot.get_insert (view : Snapshot) (entry : Entry) : (view.insert entry).get entry.id = .ok entry.key := by
  have keys : (view.insert entry).keys = view.keys.insert entry := by
    unfold insert
    split <;> rfl
  have below : (view.keys.entries.takeWhile (·.id < entry.id)).find? (·.id == entry.id) = none := by
    refine List.find?_eq_none.mpr fun other smaller => ?_
    have less : other.id < entry.id := by simpa using List.mem_takeWhile_imp smaller
    simpa using UInt32.ne_of_lt less
  rw [get, keys, KeySet.insert, List.find?_append, below]
  simp

namespace Drawing

open Keyring.Action

section Orders

theorem draws_sealFresh (key plain aad : Bytes) :
    Draws [(.nonce, Sealing.nonceLength)] (Sealing.sealFresh key plain aad) := by
  unfold Sealing.sealFresh
  exact .guard (.bind (.draw .nonce Sealing.nonceLength) fun _ => .ofExcept _)

theorem draws_newSealedKey (accessKey : Bytes) (length : Nat) :
    Draws [(.dataKey, length), (.nonce, Sealing.nonceLength)] (Sealing.newSealedKey accessKey length) := by
  unfold Sealing.newSealedKey
  refine .guard (.bind (.draw .dataKey length) fun key => ?_)
  exact .bind (draws_sealFresh accessKey key []) fun _ => .pure _

theorem draws_checkAccessKey (key : Bytes) : Draws [] (Ring.checkAccessKey key) :=
  .ite (.pure ()) (.throw _)

theorem draws_new (config : Config) :
    Draws [(.dataKey, Ring.dataKeyLength), (.nonce, Sealing.nonceLength)] (Ring.new config) := by
  unfold Ring.new
  refine .bind (draws_checkAccessKey config.accessKey) fun _ => .guard ?_
  refine .bind (.mapCause (draws_newSealedKey config.accessKey Ring.dataKeyLength)) fun _ => ?_
  exact .bind (.log _) fun _ => .pure _

theorem draws_rekey (ring : Ring) (accessKey : Bytes) (salt : Option Bytes) :
    Draws [(.nonce, Sealing.nonceLength)] (ring.rekey accessKey salt) := by
  unfold Ring.rekey
  refine .bind (draws_checkAccessKey accessKey) fun _ => ?_
  refine .bind (.mapCause (draws_sealFresh accessKey ring.dataKey.bytes [])) fun _ => ?_
  exact .bind (.log _) fun _ => .pure _

theorem draws_write (ring : Ring) (sink : Sink) : Draws [(.nonce, Sealing.nonceLength)] (ring.write sink) := by
  have encoding : Draws ([] ++ [(.nonce, Sealing.nonceLength)] ++ []) ring.encode :=
    .bind (.bind (.orFault _) fun plain => .mapCause (draws_sealFresh ring.dataKey.bytes plain [])) fun _ => .orFault _
  refine .bind encoding fun data => ?_
  split
  · exact .bind (.log _) fun _ => .pure _
  · exact .pure _

theorem draws_add (ring : Ring) (key : Bytes) : Draws [] (ring.add key) := by
  unfold Ring.add
  exact .guard (.guard (.bind (.log _) fun _ => .pure _))

theorem draws_addRandom (ring : Ring) (length : Nat) : Draws [(.storedKey, length)] (ring.addRandom length) := by
  have key : Draws [(.storedKey, length)] (Ring.randomKey length : RingAction Bytes) := by
    unfold Ring.randomKey
    exact .guard (.draw .storedKey length)
  exact .bind key fun key => draws_add ring key

end Orders

/-- A call that may draw random bytes. Its ring can be any, and so any that an earlier call has left. -/
inductive Call where
  | new (config : Config)
  | rekey (ring : Ring) (accessKey : Bytes) (salt : Option Bytes)
  | write (ring : Ring) (sink : Sink)
  | addRandom (ring : Ring) (length : Nat)
  | newAccessKey (passphrase : Bytes)
  | stretchedKey (passphrase : Bytes) (length : Nat) (salt : Option Bytes)
  | sealFresh (key plain aad : Bytes)
  | newSealedKey (accessKey : Bytes) (length : Nat)

/-- What a call has made with bytes that it drew. -/
inductive Product where
  /-- A data key or a salt. -/
  | secret (bytes : Bytes)
  /-- A key that a ring holds under an id. -/
  | stored (ring : Ring) (id : KeyId)
  | sealed (message : Bytes)
  /-- A ring whose bundle was sealed on its way to a sink. -/
  | sent (ring : Ring) (sink : Sink) (received : Bytes)

/-- A key or a salt is the bytes that were drawn for it, and a sealed message has in front the bytes that were drawn for
its nonce, and so has the bundle of a ring that went to a sink. -/
def Product.From (supply : Supply) : Product → Draw → Prop
  | secret bytes, draw => (draw.purpose = .dataKey ∨ draw.purpose = .salt) ∧ bytes = draw.bytes supply
  | stored ring id, draw => draw.purpose = .storedKey ∧ ring.view.get id = .ok (draw.bytes supply)
  | sealed message, draw => draw.purpose = .nonce ∧ message.take 24 = draw.bytes supply
  | sent ring sink received, draw => draw.purpose = .nonce ∧ ∃ sealedBundle : Bytes,
      sealedBundle.take 24 = draw.bytes supply ∧ received = (sink.take (ring.container sealedBundle).bytes).1

namespace Call

/-- Performs a call and tells what it has made. -/
def perform : Call → RingAction (List Product)
  | new config => do
    let ring ← Ring.new config
    return [.secret ring.dataKey.bytes, .sealed ring.wrappedKey]
  | rekey ring accessKey salt => do
    let next ← ring.rekey accessKey salt
    return [.sealed next.wrappedKey]
  | write ring sink => do
    let delivery ← ring.write sink
    return [.sent ring sink delivery.received]
  | addRandom ring length => do
    let (id, next) ← ring.addRandom length
    return [.stored next id]
  | newAccessKey passphrase => do
    let (_, salt) ← Derivation.newAccessKey passphrase
    return [.secret salt]
  | stretchedKey passphrase length salt => do
    let (_, used) ← Derivation.stretchedKey passphrase length salt
    return if salt.isSome then [] else [.secret used]
  | sealFresh key plain aad => do
    let message ← Action.mapCause .sealing (Sealing.sealFresh key plain aad)
    return [.sealed message]
  | newSealedKey accessKey length => do
    let (key, wrapped) ← Action.mapCause .sealing (Sealing.newSealedKey accessKey length)
    return [.secret key, .sealed wrapped]

/-- What a call draws if nothing stops it. -/
def orders : Call → List (Purpose × Nat)
  | new _ => [(.dataKey, 32), (.nonce, 24)]
  | rekey _ _ _ | write _ _ | sealFresh _ _ _ => [(.nonce, 24)]
  | addRandom _ length => [(.storedKey, length)]
  | newAccessKey _ | stretchedKey _ _ none => [(.salt, 32)]
  | stretchedKey _ _ (some _) => []
  | newSealedKey _ length => [(.dataKey, length), (.nonce, 24)]

/-- How a call fails for what it is given. -/
def refusal? : Call → Option (Failure RingError)
  | new config =>
    if config.accessKey.length ≠ 32 then some (.error (.accessKeyLength config.accessKey.length))
    else if config.initialKey = [] then some (.error .initialKeyEmpty)
    else none
  | rekey _ accessKey _ =>
    if accessKey.length ≠ 32 then some (.error (.accessKeyLength accessKey.length)) else none
  | addRandom _ length => if length = 0 then some (.fault .randomKeyEmpty) else none
  | sealFresh key _ _ | newSealedKey key _ =>
    if key.length ≠ 32 then some (.error (.sealing (.keyLength key.length))) else none
  | write _ _ | newAccessKey _ | stretchedKey _ _ _ => none

theorem perform_draws (call : Call) : Draws call.orders call.perform := by
  cases call with
  | new config => exact .bind (draws_new config) fun _ => .pure _
  | rekey ring accessKey salt => exact .bind (draws_rekey ring accessKey salt) fun _ => .pure _
  | write ring sink => exact .bind (draws_write ring sink) fun _ => .pure _
  | addRandom ring length => exact .bind (draws_addRandom ring length) fun _ => .pure _
  | newAccessKey passphrase => exact .bind (.bind (.draw .salt 32) fun _ => .pure _) fun _ => .pure _
  | stretchedKey passphrase length salt =>
    cases salt with
    | some salt => exact .bind (.bind (.pure salt) fun _ => .bind (.orFault _) fun _ => .pure _) fun _ => .pure _
    | none => exact .bind (.bind (.draw .salt 32) fun _ => .bind (.orFault _) fun _ => .pure _) fun _ => .pure _
  | sealFresh key plain aad => exact .bind (.mapCause (draws_sealFresh key plain aad)) fun _ => .pure _
  | newSealedKey accessKey length => exact .bind (.mapCause (draws_newSealedKey accessKey length)) fun _ => .pure _

/-- What a call that went through has made is made with its draws, one after the other. -/
theorem perform_from {call : Call} {before after : World} {products : List Product}
    (done : call.perform before = .ok products after) :
    List.Forall₂ (Product.From before.supply) products (Draw.chain before.supply.drawn call.orders) := by
  cases call with
  | new config =>
    obtain ⟨ring, made, rfl⟩ := returns_eq_ok.mp done
    obtain ⟨-, -, -, wrappedKey, wrapped, rfl⟩ := (Ring.new_eq_ok_iff before).mp ⟨after, made⟩
    exact .cons ⟨.inl rfl, rfl⟩ (.cons ⟨rfl, Sealing.take_of_sealWith (Supply.length_segment _ _ _) wrapped⟩ .nil)
  | rekey ring accessKey salt =>
    obtain ⟨next, made, rfl⟩ := returns_eq_ok.mp done
    obtain ⟨-, wrappedKey, wrapped, rfl⟩ := (Ring.rekey_eq_ok_iff before).mp ⟨after, made⟩
    exact .cons ⟨rfl, Sealing.take_of_sealWith (Supply.length_segment _ _ _) wrapped⟩ .nil
  | write ring sink =>
    obtain ⟨delivery, made, rfl⟩ := returns_eq_ok.mp done
    obtain ⟨data, encoded, rfl⟩ := (Ring.write_eq_ok_iff before).mp ⟨after, made⟩
    obtain ⟨-, -, sealedBundle, packed, -, rfl⟩ := (Ring.encode_eq_ok_iff before).mp encoded
    exact .cons ⟨rfl, sealedBundle, Sealing.take_of_sealWith (Supply.length_segment _ _ _) packed, rfl⟩ .nil
  | addRandom ring length =>
    obtain ⟨⟨id, next⟩, made, rfl⟩ := returns_eq_ok.mp done
    obtain ⟨-, added⟩ := (Ring.addRandom_eq_ok_iff before).mp ⟨after, made⟩
    obtain ⟨-, -, rfl, rfl⟩ := (Ring.add_eq_ok_iff before).mp added
    exact .cons ⟨rfl, Snapshot.get_insert _ _⟩ .nil
  | newAccessKey passphrase =>
    obtain ⟨⟨accessKey, salt⟩, made, rfl⟩ := returns_eq_ok.mp done
    obtain ⟨drawn, taken, same⟩ := returns_eq_ok.mp made
    cases same
    exact .cons ⟨.inr rfl, (draw_eq_ok.mp taken).2.1⟩ .nil
  | stretchedKey passphrase length salt =>
    obtain ⟨⟨key, used⟩, made, rfl⟩ := returns_eq_ok.mp done
    cases salt with
    | some salt => exact .nil
    | none =>
      obtain ⟨drawn, later, taken, rest⟩ := bind_eq_ok.mp made
      obtain ⟨stretched, -, same⟩ := returns_eq_ok.mp rest
      cases same
      exact .cons ⟨.inr rfl, (draw_eq_ok.mp taken).2.1⟩ .nil
  | sealFresh key plain aad =>
    obtain ⟨message, made, rfl⟩ := returns_eq_ok.mp done
    obtain ⟨-, packed⟩ := (Sealing.sealFresh_eq_ok_iff before).mp ⟨after, mapCause_eq_ok.mp made⟩
    exact .cons ⟨rfl, Sealing.take_of_sealWith (Supply.length_segment _ _ _) packed⟩ .nil
  | newSealedKey accessKey length =>
    obtain ⟨⟨key, wrapped⟩, made, rfl⟩ := returns_eq_ok.mp done
    obtain ⟨-, -, rfl, packed⟩ := (Sealing.newSealedKey_eq_ok_iff before).mp ⟨after, mapCause_eq_ok.mp made⟩
    exact .cons ⟨.inl rfl, rfl⟩ (.cons ⟨rfl, Sealing.take_of_sealWith (Supply.length_segment _ _ _) packed⟩ .nil)

/-- What is refused for what it is given leaves the world as it was. -/
theorem perform_of_refusal {call : Call} {failure : Failure RingError} (refused : call.refusal? = some failure)
    (world : World) : call.perform world = .error failure world := by
  have unfit : ∀ {key : Bytes}, key.length ≠ 32 →
      Ring.checkAccessKey key world = .error (.error (.accessKeyLength key.length)) world := by
    intro key length
    rw [Ring.checkAccessKey, if_neg (show ¬ key.length = Credential.keyLength from length)]
    rfl
  cases call with
  | new config =>
    rw [refusal?] at refused
    split at refused
    next length =>
      cases refused
      rw [perform, Ring.new]
      exact bind_of_error (bind_of_error (unfit length) _) _
    next fits =>
      split at refused
      next empty =>
        cases refused
        have checked : Ring.checkAccessKey config.accessKey world = .ok () world :=
          Ring.checkAccessKey_eq_ok.mpr ⟨Decidable.not_not.mp fits, rfl⟩
        rw [perform, Ring.new, empty]
        exact bind_of_error (bind_of_ok checked _) _
      next => cases refused
  | rekey ring accessKey salt =>
    rw [refusal?] at refused
    split at refused
    next length =>
      cases refused
      exact bind_of_error (bind_of_error (unfit length) _) _
    next => cases refused
  | addRandom ring length =>
    rw [refusal?] at refused
    split at refused
    next none =>
      cases refused
      rw [none]
      rfl
    next => cases refused
  | sealFresh key plain aad =>
    rw [refusal?] at refused
    split at refused
    next length =>
      cases refused
      rw [perform, Sealing.sealFresh, if_pos (show key.length ≠ Sealing.keyLength from length)]
      rfl
    next => cases refused
  | newSealedKey accessKey length =>
    rw [refusal?] at refused
    split at refused
    next length =>
      cases refused
      rw [perform, Sealing.newSealedKey, if_pos (show accessKey.length ≠ Sealing.keyLength from length)]
      rfl
    next => cases refused
  | write ring sink => cases refused
  | newAccessKey passphrase => cases refused
  | stretchedKey passphrase length salt => cases refused

end Call

/-- A call that was performed, with the draws that it made and what came of it. -/
structure Record where
  call : Call
  draws : List Draw
  outcome : Except (Failure RingError) (List Product)

def Call.record (call : Call) (world : World) : Record where
  call := call
  draws := (left (call.perform world)).draws.drop world.draws.length
  outcome :=
    match call.perform world with
    | .ok products _ => .ok products
    | .error failure _ => .error failure

/-- Performs calls one after the other, whether they go through or fail. -/
def run : List Call → World → List Record × World
  | [], world => ([], world)
  | call :: rest, world =>
    let (records, last) := run rest (left (call.perform world))
    (call.record world :: records, last)

/-- What holds of every call whose bytes come off a stream. -/
structure Record.Sound (record : Record) (supply : Supply) : Prop where
  /-- A call that fails may stop short of its orders, and draws nothing out of turn. -/
  prefix_orders : record.draws.map Draw.order <+: record.call.orders
  /-- A call that goes through draws for all its orders, and makes one product with each draw. -/
  products : ∀ products, record.outcome = .ok products →
    record.draws.map Draw.order = record.call.orders ∧ List.Forall₂ (Product.From supply) products record.draws
  /-- A call that is refused for what it is given draws nothing. -/
  refused : ∀ failure, record.call.refusal? = some failure → record.outcome = .error failure ∧ record.draws = []

/-- A record with its draws made one after the other from where the supply stands, which moves on by all of them. -/
theorem Call.record_draws (call : Call) (world : World) :
    ∃ filled, (call.record world).draws = Draw.chain world.supply.drawn filled ∧
      (left (call.perform world)).supply = world.supply.after (Draw.total filled) ∧
      (left (call.perform world)).draws = world.draws ++ (call.record world).draws ∧
      (call.record world).Sound world.supply := by
  obtain ⟨filled, part, supply, draws, whole⟩ := call.perform_draws world
  have own : (call.record world).draws = Draw.chain world.supply.drawn filled := by
    rw [record, draws, List.drop_left]
  refine ⟨filled, own, supply, by rw [own, draws], ?_, ?_, ?_⟩
  · rw [own, Draw.map_order_chain]
    exact part
  · intro products gone
    cases done : call.perform world with
    | error failure after => simp [record, done] at gone
    | ok made after =>
      obtain rfl : made = products := by simpa [record, done] using gone
      obtain rfl := whole made after done
      rw [own, Draw.map_order_chain]
      exact ⟨rfl, perform_from done⟩
  · intro failure refused
    have stopped : call.perform world = .error failure world := perform_of_refusal refused world
    refine ⟨by rw [record, stopped], ?_⟩
    rw [record, stopped]
    exact List.drop_length

theorem Product.From.of_after {supply : Supply} {count : Nat} {product : Product} {draw : Draw}
    (made : product.From (supply.after count) draw) : product.From supply draw := by
  cases product <;> exact made

theorem Record.Sound.of_after {record : Record} {supply : Supply} {count : Nat}
    (sound : record.Sound (supply.after count)) : record.Sound supply where
  prefix_orders := sound.prefix_orders
  products := by
    intro products gone
    obtain ⟨orders, made⟩ := sound.products products gone
    exact ⟨orders, made.imp fun _ _ => Product.From.of_after⟩
  refused := sound.refused

/-- A run draws one run of bytes after the other, and every call of it is sound. -/
theorem run_draws (calls : List Call) (world : World) :
    ∃ filled, (run calls world).1.flatMap Record.draws = Draw.chain world.supply.drawn filled ∧
      (run calls world).2.supply = world.supply.after (Draw.total filled) ∧
      (run calls world).2.draws = world.draws ++ (run calls world).1.flatMap Record.draws ∧
      ∀ record ∈ (run calls world).1, record.Sound world.supply := by
  induction calls generalizing world with
  | nil => exact ⟨[], rfl, rfl, (List.append_nil _).symm, fun _ none => nomatch none⟩
  | cons call rest ih =>
    obtain ⟨filled, own, supply, draws, sound⟩ := call.record_draws world
    -- The rest begins where the first call has left the supply, whether it went through or failed.
    obtain ⟨more, others, laterSupply, laterDraws, laterSound⟩ := ih (left (call.perform world))
    rw [supply] at others laterSupply laterSound
    refine ⟨filled ++ more, ?_, ?_, ?_, ?_⟩
    · rw [run, List.flatMap_cons, own, others, Draw.chain_append]
      rfl
    · rw [run, laterSupply, Supply.after_after, Draw.total_append]
    · rw [run, laterDraws, draws, List.flatMap_cons, List.append_assoc]
    · intro record among
      rcases List.mem_cons.mp among with rfl | later
      · exact sound
      · exact (laterSound record later).of_after

theorem run_calls (calls : List Call) (world : World) : (run calls world).1.map Record.call = calls := by
  induction calls generalizing world with
  | nil => rfl
  | cons call rest ih => rw [run, List.map_cons, ih]; rfl

/-- However calls that draw random bytes go through or fail, no byte of the stream is drawn twice: the draws stand one
behind the other in the order of the calls, and none is given back. Whatever is made of the bytes is made of a draw of
its own. -/
theorem run_never_repeats (calls : List Call) (world : World) :
    let (records, last) := run calls world
    let draws := records.flatMap Record.draws
    records.map Record.call = calls ∧
      draws = Draw.chain world.supply.drawn (draws.map Draw.order) ∧
      draws.Pairwise (fun earlier later => earlier.start + earlier.count ≤ later.start) ∧
      last.draws = world.draws ++ draws ∧
      last.supply = world.supply.after (Draw.total (draws.map Draw.order)) ∧
      ∀ record ∈ records, record.Sound world.supply := by
  obtain ⟨filled, chained, supply, draws, sound⟩ := run_draws calls world
  refine ⟨run_calls calls world, ?_, ?_, draws, ?_, sound⟩
  · rw [chained, Draw.map_order_chain]
  · rw [chained]
    exact Draw.pairwise_chain _ _
  · rw [supply, chained, Draw.map_order_chain]

end Drawing

end Keyring

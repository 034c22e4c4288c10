import Keyring.Proofs.Opening
import Keyring.Proofs.Rereading

namespace Keyring

open Keyring.Action
open Outcome (Agree)

theorem Outcome.mapError_mapError {ε ε' ε'' α : Type} (f : ε → ε') (g : ε' → ε'') (outcome : Except ε α) :
    (outcome.mapError f).mapError g = outcome.mapError (g ∘ f) := by
  cases outcome <;> rfl

/-- A packet of the container that another one can stand for: of unknown type it is the same. -/
def Packet.Resembles (packet other : Packet) : Prop :=
  packet.Alike other ∧ (packet.type.role = .unknown → packet = other)

/-- A packet of a bundle that another one can stand for: it is the same but for the bytes of a key. -/
inductive Packet.Matches : Packet → Packet → Prop
  | same (packet : Packet) : Matches packet packet
  | entry {entry other : Entry} : entry.outline = other.outline → entry.id ≠ 0 → Matches entry.packet other.packet

/-- Plain texts of bundles that differ in nothing but the bytes of keys. -/
def Bundle.Resembles (plain other : Bytes) : Prop :=
  Agree (List.Forall₂ Packet.Matches) ((Packet.parseAll 0 plain).mapError Incomplete.damage)
    ((Packet.parseAll 0 other).mapError Incomplete.damage)

/-- Containers that differ, under their data keys, in nothing but what is secret or left to chance. -/
structure Container.Resembles (dataKey dataKey' : Bytes) (container other : Container) : Prop where
  header : container.header = other.header
  packets : List.Forall₂ Packet.Resembles container.packets other.packets
  bundles : ∀ sealedBundle sealedBundle', Ring.content? .bundle container.packets = some sealedBundle →
    Ring.content? .bundle other.packets = some sealedBundle' →
    Agree Bundle.Resembles (Sealing.openWith dataKey sealedBundle []) (Sealing.openWith dataKey' sealedBundle' [])

/-- Contents of files that differ, under their data keys, in nothing but what is secret or left to chance. -/
def Resembles (dataKey dataKey' content content' : Bytes) : Prop :=
  Agree (Container.Resembles dataKey dataKey') ((Container.parse content).mapError Incomplete.damage)
    ((Container.parse content').mapError Incomplete.damage)

theorem Resembles.refl (dataKey content : Bytes) : Resembles dataKey dataKey content content := by
  have bundles : ∀ plain, Bundle.Resembles plain plain := fun plain =>
    Agree.refl _ fun packets => List.forall₂_same.mpr fun packet _ => .same packet
  refine Agree.refl _ fun container => ⟨rfl, ?_, ?_⟩
  · exact List.forall₂_same.mpr fun packet _ => ⟨⟨rfl, rfl⟩, fun _ => rfl⟩
  · intro sealedBundle sealedBundle' found foundToo
    cases found.symm.trans foundToo
    exact Agree.refl _ bundles

section Packets

variable {packets others : List Packet}

theorem Bundle.unknownAmong_of_resembles (alike : List.Forall₂ Packet.Resembles packets others) :
    unknownAmong packets = unknownAmong others := by
  induction alike with
  | nil => rfl
  | @cons packet other rest behind here _ ih =>
    obtain ⟨⟨types, -⟩, unknown⟩ := here
    unfold unknownAmong at ih ⊢
    by_cases kind : packet.type.role = .unknown
    · rw [List.filter_cons_of_pos (by simpa using kind), List.filter_cons_of_pos (by simpa [← types] using kind), ih,
        unknown kind]
    · rw [List.filter_cons_of_neg (by simpa using kind), List.filter_cons_of_neg (by simpa [← types] using kind), ih]

theorem Ring.content?_of_resembles (alike : List.Forall₂ Packet.Resembles packets others) (type : PacketType) :
    Option.Rel SameLength (content? type packets) (content? type others) := by
  induction alike with
  | nil => exact .none
  | @cons packet other rest behind here _ ih =>
    obtain ⟨⟨types, lengths⟩, -⟩ := here
    unfold content? at ih ⊢
    by_cases this : packet.type = type
    · rw [List.find?_cons_of_pos (by simpa using this), List.find?_cons_of_pos (by simpa [← types] using this)]
      exact .some lengths
    · rw [List.find?_cons_of_neg (by simpa using this), List.find?_cons_of_neg (by simpa [← types] using this)]
      exact ih

variable (alike : List.Forall₂ Packet.Matches packets others)
include alike

theorem Bundle.unknownAmong_of_matches : unknownAmong packets = unknownAmong others := by
  induction alike with
  | nil => rfl
  | cons here _ ih =>
    unfold unknownAmong at ih ⊢
    cases here with
    | same => rw [List.filter_cons, List.filter_cons, ih]
    | entry => simpa using ih

theorem Bundle.recordedActive_of_matches : recordedActive packets = recordedActive others := by
  induction alike with
  | nil => rfl
  | cons here _ ih =>
    unfold recordedActive at ih ⊢
    cases here with
    | same => rw [List.findSome?_cons, List.findSome?_cons, ih]
    | entry => simpa using ih

theorem Bundle.entries_of_matches : (entries packets).map Entry.outline = (entries others).map Entry.outline := by
  induction alike with
  | nil => rfl
  | @cons packet _ rest behind here _ ih =>
    cases here with
    | same =>
      by_cases kind : packet.type.role = .entry
      · cases parsed : Entry.parse packet.content with
        | ok entry => rw [entries_cons kind parsed, entries_cons kind parsed, List.map_cons, List.map_cons, ih]
        | error cause =>
          have passed : ∀ rest, entries (packet :: rest) = entries rest := by
            intro rest
            rw [entries, List.filterMap_cons, if_pos kind, parsed]
            rfl
          rw [passed, passed, ih]
      · rw [entries_cons_other kind, entries_cons_other kind, ih]
    | @entry entry other same nonzero =>
      have nonzero' : other.id ≠ 0 := fun zero => nonzero ((congrArg Prod.fst same).trans zero)
      rw [entries_cons entry.role_packet (Entry.parse_content nonzero),
        entries_cons other.role_packet (Entry.parse_content nonzero'), List.map_cons, List.map_cons, same, ih]

end Packets

namespace KeySet

variable {entries others : List Entry}

theorem repeated?_of_outline (alike : entries.map Entry.outline = others.map Entry.outline) :
    repeated? entries = repeated? others := by
  induction entries generalizing others with
  | nil => rw [List.map_eq_nil_iff.mp alike.symm]
  | cons first rest ih =>
    obtain ⟨other, behind, rfl, here, there⟩ := List.map_eq_cons_iff.mp alike.symm
    have ids : other.id = first.id := congrArg Prod.fst here
    cases rest with
    | nil =>
      rw [List.map_eq_nil_iff.mp there]
      rfl
    | cons second rest =>
      obtain ⟨next, tail, rfl, hereToo, -⟩ := List.map_eq_cons_iff.mp there
      have nextIds : next.id = second.id := congrArg Prod.fst hereToo
      rw [repeated?, repeated?, ids, nextIds, ih there.symm]

/-- Entries with the same ids and lengths are put in the same order, or share the same id. -/
theorem ofEntries_agree (alike : entries.map Entry.outline = others.map Entry.outline) :
    Agree (fun keys keys' => keys.entries.map Entry.outline = keys'.entries.map Entry.outline) (ofEntries entries)
      (ofEntries others) := by
  have sorted : (entries.mergeSort fun a b => a.id ≤ b.id).map Entry.outline =
      (others.mergeSort fun a b => a.id ≤ b.id).map Entry.outline := by
    have outlined : ∀ list : List Entry, (list.mergeSort fun a b => a.id ≤ b.id).map Entry.outline =
        (list.map Entry.outline).mergeSort fun a b => a.1 ≤ b.1 :=
      fun list => List.map_mergeSort fun _ _ _ _ => rfl
    rw [outlined, outlined, alike]
  unfold ofEntries
  dsimp only
  rw [repeated?_of_outline sorted]
  split
  · exact .error _
  · exact .ok sorted

theorem maxId_of_outline {keys other : KeySet} (alike : keys.entries.map Entry.outline = other.entries.map Entry.outline) :
    keys.maxId = other.maxId := by
  have last : ∀ keys : KeySet, keys.maxId = (((keys.entries.map Entry.outline).getLast?).map Prod.fst).getD 0 := by
    intro keys
    rw [maxId, List.getLast?_map]
    cases keys.entries.getLast? <;> rfl
  rw [last, last, alike]

end KeySet

section Reading

variable {coupled : World → World → Prop} (coupling : World.Coupling coupled)
include coupling

namespace Bundle

theorem meets_inspect {packets others : List Packet} (alike : List.Forall₂ Packet.Matches packets others)
    (activeSeen : Bool) : Meets coupled (fun _ _ => True) (inspect activeSeen packets) (inspect activeSeen others) := by
  induction alike generalizing activeSeen with
  | nil => exact .pure trivial
  | @cons packet _ _ _ here _ ih =>
    cases here with
    | same =>
      unfold inspect
      cases packet.type.role with
      | active => exact .guard Iff.rfl rfl fun _ => .bind (.outcome _) fun _ _ _ => ih true
      | entry => exact .bind (.outcome _) fun _ _ _ => ih activeSeen
      | unknown => exact .bind (.log coupling _) fun _ _ _ => ih activeSeen
      | dataKey | salt | bundle => exact .throw _
    | @entry entry other same nonzero =>
      have nonzero' : other.id ≠ 0 := fun zero => nonzero ((congrArg Prod.fst same).trans zero)
      have step : ∀ {entry : Entry} (rest : List Packet), entry.id ≠ 0 →
          inspect activeSeen (entry.packet :: rest) = inspect activeSeen rest := by
        intro entry rest nonzero
        have parsed : Entry.parse entry.packet.content = .ok entry := Entry.parse_content nonzero
        rw [inspect, entry.role_packet]
        dsimp only
        rw [parsed]
        rfl
      rw [step _ nonzero, step _ nonzero']
      exact ih activeSeen

theorem meets_viewOf {keys other : KeySet} (alike : keys.entries.map Entry.outline = other.entries.map Entry.outline)
    (recorded : Option KeyId) :
    Meets coupled (fun view view' => view.outline = view'.outline) (viewOf keys recorded) (viewOf other recorded) := by
  have same := KeySet.find?_of_outline alike
  obtain ⟨entries⟩ := keys
  obtain ⟨others⟩ := other
  cases entries with
  | nil =>
    obtain rfl : others = [] := List.map_eq_nil_iff.mp alike.symm
    exact .throw _
  | cons lowest rest =>
    obtain ⟨lowest', rest', rfl, here, -⟩ := List.map_eq_cons_iff.mp alike.symm
    have ids : lowest'.id = lowest.id := congrArg Prod.fst here
    unfold viewOf
    dsimp only
    cases recorded with
    | none =>
      dsimp only
      rw [ids]
      exact .bind (.log coupling _) fun _ _ _ => .pure (congrArg (·, 0) alike)
    | some id =>
      dsimp only
      split
      next position found =>
        split
        next position' found' =>
          have positions : position = position' := Option.some.inj (found.symm.trans ((same id).trans found'))
          exact .pure (Prod.ext alike positions)
        next absent => cases found.symm.trans ((same id).trans absent)
      next absent =>
        split
        next position found => cases absent.symm.trans ((same id).trans found)
        next => exact .throw _

theorem meets_decode {plain other : Bytes} (alike : Resembles plain other) :
    Meets coupled (fun bundle bundle' => bundle.view.outline = bundle'.view.outline ∧ bundle.extras = bundle'.extras)
      (decode plain) (decode other) := by
  have parses := alike.mapError RingError.malformed
  rw [Outcome.mapError_mapError, Outcome.mapError_mapError] at parses
  unfold decode
  refine .bind (.ofExcept parses) fun packets packets' same => ?_
  refine .bind (meets_inspect coupling same false) fun _ _ _ => ?_
  refine .bind (.ofExcept ((KeySet.ofEntries_agree (entries_of_matches same)).mapError _)) fun keys keys' outlined => ?_
  rw [recordedActive_of_matches same]
  refine .bind (meets_viewOf coupling outlined _) fun view view' views => .pure ⟨views, ?_⟩
  exact unknownAmong_of_matches same

end Bundle

end Reading

/-- Whether a mark is of what someone can see from outside. -/
def Mark.isShown : Mark → Bool
  | event _ | printed _ | noted _ | prompted _ => true
  | drew _ _ _ | asked _ => false

/-- What can be seen from outside of what was done, in order. -/
def World.shown (world : World) : List Mark :=
  world.trace.toList.filter Mark.isShown

/-- Two worlds in which the same can be seen and as many random bytes are drawn. -/
structure World.Alongside (world twin : World) : Prop where
  drawn : world.supply.drawn = twin.supply.drawn
  limit : world.supply.limit = twin.supply.limit
  shown : world.shown = twin.shown

theorem World.shown_push (supply : Supply) (world : World) (mark : Mark) :
    shown ⟨supply, world.trace.push mark⟩ = world.shown ++ [mark].filter Mark.isShown := by
  rw [shown, shown, Array.toList_push, List.filter_append]

theorem World.Alongside.coupling : World.Coupling World.Alongside where
  drawn := drawn
  limit := limit
  advance := fun count mark worlds =>
    ⟨congrArg (· + count) worlds.drawn, worlds.limit, by rw [shown_push, shown_push, worlds.shown]⟩

/-- With which salt a credential is asked cannot be seen. -/
theorem World.Alongside.asked {world twin : World} (worlds : world.Alongside twin) (salt salt' : Bytes) :
    World.Alongside { world with trace := world.trace.push (.asked salt) }
      { twin with trace := twin.trace.push (.asked salt') } :=
  { worlds with shown := by rw [shown_push, shown_push, worlds.shown]; rfl }

theorem Outcome.toOption_eq_some {ε α : Type} {outcome : Except ε α} {value : α} :
    outcome.toOption = some value ↔ outcome = .ok value := by
  cases outcome <;> simp [Except.toOption]

theorem Sealing.sameLength_iff {key key' message message' aad aad' plain plain' : Bytes}
    (opened : openWith key message aad = .ok plain) (openedToo : openWith key' message' aad' = .ok plain') :
    SameLength message message' ↔ SameLength plain plain' := by
  rw [SameLength, SameLength, length_of_openWith opened, length_of_openWith openedToo, sealedLength, sealedLength]
  omega

/-- Messages of one length that two access keys do not open are refused for the same cause. -/
theorem Sealing.openWith_agree_of_closed {rel : Bytes → Bytes → Prop} {key key' message message' aad : Bytes}
    (fits : key.length = keyLength) (fitsToo : key'.length = keyLength) (lengths : SameLength message message')
    (closed : (openWith key message aad).toOption = none) (closedToo : (openWith key' message' aad).toOption = none) :
    Agree rel (openWith key message aad) (openWith key' message' aad) := by
  cases first : openWith key message aad with
  | ok plain =>
    rw [first] at closed
    cases closed
  | error cause =>
    cases second : openWith key' message' aad with
    | ok plain =>
      rw [second] at closedToo
      cases closedToo
    | error cause' =>
      have same : cause = cause' := by
        rcases openWith_eq_error_iff.mp first with ⟨unfit, -⟩ | ⟨-, short, rfl⟩ | ⟨-, long, -, rfl⟩
        · exact absurd fits unfit
        · rw [openWith_truncated fitsToo (lengths ▸ short)] at second
          rw [lengths]
          exact Except.error.inj second
        · rcases openWith_eq_error_iff.mp second with ⟨unfit, -⟩ | ⟨-, short, -⟩ | ⟨-, -, -, rfl⟩
          · exact absurd fitsToo unfit
          · exact absurd (lengths ▸ short) (Nat.not_lt.mpr long)
          · rfl
      exact same ▸ .error cause

namespace Ring

/-- The data key in a file, if the passphrase opens it. -/
def dataKey? (content : Bytes) (passphrase : String) : Option Bytes := do
  let container ← (Container.parse content).toOption
  let wrappedKey ← content? .dataKey container.packets
  let salt := (content? .salt container.packets).getD []
  (Sealing.openWith (Credential.key (.passphrase passphrase) salt) wrappedKey []).toOption

/-- Two passphrases that both open the data keys of their files, or that both open nothing. -/
def Evenly (dataKey dataKey' content content' : Bytes) (passphrase passphrase' : String) : Prop :=
  dataKey? content passphrase = some dataKey ∧ dataKey? content' passphrase' = some dataKey' ∨
    dataKey? content passphrase = none ∧ dataKey? content' passphrase' = none

theorem dataKey?_eq {content wrappedKey : Bytes} {container : Container} (parsed : Container.parse content = .ok container)
    (found : content? .dataKey container.packets = some wrappedKey) (passphrase : String) :
    dataKey? content passphrase = (Sealing.openWith
      (Credential.key (.passphrase passphrase) ((content? .salt container.packets).getD [])) wrappedKey []).toOption := by
  rw [dataKey?, parsed]
  show (content? .dataKey container.packets).bind _ = _
  rw [found]
  rfl

theorem dataKey?_of_read {content : Bytes} {passphrase : String} {ring : Ring} {world later : World}
    (accepted : read (.ofBytes content) (.passphrase passphrase) world = .ok ring later) :
    dataKey? content passphrase = some ring.dataKey.bytes := by
  obtain ⟨data, layers, contents, opened, rfl⟩ := (read_eq_ok_iff world).mp ⟨later, accepted⟩
  cases (Source.contents_ofBytes content).symm.trans contents
  obtain ⟨-, -, found, -, salt⟩ := holds_iff.mp opened.holds
  rw [dataKey?_eq opened.parsed found, salt, opened.dataKeyOpens]
  rfl

section Reading

variable {coupled : World → World → Prop} (coupling : World.Coupling coupled) {dataKey dataKey' content content' : Bytes}

theorem meets_parseSupported (alike : Resembles dataKey dataKey' content content') :
    Meets coupled (fun container container' => Container.Resembles dataKey dataKey' container container' ∧
        Container.parse content = .ok container ∧ Container.parse content' = .ok container')
      (parseSupported content) (parseSupported content') := by
  have parses := alike.mapError RingError.malformed
  rw [Outcome.mapError_mapError, Outcome.mapError_mapError] at parses
  have meets : Meets coupled (Container.Resembles dataKey dataKey') (parseSupported content)
      (parseSupported content') := by
    unfold parseSupported
    refine .bind (.ofExcept parses) fun container container' same => ?_
    refine .guard (by rw [same.header]) (by rw [same.header]) fun _ => ?_
    exact .guard (by rw [same.header]) (by rw [same.header]) fun _ => .pure same
  exact meets.imp fun parsed parsedToo same =>
    ⟨same, (parseSupported_eq_ok.mp parsed).1, (parseSupported_eq_ok.mp parsedToo).1⟩

theorem meets_required {packets others : List Packet} (alike : List.Forall₂ Packet.Resembles packets others)
    (type : PacketType) :
    Meets coupled (fun found found' => content? type packets = some found ∧ content? type others = some found')
      (required type packets) (required type others) := by
  have contents := content?_of_resembles alike type
  unfold required
  generalize content? type packets = mine at contents ⊢
  generalize content? type others = yours at contents ⊢
  cases contents with
  | none => exact .throw _
  | some => exact .pure ⟨rfl, rfl⟩

include coupling in
theorem meets_inspect {packets others : List Packet} (alike : List.Forall₂ Packet.Resembles packets others)
    (seen : List Role) : Meets coupled (fun _ _ => True) (inspect seen packets) (inspect seen others) := by
  induction alike generalizing seen with
  | nil => exact .pure trivial
  | @cons packet other rest behind here _ ih =>
    obtain ⟨⟨types, -⟩, -⟩ := here
    unfold inspect
    rw [types]
    cases other.type.role with
    | unknown => exact .bind (.log coupling _) fun _ _ _ => ih seen
    | entry | active => exact .throw _
    | dataKey | salt | bundle => exact .ite Iff.rfl (fun _ => .throw _) fun _ => ih _

theorem meets_openLayers {container container' : Container} {credential credential' : Credential}
    {salt salt' wrappedKey wrappedKey' sealedBundle sealedBundle' : Bytes} (header : container.header = container'.header)
    (extras : Bundle.unknownAmong container.packets = Bundle.unknownAmong container'.packets)
    (salts : SameLength salt salt') (wrappedKeys : SameLength wrappedKey wrappedKey')
    (accessKeys : SameLength (credential.key salt) (credential'.key salt'))
    (opens : Outcome.Agree (fun dataKey dataKey' => SameLength dataKey dataKey' ∧ Outcome.Agree Bundle.Resembles
        (Sealing.openWith dataKey sealedBundle []) (Sealing.openWith dataKey' sealedBundle' []))
      (Sealing.openWith (credential.key salt) wrappedKey []) (Sealing.openWith (credential'.key salt') wrappedKey' [])) :
    Meets World.Alongside (fun ring twin => ring.contour = twin.contour)
      (openLayers container credential salt wrappedKey sealedBundle)
      (openLayers container' credential' salt' wrappedKey' sealedBundle') := by
  have coupling := World.Alongside.coupling
  have asked : Meets World.Alongside (fun _ _ => True) (record (.asked salt) : RingAction Unit) (record (.asked salt')) :=
    fun _ _ worlds => .done trivial (worlds.asked salt salt')
  have asks : Meets World.Alongside (fun key key' => key = credential.key salt ∧ key' = credential'.key salt')
      (ask credential salt) (ask credential' salt') :=
    .bind asked fun _ _ _ => .bind (meets_checkAccessKey accessKeys) fun _ _ _ => .pure ⟨rfl, rfl⟩
  unfold openLayers
  refine .bind asks fun accessKey accessKey' keys => ?_
  obtain ⟨rfl, rfl⟩ := keys
  refine .bind (.ofExcept (opens.mapError _)) fun dataKey dataKey' both => ?_
  obtain ⟨dataKeys, bundles⟩ := both
  refine .guard (by rw [dataKeys]) (by rw [dataKeys]) fun _ => ?_
  refine .bind (.ofExcept (bundles.mapError _)) fun plain plain' plains => ?_
  refine .bind (Bundle.meets_decode coupling plains) fun bundle bundle' same => ?_
  obtain ⟨views, bundleExtras⟩ := same
  have maxIds := KeySet.maxId_of_outline (Snapshot.entries_of_outline views)
  rw [extras, bundleExtras, Snapshot.length_of_outline views, Snapshot.activeId_of_outline views]
  refine .bind (.log coupling _) fun _ _ _ => .pure ?_
  simp only [contour, outline, Outline.unsalted, Secret.length, header, views, maxIds]
  rw [salts, wrappedKeys, dataKeys]

/-- Files that resemble each other are read alike, with passphrases that both open them or both do not. -/
theorem meets_read (alike : Resembles dataKey dataKey' content content') {passphrase passphrase' : String}
    (evenly : Evenly dataKey dataKey' content content' passphrase passphrase') :
    Meets World.Alongside (fun ring twin => ring.contour = twin.contour)
      (read (.ofBytes content) (.passphrase passphrase)) (read (.ofBytes content') (.passphrase passphrase')) := by
  have coupling := World.Alongside.coupling
  unfold read
  rw [Source.contents_ofBytes, Source.contents_ofBytes]
  have given : Outcome.Agree (fun data data' => data = content ∧ data' = content') (Except.ok content)
      (Except.ok content' : Except IoFailure Bytes) := .ok ⟨rfl, rfl⟩
  refine .bind (.ofExcept (given.mapError _)) fun _ _ contents => ?_
  obtain ⟨rfl, rfl⟩ := contents
  refine .bind (meets_parseSupported alike) fun container container' both => ?_
  obtain ⟨same, parsed, parsedToo⟩ := both
  refine .bind (meets_inspect coupling same.packets []) fun _ _ _ => ?_
  refine .bind (meets_required same.packets .dataKey) fun wrappedKey wrappedKey' wrapped => ?_
  obtain ⟨found, foundToo⟩ := wrapped
  refine .bind (meets_required same.packets .bundle) fun sealedBundle sealedBundle' bundled => ?_
  obtain ⟨bundleFound, bundleFoundToo⟩ := bundled
  have spares : SameLength [] [] := rfl
  have salts := (SameLength.getD (content?_of_resembles same.packets .salt) spares).2
  have wrappedKeys : SameLength wrappedKey wrappedKey' := by
    have contents := content?_of_resembles same.packets .dataKey
    rw [found, foundToo] at contents
    cases contents with
    | some size => exact size
  have fits := Credential.length_passphrase passphrase ((content? .salt container.packets).getD [])
  have fitsToo := Credential.length_passphrase passphrase' ((content? .salt container'.packets).getD [])
  unfold Evenly at evenly
  rw [dataKey?_eq parsed found, dataKey?_eq parsedToo foundToo] at evenly
  refine meets_openLayers same.header (Bundle.unknownAmong_of_resembles same.packets) salts wrappedKeys
    (fits.trans fitsToo.symm) ?_
  rcases evenly with ⟨opens, opensToo⟩ | ⟨closed, closedToo⟩
  · have opened := Outcome.toOption_eq_some.mp opens
    have openedToo := Outcome.toOption_eq_some.mp opensToo
    have dataKeys := (Sealing.sameLength_iff opened openedToo).mp wrappedKeys
    rw [opened, openedToo]
    exact .ok ⟨dataKeys, same.bundles _ _ bundleFound bundleFoundToo⟩
  · exact Sealing.openWith_agree_of_closed fits fitsToo wrappedKeys closed closedToo

end Reading

section Writing

variable {ring twin : Ring} {accessKey accessKey' data data' : Bytes}

theorem matches_bundle (alike : ring.contour = twin.contour) (formed : ring.WellFormed accessKey) :
    List.Forall₂ Packet.Matches ring.bundle.packets twin.bundle.packets := by
  have views := view_of_contour alike
  have same := Entry.forall₂_of_outline (Snapshot.entries_of_outline views)
  have entries : List.Forall₂ Packet.Matches (ring.view.keys.entries.map Entry.packet)
      (twin.view.keys.entries.map Entry.packet) := by
    rw [List.forall₂_map_left_iff, List.forall₂_map_right_iff]
    refine (List.forall₂_and_left _ _).mpr ⟨formed.nonzero, same⟩ |>.imp fun entry other both => ?_
    exact .entry both.2 both.1
  rw [Bundle.packets, Bundle.packets, bundle, bundle, Snapshot.activeId_of_outline views, bundleExtras_of_contour alike]
  refine .cons (.same _) (List.rel_append entries ?_)
  exact List.forall₂_same.mpr fun packet _ => .same packet

/-- The files of two rings of one contour resemble each other. -/
theorem Encoded.resembles (encoded : ring.Encoded data) (encodedToo : twin.Encoded data')
    (alike : ring.contour = twin.contour) (formed : ring.WellFormed accessKey) (twinFormed : twin.WellFormed accessKey') :
    Resembles ring.dataKey.bytes twin.dataKey.bytes data data' := by
  obtain ⟨_, _, encoded⟩ := encoded
  obtain ⟨_, _, encodedToo⟩ := encodedToo
  obtain ⟨sealedBundle, parsed, opens, innerParsed⟩ := opens_of_encode encoded
  obtain ⟨sealedBundle', parsedToo, opensToo, innerParsedToo⟩ := opens_of_encode encodedToo
  have header : ring.header = twin.header := congrArg Outline.header alike
  have plain : ∀ {ring : Ring}, Packet.parseAll 0 (Packet.joined ring.bundle.packets) = .ok ring.bundle.packets →
      Part.encodeAll ring.bundle.parts = .ok (Packet.joined ring.bundle.packets) := by
    intro ring parsed
    rw [Bundle.encodeAll_parts]
    exact Part.encodeAll_packets.mpr ⟨(Packet.parseAll_eq_ok_iff.mp parsed).2, rfl⟩
  have plains : SameLength (Packet.joined ring.bundle.packets) (Packet.joined twin.bundle.packets) := by
    have agree := Part.encodeAll_agree (bundle_parts_agree alike)
    rw [plain innerParsed, plain innerParsedToo] at agree
    cases agree with
    | ok size => exact size
  have bundles := (Sealing.sameLength_iff opens opensToo).mpr plains
  have packets : List.Forall₂ Packet.Resembles (ring.container sealedBundle).packets
      (twin.container sealedBundle').packets := by
    rw [container, container, extras_of_contour alike]
    have known : ∀ {type : PacketType} {content content' : Bytes}, type.role ≠ .unknown → SameLength content content' →
        Packet.Resembles ⟨type, content⟩ ⟨type, content'⟩ :=
      fun defined sizes => ⟨⟨rfl, sizes⟩, fun unknown => absurd unknown defined⟩
    refine .cons (known (by decide) (salt_of_contour alike)) (.cons (known (by decide) (wrappedKey_of_contour alike)) ?_)
    refine .cons (known (by decide) bundles) ?_
    exact List.forall₂_same.mpr fun packet _ => ⟨⟨rfl, rfl⟩, fun _ => rfl⟩
  rw [Resembles, parsed, parsedToo]
  refine .ok ⟨header, packets, fun found found' stored storedToo => ?_⟩
  obtain ⟨-, -, -, bundleFound, -⟩ := holds_iff.mp (container_holds formed sealedBundle)
  obtain ⟨-, -, -, bundleFoundToo, -⟩ := holds_iff.mp (container_holds twinFormed sealedBundle')
  cases bundleFound.symm.trans stored
  cases bundleFoundToo.symm.trans storedToo
  rw [opens, opensToo]
  refine .ok ?_
  rw [Bundle.Resembles, innerParsed, innerParsedToo]
  exact .ok (matches_bundle alike formed)

end Writing

end Ring

end Keyring

import Keyring.Proofs.RoundTrip

namespace Keyring.Ring

/-- What a ring keeps of the one that a course starts from, and what the changes made of the rest. -/
structure Carries (start : Ring) (changes : List Change) (ring : Ring) : Prop where
  dataKey : ring.dataKey = start.dataKey
  extras : ring.extras = start.extras
  bundleExtras : ring.bundleExtras = start.bundleExtras
  salt : ring.salt = changes.foldl Change.salt start.salt
  activeId : ring.activeId = changes.foldl Change.activeId start.activeId
  entries : ring.view.keys.entries = start.view.keys.entries ++ changes.filterMap Change.entry?
  wrappedKey : (∀ change ∈ changes, change.isRekey = false) → ring.wrappedKey = start.wrappedKey

theorem Carries.refl (ring : Ring) : Carries ring [] ring :=
  ⟨rfl, rfl, rfl, rfl, rfl, (List.append_nil _).symm, fun _ => rfl⟩

section Run

variable {start ring next : Ring} {changes made : List Change} {accessKey : Bytes}

theorem Carries.trans (first : Carries start changes ring) (second : Carries ring made next) :
    Carries start (changes ++ made) next := by
  refine ⟨second.dataKey.trans first.dataKey, second.extras.trans first.extras,
    second.bundleExtras.trans first.bundleExtras, ?_, ?_, ?_, ?_⟩
  · rw [List.foldl_append, ← first.salt]
    exact second.salt
  · rw [List.foldl_append, ← first.activeId]
    exact second.activeId
  · rw [List.filterMap_append, ← List.append_assoc, ← first.entries]
    exact second.entries
  · intro unlocked
    rw [second.wrappedKey fun change member => unlocked change (List.mem_append_right changes member)]
    exact first.wrappedKey fun change member => unlocked change (List.mem_append_left made member)

theorem Effect.carries (formed : ring.WellFormed accessKey) (effect : Effect ring made next) :
    Carries ring made next := by
  cases effect with
  | @added key nonempty room =>
    have above : ∀ other ∈ ring.view.keys.entries, other.id < (⟨ring.maxId + 1, key⟩ : Entry).id :=
      formed.lt_next room
    exact ⟨rfl, rfl, rfl, rfl, Snapshot.activeId_insert_above above, Snapshot.entries_insert_above above,
      fun _ => rfl⟩
  | activated found =>
    obtain ⟨_, sameKeys⟩ := Snapshot.activate_eq_ok_iff.mp found
    refine ⟨rfl, rfl, rfl, rfl, Snapshot.activeId_of_activate found, ?_, fun _ => rfl⟩
    rw [sameKeys]
    exact (List.append_nil _).symm
  | rekeyed opens =>
    refine ⟨rfl, rfl, rfl, rfl, rfl, (List.append_nil _).symm, ?_⟩
    intro unlocked
    cases unlocked _ (List.mem_singleton_self _)
  | nothing => exact .refl ring

theorem Course.carries (course : Course start changes ring) (formed : start.WellFormed accessKey) :
    Carries start changes ring := by
  have both := course.preserves
    (fun changes ring => ring.WellFormed (changes.foldl Change.accessKey accessKey) ∧ Carries start changes ring)
    ⟨formed, .refl start⟩ fun before effect => by
      obtain ⟨formed, carries⟩ := before
      rw [List.foldl_append]
      exact ⟨formed.effect effect, carries.trans (effect.carries formed)⟩
  exact both.2

end Run

/-- A keyring that was read and is written again after any calls keeps all that is unknown, on both levels and in
order. The rest stands in front of it: the salt, the wrapped data key and the bundle outside; the active id and the
keys inside. -/
theorem carry_through {source : Source} {credential : Credential} {loaded ring : Ring} {changes : List Change}
    {sink : Sink} {data : Bytes} {count : Nat} {begun ended world later : World}
    (accepted : read source credential begun = .ok loaded ended) (course : Course loaded changes ring)
    (written : ring.write sink world = .ok ⟨data, .ok count⟩ later) :
    ∃ (original : Bytes) (layers : Layers) (wrappedKey sealedBundle plain : Bytes),
      source.contents = .ok original ∧ Layers.Of layers original credential ∧
      Container.parse data = .ok ⟨.current, ⟨.salt, ring.salt⟩ :: ⟨.dataKey, wrappedKey⟩ ::
        ⟨.bundle, sealedBundle⟩ :: Bundle.unknownAmong layers.container.packets⟩ ∧
      ring.salt = changes.foldl Change.salt layers.salt ∧
      ((∀ change ∈ changes, change.isRekey = false) → wrappedKey = layers.wrappedKey) ∧
      Sealing.openWith layers.dataKey sealedBundle [] = .ok plain ∧
      Packet.parseAll 0 plain = .ok (ActiveRecord.packet (some ring.activeId) ::
        (ring.view.keys.entries.map Entry.packet ++ Bundle.unknownAmong layers.inner)) ∧
      ring.activeId = changes.foldl Change.activeId loaded.activeId ∧
      ring.view.ids.Pairwise (· < ·) ∧
      (ring.view.keys.entries.map Entry.packet).Perm
        (layers.inner.filter (·.type = .entry) ++ (changes.filterMap Change.entry?).map Entry.packet) := by
  obtain ⟨original, layers, contents, opened, rfl⟩ := (read_eq_ok_iff begun).mp ⟨ended, accepted⟩
  have formedBefore := Layers.wellFormed opened
  have carries := course.carries formedBefore
  have formed := course.wellFormed formedBefore
  obtain ⟨_, encoded⟩ := encode_of_write written
  obtain ⟨sealedBundle, parsed, bundleOpens, innerParsed⟩ := opens_of_encode encoded
  have extras : ring.extras = Bundle.unknownAmong layers.container.packets := carries.extras
  have bundleExtras : ring.bundleExtras = Bundle.unknownAmong layers.inner :=
    carries.bundleExtras.trans opened.described.extras
  have dataKey : ring.dataKey.bytes = layers.dataKey := congrArg Secret.bytes carries.dataKey
  have perm : (ring.view.keys.entries.map Entry.packet).Perm
      (layers.inner.filter (·.type = .entry) ++ (changes.filterMap Change.entry?).map Entry.packet) := by
    rw [Bundle.filter_entry opened.described.bundled, ← List.map_append, carries.entries]
    exact (opened.described.perm.append_right _).map _
  refine ⟨original, layers, ring.wrappedKey, sealedBundle, _, contents, opened, ?_, carries.salt, carries.wrappedKey,
    ?_, innerParsed.trans ?_, carries.activeId, List.pairwise_map.mpr formed.ascending, perm⟩
  · rw [parsed, container, formed.header, extras]
  · rw [← dataKey]
    exact bundleOpens
  · rw [Bundle.packets, bundle, bundleExtras]
    rfl

section Foreign

/-- Packets of a bundle that another writer made: entries out of order, unknown packets among them, and an active
record that names no key. -/
def foreignInner : List Packet :=
  [Entry.packet ⟨5, [55]⟩, ⟨⟨77⟩, [1, 2]⟩, Entry.packet ⟨2, [22]⟩, ActiveRecord.packet none, ⟨⟨0⟩, []⟩]

/-- A keyring without a salt around that bundle. -/
def foreign : Layers :=
  let dataKey : Bytes := List.replicate 32 3
  let wrappedKey := Sealing.envelope (List.replicate 32 1) (List.replicate 24 0) dataKey []
  let sealedBundle := Sealing.envelope dataKey (List.replicate 24 0) (Packet.joined foreignInner) []
  { container := ⟨.current, [⟨⟨9⟩, [1]⟩, ⟨.bundle, sealedBundle⟩, ⟨⟨200⟩, [2, 3]⟩, ⟨.dataKey, wrappedKey⟩]⟩
    salt := []
    wrappedKey := wrappedKey
    sealedBundle := sealedBundle
    dataKey := dataKey
    plain := Packet.joined foreignInner
    inner := foreignInner
    bundle := ⟨⟨⟨[⟨2, [22]⟩, ⟨5, [55]⟩]⟩, 0, by decide⟩, [⟨⟨77⟩, [1, 2]⟩, ⟨⟨0⟩, []⟩]⟩ }

theorem foreign_opens : Layers.Of foreign foreign.container.bytes (.fixed ⟨List.replicate 32 1⟩) := by
  have wrappedKeySize : foreign.wrappedKey.length ≤ max24 := by
    simp [foreign, Sealing.length_envelope, Sealing.tagLength, max24]
  have bundleSize : foreign.sealedBundle.length ≤ max24 := by
    have plain : (Packet.joined foreignInner).length ≤ 100 := by decide
    simp only [foreign, Sealing.length_envelope, Sealing.tagLength, max24, List.length_replicate]
    omega
  have listed : foreign.container.packets = [⟨⟨9⟩, [1]⟩, ⟨.bundle, foreign.sealedBundle⟩, ⟨⟨200⟩, [2, 3]⟩,
      ⟨.dataKey, foreign.wrappedKey⟩] := rfl
  have containerFits : ∀ packet ∈ foreign.container.packets, packet.Fits := by
    simp only [listed, List.mem_cons, List.not_mem_nil, or_false, forall_eq_or_imp, forall_eq]
    exact ⟨by decide, bundleSize, by decide, wrappedKeySize⟩
  have placed : ∀ packet ∈ foreign.container.packets, packet.type ≠ .entry ∧ packet.type ≠ .active := by
    simp only [listed, List.mem_cons, List.not_mem_nil, or_false, forall_eq_or_imp, forall_eq]
    decide
  have innerFits : ∀ packet ∈ foreign.inner, packet.Fits := by decide
  have bundled : ∀ packet ∈ foreign.inner, packet.IsBundled := by
    have inner : foreign.inner = foreignInner := rfl
    simp only [inner, foreignInner, List.mem_cons, List.not_mem_nil, or_false, forall_eq_or_imp, forall_eq]
    exact ⟨⟨_, rfl⟩, trivial, ⟨_, rfl⟩, ⟨_, rfl⟩, trivial⟩
  have ascending : KeySet.Ascending foreign.bundle.view.keys.entries := by
    simp [KeySet.Ascending, foreign]
  exact ⟨Container.parse_eq_ok_iff.mpr ⟨rfl, containerFits⟩, ⟨rfl, placed, rfl, rfl, Or.inr ⟨rfl, rfl⟩⟩, rfl,
    Sealing.openWith_envelope [] rfl rfl rfl, rfl, Sealing.openWith_envelope [] rfl rfl rfl,
    Packet.parseAll_eq_ok_iff.mpr ⟨rfl, innerFits⟩, bundled, by decide, by decide, ascending, rfl, rfl⟩

/-- The foreign keyring under another access key. -/
def foreignUnder (accessKey : Bytes) : Layers :=
  let wrappedKey := Sealing.envelope accessKey (List.replicate 24 0) foreign.dataKey []
  { foreign with
    container := ⟨.current, [⟨⟨9⟩, [1]⟩, ⟨.bundle, foreign.sealedBundle⟩, ⟨⟨200⟩, [2, 3]⟩, ⟨.dataKey, wrappedKey⟩]⟩
    wrappedKey := wrappedKey }

theorem foreignUnder_opens {credential : Credential} (fits : (credential.key []).length = Credential.keyLength) :
    Layers.Of (foreignUnder (credential.key [])) (foreignUnder (credential.key [])).container.bytes credential := by
  generalize known : credential.key [] = accessKey at fits
  have original := foreign_opens
  have asked : credential.key (foreignUnder accessKey).salt = accessKey := known
  have wrappedKeySize : (foreignUnder accessKey).wrappedKey.length ≤ max24 := by
    simp [foreignUnder, foreign, Sealing.length_envelope, Sealing.tagLength, max24]
  have listed : (foreignUnder accessKey).container.packets =
      [⟨⟨9⟩, [1]⟩, ⟨.bundle, foreign.sealedBundle⟩, ⟨⟨200⟩, [2, 3]⟩,
        ⟨.dataKey, (foreignUnder accessKey).wrappedKey⟩] := rfl
  have bundleFits : Packet.Fits ⟨.bundle, foreign.sealedBundle⟩ :=
    (Container.parse_eq_ok_iff.mp original.parsed).2 _ (by simp [foreign])
  have containerFits : ∀ packet ∈ (foreignUnder accessKey).container.packets, packet.Fits := by
    simp only [listed, List.mem_cons, List.not_mem_nil, or_false, forall_eq_or_imp, forall_eq]
    exact ⟨by decide, bundleFits, by decide, wrappedKeySize⟩
  have placed : ∀ packet ∈ (foreignUnder accessKey).container.packets,
      packet.type ≠ .entry ∧ packet.type ≠ .active := by
    simp only [listed, List.mem_cons, List.not_mem_nil, or_false, forall_eq_or_imp, forall_eq]
    decide
  have accessKeyFits : (credential.key (foreignUnder accessKey).salt).length = Credential.keyLength := by
    rw [asked, fits]
  have dataKeyOpens : Sealing.openWith (credential.key (foreignUnder accessKey).salt)
      (foreignUnder accessKey).wrappedKey [] = .ok foreign.dataKey := by
    rw [asked]
    exact Sealing.openWith_envelope [] fits rfl rfl
  exact ⟨Container.parse_eq_ok_iff.mpr ⟨rfl, containerFits⟩, ⟨rfl, placed, rfl, rfl, Or.inr ⟨rfl, rfl⟩⟩, accessKeyFits,
    dataKeyOpens, original.dataKeyFits, original.bundleOpens, original.innerParsed, original.described⟩

/-- The foreign ring with one more key. -/
def foreignLater : Ring :=
  { foreign.ring with view := foreign.ring.view.insert ⟨6, [66]⟩, maxId := 6 }

theorem foreign_course : Course foreign.ring [.added ⟨6, [66]⟩] foreignLater := by
  have nonempty : [(66 : UInt8)] ≠ [] := by simp
  have room : foreign.ring.maxId ≠ maxKeyId := by decide
  exact Course.start.step (.added nonempty room)

theorem carry_through_foreign :
    ∃ ended data later,
      read (.ofBytes foreign.container.bytes) (.fixed ⟨List.replicate 32 1⟩) (worldFrom []) = .ok foreign.ring ended ∧
      foreignLater.write .boundless (worldFrom []) = .ok ⟨data, .ok data.length⟩ later ∧
      ∃ (layers : Layers) (sealedBundle plain : Bytes),
        Layers.Of layers foreign.container.bytes (.fixed ⟨List.replicate 32 1⟩) ∧
        Container.parse data = .ok ⟨.current, ⟨.salt, foreignLater.salt⟩ :: ⟨.dataKey, layers.wrappedKey⟩ ::
          ⟨.bundle, sealedBundle⟩ :: Bundle.unknownAmong layers.container.packets⟩ ∧
        Sealing.openWith layers.dataKey sealedBundle [] = .ok plain ∧
        Packet.parseAll 0 plain = .ok (ActiveRecord.packet (some foreignLater.activeId) ::
          (foreignLater.view.keys.entries.map Entry.packet ++ Bundle.unknownAmong layers.inner)) := by
  obtain ⟨ended, accepted⟩ := (read_eq_ok_iff (worldFrom [])).mpr
    ⟨_, foreign, Source.contents_ofBytes foreign.container.bytes, foreign_opens, rfl⟩
  have formed := foreign_course.wellFormed (Layers.wellFormed foreign_opens)
  obtain ⟨data, encoded⟩ := (encode_succeeds_iff formed (worldFrom [])).mpr
    ⟨by decide, ⟨by decide, by simp [worldFrom]⟩, by decide, by decide⟩
  have delivered : ∃ later, foreignLater.write .boundless (worldFrom []) = .ok ⟨data, .ok data.length⟩ later :=
    (write_eq_ok_iff (worldFrom [])).mpr ⟨data, encoded, rfl⟩
  obtain ⟨later, written⟩ := delivered
  obtain ⟨original, layers, wrappedKey, sealedBundle, plain, contents, opened, parsed, _, unlocked, opens, inner, _⟩ :=
    carry_through accepted foreign_course written
  have same := Except.ok.inj ((Source.contents_ofBytes foreign.container.bytes).symm.trans contents)
  rw [← same] at opened
  rw [unlocked (by decide)] at parsed
  exact ⟨ended, data, later, accepted, written, layers, sealedBundle, plain, opened, parsed, opens, inner⟩

end Foreign

end Keyring.Ring

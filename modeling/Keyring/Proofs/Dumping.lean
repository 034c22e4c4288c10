import Keyring.Command.Listing
import Keyring.Proofs.Acceptance
import Keyring.Proofs.Layers
import Keyring.Proofs.Lines
import Mathlib.Data.List.Basic

namespace Keyring

theorem flatMap_mapIdx {α β γ : Type} {f : Nat → α → β} {g : β → List γ} {h : α → List γ} {list : List α}
    (same : ∀ i, ∀ a ∈ list, g (f i a) = h a) : (list.mapIdx f).flatMap g = list.flatMap h := by
  induction list generalizing f with
  | nil => rfl
  | cons a rest ih =>
    have others := ih (f := fun i => f (i + 1)) fun i b member => same (i + 1) b (List.mem_cons_of_mem _ member)
    rw [List.mapIdx_cons, List.flatMap_cons, List.flatMap_cons, others, same 0 a List.mem_cons_self]

theorem flatMap_eq_filter {α γ : Type} {h : α → List γ} {p : α → Bool} {list : List α}
    (other : ∀ a ∈ list, p a = false → h a = []) : list.flatMap h = (list.filter p).flatMap h := by
  induction list with
  | nil => rfl
  | cons a rest ih =>
    have others := ih fun b member => other b (List.mem_cons_of_mem _ member)
    cases kept : p a with
    | true => rw [List.filter_cons_of_pos kept, List.flatMap_cons, List.flatMap_cons, others]
    | false =>
      have nothing := other a List.mem_cons_self kept
      rw [List.filter_cons_of_neg (by simp [kept]), List.flatMap_cons, nothing, others, List.nil_append]

/-- A start that no title and no row of bytes has: two blanks, and none in the fourth and the sixth place. -/
structure Tells (start : String) : Prop where
  first : start.toList[0]? = some ' '
  second : start.toList[1]? = some ' '
  fourth : ∃ c ≠ ' ', start.toList[3]? = some c
  sixth : ∃ c ≠ ' ', start.toList[5]? = some c

namespace Tells

variable {start line : String}

theorem something (tells : Tells start) : start ≠ "" := by
  rintro rfl
  cases tells.first

/-- A title adds no line that starts like that. -/
theorem linesFrom_titled (tells : Tells start) {gap : String} (parted : gap = "" ∨ gap = "\n") (single : Single line)
    (other : ¬ start.toList <+: line.toList) (body : String) :
    linesFrom start (gap ++ (line ++ "\n") ++ body) = linesFrom start body := by
  have title := linesFrom_line tells.something single
  rw [if_neg other] at title
  have first : Ended gap ∧ linesFrom start gap = [] := by
    rcases parted with rfl | rfl
    · exact ⟨.inl rfl, linesFrom_empty tells.something⟩
    · have blank : ¬ start.toList <+: "".toList := fun front => by simpa using getElem?_of_front front tells.first
      exact ⟨.feed "", (linesFrom_line tells.something (by decide : Single "")).trans (if_neg blank)⟩
  rw [String.append_assoc, linesFrom_append tells.something first.1, linesFrom_append tells.something (.feed line),
    first.2, title, List.nil_append, List.nil_append]

end Tells

namespace ByteRows

theorem exists_cell (byte : UInt8) : ∃ left right, cell byte = [left, right] := by
  unfold cell
  split
  · exact ⟨_, _, rfl⟩
  · exact ⟨_, _, rfl⟩

theorem notMem_cell (byte : UInt8) : '\n' ∉ cell byte := by
  unfold cell
  split
  · next plain =>
    have letters : ∀ n < 127, 32 ≤ n → '\n' ≠ Char.ofNat n := by decide
    simp only [Escaped.isPlain, Bool.and_eq_true, decide_eq_true_eq] at plain
    simpa using letters byte.toNat (Nat.lt_succ_of_le plain.2) plain.1
  · exact Single.notMem_ofByte byte

/-- The cells of a row, a blank apart. -/
def cells (bytes : Bytes) : List Char :=
  ((bytes.map cell).intersperse [' ']).flatten

theorem notMem_cells (bytes : Bytes) : '\n' ∉ cells bytes := by
  match bytes with
  | [] => simp [cells]
  | [a] => simpa [cells] using notMem_cell a
  | a :: b :: rest =>
    have others := notMem_cells (b :: rest)
    have whole : cells (a :: b :: rest) = cell a ++ ' ' :: cells (b :: rest) := by simp [cells]
    simp [whole, notMem_cell a, others]

/-- A blank stands behind the first two cells. -/
theorem getElem?_cells (bytes : Bytes) : (cells bytes)[5]? = some ' ' ∨ (cells bytes)[5]? = none := by
  match bytes with
  | [] => exact .inr rfl
  | [a] =>
    obtain ⟨_, _, a⟩ := exists_cell a
    simp [cells, a]
  | [a, b] =>
    obtain ⟨_, _, a⟩ := exists_cell a
    obtain ⟨_, _, b⟩ := exists_cell b
    simp [cells, a, b]
  | a :: b :: c :: rest =>
    obtain ⟨_, _, a⟩ := exists_cell a
    obtain ⟨_, _, b⟩ := exists_cell b
    simp [cells, a, b]

end ByteRows

namespace Listing

variable {start : String}

theorem rowsOf_eq (indent : String) (data : Bytes) :
    rowsOf indent data = String.join ((rows ByteRows.columns data).map fun row =>
      indent ++ String.ofList (ByteRows.cells row) ++ "\n") := by
  have row : ByteRows.row indent.toList = fun row => indent.toList ++ (ByteRows.cells row ++ ['\n']) :=
    funext fun row => List.append_assoc ..
  apply String.toList_inj.mp
  simp [rowsOf, ByteRows.ofBytes, row, String.toList_join, List.flatMap_map]

theorem ended_rows (indent : String) (list : List Bytes) :
    ∀ text ∈ list.map fun row => indent ++ String.ofList (ByteRows.cells row) ++ "\n", Ended text := by
  intro text member
  obtain ⟨row, -, rfl⟩ := List.mem_map.mp member
  exact .feed _

theorem ended_rowsOf (indent : String) (data : Bytes) : Ended (rowsOf indent data) := by
  rw [rowsOf_eq]
  exact .join (ended_rows indent _)

/-- Bytes in rows tell nothing of the keys. -/
theorem linesFrom_rowsOf (tells : Tells start) {indent : String} (indented : indent = "" ∨ indent = "     ")
    (data : Bytes) : linesFrom start (rowsOf indent data) = [] := by
  rw [rowsOf_eq, linesFrom_join tells.something (ended_rows indent _), List.flatMap_map, List.flatMap_eq_nil_iff]
  intro row _
  have feed := ByteRows.notMem_cells row
  rcases indented with rfl | rfl
  · have single : Single ("" ++ String.ofList (ByteRows.cells row)) := by simpa [Single] using feed
    rw [linesFrom_line tells.something single, if_neg]
    intro front
    obtain ⟨c, dark, there⟩ := tells.sixth
    have sixth := getElem?_of_front front there
    rw [String.empty_append, String.toList_ofList] at sixth
    rcases ByteRows.getElem?_cells row with blank | past
    · exact dark (Option.some.inj (sixth.symm.trans blank))
    · cases sixth.symm.trans past
  · have single : Single ("     " ++ String.ofList (ByteRows.cells row)) := by simpa [Single] using feed
    rw [linesFrom_line tells.something single, if_neg]
    intro front
    obtain ⟨c, dark, there⟩ := tells.fourth
    have fourth := getElem?_of_front front there
    exact dark (by simpa using fourth.symm)

/-- The line of an entry of a bundle. -/
def entryLine (entry : Entry) : String :=
  s!"   ID: {entry.id.toNat}, Key: {KeyText.ofBytes entry.key}"

/-- The line of an active record. -/
def activeLine : Option KeyId → String
  | some id => s!"   active key id: {id.toNat}"
  | none => "   active key id: none"

theorem activeLine_some (id : KeyId) : activeLine (some id) = s!"   active key id: {id.toNat}" := rfl

theorem activeLine_none : activeLine none = "   active key id: none" := rfl

theorem single_entryLine (entry : Entry) : Single (entryLine entry) := by
  simp only [entryLine, toString_text, Single.append_iff, Single.nat, Single.keyText, and_true]
  decide

theorem single_activeLine (id : Option KeyId) : Single (activeLine id) := by
  cases id with
  | none =>
    rw [activeLine_none]
    decide
  | some id =>
    simp only [activeLine_some, toString_text, Single.append_iff, Single.nat, and_true]
    decide

section Bodies

variable {packet : Packet}

theorem innerBody_of_entry {entry : Entry} (role : packet.type.role = .entry)
    (parsed : Entry.parse packet.content = .ok entry) : innerBody packet = entryLine entry ++ "\n" := by
  simp only [innerBody, role, parsed, entryLine, toString_text]

theorem innerBody_of_active {id : Option KeyId} (role : packet.type.role = .active)
    (parsed : ActiveRecord.parse packet.content = .ok id) : innerBody packet = activeLine id ++ "\n" := by
  simp only [innerBody, role, parsed]
  cases id with
  | none => rfl
  | some id => simp only [activeLine_some, toString_text]

theorem innerBody_of_unknown (role : packet.type.role = .unknown) :
    innerBody packet = rowsOf "     " packet.content := by
  simp only [innerBody, role]

/-- What may stand in a bundle is an entry, an active record or unknown. -/
theorem bundled_cases {packet : Packet} (bundled : packet.IsBundled) :
    (∃ entry : Entry, entry.id ≠ 0 ∧ packet = entry.packet) ∨
      (∃ id, id ≠ some 0 ∧ packet = ActiveRecord.packet id) ∨ packet.type.role = .unknown := by
  obtain ⟨type, content⟩ := packet
  unfold Packet.IsBundled at bundled
  cases role : type.role with
  | entry =>
    simp only [role] at bundled
    obtain ⟨entry, parsed⟩ := bundled
    obtain ⟨rfl, nonzero⟩ := Entry.eq_content_of_parse parsed
    obtain rfl := (PacketType.role_eq_iff rfl).mp role
    exact .inl ⟨entry, nonzero, rfl⟩
  | active =>
    simp only [role] at bundled
    obtain ⟨id, parsed⟩ := bundled
    obtain ⟨rfl, nonzero⟩ := ActiveRecord.eq_content_of_parse parsed
    obtain rfl := (PacketType.role_eq_iff rfl).mp role
    exact .inr (.inl ⟨id, nonzero, rfl⟩)
  | unknown => exact .inr (.inr rfl)
  | dataKey => simp only [role] at bundled
  | salt => simp only [role] at bundled
  | bundle => simp only [role] at bundled

theorem innerBody_entry {entry : Entry} (nonzero : entry.id ≠ 0) : innerBody entry.packet = entryLine entry ++ "\n" :=
  innerBody_of_entry entry.role_packet (Entry.parse_content nonzero)

theorem innerBody_record {id : Option KeyId} (nonzero : id ≠ some 0) :
    innerBody (ActiveRecord.packet id) = activeLine id ++ "\n" :=
  innerBody_of_active (ActiveRecord.role_packet id) (ActiveRecord.parse_content nonzero)

theorem ended_innerBody (bundled : packet.IsBundled) : Ended (innerBody packet) := by
  rcases bundled_cases bundled with ⟨entry, nonzero, rfl⟩ | ⟨id, nonzero, rfl⟩ | unknown
  · exact innerBody_entry nonzero ▸ .feed _
  · exact innerBody_record nonzero ▸ .feed _
  · exact innerBody_of_unknown unknown ▸ ended_rowsOf _ _

end Bodies

section Titles

variable {inner : List Packet} {dataKey : Bytes} {packet : Packet}

/-- The ends of the titles, with the line feed apart. -/
theorem closing :
    " bytes)\n" = " bytes)" ++ "\n" ∧ " packets\n" = " packets" ++ "\n" ∧ " total\n" = " total" ++ "\n" :=
  ⟨rfl, rfl, rfl⟩

/-- A gap stands before every packet but the first. -/
theorem ended_gap (number : Nat) : Ended (if number = 1 then "" else "\n") := by
  split
  · exact .inl rfl
  · exact .feed ""

/-- The title of a packet of a bundle. -/
def innerTitle (index number : Nat) (packet : Packet) : String :=
  s!" + inner packet {index}.{number}: {packet.type.label} ({packet.content.length} bytes)"

theorem inner_eq (index number : Nat) (packet : Packet) :
    Listing.inner index number packet =
      (if number = 1 then "" else "\n") ++ (innerTitle index number packet ++ "\n") ++ innerBody packet := by
  unfold Listing.inner innerTitle
  simp only [toString_text, closing, String.append_assoc]

theorem linesFrom_inner (tells : Tells start) (index number : Nat) (packet : Packet) :
    linesFrom start (Listing.inner index number packet) = linesFrom start (innerBody packet) := by
  have single : Single (innerTitle index number packet) := by
    unfold innerTitle
    simp only [toString_text, Single.append_iff, Single.nat, Single.label, and_true]
    decide
  have other : ¬ start.toList <+: (innerTitle index number packet).toList := by
    intro front
    have second := getElem?_of_front front tells.second
    unfold innerTitle at second
    simp at second
  rw [inner_eq]
  exact tells.linesFrom_titled (ite_eq_or_eq _ _ _) single other _

theorem ended_inners (bundled : ∀ packet ∈ inner, packet.IsBundled) (index : Nat) :
    ∀ text ∈ inner.mapIdx fun i packet => Listing.inner index (i + 1) packet, Ended text := by
  intro text member
  obtain ⟨i, within, rfl⟩ := List.mem_mapIdx.mp member
  rw [inner_eq]
  exact ((ended_gap _).append (.feed _)).append (ended_innerBody (bundled _ (List.getElem_mem within)))

/-- The packets of a bundle as they are shown. -/
def bundleText (index : Nat) (packets : List Packet) : String :=
  String.join (packets.mapIdx fun i packet => Listing.inner index (i + 1) packet)

theorem ended_bundleText (bundled : ∀ packet ∈ inner, packet.IsBundled) (index : Nat) :
    Ended (bundleText index inner) :=
  .join (ended_inners bundled index)

theorem linesFrom_bundleText (tells : Tells start) (bundled : ∀ packet ∈ inner, packet.IsBundled) (index : Nat) :
    linesFrom start (bundleText index inner) = inner.flatMap fun packet => linesFrom start (innerBody packet) := by
  rw [bundleText, linesFrom_join tells.something (ended_inners bundled index)]
  exact flatMap_mapIdx fun i packet _ => linesFrom_inner tells index (i + 1) packet

/-- A packet of a container as it is shown when its bundle is open. -/
def shownBody (index : Nat) (inner : List Packet) (packet : Packet) : String :=
  if packet.type = .bundle then bundleText index inner else rowsOf "" packet.content

/-- The title of a packet of a container. -/
def packetTitle (index : Nat) (packet : Packet) : String :=
  s!"-- Packet {index}: {packet.type.label} ({packet.content.length} bytes)"

/-- A packet of a container as it is shown when its bundle is open. -/
def packetText (inner : List Packet) (index : Nat) (packet : Packet) : String :=
  (if index = 1 then "" else "\n") ++ (packetTitle index packet ++ "\n") ++ shownBody index inner packet

/-- Every packet is shown whole if the bundles among them are opened. -/
theorem packet_eq (opens : packet.type = .bundle → ∃ plain,
    Sealing.openWith dataKey packet.content [] = .ok plain ∧ Packet.parseAll 0 plain = .ok inner) (index : Nat) :
    Listing.packet (some dataKey) index packet = complete (packetText inner index packet) := by
  have shown : body (some dataKey) index packet = complete (shownBody index inner packet) := by
    unfold body shownBody
    by_cases bundle : packet.type = .bundle
    · obtain ⟨plain, opened, parsed⟩ := opens bundle
      have role : packet.type.role = .bundle := (PacketType.role_eq_iff rfl).mpr bundle
      simp only [role, opened, ofBundle, parsed, if_pos bundle, bundleText]
    · have role : packet.type.role ≠ .bundle := fun same => bundle ((PacketType.role_eq_iff rfl).mp same)
      rw [if_neg bundle]
      split
      · next isBundle => exact absurd isBundle role
      · rfl
  unfold Listing.packet packetText packetTitle
  rw [shown]
  simp only [andThen, complete, toString_text, closing, String.append_assoc]

theorem ended_shownBody (bundled : ∀ packet ∈ inner, packet.IsBundled) (index : Nat) (packet : Packet) :
    Ended (shownBody index inner packet) := by
  unfold shownBody
  split
  · exact ended_bundleText bundled index
  · exact ended_rowsOf "" packet.content

theorem ended_packetText (bundled : ∀ packet ∈ inner, packet.IsBundled) (index : Nat) (packet : Packet) :
    Ended (packetText inner index packet) :=
  ((ended_gap _).append (.feed _)).append (ended_shownBody bundled index packet)

theorem linesFrom_packetText (tells : Tells start) (bundled : ∀ packet ∈ inner, packet.IsBundled) (index : Nat)
    (packet : Packet) :
    linesFrom start (packetText inner index packet) =
      if packet.type = .bundle then inner.flatMap fun packet => linesFrom start (innerBody packet) else [] := by
  have single : Single (packetTitle index packet) := by
    unfold packetTitle
    simp only [toString_text, Single.append_iff, Single.nat, Single.label, and_true]
    decide
  have other : ¬ start.toList <+: (packetTitle index packet).toList := by
    intro front
    have first := getElem?_of_front front tells.first
    unfold packetTitle at first
    simp at first
  rw [packetText, tells.linesFrom_titled (ite_eq_or_eq _ _ _) single other, shownBody]
  split
  · exact linesFrom_bundleText tells bundled index
  · exact linesFrom_rowsOf tells (.inl rfl) packet.content

theorem foldl_andThen (texts : List String) (text : String) :
    (texts.map complete).foldl andThen (complete text) = complete (text ++ String.join texts) := by
  induction texts generalizing text with
  | nil => simp
  | cons next rest ih =>
    have first : andThen (complete text) (complete next) = complete (text ++ next) := rfl
    rw [List.map_cons, List.foldl_cons, first, ih, String.join_cons, String.append_assoc]

/-- A container is shown whole if every packet of it is. -/
theorem ofContainer_of_complete {key : Option Bytes} {container : Container} {text : Nat → Packet → String}
    (whole : ∀ index, ∀ packet ∈ container.packets, Listing.packet key index packet = complete (text index packet)) :
    ofContainer key container =
      complete (title container ++ String.join (container.packets.mapIdx fun i => text (i + 1))) := by
  have each : (container.packets.mapIdx fun i => Listing.packet key (i + 1)) =
      (container.packets.mapIdx fun i => text (i + 1)).map complete := by
    refine List.ext_getElem (by simp) fun i within _ => ?_
    rw [List.length_mapIdx] at within
    rw [List.getElem_mapIdx, List.getElem_map, List.getElem_mapIdx]
    exact whole (i + 1) _ (List.getElem_mem within)
  rw [ofContainer, each, foldl_andThen]

/-- The line of a container's header, without the line feed behind it. -/
def titleLine (container : Container) : String :=
  s!"Keyring version {String.ofList (Hex.ofByte container.header.version)}, reserved " ++
    s!"{String.ofList (Hex.ofByte container.header.reserved.1 ++ Hex.ofByte container.header.reserved.2)}, " ++
    s!"{container.packets.length} packets"

theorem title_eq (container : Container) : title container = titleLine container ++ "\n" := by
  unfold title titleLine
  simp only [toString_text, closing, String.append_assoc]

theorem single_titleLine (container : Container) : Single (titleLine container) := by
  have hex : ∀ byte, Single (String.ofList (Hex.ofByte byte)) := by
    simpa [Single] using Single.notMem_ofByte
  unfold titleLine
  simp only [toString_text, String.ofList_append, Single.append_iff, Single.nat, hex, and_true]
  decide

end Titles

section Layers

variable {layers : Ring.Layers} {data : Bytes} {credential : Credential}

/-- The dump of a keyring whose bundle is open. -/
def dumpText (layers : Ring.Layers) : String :=
  title layers.container ++ String.join (layers.container.packets.mapIdx fun i => packetText layers.inner (i + 1))

theorem ofContainer_eq (opened : Ring.Layers.Of layers data credential) :
    ofContainer (some layers.dataKey) layers.container = complete (dumpText layers) := by
  refine ofContainer_of_complete fun index packet within => packet_eq (fun bundle => ?_) index
  have member : packet ∈ layers.container.packets.filter (·.type = .bundle) :=
    List.mem_filter.mpr ⟨within, by simpa using bundle⟩
  rw [opened.holds.bundle, List.mem_singleton] at member
  rw [member]
  exact ⟨layers.plain, opened.bundleOpens, opened.innerParsed⟩

theorem linesFrom_dumpText (tells : Tells start) (opened : Ring.Layers.Of layers data credential) :
    linesFrom start (dumpText layers) = layers.inner.flatMap fun packet => linesFrom start (innerBody packet) := by
  have other : ¬ start.toList <+: (titleLine layers.container).toList := by
    intro front
    have first := getElem?_of_front front tells.first
    unfold titleLine at first
    simp at first
  have ended : ∀ text ∈ layers.container.packets.mapIdx fun i => packetText layers.inner (i + 1), Ended text := by
    intro text member
    obtain ⟨i, within, rfl⟩ := List.mem_mapIdx.mp member
    exact ended_packetText opened.described.bundled (i + 1) _
  have front := tells.linesFrom_titled (.inl rfl) (single_titleLine layers.container) other
    (String.join (layers.container.packets.mapIdx fun i => packetText layers.inner (i + 1)))
  rw [String.empty_append] at front
  rw [dumpText, title_eq, front, linesFrom_join tells.something ended,
    flatMap_mapIdx fun i packet _ => linesFrom_packetText tells opened.described.bundled (i + 1) packet,
    flatMap_eq_filter (p := fun packet => packet.type = .bundle), opened.holds.bundle]
  · simp
  · intro packet _ other
    exact if_neg (by simpa using other)

end Layers

section Telling

variable {packets : List Packet}

theorem tells_id : Tells "   ID: " :=
  ⟨by decide, by decide, ⟨'I', by decide, by decide⟩, ⟨':', by decide, by decide⟩⟩

theorem tells_active : Tells "   active key id: " :=
  ⟨by decide, by decide, ⟨'a', by decide, by decide⟩, ⟨'t', by decide, by decide⟩⟩

theorem tells_invalid : Tells "   <invalid" :=
  ⟨by decide, by decide, ⟨'<', by decide, by decide⟩, ⟨'n', by decide, by decide⟩⟩

theorem prefix_entryLine (entry : Entry) : "   ID: ".toList <+: (entryLine entry).toList := by
  unfold entryLine
  simp

theorem prefix_activeLine (id : Option KeyId) : "   active key id: ".toList <+: (activeLine id).toList := by
  cases id with
  | none => exact ⟨"none".toList, rfl⟩
  | some id =>
    rw [activeLine_some]
    simp

theorem linesFrom_id_entry {entry : Entry} (nonzero : entry.id ≠ 0) :
    linesFrom "   ID: " (innerBody entry.packet) = [entryLine entry] := by
  rw [innerBody_entry nonzero, linesFrom_line tells_id.something (single_entryLine entry),
    if_pos (prefix_entryLine entry)]

theorem linesFrom_active_record {id : Option KeyId} (nonzero : id ≠ some 0) :
    linesFrom "   active key id: " (innerBody (ActiveRecord.packet id)) = [activeLine id] := by
  rw [innerBody_record nonzero, linesFrom_line tells_active.something (single_activeLine id),
    if_pos (prefix_activeLine id)]

/-- The fourth character tells entries and active records from each other and from all else. -/
theorem linesFrom_entry_eq_nil (tells : Tells start) (other : start.toList[3]? ≠ some 'I') {entry : Entry}
    (nonzero : entry.id ≠ 0) : linesFrom start (innerBody entry.packet) = [] := by
  rw [innerBody_entry nonzero, linesFrom_line tells.something (single_entryLine entry), if_neg]
  intro front
  obtain ⟨c, -, there⟩ := tells.fourth
  have fourth : (entryLine entry).toList[3]? = some 'I' := getElem?_of_front (prefix_entryLine entry) (by decide)
  exact other (there.trans ((getElem?_of_front front there).symm.trans fourth))

theorem linesFrom_record_eq_nil (tells : Tells start) (other : start.toList[3]? ≠ some 'a') {id : Option KeyId}
    (nonzero : id ≠ some 0) : linesFrom start (innerBody (ActiveRecord.packet id)) = [] := by
  rw [innerBody_record nonzero, linesFrom_line tells.something (single_activeLine id), if_neg]
  intro front
  obtain ⟨c, -, there⟩ := tells.fourth
  have fourth : (activeLine id).toList[3]? = some 'a' := getElem?_of_front (prefix_activeLine id) (by decide)
  exact other (there.trans ((getElem?_of_front front there).symm.trans fourth))

theorem linesFrom_unknown_eq_nil (tells : Tells start) {packet : Packet} (unknown : packet.type.role = .unknown) :
    linesFrom start (innerBody packet) = [] := by
  rw [innerBody_of_unknown unknown, linesFrom_rowsOf tells (.inr rfl)]

/-- The entries of a bundle are told, and nothing else looks like one. -/
theorem flatMap_id (bundled : ∀ packet ∈ packets, packet.IsBundled) :
    (packets.flatMap fun packet => linesFrom "   ID: " (innerBody packet)) =
      (Bundle.entries packets).map entryLine := by
  rw [flatMap_eq_filter (p := fun packet => packet.type = .entry), Bundle.filter_entry bundled, List.flatMap_map,
    List.map_eq_flatMap]
  · exact List.flatMap_congr fun entry member => linesFrom_id_entry (Bundle.nonzero_of_mem_entries member)
  · intro packet member other
    rcases bundled_cases (bundled packet member) with ⟨entry, -, rfl⟩ | ⟨id, nonzero, rfl⟩ | unknown
    · simp [Entry.packet] at other
    · exact linesFrom_record_eq_nil tells_id (by decide) nonzero
    · exact linesFrom_unknown_eq_nil tells_id unknown

/-- The active record of a bundle is told, if there is one. -/
theorem flatMap_active (bundled : ∀ packet ∈ packets, packet.IsBundled) {recorded : Option (Option KeyId)}
    (records : packets.filter (·.type = .active) = recorded.toList.map ActiveRecord.packet)
    (nonzero : recorded ≠ some (some 0)) :
    (packets.flatMap fun packet => linesFrom "   active key id: " (innerBody packet)) =
      recorded.toList.map activeLine := by
  rw [flatMap_eq_filter (p := fun packet => packet.type = .active), records]
  · cases recorded with
    | none => rfl
    | some id => simpa using linesFrom_active_record (by simpa using nonzero)
  · intro packet member other
    rcases bundled_cases (bundled packet member) with ⟨entry, nonzero, rfl⟩ | ⟨id, -, rfl⟩ | unknown
    · exact linesFrom_entry_eq_nil tells_active (by decide) nonzero
    · simp [ActiveRecord.packet] at other
    · exact linesFrom_unknown_eq_nil tells_active unknown

/-- Nothing that may stand in a bundle is told to be invalid. -/
theorem flatMap_invalid (bundled : ∀ packet ∈ packets, packet.IsBundled) :
    (packets.flatMap fun packet => linesFrom "   <invalid" (innerBody packet)) = [] := by
  refine List.flatMap_eq_nil_iff.mpr fun packet member => ?_
  rcases bundled_cases (bundled packet member) with ⟨entry, nonzero, rfl⟩ | ⟨id, nonzero, rfl⟩ | unknown
  · exact linesFrom_entry_eq_nil tells_invalid (by decide) nonzero
  · exact linesFrom_record_eq_nil tells_invalid (by decide) nonzero
  · exact linesFrom_unknown_eq_nil tells_invalid unknown

end Telling

section Listed

/-- The line of a key in a list that shows keys. -/
def listLine (active : KeyId) (entry : Entry) : String :=
  s!"{entry.id.toNat}: {KeyText.ofBytes entry.key}" ++ if entry.id = active then " [active]" else ""

theorem keyLine_eq (active : KeyId) (entry : Entry) : keyLine true active entry = listLine active entry ++ "\n" := by
  unfold keyLine listLine
  simp only [toString_text, if_true, String.append_assoc]

theorem single_listLine (active : KeyId) (entry : Entry) : Single (listLine active entry) := by
  have mark : Single (if entry.id = active then " [active]" else "") := by
    split <;> decide
  have colon : Single ": " := by decide
  unfold listLine
  simp only [toString_text, Single.append_iff, Single.nat, Single.keyText, mark, colon, and_true]

/-- A list has a line for the number of its keys, and one for each. -/
theorem lines_ofView (view : Snapshot) :
    lines (ofView true view) =
      s!"# {view.keys.entries.length} total" :: (view.keys.entries.map (listLine view.activeId) ++ [""]) := by
  have single : Single s!"# {view.keys.entries.length} total" := by
    simp only [toString_text, Single.append_iff, Single.nat, and_true]
    decide
  have total : s!"# {view.length} total\n" = s!"# {view.keys.entries.length} total" ++ "\n" := by
    have length : view.length = view.keys.entries.length := rfl
    simp only [toString_text, closing, length, String.append_assoc]
  have each : view.keys.entries.map (keyLine true view.activeId) =
      (view.keys.entries.map (listLine view.activeId)).map (· ++ "\n") := by
    rw [List.map_map]
    exact List.map_congr_left fun entry _ => keyLine_eq view.activeId entry
  rw [ofView, total, each, lines_feed, lines_of_single single, lines_join, List.singleton_append]
  intro line member
  obtain ⟨entry, -, rfl⟩ := List.mem_map.mp member
  exact single_listLine view.activeId entry

end Listed

end Listing

end Keyring

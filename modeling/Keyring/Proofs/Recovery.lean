import Keyring.Proofs.Container
import Keyring.Proofs.Showing
import Keyring.Proofs.Spelling

namespace Keyring

section Rows

variable {α : Type} {size : Nat}

theorem rows.collect_eq (done : List (List α)) (rest : List α) :
    collect size done rest = done.reverse ++ collect size [] rest := by
  induction h : rest.length using Nat.strongRecOn generalizing done rest with
  | ind length ih =>
    cases rest with
    | nil => simp [collect]
    | cons first others =>
      have shorter : (others.drop (size - 1)).length < length := by
        simp only [List.length_drop, List.length_cons] at h ⊢
        omega
      rw [collect, ih _ shorter _ _ rfl, collect, ih _ shorter [_] _ rfl]
      simp

theorem rows_cons (first : α) (others : List α) :
    rows size (first :: others) = (first :: others.take (size - 1)) :: rows size (others.drop (size - 1)) := by
  rw [rows, rows.collect, rows.collect_eq]
  rfl

end Rows

namespace ByteRows

theorem length_cell (byte : UInt8) : (cell byte).length = 2 := by
  obtain ⟨left, right, shape⟩ := exists_cell byte
  rw [shape]
  rfl

/-- A cell begins with a blank if it shows a character, and with a digit if it shows a number. -/
theorem cell_inj {byte other : UInt8} (same : cell byte = cell other) : byte = other := by
  have codes : ∀ n < 127, (Char.ofNat n).toNat = n := by decide
  have digits : ∀ byte : UInt8, Hex.digit (byte.toNat / 16) ≠ ' ' := by
    intro byte
    have apart : ∀ n < 16, Hex.digit n ≠ ' ' := by decide
    have bound := byte.toNat_lt
    exact apart _ (by omega)
  unfold cell at same
  split at same
  · next plain =>
    split at same
    · next plainToo =>
      simp only [Escaped.isPlain, Bool.and_eq_true, decide_eq_true_eq] at plain plainToo
      have upper : byte.toNat ≤ 0x7e := plain.2
      have upperToo : other.toNat ≤ 0x7e := plainToo.2
      have letter : Char.ofNat byte.toNat = Char.ofNat other.toNat := by simpa using same
      rw [← UInt8.toNat_inj, ← codes byte.toNat (by omega), letter, codes other.toNat (by omega)]
    · exact absurd (List.cons.inj same).1.symm (digits other)
  · split at same
    · exact absurd (List.cons.inj same).1 (digits byte)
    · exact Hex.ofByte_inj same

theorem cells_cons (a : UInt8) (rest : Bytes) : cells (a :: rest) = cell a ++ rest.flatMap fun b => ' ' :: cell b := by
  induction rest generalizing a with
  | nil => simp [cells]
  | cons b rest ih =>
    have whole : cells (a :: b :: rest) = cell a ++ ' ' :: cells (b :: rest) := by simp [cells]
    rw [whole, ih b, List.flatMap_cons, List.cons_append]

theorem length_cells (bytes : Bytes) : (cells bytes).length = 3 * bytes.length - 1 := by
  cases bytes with
  | nil => rfl
  | cons a rest =>
    have wide : (rest.flatMap fun b => ' ' :: cell b).length = rest.length * 3 := by
      simp [List.length_flatMap, length_cell]
    rw [cells_cons, List.length_append, length_cell, wide, List.length_cons]
    omega

theorem cells_inj {bytes others : Bytes} (same : cells bytes = cells others) : bytes = others := by
  have length := congrArg List.length same
  rw [length_cells, length_cells] at length
  cases bytes with
  | nil =>
    cases others with
    | nil => rfl
    | cons b restToo =>
      simp only [List.length_nil, List.length_cons] at length
      omega
  | cons a rest =>
    cases others with
    | nil =>
      simp only [List.length_nil, List.length_cons] at length
      omega
    | cons b restToo =>
      rw [cells_cons, cells_cons] at same
      obtain ⟨first, later⟩ := List.append_inj same (by rw [length_cell, length_cell])
      have others : rest = restToo :=
        flatMap_inj 3 (by decide) (fun c => by rw [List.length_cons, length_cell])
          (fun c d piece => cell_inj (List.cons.inj piece).2) later
      rw [cell_inj first, others]

theorem ofBytes_cons (indent : List Char) (first : UInt8) (others : Bytes) :
    ofBytes indent (first :: others) =
      indent ++ (cells (first :: others.take 15) ++ '\n' :: ofBytes indent (others.drop 15)) := by
  have row : row indent (first :: others.take 15) = indent ++ cells (first :: others.take 15) ++ ['\n'] := rfl
  rw [ofBytes, columns, rows_cons, List.flatMap_cons, row, ofBytes, columns]
  simp only [List.append_assoc, List.singleton_append]

theorem ofBytes_cons_ne (indent : List Char) (first : UInt8) (others : Bytes) :
    ofBytes indent (first :: others) ≠ ofBytes indent [] := by
  have nothing : ofBytes indent [] = [] := by simp [ofBytes, rows, rows.collect]
  rw [ofBytes_cons, nothing]
  simp

/-- Bytes of one number take the same room, whatever they are. -/
theorem length_ofBytes (indent : List Char) {data other : Bytes} (same : data.length = other.length) :
    (ofBytes indent data).length = (ofBytes indent other).length := by
  induction size : data.length using Nat.strongRecOn generalizing data other with
  | ind size ih =>
    cases data with
    | nil => rw [List.length_eq_zero_iff.mp same.symm]
    | cons a rest =>
      cases other with
      | nil => cases same
      | cons b restToo =>
        rw [List.length_cons, List.length_cons] at same
        rw [List.length_cons] at size
        have left : (rest.drop 15).length = (restToo.drop 15).length := by
          rw [List.length_drop, List.length_drop]
          omega
        have later := ih (rest.drop 15).length (by rw [List.length_drop]; omega) left rfl
        simp only [ofBytes_cons, List.length_append, List.length_cons, length_cells, List.length_take, later]
        omega

/-- Rows of bytes show every byte. -/
theorem ofBytes_inj {indent : List Char} {data other : Bytes} (same : ofBytes indent data = ofBytes indent other) :
    data = other := by
  induction size : data.length using Nat.strongRecOn generalizing data other with
  | ind size ih =>
    cases data with
    | nil =>
      cases other with
      | nil => rfl
      | cons b restToo => exact absurd same.symm (ofBytes_cons_ne indent b restToo)
    | cons a rest =>
      cases other with
      | nil => exact absurd same (ofBytes_cons_ne indent a rest)
      | cons b restToo =>
        rw [ofBytes_cons, ofBytes_cons] at same
        rw [List.length_cons] at size
        -- no cell holds a line feed, so the first rows end at the same place
        obtain ⟨row, later⟩ := cut_inj (notMem_cells _) (notMem_cells _) (List.append_cancel_left same)
        obtain ⟨rfl, front⟩ := List.cons.inj (cells_inj row)
        have back := ih (rest.drop 15).length (by rw [List.length_drop]; omega) later rfl
        rw [← List.take_append_drop 15 rest, front, back, List.take_append_drop]

end ByteRows

namespace Role

theorem name?_inj {role other : Role} (same : role.name? = other.name?) : role = other := by
  cases role <;> cases other <;> first | rfl | simp [name?] at same

theorem type?_of_name {role : Role} {name : String} (named : role.name? = some name) :
    ∃ known, role.type? = some known := by
  cases role with
  | unknown => cases named
  | dataKey | salt | entry | active | bundle => exact ⟨_, rfl⟩

theorem head?_name {role : Role} {name : String} (named : role.name? = some name) : name.toList.head? ≠ some 'U' := by
  cases role with
  | unknown => cases named
  | dataKey | salt | entry | active | bundle =>
    cases named
    decide

theorem notMem_name {role : Role} {name : String} (named : role.name? = some name) : ' ' ∉ name.toList := by
  cases role with
  | unknown => cases named
  | dataKey | salt | entry | active | bundle =>
    cases named
    decide

end Role

namespace PacketType

variable {type other : PacketType} {name : String}

theorem label_of_some (named : type.name? = some name) : type.label = name := by
  rw [label, named]
  rfl

theorem label_of_none (nameless : type.name? = none) :
    type.label = "UNKNOWN_TYPE_" ++ toString type.code.toNat := by
  simp only [label, nameless, toString_text, Option.getD_none]

theorem label_ne (named : type.name? = some name) (nameless : other.name? = none) : type.label ≠ other.label := by
  rw [label_of_some named, label_of_none nameless]
  rintro rfl
  exact Role.head?_name named (by simp)

/-- Every type is told, known or not. -/
theorem label_inj (same : type.label = other.label) : type = other := by
  cases named : type.name? with
  | some name =>
    cases namedToo : other.name? with
    | some nameToo =>
      rw [label_of_some named, label_of_some namedToo] at same
      have roles : type.role = other.role := Role.name?_inj (named.trans (same ▸ namedToo.symm))
      obtain ⟨known, defined⟩ := Role.type?_of_name namedToo
      exact ((role_eq_iff defined).mp roles).trans ((role_eq_iff defined).mp rfl).symm
    | none => exact absurd same (label_ne named namedToo)
  | none =>
    cases namedToo : other.name? with
    | some nameToo => exact absurd same.symm (label_ne namedToo named)
    | none =>
      rw [label_of_none named, label_of_none namedToo, String.append_right_inj] at same
      exact congrArg PacketType.mk (UInt8.toNat_inj.mp (toString_inj same))

theorem notMem_label (type : PacketType) : ' ' ∉ type.label.toList := by
  cases named : type.name? with
  | some name =>
    rw [label_of_some named]
    exact Role.notMem_name named
  | none =>
    rw [label_of_none named, String.toList_append, List.mem_append, not_or]
    exact ⟨by decide, notMem_toString (by decide) _⟩

end PacketType

namespace Listing

theorem rowsOf_inj {indent : String} {data other : Bytes} (same : rowsOf indent data = rowsOf indent other) :
    data = other :=
  ByteRows.ofBytes_inj (String.ofList_inj.mp same)

theorem length_rowsOf (indent : String) {data other : Bytes} (same : data.length = other.length) :
    (rowsOf indent data).length = (rowsOf indent other).length := by
  rw [rowsOf, rowsOf, String.length_ofList, String.length_ofList, ByteRows.length_ofBytes _ same]

/-- A packet of a container as it is shown when nothing is opened. -/
def plainText (index : Nat) (packet : Packet) : String :=
  (if index = 1 then "" else "\n") ++ (packetTitle index packet ++ "\n") ++ rowsOf "" packet.content

theorem packet_none (index : Nat) (packet : Packet) :
    Listing.packet none index packet = complete (plainText index packet) := by
  unfold Listing.packet plainText packetTitle
  simp only [body, andThen, complete, toString_text, closing, String.append_assoc]

theorem single_packetTitle (index : Nat) (packet : Packet) : Single (packetTitle index packet) := by
  unfold packetTitle
  simp only [toString_text, Single.append_iff, Single.nat, Single.label, and_true]
  decide

/-- A title tells the type and the size of its packet. -/
theorem packetTitle_inj {index : Nat} {packet other : Packet}
    (same : packetTitle index packet = packetTitle index other) :
    packet.type = other.type ∧ packet.content.length = other.content.length := by
  have shape : ∀ packet, packetTitle index packet = "-- Packet " ++ toString index ++ ": " ++
      (packet.type.label ++ (" " ++ ("(" ++ toString packet.content.length ++ " bytes)"))) := by
    intro packet
    unfold packetTitle
    simp only [toString_text, String.append_assoc]
    rfl
  rw [shape, shape, String.append_right_inj] at same
  obtain ⟨label, rest⟩ := cut_text_inj rfl (PacketType.notMem_label _) (PacketType.notMem_label _) same
  rw [String.append_left_inj, String.append_right_inj] at rest
  exact ⟨PacketType.label_inj label, toString_inj rest⟩

/-- Where a packet ends is told by its title, whatever its content looks like. -/
theorem plainText_append_inj {index : Nat} {packet other : Packet} {back rest : String}
    (same : plainText index packet ++ back = plainText index other ++ rest) : packet = other ∧ back = rest := by
  have shape : ∀ (packet : Packet) (back : String), plainText index packet ++ back =
      (if index = 1 then "" else "\n") ++ (packetTitle index packet ++ ("\n" ++ (rowsOf "" packet.content ++ back))) := by
    intro packet back
    simp only [plainText, String.append_assoc]
  rw [shape, shape, String.append_right_inj] at same
  obtain ⟨title, later⟩ := cut_text_inj rfl (single_packetTitle _ _) (single_packetTitle _ _) same
  obtain ⟨type, size⟩ := packetTitle_inj title
  obtain ⟨content, after⟩ := append_text_inj (length_rowsOf "" size) later
  obtain ⟨code, data⟩ := packet
  obtain ⟨codeToo, dataToo⟩ := other
  obtain rfl : code = codeToo := type
  obtain rfl : data = dataToo := rowsOf_inj content
  exact ⟨rfl, after⟩

/-- Packets shown one after the other are told apart, if their number is known. -/
theorem join_plainText_inj {index : Nat} {packets others : List Packet} (length : packets.length = others.length)
    (same : String.join (packets.mapIdx fun i => plainText (i + index)) =
      String.join (others.mapIdx fun i => plainText (i + index))) : packets = others := by
  induction packets generalizing index others with
  | nil => exact (List.length_eq_zero_iff.mp length.symm).symm
  | cons packet packets ih =>
    cases others with
    | nil => cases length
    | cons other others =>
      rw [List.mapIdx_cons, List.mapIdx_cons, String.join_cons, String.join_cons] at same
      -- the first packets end at the same place, and the others are numbered on from there
      obtain ⟨rfl, later⟩ := plainText_append_inj same
      have next : ∀ packets : List Packet, (packets.mapIdx fun i => plainText (i + 1 + index)) =
          packets.mapIdx fun i => plainText (i + (index + 1)) := by
        intro packets
        refine congrArg (packets.mapIdx ·) (funext fun i => ?_)
        rw [Nat.add_assoc, Nat.add_comm 1]
      rw [next, next] at later
      rw [ih (Nat.succ.inj length) later]

/-- The first line tells the header, and how many packets follow. -/
theorem titleLine_inj {container other : Container} (same : titleLine container = titleLine other) :
    container.header = other.header ∧ container.packets.length = other.packets.length := by
  have shape : ∀ container, titleLine container = "Keyring version " ++
      (String.ofList (Hex.ofByte container.header.version) ++ (", reserved " ++
        (String.ofList (Hex.ofByte container.header.reserved.1 ++ Hex.ofByte container.header.reserved.2) ++
          (", " ++ toString container.packets.length ++ " packets")))) := by
    intro container
    unfold titleLine
    simp only [toString_text, String.append_assoc]
  rw [shape, shape, String.append_right_inj] at same
  obtain ⟨version, rest⟩ := append_text_inj (by simp only [String.length_ofList, Hex.ofByte, List.length_cons]) same
  rw [String.append_right_inj] at rest
  obtain ⟨reserved, number⟩ :=
    append_text_inj (by simp only [String.length_ofList, Hex.ofByte, List.length_append, List.length_cons]) rest
  rw [String.append_left_inj, String.append_right_inj] at number
  rw [String.ofList_inj] at version reserved
  obtain ⟨low, high⟩ := List.append_inj reserved rfl
  refine ⟨?_, toString_inj number⟩
  rw [Header.mk.injEq, Prod.mk.injEq]
  exact ⟨Hex.ofByte_inj version, Hex.ofByte_inj low, Hex.ofByte_inj high⟩

/-- The dump of a container whose bundles stay closed. -/
def closedText (container : Container) : String :=
  titleLine container ++ "\n" ++ String.join (container.packets.mapIdx fun i => plainText (i + 1))

theorem ofContainer_none (container : Container) : ofContainer none container = complete (closedText container) := by
  rw [ofContainer_of_complete fun index packet _ => packet_none index packet, closedText, title_eq]

/-- A dump tells the container that it shows. -/
theorem closedText_inj {container other : Container} (same : closedText container = closedText other) :
    container = other := by
  rw [closedText, closedText, String.append_assoc, String.append_assoc] at same
  obtain ⟨title, later⟩ := cut_text_inj rfl (single_titleLine _) (single_titleLine _) same
  obtain ⟨header, length⟩ := titleLine_inj title
  have packets := join_plainText_inj length later
  obtain ⟨_, _⟩ := container
  obtain ⟨_, _⟩ := other
  rw [Container.mk.injEq]
  exact ⟨header, packets⟩

end Listing

theorem textBytes_inj {text other : String} (same : textBytes text = textBytes other) : text = other := by
  have spelled := textOf?_textBytes text
  rw [same, textOf?_textBytes] at spelled
  exact (Option.some.inj spelled).symm

namespace Session

open Desk Keyring.Action

variable {path : String} {tree : Tree} {source : Source} {data : Bytes} {container : Container}

/-- What can be taken apart is shown to its end, with its bundles closed. No passphrase is asked for. -/
theorem inspect_closed (found : tree.source path = .ok source) (contents : source.contents = .ok data)
    (parsed : Container.parse data = .ok container) (world : World) (passphrases : Passphrases) :
    ∃ ended : World, ended.output = world.output ++ textBytes (Listing.closedText container) ∧
      inspect path false (boundless world tree passphrases) = .ok () (boundless ended tree passphrases) := by
  obtain ⟨ended, -, output, prints⟩ := print_boundless (Listing.closedText container) world tree passphrases
  have parses : (Action.ofExcept ((Container.parse data).mapError fun stopped => .malformed stopped.damage) :
      DeskAction Container) (boundless world tree passphrases) = .ok container (boundless world tree passphrases) := by
    rw [parsed]
    rfl
  refine ⟨ended, output, ?_⟩
  unfold inspect
  rw [bind_get, boundless_tree, bind_of_ok (ofFile_eq_ok.mpr ⟨found, rfl⟩),
    bind_of_ok (ofFile_eq_ok.mpr ⟨contents, rfl⟩), bind_of_ok parses]
  simp only [Bool.false_and, Bool.false_eq_true, if_false, pure_bind]
  rw [Listing.ofContainer_none]
  simp only [Listing.complete]
  rw [bind_of_ok prints]
  rfl

/-- A dump loses nothing. What is written for a file that can be taken apart tells every byte of it: the same is
written for two of them only if they are the same. Rows of bytes alone tell the bytes, however far they are indented. -/
theorem inspect_loses_nothing :
    (∀ {data otherData : Bytes} {container other : Container},
      Container.parse data = .ok container → Container.parse otherData = .ok other →
      ∀ {path otherPath : String} {tree otherTree : Tree} {source otherSource : Source},
      tree.source path = .ok source → source.contents = .ok data →
      otherTree.source otherPath = .ok otherSource → otherSource.contents = .ok otherData →
      ∀ (world otherWorld : World) (passphrases otherPassphrases : Passphrases),
      ∃ (shown otherShown : World) (dump otherDump : Bytes),
        inspect path false (boundless world tree passphrases) = .ok () (boundless shown tree passphrases) ∧
        inspect otherPath false (boundless otherWorld otherTree otherPassphrases) =
          .ok () (boundless otherShown otherTree otherPassphrases) ∧
        shown.output = world.output ++ dump ∧ otherShown.output = otherWorld.output ++ otherDump ∧
        (dump = otherDump ↔ container = other) ∧ (dump = otherDump ↔ data = otherData)) ∧
    ∀ (indent : String) (data other : Bytes),
      Listing.rowsOf indent data = Listing.rowsOf indent other → data = other := by
  refine ⟨?_, fun _ _ _ => Listing.rowsOf_inj⟩
  intro data otherData container other parsed parsedToo path otherPath tree otherTree source otherSource found contents
    foundToo contentsToo world otherWorld passphrases otherPassphrases
  obtain ⟨shown, output, shows⟩ := inspect_closed found contents parsed world passphrases
  obtain ⟨otherShown, outputToo, showsToo⟩ := inspect_closed foundToo contentsToo parsedToo otherWorld otherPassphrases
  have containers : textBytes (Listing.closedText container) = textBytes (Listing.closedText other) ↔
      container = other :=
    ⟨fun same => Listing.closedText_inj (textBytes_inj same), fun same => same ▸ rfl⟩
  have bytes : container = other ↔ data = otherData := by
    constructor
    · rintro rfl
      exact (Container.parse_eq_ok_iff.mp parsed).1.trans (Container.parse_eq_ok_iff.mp parsedToo).1.symm
    · rintro rfl
      exact Except.ok.inj (parsed.symm.trans parsedToo)
  exact ⟨shown, otherShown, _, _, shows, showsToo, output, outputToo, containers, containers.trans bytes⟩

/-- A content that reads like the title of a packet is not taken for one. -/
theorem inspect_loses_nothing_lookalike :
    let posing : Container := ⟨.current, [⟨⟨9⟩, textBytes "-- Packet 2: BUNDLE (0 bytes)\n"⟩]⟩
    let plain : Container := ⟨.current, [⟨⟨9⟩, []⟩, ⟨.bundle, []⟩]⟩
    let tree (content : Bytes) : Tree := ⟨[(["ring"], .file content .shared)], []⟩
    ∃ shown otherShown : World,
      inspect "ring" false (boundless (Ring.worldFrom []) (tree posing.bytes) (.fixed "")) =
        .ok () (boundless shown (tree posing.bytes) (.fixed "")) ∧
      inspect "ring" false (boundless (Ring.worldFrom []) (tree plain.bytes) (.fixed "")) =
        .ok () (boundless otherShown (tree plain.bytes) (.fixed "")) ∧
      shown.output ≠ otherShown.output := by
  intro posing plain tree
  have parsed : Container.parse posing.bytes = .ok posing := Container.parse_eq_ok_iff.mpr ⟨rfl, by decide⟩
  have parsedToo : Container.parse plain.bytes = .ok plain := Container.parse_eq_ok_iff.mpr ⟨rfl, by decide⟩
  have found : ∀ content, (tree content).source "ring" = .ok (.ofBytes content) := fun _ => rfl
  obtain ⟨shown, otherShown, dump, otherDump, shows, showsToo, output, outputToo, told, -⟩ :=
    inspect_loses_nothing.1 parsed parsedToo (found _) (Source.contents_ofBytes _) (found _)
      (Source.contents_ofBytes _) (Ring.worldFrom []) (Ring.worldFrom []) (.fixed "") (.fixed "")
  have start : (Ring.worldFrom []).output = [] := rfl
  rw [start, List.nil_append] at output outputToo
  refine ⟨shown, otherShown, shows, showsToo, fun same => ?_⟩
  rw [output, outputToo] at same
  have length := congrArg (·.packets.length) (told.mp same)
  cases length

end Session

end Keyring

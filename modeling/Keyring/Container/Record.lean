import Keyring.Container.Malformed

namespace Keyring

/-- A key under its id. -/
structure Entry where
  id : KeyId
  key : Bytes
  deriving DecidableEq

namespace Entry

/-- The content of an entry's packet: the id, then the key. -/
def content (entry : Entry) : Bytes :=
  be32 entry.id ++ entry.key

def parse : Bytes → Except Malformed Entry
  | a :: b :: c :: d :: key =>
    let id := ofBe32 a b c d
    if id = 0 then .error .zeroId else .ok ⟨id, key⟩
  | short => .error (.shortEntry short.length)

theorem parse_content {entry : Entry} (nonzero : entry.id ≠ 0) :
    parse entry.content = .ok entry := by
  simp only [content, be32, List.cons_append, List.nil_append, parse, ofBe32_be32, nonzero, if_false]

theorem eq_content_of_parse {data : Bytes} {entry : Entry} (parsed : parse data = .ok entry) :
    data = entry.content ∧ entry.id ≠ 0 := by
  unfold parse at parsed
  split at parsed
  · next a b c d key =>
    dsimp only at parsed
    split at parsed
    · cases parsed
    · next nonzero =>
      cases parsed
      exact ⟨by simp [content, be32_ofBe32], nonzero⟩
  · cases parsed

end Entry

namespace ActiveRecord

/-- The content of the packet that names the active key. It is empty if none is named. -/
def content : Option KeyId → Bytes
  | some id => be32 id
  | none => []

def parse : Bytes → Except Malformed (Option KeyId)
  | [] => .ok none
  | [a, b, c, d] =>
    let id := ofBe32 a b c d
    if id = 0 then .error .zeroId else .ok (some id)
  | data => .error (.activeLength data.length)

theorem parse_content {id : Option KeyId} (nonzero : id ≠ some 0) :
    parse (content id) = .ok id := by
  cases id with
  | none => rfl
  | some id =>
    have nonzero : id ≠ 0 := by simpa using nonzero
    simp only [content, be32, parse, ofBe32_be32, nonzero, if_false]

theorem eq_content_of_parse {data : Bytes} {id : Option KeyId} (parsed : parse data = .ok id) :
    data = content id ∧ id ≠ some 0 := by
  unfold parse at parsed
  split at parsed
  · cases parsed
    exact ⟨rfl, by simp⟩
  · dsimp only at parsed
    split at parsed
    · cases parsed
    · next nonzero =>
      cases parsed
      exact ⟨by simp [content, be32_ofBe32], by simpa using nonzero⟩
  · cases parsed

end ActiveRecord

end Keyring

import ScriptGate.Proofs.Policy.FirstOffender
import ScriptGate.Proofs.Tree.RoundTrip

/-! What a rejection shows of the node it is about.

A tag is clipped by counting characters, however many bytes each of them takes, so the cut
falls between two of them (`clip_bytes`). No tag of a known kind is long enough to be clipped
(`clip_tag`), and the label for all other nodes is the tag of none
(`unrecognizedKind_not_mem_tags`); so what is shown of a node can be told from the node alone
(`Policy.evaluate_shows_offender`). -/
namespace ScriptGate

namespace Rejection

/-! ### Clipping -/

theorem clip_append_drop (s : String) (n : Nat) :
    s = clip s n ++ String.ofList (s.toList.drop n) := by
  rw [clip, ← String.ofList_append, List.take_append_drop, String.ofList_toList]

theorem length_clip (s : String) (n : Nat) : (clip s n).length = min n s.length := by
  rw [clip, String.length_ofList, List.length_take, String.length_toList]

theorem clip_of_length_le {s : String} {n : Nat} (h : s.length ≤ n) : clip s n = s := by
  rw [clip, List.take_of_length_le (String.length_toList ▸ h), String.ofList_toList]

theorem isValid_rawEndPos_clip (s : String) (n : Nat) : (clip s n).rawEndPos.IsValid s :=
  String.Pos.Raw.isValid_iff_exists_append.mpr ⟨_, _, clip_append_drop s n, rfl⟩

/-- How many bytes stand in front of each of the characters, `passed` of them before the first. -/
def offsets : (passed : Nat) → List Char → List Nat
  | _, [] => []
  | passed, c :: cs => passed :: offsets (passed + c.utf8Size) cs

/-- How many bytes stand in front of the character at a place, or in the whole text if it ends
before that place. -/
def cutAt (s : String) (n : Nat) : Nat := (offsets 0 s.toList)[n]?.getD s.utf8ByteSize

theorem getElem?_offsets (passed : Nat) (cs : List Char) (n : Nat) :
    (offsets passed cs)[n]? =
      if n < cs.length then some (passed + (String.ofList (cs.take n)).utf8ByteSize) else none := by
  induction cs generalizing passed n with
  | nil => rfl
  | cons c cs ih =>
    cases n with
    | zero => rfl
    | succ n =>
      rw [offsets, List.getElem?_cons_succ, ih, List.take_succ_cons, String.ofList_cons,
        String.utf8ByteSize_append, String.utf8ByteSize_singleton]
      simp [Nat.add_assoc]

theorem cutAt_eq (s : String) (n : Nat) : cutAt s n = (clip s n).utf8ByteSize := by
  rw [cutAt, getElem?_offsets]
  split
  · rw [Option.getD_some, Nat.zero_add, clip]
  · next h =>
    rw [Option.getD_none, clip_of_length_le]
    rw [String.length_toList] at h
    omega

/-- Clipping a text cuts its bytes off in front of the character that is one too many. -/
theorem clip_bytes (s : String) (n : Nat) :
    (clip s n).toByteArray = s.toByteArray.extract 0 (cutAt s n) := by
  have hbytes := congrArg String.toByteArray (clip_append_drop s n)
  rw [String.toByteArray_append] at hbytes
  rw [hbytes, cutAt_eq, ByteArray.extract_append_eq_left]
  rfl

-- Characters of one, two, three and four bytes.
example : clip "aé€😀x" 4 = "aé€😀" ∧ cutAt "aé€😀x" 4 = 10 := by decide

/-! ### Tags -/

theorem clip_tag (kind : Kind) : clip kind.tag maxShownTag = kind.tag := by
  refine clip_of_length_le ?_
  cases kind <;> decide

theorem unrecognizedKind_not_mem_tags : unrecognizedKind ∉ Kind.tags := by decide

end Rejection

/-- What a rejection shows if it is about this node. -/
def Rejection.Shows (r : Rejection) : Node → Prop
  | .known kind _ => r.kind = kind.tag ∧ r.metricKind = r.kind ∧ r.metricKind ∈ Kind.tags
  | .unrecognized tag => r.kind = Rejection.clip tag 64 ∧
      r.token = "unrecognized node kind: " ++ Rejection.clip tag 64 ∧
      r.metricKind = "unrecognized"

namespace Policy
open Rejection (clip cutAt unrecognizedKind)

theorem shows_of_refuse {p : Policy} {n : Node} {r : Rejection} (h : p.refuse n = some r) :
    r.Shows n := by
  cases n with
  | known kind fields =>
    obtain ⟨token, -, rfl⟩ := Option.map_eq_some_iff.mp h
    exact ⟨rfl, rfl, kind.tag_mem_tags⟩
  | unrecognized tag =>
    obtain rfl := Option.some.inj h
    exact ⟨rfl, rfl, rfl⟩

/-- Of any tag as much is shown as of an unknown one. -/
theorem kind_of_shows {n : Node} {r : Rejection} (h : r.Shows n) : r.kind = clip n.tag 64 := by
  cases n with
  | known kind fields => exact h.1.trans (Rejection.clip_tag kind).symm
  | unrecognized tag => exact h.1

/-- **A rejection shows the tag of the first refused node, clipped only if it is no tag of a
kind.** A clipped text is the beginning of the text with as many characters as it has, up to
the bound; its bytes end in front of a character. A node of a known kind is shown by its tag,
in full, also as a label. Of any other node the same beginning of its tag stands in the token
and for the kind, and its label is one that no known kind has, even if the tag is that of a
known kind. -/
theorem evaluate_shows_offender :
    (∀ (s : String) (n : Nat), (∃ rest, s = clip s n ++ rest) ∧
      (clip s n).length = min n s.length ∧ (clip s n).rawEndPos.IsValid s ∧
      (clip s n).toByteArray = s.toByteArray.extract 0 (cutAt s n)) ∧
    unrecognizedKind ∉ Kind.tags ∧
    ∀ (p : Policy) (t : Node) (r : Rejection), (p.evaluate t).rejection = some r →
      ∃ before n after, t.preorder = before ++ n :: after ∧ (∀ m ∈ before, p.refuse m = none) ∧
        p.refuse n = some r ∧ r.Shows n ∧ r.kind = clip n.tag 64 := by
  refine ⟨fun s n => ⟨⟨_, Rejection.clip_append_drop s n⟩, Rejection.length_clip s n,
    Rejection.isValid_rawEndPos_clip s n, Rejection.clip_bytes s n⟩,
    Rejection.unrecognizedKind_not_mem_tags, fun p t r h => ?_⟩
  obtain ⟨before, n, after, ht, hbefore, hn⟩ := exists_refuse_of_evaluate h
  have hshows : r.Shows n := shows_of_refuse hn
  exact ⟨before, n, after, ht, hbefore, hn, hshows, kind_of_shows hshows⟩

/-- A node that goes by the tag of a kind without being of that kind. -/
theorem evaluate_shows_offender_call :
    ∃ r, ((default : Policy).evaluate (.unrecognized "call")).rejection = some r ∧
      "call" ∈ Kind.tags ∧ r.kind = "call" ∧ r.token = "unrecognized node kind: call" ∧
      r.metricKind = "unrecognized" := by
  obtain ⟨-, -, hshows⟩ := evaluate_shows_offender
  obtain ⟨before, n, after, ht, -, -, hn, -⟩ :=
    hshows default (.unrecognized "call") ⟨.unrecognized "call", _⟩ rfl
  obtain ⟨rfl, rfl, rfl⟩ : before = [] ∧ n = .unrecognized "call" ∧ after = [] := by
    have hlist : before ++ n :: after = [.unrecognized "call"] := ht.symm
    simpa [List.append_eq_singleton_iff] using hlist
  exact ⟨_, rfl, by decide, hn⟩

end Policy

end ScriptGate

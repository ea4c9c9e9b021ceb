import TxCourier.Proofs.Classification
import TxCourier.Proofs.LenientHex

/-! # The node's own words

What is shown of an error is put together from the words that the node chose, or the way to it, and
from labels, a code and hashes. The symptoms of the error, and whether it is taken for a lack of
funds, depend on those words alone. Of an error that no node answered the words are the reason of
the transport, and there are none where the node took the transaction under another hash. -/
namespace TxCourier

namespace NodeError

/-- The texts that the node chose, or the way to it. -/
def words : NodeError → List String
  | answered _ message data => message :: data.toList
  | transport reason => [reason]
  | hashMismatch _ _ => []

/-- A phrase stands somewhere in the words. -/
def Mentions (phrase : String) (e : NodeError) : Prop :=
  ∃ text ∈ e.words, phrase.toList <:+: text.toList

/-- The words say in one of two wordings that the sender cannot pay. -/
def ReportsShortage (e : NodeError) : Prop :=
  e.Mentions "insufficient funds for gas" ∨ e.Mentions "insufficient funds for transfer"

theorem message_transport (reason : String) :
    (transport reason).message = "transport error: " ++ reason := rfl

theorem message_hashMismatch (expected reported : Hash) :
    (hashMismatch expected reported).message
      = "node reported transaction hash " ++ Hex.prefixed reported.toList ++ ", expected "
        ++ Hex.prefixed expected.toList := rfl

theorem mentions_answered_iff {code : Int} {message phrase : String} {data : Option String} :
    (answered code message data).Mentions phrase ↔ ExecutionError.Says phrase message data := by
  constructor
  · rintro ⟨text, member, inside⟩
    rcases List.mem_cons.mp member with rfl | given
    · exact .inl inside
    · exact .inr ⟨text, Option.mem_toList.mp given, inside⟩
  · rintro (inside | ⟨text, given, inside⟩)
    · exact ⟨message, List.mem_cons_self, inside⟩
    · exact ⟨text, List.mem_cons_of_mem message (Option.mem_toList.mpr given), inside⟩

end NodeError

namespace ExecutionError

variable {phrase : String} {s : Symptom}

/-! ## What is put around the words -/

/-- The text has none of three letters, of which each phrase has one. -/
structure IsMute (text : List Char) : Prop where
  g : 'g' ∉ text
  l : 'l' ∉ text
  u : 'u' ∉ text

namespace IsMute

variable {text : List Char}

instance (text : List Char) : Decidable (IsMute text) :=
  decidable_of_iff ('g' ∉ text ∧ 'l' ∉ text ∧ 'u' ∉ text)
    ⟨fun ⟨g, l, u⟩ => ⟨g, l, u⟩, fun mute => ⟨mute.g, mute.l, mute.u⟩⟩

theorem append {rest : List Char} (mute : IsMute text) (after : IsMute rest) :
    IsMute (text ++ rest) where
  g := List.not_mem_append mute.g after.g
  l := List.not_mem_append mute.l after.l
  u := List.not_mem_append mute.u after.u

theorem lacks (mute : IsMute text) (member : phrase ∈ s.phrases) :
    ¬phrase.toList <:+: text := by
  have all : ∀ p ∈ s.phrases, 'g' ∈ p.toList ∨ 'l' ∈ p.toList ∨ 'u' ∈ p.toList := by
    cases s <;> decide +kernel
  intro inside
  rcases all phrase member with g | l | u
  · exact mute.g (inside.mem g)
  · exact mute.l (inside.mem l)
  · exact mute.u (inside.mem u)

end IsMute

theorem not_mem_prefixed {c : Char} (other : Hex.value? c = none) (mark : c ≠ 'x') (b : Bytes) :
    c ∉ (Hex.prefixed b).toList := by
  rw [Hex.prefixed, Hex.encode, Hex.toList_behind_prefix]
  intro member
  rcases List.mem_cons.mp member with rfl | member
  · cases other
  · rcases List.mem_cons.mp member with same | member
    · exact mark same
    · have digit := Hex.isSome_of_bytes? (Hex.bytesFrom_digits b []) member
      rw [other] at digit
      cases digit

theorem isMute_prefixed (b : Bytes) : IsMute (Hex.prefixed b).toList where
  g := not_mem_prefixed rfl (by decide) b
  l := not_mem_prefixed rfl (by decide) b
  u := not_mem_prefixed rfl (by decide) b

/-- The sentence about two hashes is made of hashes and of words that have nothing of a phrase. -/
theorem isMute_mismatch (expected reported : Hash) :
    IsMute (NodeError.hashMismatch expected reported).message.toList := by
  have front : IsMute "node reported transaction hash ".toList := by decide +kernel
  have between : IsMute ", expected ".toList := by decide +kernel
  rw [NodeError.message_hashMismatch, String.toList_append, String.toList_append,
    String.toList_append]
  exact ((front.append (isMute_prefixed _)).append between).append (isMute_prefixed _)

theorem Symptom.colon_not_mem (member : phrase ∈ s.phrases) : ':' ∉ phrase.toList := by
  have all : ∀ p ∈ s.phrases, ':' ∉ p.toList := by
    cases s <;> decide +kernel
  exact all phrase member

/-! ## Symptoms -/

/-- The label of the transport neither has a phrase nor lends it a beginning. -/
theorem infix_transport_iff (member : phrase ∈ s.phrases) {reason : String} :
    phrase.toList <:+: (NodeError.transport reason).message.toList ↔
      phrase.toList <:+: reason.toList := by
  have labelled : (NodeError.transport reason).message.toList
      = "transport error".toList ++ ':' :: ' ' :: reason.toList := by
    rw [NodeError.message_transport, String.toList_append]
    rfl
  have label : IsMute "transport error".toList := by decide +kernel
  -- No phrase has a colon or begins with a blank, so it stands on one side of both.
  rw [labelled, Text.infix_append_cons_iff (Symptom.colon_not_mem member),
    (Symptom.isWording member).infix_blank_iff]
  exact or_iff_right (label.lacks member)

theorem infix_ofNode_iff (member : phrase ∈ s.phrases) (e : NodeError) :
    phrase.toList <:+: (ofNode e).message.toList ↔ e.Mentions phrase := by
  cases e with
  | answered code message data =>
    rw [infix_message_iff (Symptom.isWording member), NodeError.mentions_answered_iff]
  | transport reason =>
    refine (infix_transport_iff member).trans ?_
    simp [NodeError.Mentions, NodeError.words]
  | hashMismatch expected reported =>
    constructor
    · intro inside
      exact absurd inside ((isMute_mismatch expected reported).lacks member)
    · rintro ⟨text, member, -⟩
      cases member

theorem shows_ofNode_iff (s : Symptom) (e : NodeError) :
    (ofNode e).shows s = true ↔ ∃ phrase ∈ s.phrases, e.Mentions phrase := by
  rw [shows_iff]
  constructor
  · rintro ⟨phrase, member, inside⟩
    exact ⟨phrase, member, (infix_ofNode_iff member e).mp inside⟩
  · rintro ⟨phrase, member, said⟩
    exact ⟨phrase, member, (infix_ofNode_iff member e).mpr said⟩

theorem isShortOfFunds_ofNode_iff (e : NodeError) :
    (ofNode e).isShortOfFunds = true ↔ e.ReportsShortage := by
  rw [isShortOfFunds, Bool.or_eq_true, shows_ofNode_iff, shows_ofNode_iff]
  simp [Symptom.phrases, NodeError.ReportsShortage]

end ExecutionError

namespace Failure

open ExecutionError

/-- A symptom is shown exactly where one of its phrases stands in the words of the node or of the
transport, so never for a mistaken hash. An error is taken for a lack of funds exactly where the
words report one, and for any other error of the node otherwise, and it is kept in either case with
its code and its data. -/
theorem ofNodeError_goes_by_words :
    (∀ e s, (ofNode e).shows s = true ↔
      ∃ phrase ∈ s.phrases, ∃ text ∈ e.words, phrase.toList <:+: text.toList) ∧
    (∀ expected reported s, (ofNode (.hashMismatch expected reported)).shows s = false) ∧
    (∀ e, ((∃ s, ofNodeError e = .insufficientBalance s) ↔ e.ReportsShortage) ∧
      ((∃ x, ofNodeError e = .execution x) ↔ ¬e.ReportsShortage)) ∧
    (∀ e, (ofNodeError e).isNodes = true ∧
      ∃ x, (ofNodeError e).execution? = some x ∧
        x.cause = e ∧ x.code = e.code? ∧ x.data = e.data?) := by
  refine ⟨fun e s => shows_ofNode_iff s e, ?_, ?_, ?_⟩
  · intro expected reported s
    rw [Bool.eq_false_iff]
    intro shown
    obtain ⟨phrase, -, text, member, -⟩ := (shows_ofNode_iff s _).mp shown
    cases member
  · intro e
    rw [← isShortOfFunds_ofNode_iff, ofNodeError_eq_ite]
    by_cases short : (ofNode e).isShortOfFunds = true
    · rw [if_pos short]
      refine ⟨iff_of_true ⟨_, rfl⟩ short, iff_of_false ?_ (not_not_intro short)⟩
      rintro ⟨x, ⟨⟩⟩
    · rw [if_neg short]
      refine ⟨iff_of_false ?_ short, iff_of_true ⟨_, rfl⟩ short⟩
      rintro ⟨x, ⟨⟩⟩
  · intro e
    exact ⟨isNodes_ofNodeError e, ofNode e, execution?_ofNodeError e, rfl, rfl, rfl⟩

end Failure

end TxCourier

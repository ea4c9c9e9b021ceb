import TxCourier.Failure
import TxCourier.Proofs.Phrases

/-! # What a node's error is taken for

An error that a node answered is looked at through a line that has its code, its data and its
message in it. The symptoms that it shows depend on nothing but the data and the message, and so
does whether it is taken for a lack of funds: the code of a revert does not prevent that. Errors
that no node answered are not held here. -/
namespace TxCourier

namespace ExecutionError

variable {code : Int} {message phrase : String} {data : Option String} {s : Symptom}

/-! ## The node's own words -/

/-- The node has a phrase in its message or in its data. -/
def Says (phrase message : String) (data : Option String) : Prop :=
  phrase.toList <:+: message.toList ∨ ∃ text, data = some text ∧ phrase.toList <:+: text.toList

theorem Symptom.isWording (member : phrase ∈ s.phrases) : Text.IsWording phrase.toList := by
  have all : ∀ p ∈ s.phrases, Text.IsWording p.toList := by
    cases s <;> decide +kernel
  exact all phrase member

theorem blank_not_mem_repr (n : Int) : ' ' ∉ n.repr.toList := by
  have digits (m : Nat) : ' ' ∉ m.repr.toList := by
    rw [Nat.toList_repr]
    intro member
    exact absurd (Nat.isDigit_of_mem_toDigits (by decide) (by decide) member) (by decide)
  cases n with
  | ofNat m => exact digits m
  | negSucc m =>
    change ' ' ∉ ("-" ++ (m + 1).repr).toList
    rw [String.toList_append, List.mem_append]
    rintro (sign | member)
    · exact absurd sign (by decide)
    · exact digits _ member

theorem parts_answered :
    (ofNode (.answered code message data)).parts
      = (if code = 0 then [] else ["code=" ++ code.repr]) ++ data.toList.map ("data=" ++ ·)
        ++ [message] := by
  cases data <;> rfl

/-- Nothing that is put around the words, the code among it, has anything of a phrase. -/
theorem infix_message_iff (wording : Text.IsWording phrase.toList) :
    phrase.toList <:+: (ofNode (.answered code message data)).message.toList ↔
      Says phrase message data := by
  have coded : ¬phrase.toList <:+: ("code=" ++ code.repr).toList := by
    rw [String.toList_append]
    exact mt (wording.infix_labelled_iff "code".toList _ (by decide)).mp
      (wording.not_infix (blank_not_mem_repr code))
  have labelled (text : String) :
      phrase.toList <:+: ("data=" ++ text).toList ↔ phrase.toList <:+: text.toList := by
    rw [String.toList_append]
    exact wording.infix_labelled_iff "data".toList _ (by decide)
  -- Of the three parts only those for the data and for the message can have the phrase.
  rw [ExecutionError.message, wording.infix_joined_iff, parts_answered]
  constructor
  · rintro ⟨part, member, inside⟩
    rcases List.mem_append.mp member with marked | last
    · rcases List.mem_append.mp marked with first | second
      · split at first
        · cases first
        · rw [List.mem_singleton.mp first] at inside
          exact absurd inside coded
      · obtain ⟨text, given, rfl⟩ := List.mem_map.mp second
        exact .inr ⟨text, Option.mem_toList.mp given, (labelled text).mp inside⟩
    · rw [List.mem_singleton.mp last] at inside
      exact .inl inside
  · rintro (inside | ⟨text, rfl, inside⟩)
    · exact ⟨message, List.mem_append_right _ List.mem_cons_self, inside⟩
    · have given : "data=" ++ text ∈ (some text).toList.map ("data=" ++ ·) := List.mem_cons_self
      exact ⟨"data=" ++ text, List.mem_append_left _ (List.mem_append_right _ given),
        (labelled text).mpr inside⟩

theorem shows_iff {e : ExecutionError} :
    e.shows s = true ↔ ∃ phrase ∈ s.phrases, phrase.toList <:+: e.message.toList := by
  rw [shows, mentions, List.any_eq_true]
  constructor
  · rintro ⟨phrase, member, inside⟩
    exact ⟨phrase, member, Text.hasPhrase_iff_infix.mp inside⟩
  · rintro ⟨phrase, member, inside⟩
    exact ⟨phrase, member, Text.hasPhrase_iff_infix.mpr inside⟩

theorem shows_answered_iff :
    (ofNode (.answered code message data)).shows s = true ↔
      ∃ phrase ∈ s.phrases, Says phrase message data := by
  rw [shows_iff]
  constructor
  · rintro ⟨phrase, member, inside⟩
    exact ⟨phrase, member, (infix_message_iff (Symptom.isWording member)).mp inside⟩
  · rintro ⟨phrase, member, said⟩
    exact ⟨phrase, member, (infix_message_iff (Symptom.isWording member)).mpr said⟩

/-- The node says in one of two wordings that the sender cannot pay. -/
def SaysShort (message : String) (data : Option String) : Prop :=
  Says "insufficient funds for gas" message data ∨
    Says "insufficient funds for transfer" message data

theorem isShortOfFunds_answered_iff (code : Int) :
    (ofNode (.answered code message data)).isShortOfFunds = true ↔ SaysShort message data := by
  rw [isShortOfFunds, Bool.or_eq_true, shows_answered_iff, shows_answered_iff]
  simp [Symptom.phrases, SaysShort]

end ExecutionError

/-! ## The failure -/

namespace Failure

open ExecutionError

theorem ofNodeError_eq_ite (e : NodeError) :
    ofNodeError e = if (ofNode e).isShortOfFunds = true then
      .insufficientBalance ⟨none, some (ofNode e)⟩ else .execution (ofNode e) := rfl

/-- What the node answered is kept in either case. -/
theorem execution?_ofNodeError (e : NodeError) : (ofNodeError e).execution? = some (ofNode e) := by
  rw [ofNodeError_eq_ite]
  split <;> rfl

theorem isNodes_ofNodeError (e : NodeError) : (ofNodeError e).isNodes = true := by
  rw [ofNodeError_eq_ite]
  split <;> rfl

theorem shortfall?_ofNodeError (e : NodeError) :
    (ofNodeError e).shortfall?
      = if (ofNode e).isShortOfFunds = true then some ⟨none, some (ofNode e)⟩ else none := by
  rw [ofNodeError_eq_ite]
  split <;> rfl

/-- What a node answered is kept, and it is taken for a lack of funds wherever the words say so. So
the report of a revert is taken for a revert, and for no lack of funds, just where neither of the
two wordings is in its message or in its data, both of which a contract may have chosen. -/
theorem ofNodeError_reports_revert_iff (code : Int) (message : String) (data : Option String) :
    (ofNodeError (.answered code message data)).execution?
      = some (ofNode (.answered code message data)) ∧
    (∀ s, (ofNodeError (.answered code message data)).shortfall? = some s ↔
      SaysShort message data ∧ s = ⟨none, some (ofNode (.answered code message data))⟩) ∧
    ((∃ e, ofNodeError (.answered code message data) = .execution e ∧ e.isReverted = true ∧
        (ofNodeError (.answered code message data)).shortfall? = none) ↔
      code = 3 ∧ ¬SaysShort message data) := by
  rw [← isShortOfFunds_answered_iff code]
  refine ⟨execution?_ofNodeError _, ?_, ?_⟩
  · intro s
    rw [shortfall?_ofNodeError, Option.ite_none_right_eq_some, Option.some.injEq, eq_comm (b := s)]
  · constructor
    · rintro ⟨e, taken, reverted, funded⟩
      have solvent : ¬(ofNode (.answered code message data)).isShortOfFunds = true := by
        rw [shortfall?_ofNodeError] at funded
        simpa using funded
      rw [ofNodeError_eq_ite, if_neg solvent] at taken
      cases taken
      exact ⟨Option.some.inj (of_decide_eq_true reverted), solvent⟩
    · rintro ⟨rfl, solvent⟩
      refine ⟨ofNode (.answered 3 message data), ?_, rfl, ?_⟩
      · rw [ofNodeError_eq_ite, if_neg solvent]
      · rw [shortfall?_ofNodeError, if_neg solvent]

/-- A contract that reverts with the words of the one wording is reported as a lack of funds. -/
theorem ofNodeError_reports_shortfall_of_revert :
    (ofNode (.answered 3 "execution reverted: insufficient funds for gas" none)).isReverted = true ∧
    (ofNodeError (.answered 3 "execution reverted: insufficient funds for gas" none)).shortfall?
      = some ⟨none,
        some (ofNode (.answered 3 "execution reverted: insufficient funds for gas" none))⟩ ∧
    ∀ e, ofNodeError (.answered 3 "execution reverted: insufficient funds for gas" none)
      ≠ .execution e := by
  have short : (ofNode (.answered 3 "execution reverted: insufficient funds for gas"
      none)).isShortOfFunds = true := by
    decide +kernel
  refine ⟨rfl, ?_, ?_⟩
  · rw [shortfall?_ofNodeError, if_pos short]
  · intro e
    rw [ofNodeError_eq_ite, if_pos short]
    exact Failure.noConfusion

end Failure

end TxCourier

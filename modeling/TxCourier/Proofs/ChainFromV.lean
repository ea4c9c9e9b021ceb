import TxCourier.Proofs.JsonRoundTrip
import TxCourier.Proofs.Reached
import TxCourier.Proofs.StoredParity

/-! # Chains that are found in `v`

A transaction object of the oldest type may leave its chain out. Where `v` is large enough to hold a
chain, it is split into that chain and a parity without a rest, and nothing wraps. So an object that
was written with its chain is the same envelope without it, as long as its `v` did not wrap when it
was signed. What a chain that is given has to do with `v` is not held here. -/
namespace TxCourier

open Json

/-! ## Objects without a member -/

namespace Json

/-- An object without the members of a name, and any other value as it is. -/
def without (name : String) : Json → Json
  | .object members => .object (members.filter fun m => m.1 != some name)
  | v => v

theorem without_ofMembers (name : String) (members : List (String × Option Json)) :
    (ofMembers members).without name
      = ofMembers (members.map fun m => if m.1 = name then (m.1, none) else m) := by
  unfold ofMembers without
  dsimp only
  refine congrArg Json.object ?_
  induction members with
  | nil => rfl
  | cons m rest ih =>
    obtain ⟨here, value⟩ := m
    by_cases same : here = name
    · cases value with
      | none => simpa [same] using ih
      | some v => simpa [same] using ih
    · cases value with
      | none => simpa [same] using ih
      | some v => simpa [same] using ih

end Json

namespace TransactionObject

/-- The object with its chain left out. -/
def withoutChain (t : TransactionObject) : TransactionObject := { t with chainId := none }

theorem without_toJson (t : TransactionObject) :
    t.toJson.without "chainId" = t.withoutChain.toJson := by
  rw [toJson_eq, toJson_eq, without_ofMembers]
  simp [members, withoutChain]

variable {t : TransactionObject} {e : Envelope}

/-- Leaving the chain out makes no difference where the same chain is found without it. -/
theorem envelope_withoutChain {type : TxType} (named : t.typeOf = .ok type)
    (same : t.withoutChain.chainOf type = t.chainOf type) :
    t.withoutChain.envelope = t.envelope := by
  have named' : t.withoutChain.typeOf = .ok type := named
  unfold envelope
  rw [named, named']
  change (t.withoutChain.chainOf type >>= _) = (t.chainOf type >>= _)
  rw [same]
  rfl

/-! ## What is read of an object -/

theorem eq_of_ofJson? {object : Json} (read : ofJson? object = some t) :
    ∃ r, object.record? names = some r ∧ r.required "type" Json.uint64? = some t.type ∧
      r.optional "chainId" Json.word? = some t.chainId ∧
      r.withDefault "v" 0 Json.word? = some t.v := by
  unfold ofJson? at read
  obtain ⟨r, record, read⟩ := Option.bind_eq_some_iff.mp read
  obtain ⟨type, named, read⟩ := Option.bind_eq_some_iff.mp read
  obtain ⟨chainId, chain, read⟩ := Option.bind_eq_some_iff.mp read
  iterate 12 obtain ⟨_, -, read⟩ := Option.bind_eq_some_iff.mp read
  obtain ⟨v, stored, read⟩ := Option.bind_eq_some_iff.mp read
  iterate 7 obtain ⟨_, -, read⟩ := Option.bind_eq_some_iff.mp read
  cases read
  exact ⟨r, record, named, chain, stored⟩

/-- An object of the oldest type without a chain gives an envelope with its `v`, and with the chain
that is found in it. -/
theorem eq_of_envelope (legacy : t.type = 0) (chainless : t.chainId = none)
    (made : t.envelope = .ok e) :
    e.type = .legacy ∧ e.signature.v = t.v ∧
      e.chainId = if 35 ≤ t.v.toNat then (t.v - 35) / 2 else 0 := by
  have named : t.typeOf = .ok .legacy := by
    unfold typeOf
    rw [legacy]
    rfl
  obtain ⟨type, -⟩ := recipient_of_envelope named made
  obtain ⟨named', found, made⟩ := Envelope.bind_eq_ok.mp made
  obtain ⟨chainId, chain, made⟩ := Envelope.bind_eq_ok.mp made
  obtain ⟨fields, -, same⟩ := Envelope.bind_eq_ok.mp made
  cases named.symm.trans found
  unfold chainOf at chain
  rw [chainless] at chain
  cases chain
  cases same
  refine ⟨type, ?_, rfl⟩
  -- The parity of a transaction object stands in for `v` on the other types only.
  change t.storedV .legacy = t.v
  unfold storedV
  split
  · exact if_neg fun replaced => Bool.false_ne_true replaced.1
  · rfl

end TransactionObject

namespace Envelope

/-! ## What is found in `v` -/

variable {e : Envelope}

theorem toNat_half_of_le {v : Word} (large : 35 ≤ v.toNat) :
    ((v - 35) / 2).toNat = (v.toNat - 35) / 2 := by
  have base : (35 : Word).toNat = 35 := rfl
  have two : (2 : Word).toNat = 2 := rfl
  have least : (35 : Word) ≤ v := BitVec.le_def.mpr large
  have rest : (v - 35).toNat = v.toNat - 35 := by
    rw [BitVec.toNat_sub_of_le least, base]
  rw [BitVec.toNat_udiv, rest, two]

/-- The chain that is found in `v` and the parity that is left over are all of it. -/
theorem split_of_chainId (legacy : e.type = .legacy) (large : 35 ≤ e.signature.v.toNat)
    (chain : e.chainId = (e.signature.v - 35) / 2) :
    e.isReplayProtected = true ∧
      e.yParity = .ok (decide ((e.signature.v.toNat - 35) % 2 = 1)) ∧
      e.signature.v.toNat = 35 + 2 * e.chainId.toNat + (e.signature.v.toNat - 35) % 2 := by
  have half : e.chainId.toNat = (e.signature.v.toNat - 35) / 2 := by
    rw [chain, toNat_half_of_le large]
  have bound := e.signature.v.toNat_lt_size
  have positive : e.signature.v ≠ 0 := by
    intro zero
    rw [zero] at large
    exact absurd large (by decide)
  have protects : e.isReplayProtected = true := by
    have other : ¬isChainless e.signature.v = true := by
      rw [isChainless_iff]
      omega
    simpa [isReplayProtected] using other
  have offset : e.parityOffset.toNat = 35 + 2 * e.chainId.toNat := by
    rw [parityOffset_of_legacy legacy positive, protects, if_pos rfl, toNat_chained_mod]
    exact Nat.mod_eq_of_lt (by omega)
  refine ⟨protects, ?_, by omega⟩
  rw [yParity_eq_ok_iff, offset]
  rcases Nat.mod_two_eq_zero_or_one (e.signature.v.toNat - 35) with even | odd
  · simp [even]
    omega
  · simp [odd]
    omega

/-- A `v` that did not wrap when it was stored has the chain in it. -/
theorem chain_of_applySignature (legacy : e.type = .legacy)
    (room : 2 * e.chainId.toNat + 36 < Word.size) (outcome : SignOutcome) :
    35 ≤ (e.applySignature outcome).signature.v.toNat ∧
      ((e.applySignature outcome).signature.v - 35) / 2 = e.chainId := by
  obtain ⟨parity, stored⟩ : ∃ parity : Bool, (e.applySignature outcome).signature.v
      = storedV (if parity then 1 else 0) e.chainId true := by
    cases outcome with
    | signature sig => exact ⟨sig.parity, v_applySignature legacy sig⟩
    | noSignature =>
      refine ⟨false, ?_⟩
      simp [applySignature, setSignature, legacy, TxType.isTyped]
      rfl
  have bit := parity.toNat_le
  have value : (e.applySignature outcome).signature.v.toNat
      = 35 + 2 * e.chainId.toNat + parity.toNat := by
    rw [stored, toNat_storedV_mod]
    exact Nat.mod_eq_of_lt (by omega)
  have large : 35 ≤ (e.applySignature outcome).signature.v.toNat := by omega
  refine ⟨large, ?_⟩
  apply BitVec.eq_of_toNat_eq
  rw [toNat_half_of_le large]
  omega

/-- A text that writes a transaction object of the oldest type, with a certain `v` and with no chain
or a null one. -/
def WritesChainless (text : String) (v : Word) : Prop :=
  ∃ object r, Json.parse? text = some object ∧
    object.record? TransactionObject.names = some r ∧
    r.required "type" Json.uint64? = some 0 ∧
    (r.find? "chainId" = none ∨ r.find? "chainId" = some .null) ∧
    r.withDefault "v" 0 Json.word? = some v

theorem writesChainless_withoutChain (legacy : e.type = .legacy) :
    WritesChainless e.object.withoutChain.toJson.render e.signature.v := by
  have distinct := e.object.withoutChain.distinct_members
  have found := @Record.find?_getElem? _ distinct
  have code : e.object.withoutChain.type = 0 := by
    change e.type.code.toUInt64 = 0
    rw [legacy]
    rfl
  refine ⟨_, _, parse?_render (TransactionObject.isSpelled_toJson _), record?_ofMembers distinct _,
    ?_, .inl (found 1 rfl), Record.withDefault_eq exchanges_word 0 (found 14 rfl)⟩
  rw [← code]
  exact Record.required_eq exchanges_uint64 (found 0 rfl)

/-- What stands in the text is what is read, and the chain is the one that is found. -/
theorem eq_of_writesChainless {text : String} {v : Word} (written : WritesChainless text v)
    (accepted : ofJson text = .ok e) :
    e.type = .legacy ∧ e.signature.v = v ∧
      e.chainId = if 35 ≤ v.toNat then (v - 35) / 2 else 0 := by
  obtain ⟨object, r, parsed, record, typed, absent, stored⟩ := written
  unfold ofJson at accepted
  rw [parsed, Option.bind_some] at accepted
  split at accepted
  · cases accepted
  · rename_i t read
    obtain ⟨r', record', named, chain, stored'⟩ := TransactionObject.eq_of_ofJson? read
    cases record.symm.trans record'
    have legacy : t.type = 0 := Option.some.inj (named.symm.trans typed)
    have same : t.v = v := Option.some.inj (stored'.symm.trans stored)
    have chainless : t.chainId = none := by
      unfold Record.optional at chain
      rcases absent with absent | null
      · rw [absent] at chain
        exact (Option.some.inj chain).symm
      · rw [null] at chain
        exact (Option.some.inj chain).symm
    rw [← same]
    exact TransactionObject.eq_of_envelope legacy chainless accepted

theorem ofJson_withoutChain (legacy : e.type = .legacy) (large : 35 ≤ e.signature.v.toNat)
    (chain : (e.signature.v - 35) / 2 = e.chainId) :
    ofJson e.object.withoutChain.toJson.render = .ok e := by
  have named : e.object.typeOf = .ok .legacy := legacy ▸ typeOf_object e
  have same : e.object.withoutChain.chainOf .legacy = e.object.chainOf .legacy := by
    change Except.ok (if 35 ≤ e.signature.v.toNat then (e.signature.v - 35) / 2 else 0)
      = .ok e.chainId
    rw [if_pos large, chain]
  unfold ofJson
  rw [parse?_render (TransactionObject.isSpelled_toJson _), Option.bind_some,
    TransactionObject.ofJson?_toJson]
  exact (TransactionObject.envelope_withoutChain named same).trans (envelope_object e)

/-- On the oldest type an object without a chain is read as one with the chain that is in its `v`.
Below 35 there is none, and the chain is zero. From 35 up, `v` is 35 and twice the chain and the
parity, exactly, and the chain is signed. So an envelope whose `v` did not wrap when it was signed
comes back from its object without the chain. -/
theorem chain_found_in_v :
    (∀ {text : String} {v : Word} {e : Envelope}, WritesChainless text v → ofJson text = .ok e →
      e.type = .legacy ∧ e.signature.v = v ∧ (v.toNat < 35 → e.chainId = 0) ∧
      (35 ≤ v.toNat → e.isReplayProtected = true ∧
        e.yParity = .ok (decide ((v.toNat - 35) % 2 = 1)) ∧
        v.toNat = 35 + 2 * e.chainId.toNat + (v.toNat - 35) % 2)) ∧
    ∀ {e : Envelope} (outcome : SignOutcome), e.type = .legacy →
      2 * e.chainId.toNat + 36 < Word.size →
      ∃ object, Json.parse? (e.applySignature outcome).toJson = some object ∧
        WritesChainless (object.without "chainId").render (e.applySignature outcome).signature.v ∧
        ofJson (object.without "chainId").render = .ok (e.applySignature outcome) := by
  constructor
  · intro text v e written accepted
    obtain ⟨legacy, rfl, found⟩ := eq_of_writesChainless written accepted
    refine ⟨legacy, rfl, ?_, ?_⟩
    · intro small
      rw [found, if_neg (by omega)]
    · intro large
      rw [if_pos large] at found
      exact split_of_chainId legacy large found
  · intro e outcome legacy room
    have kept : (e.applySignature outcome).type = .legacy := legacy
    obtain ⟨large, chain⟩ := chain_of_applySignature legacy room outcome
    refine ⟨_, parse?_render (TransactionObject.isSpelled_toJson _), ?_, ?_⟩
    · rw [TransactionObject.without_toJson]
      exact writesChainless_withoutChain kept
    · rw [TransactionObject.without_toJson]
      exact ofJson_withoutChain kept large chain

/-- The largest chain for which no `v` wraps. -/
def widestChain : Word := BitVec.ofNat 256 (Word.size / 2 - 19)

theorem chain_found_in_v_widest :
    2 * widestChain.toNat + 36 < Word.size ∧
      ∃ text, ofJson text
          = .ok ((new .legacy widestChain).applySignature (.signature ⟨1, 2, true⟩)) ∧
        WritesChainless text (BitVec.ofNat 256 (Word.size - 2)) ∧
        Word.size - 2 = 35 + 2 * widestChain.toNat + 1 := by
  have room : 2 * widestChain.toNat + 36 < Word.size := by decide
  obtain ⟨object, -, written, again⟩ :=
    chain_found_in_v.2 (e := new .legacy widestChain) (.signature ⟨1, 2, true⟩) rfl room
  obtain ⟨-, -, -, split⟩ := chain_found_in_v.1 written again
  exact ⟨room, _, again, written, (split (by decide)).2.2⟩

end Envelope

end TxCourier

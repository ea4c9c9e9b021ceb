import TxCourier.Proofs.Conversion

/-! # What is converted, and what comes back

An envelope has a canonical transaction exactly where its chain has 64 bits, its `v` tells a parity
and its fees have 128 bits, which is looked at in this order. What comes back is the envelope but
for its blobs and for the forms of a signature that the oldest type has more than one of. -/
namespace TxCourier

/-- The fees of a type by the names under which they are refused, in the order in which they are
looked at. -/
def Fields.namedFees : Fields → List (String × Word)
  | legacy price | accessList price _ => [("gas_price", price)]
  | dynamicFee fees _ | setCode fees _ _ =>
    [("max_fee_per_gas", fees.cap), ("max_priority_fee_per_gas", fees.tip)]
  | blob fees _ cap _ _ =>
    [("max_fee_per_gas", fees.cap), ("max_priority_fee_per_gas", fees.tip),
      ("max_fee_per_blob_gas", cap)]

/-- The first fee that a canonical transaction has no room for. -/
def Fields.excessive? (fields : Fields) : Option (String × Word) :=
  fields.namedFees.find? fun fee => Fee.size ≤ fee.2.toNat

namespace Envelope

/-- The values of `v` that tell a parity. -/
def TellsParity (e : Envelope) : Prop :=
  if e.type = .legacy then
    e.signature.v.toNat ∈ [0, 27, 28, 35 + 2 * e.chainId.toNat, 36 + 2 * e.chainId.toNat]
  else e.signature.v.toNat ∈ [0, 1]

/-! ## The parity -/

section Parity

variable {e : Envelope}

/-- What is wrong with a parity is wrong with the signature. -/
theorem invalid_of_yParity {err : EnvelopeError} (refused : e.yParity = .error err) :
    ∃ fault, err = .invalidSignature fault := by
  unfold yParity at refused
  split at refused
  · cases refused
    exact ⟨_, rfl⟩
  · split at refused
    · cases refused
    · split at refused
      · cases refused
      · cases refused
        exact ⟨_, rfl⟩

theorem toNat_chained (chain : e.chainId.toNat < UInt64.size) :
    (35 + e.chainId * 2).toNat = 35 + 2 * e.chainId.toNat := by
  have small : e.chainId.toNat < 18446744073709551616 := chain
  rw [toNat_chained_mod, Word.size]
  omega

/-- The offset is that of the kind of `v`, and never more than `v` of another kind would have. -/
theorem yParity_isOk_iff (chain : e.chainId.toNat < UInt64.size) :
    (∃ parity, e.yParity = .ok parity) ↔ e.TellsParity := by
  simp only [yParity_eq_ok_iff, Bool.exists_bool, Bool.toNat_false, Bool.toNat_true]
  unfold TellsParity
  simp only [List.mem_cons, List.not_mem_nil, or_false]
  by_cases legacy : e.type = .legacy
  · rw [if_pos legacy]
    by_cases zero : e.signature.v = 0
    · have bare : e.parityOffset = 0 := if_pos (.inr zero)
      simp [bare, zero]
    · have positive : e.signature.v.toNat ≠ 0 := fun h => zero (BitVec.eq_of_toNat_eq h)
      rw [parityOffset_of_legacy legacy zero]
      by_cases chainless : isChainless e.signature.v = true
      · have offset : e.isReplayProtected = false := by simp [isReplayProtected, chainless]
        have values : e.signature.v = 27 ∨ e.signature.v = 28 := by
          simpa [isChainless] using chainless
        rw [offset]
        rcases values with v | v <;> simp [v]
      · have offset : e.isReplayProtected = true := by simp [isReplayProtected, chainless]
        have not27 : e.signature.v.toNat ≠ 27 := fun h =>
          chainless (decide_eq_true (.inl (BitVec.eq_of_toNat_eq h)))
        have not28 : e.signature.v.toNat ≠ 28 := fun h =>
          chainless (decide_eq_true (.inr (BitVec.eq_of_toNat_eq h)))
        rw [offset, if_pos rfl, toNat_chained chain]
        omega
  · rw [if_neg legacy, parityOffset_of_typed legacy]
    simp

end Parity

/-! ## The marker -/

section Marker

variable {e : Envelope}

theorem marked_of_typed (typed : e.type ≠ .legacy) : e.marked = e := by
  rw [marked, if_neg]
  rintro ⟨untyped, -⟩
  exact typed (TxType.isTyped_eq_false_iff.mp untyped)

theorem marked_of_empty (legacy : e.type = .legacy) (empty : e.signature.isEmpty = true) :
    e.marked = e.setSignature ⟨storedV 27 e.chainId true, 1, 1⟩ :=
  if_pos ⟨TxType.isTyped_eq_false_iff.mpr legacy, empty⟩

@[simp] theorem chainId_marked (e : Envelope) : e.marked.chainId = e.chainId := by
  unfold marked
  split <;> rfl

@[simp] theorem type_marked (e : Envelope) : e.marked.type = e.type := by
  unfold marked
  split <;> rfl

theorem toNat_marker (chain : e.chainId.toNat < UInt64.size) :
    (storedV 27 e.chainId true).toNat = 35 + 2 * e.chainId.toNat := by
  exact toNat_storedV chain false

/-- The marker tells a parity, as the lack of a signature does. -/
theorem tellsParity_marked (chain : e.chainId.toNat < UInt64.size) :
    e.marked.TellsParity ↔ e.TellsParity := by
  by_cases legacy : e.type = .legacy
  · cases empty : e.signature.isEmpty with
    | false => rw [marked_of_signed empty]
    | true =>
      rw [marked_of_empty legacy empty]
      have zero : e.signature.v = 0 := (of_decide_eq_true empty).1
      have value := toNat_marker chain
      have before : e.TellsParity := by
        rw [TellsParity, if_pos legacy, zero]
        exact List.mem_cons_self
      have behind : (e.setSignature ⟨storedV 27 e.chainId true, 1, 1⟩).TellsParity := by
        have legacy' : (e.setSignature ⟨storedV 27 e.chainId true, 1, 1⟩).type = .legacy := legacy
        rw [TellsParity, if_pos legacy']
        simp [setSignature, value]
      exact iff_of_true behind before
  · rw [marked_of_typed legacy]

/-- Without a signature, or with what the lack of one is stored as, the oldest type carries the
marker of its chain. -/
theorem signature_marked_of_unsigned (legacy : e.type = .legacy)
    (unsigned : e.signature.isEmpty = true ∨ e.applySignature .noSignature = e) :
    e.marked.signature = ⟨storedV 27 e.chainId true, 1, 1⟩ := by
  rcases unsigned with empty | stays
  · rw [marked_of_empty legacy empty]
    rfl
  · have stored : e.signature = ⟨storedV 27 e.chainId true, 1, 1⟩ := by
      rw [← stays]
      simp [applySignature, setSignature, legacy, TxType.isTyped]
    have there : e.signature.isEmpty = false := by
      rw [stored]
      exact decide_eq_false fun empty => (by decide : (1 : Word) ≠ 0) empty.2.1
    rw [marked_of_signed there, stored]

end Marker

/-! ## The fees -/

theorem fee_of_lt {w : Word} (field : String) (fits : w.toNat < Fee.size) :
    ∃ f, fee field w = .ok f := by
  unfold fee Word.toFee?
  rw [if_pos fits]
  exact ⟨_, rfl⟩

theorem fee_of_le {w : Word} (field : String) (large : Fee.size ≤ w.toNat) :
    fee field w = .error (.fieldOverflow field) := by
  unfold fee Word.toFee?
  rw [if_neg (Nat.not_lt.mpr large)]

theorem feePair_of_lt {caps : FeeCaps} (cap : caps.cap.toNat < Fee.size)
    (tip : caps.tip.toNat < Fee.size) : ∃ fees, feePair caps = .ok fees := by
  obtain ⟨c, capped⟩ := fee_of_lt "max_fee_per_gas" cap
  obtain ⟨p, tipped⟩ := fee_of_lt "max_priority_fee_per_gas" tip
  refine ⟨⟨p, c⟩, ?_⟩
  rw [feePair, capped, tipped]
  rfl

theorem feePair_of_le {caps : FeeCaps} (large : Fee.size ≤ caps.cap.toNat) :
    feePair caps = .error (.fieldOverflow "max_fee_per_gas") := by
  rw [feePair, fee_of_le _ large]
  rfl

theorem feePair_of_lt_of_le {caps : FeeCaps} (cap : caps.cap.toNat < Fee.size)
    (large : Fee.size ≤ caps.tip.toNat) :
    feePair caps = .error (.fieldOverflow "max_priority_fee_per_gas") := by
  obtain ⟨c, capped⟩ := fee_of_lt "max_fee_per_gas" cap
  rw [feePair, capped, fee_of_le _ large]
  rfl

/-- The body is made where no fee is too large, and otherwise the first such fee is named. -/
theorem canonicalBody_of_excessive? (e : Envelope) (c : UInt64) :
    (e.fields.excessive? = none → ∃ body, e.canonicalBody c = .ok body) ∧
    (∀ fee, e.fields.excessive? = some fee →
      e.canonicalBody c = .error (.fieldOverflow fee.1)) := by
  unfold Fields.excessive? canonicalBody
  cases e.fields with
  | legacy price | accessList price list =>
    by_cases fits : price.toNat < Fee.size
    · obtain ⟨p, priced⟩ := fee_of_lt "gas_price" fits
      simp [Fields.namedFees, fits, priced, bind, Except.bind, pure, Except.pure]
    · have large := Nat.not_lt.mp fits
      simp [Fields.namedFees, large, fee_of_le _ large, bind, Except.bind]
  | dynamicFee caps list | setCode caps list auths =>
    by_cases cap : caps.cap.toNat < Fee.size
    · by_cases tip : caps.tip.toNat < Fee.size
      · obtain ⟨fees, priced⟩ := feePair_of_lt cap tip
        simp [Fields.namedFees, cap, tip, priced, bind, Except.bind, pure, Except.pure]
      · have large := Nat.not_lt.mp tip
        simp [Fields.namedFees, cap, large, feePair_of_lt_of_le cap large, bind, Except.bind]
    · have large := Nat.not_lt.mp cap
      simp [Fields.namedFees, large, feePair_of_le large, bind, Except.bind]
  | blob caps list blobCap hashes sidecar =>
    by_cases cap : caps.cap.toNat < Fee.size
    · by_cases tip : caps.tip.toNat < Fee.size
      · obtain ⟨fees, priced⟩ := feePair_of_lt cap tip
        by_cases fits : blobCap.toNat < Fee.size
        · obtain ⟨b, capped⟩ := fee_of_lt "max_fee_per_blob_gas" fits
          simp [Fields.namedFees, cap, tip, fits, priced, capped, bind, Except.bind, pure,
            Except.pure]
        · have large := Nat.not_lt.mp fits
          simp [Fields.namedFees, cap, tip, large, priced, fee_of_le _ large, bind, Except.bind]
      · have large := Nat.not_lt.mp tip
        simp [Fields.namedFees, cap, large, feePair_of_lt_of_le cap large, bind, Except.bind]
    · have large := Nat.not_lt.mp cap
      simp [Fields.namedFees, large, feePair_of_le large, bind, Except.bind]

/-! ## The domain -/

section Domain

variable {e : Envelope}

theorem toCanonical_of_wideChain (wide : UInt64.size ≤ e.chainId.toNat) :
    e.toCanonical = .error (.fieldOverflow "chain_id") := by
  rw [toCanonical, Word.toUInt64?, if_neg (Nat.not_lt.mpr wide)]

/-- With a chain that fits, the parity comes before the body. -/
theorem toCanonical_eq_bind (chain : e.chainId.toNat < UInt64.size) :
    e.toCanonical = e.marked.yParity >>= fun parity =>
      e.canonicalBody (UInt64.ofNat e.chainId.toNat) >>= fun body =>
        pure ⟨e.nonce, e.gas, e.value, e.data, body,
          ⟨e.marked.signature.r, e.marked.signature.s, parity⟩⟩ := by
  rw [toCanonical, Word.toUInt64?, if_pos chain]

theorem yParity_marked_isOk_iff (chain : e.chainId.toNat < UInt64.size) :
    (∃ parity, e.marked.yParity = .ok parity) ↔ e.TellsParity := by
  have chain' : e.marked.chainId.toNat < UInt64.size := by rwa [chainId_marked]
  exact (yParity_isOk_iff chain').trans (tellsParity_marked chain)

theorem toCanonical_of_foreignV (chain : e.chainId.toNat < UInt64.size)
    (foreign : ¬e.TellsParity) : ∃ fault, e.toCanonical = .error (.invalidSignature fault) := by
  rw [toCanonical_eq_bind chain]
  cases told : e.marked.yParity with
  | ok parity => exact absurd ((yParity_marked_isOk_iff chain).mp ⟨parity, told⟩) foreign
  | error err =>
    obtain ⟨fault, rfl⟩ := invalid_of_yParity told
    exact ⟨fault, rfl⟩

theorem toCanonical_of_excessive {fee : String × Word} (chain : e.chainId.toNat < UInt64.size)
    (tells : e.TellsParity) (excessive : e.fields.excessive? = some fee) :
    e.toCanonical = .error (.fieldOverflow fee.1) := by
  obtain ⟨parity, told⟩ := (yParity_marked_isOk_iff chain).mpr tells
  rw [toCanonical_eq_bind chain, told, (canonicalBody_of_excessive? e _).2 fee excessive]
  rfl

theorem exists_toCanonical (chain : e.chainId.toNat < UInt64.size) (tells : e.TellsParity)
    (fits : e.fields.excessive? = none) : ∃ g, e.toCanonical = .ok g := by
  obtain ⟨parity, told⟩ := (yParity_marked_isOk_iff chain).mpr tells
  obtain ⟨body, made⟩ := (canonicalBody_of_excessive? e _).1 fits
  rw [toCanonical_eq_bind chain, told, made]
  exact ⟨_, rfl⟩

theorem excessive?_eq_none_iff (fields : Fields) :
    fields.excessive? = none ↔ ∀ fee ∈ fields.fees, fee.toNat < Fee.size := by
  unfold Fields.excessive?
  cases fields <;>
    simp [Fields.namedFees, Fields.fees, List.find?_eq_none, and_comm, and_assoc, and_left_comm]

/-- The conversion succeeds exactly where chain, parity and fees fit. -/
theorem toCanonical_isOk_iff : (∃ g, e.toCanonical = .ok g) ↔
    e.chainId.toNat < UInt64.size ∧ e.TellsParity ∧
      ∀ fee ∈ e.fields.fees, fee.toNat < Fee.size := by
  constructor
  · rintro ⟨g, converted⟩
    by_cases chain : e.chainId.toNat < UInt64.size
    · by_cases tells : e.TellsParity
      · refine ⟨chain, tells, (excessive?_eq_none_iff _).mp ?_⟩
        cases excessive : e.fields.excessive? with
        | none => rfl
        | some fee =>
          rw [toCanonical_of_excessive chain tells excessive] at converted
          cases converted
      · obtain ⟨fault, refused⟩ := toCanonical_of_foreignV chain tells
        rw [refused] at converted
        cases converted
    · rw [toCanonical_of_wideChain (Nat.not_lt.mp chain)] at converted
      cases converted
  · rintro ⟨chain, tells, fits⟩
    exact exists_toCanonical chain tells ((excessive?_eq_none_iff _).mpr fits)

end Domain

/-! ## What comes back -/

/-- The stored form in which a signature comes back: on the oldest type two ones stand for none,
and a bare parity is told with the chain. -/
def returnedSignature (e : Envelope) : RawSignature :=
  let sig := e.signature
  if e.type = .legacy then
    if sig.r = 1 ∧ sig.s = 1 then .empty
    else if sig.v = 0 ∧ ¬(sig.r = 0 ∧ sig.s = 0) then ⟨35 + e.chainId * 2, sig.r, sig.s⟩
    else sig
  else sig

/-- The envelope as it comes back. -/
def returned (e : Envelope) : Envelope := (e.setSignature e.returnedSignature).withoutSidecar

section Returned

variable {e : Envelope} {g : CanonicalTx}

theorem eq_empty_of_isEmpty {sig : RawSignature} (empty : sig.isEmpty = true) : sig = .empty := by
  obtain ⟨v, r, s⟩ := sig
  obtain ⟨rfl, rfl, rfl⟩ := of_decide_eq_true empty
  rfl

theorem storedSignature_of_bareLegacy (converted : e.toCanonical = .ok g) (bare : e.IsBareLegacy)
    (signed : e.signature.isEmpty = false) (unmarked : ¬(e.signature.r = 1 ∧ e.signature.s = 1)) :
    storedSignature g e.chainId = ⟨35 + e.chainId * 2, e.signature.r, e.signature.s⟩ := by
  obtain ⟨legacy, zero⟩ := bare
  obtain ⟨c, parity, body, -, known, fitted, rfl⟩ := toCanonical_eq_ok converted
  obtain ⟨price, rfl⟩ := legacy_of_canonicalBody fitted legacy
  rw [marked_of_signed signed] at known ⊢
  have replay : e.isReplayProtected = true := by
    rw [isReplayProtected, zero]
    rfl
  have even : parity = false := by
    have sum := yParity_eq_ok_iff.mp known
    have offset : e.parityOffset = 0 := if_pos (.inr zero)
    rw [zero, offset] at sum
    cases parity with
    | false => rfl
    | true => cases sum
  have chained := (storedV_chained false e.chainId).trans (BitVec.zero_add _)
  subst even
  simp only [storedSignature, if_neg unmarked, replay, if_true, Option.isSome_some]
  rw [chained]

/-- What is stored for the canonical transaction, whatever was stored before. -/
theorem storedSignature_eq_returned (converted : e.toCanonical = .ok g) :
    storedSignature g e.chainId = e.returnedSignature := by
  unfold returnedSignature
  by_cases legacy : e.type = .legacy
  · rw [if_pos legacy]
    cases empty : e.signature.isEmpty with
    | true =>
      obtain ⟨c, parity, body, -, -, fitted, rfl⟩ := toCanonical_eq_ok converted
      obtain ⟨price, rfl⟩ := legacy_of_canonicalBody fitted legacy
      rw [eq_empty_of_isEmpty empty, marked_of_empty legacy empty]
      rfl
    | false =>
      by_cases ones : e.signature.r = 1 ∧ e.signature.s = 1
      · obtain ⟨c, parity, body, -, -, fitted, rfl⟩ := toCanonical_eq_ok converted
        obtain ⟨price, rfl⟩ := legacy_of_canonicalBody fitted legacy
        rw [if_pos ones, marked_of_signed empty]
        exact if_pos ones
      · rw [if_neg ones]
        by_cases zero : e.signature.v = 0
        · have there : ¬(e.signature.r = 0 ∧ e.signature.s = 0) := fun blank =>
            of_decide_eq_false empty ⟨zero, blank⟩
          rw [if_pos ⟨zero, there⟩]
          exact storedSignature_of_bareLegacy converted ⟨legacy, zero⟩ empty ones
        · rw [if_neg fun bare => zero bare.1]
          exact storedSignature_of_toCanonical converted empty (fun _ => ones)
            (fun bare => zero bare.2)
  · obtain ⟨c, parity, body, told, known, fitted, rfl⟩ := toCanonical_eq_ok converted
    rw [marked_of_typed legacy] at known ⊢
    have typed : CanonicalTx.type ⟨e.nonce, e.gas, e.value, e.data, body,
        ⟨e.signature.r, e.signature.s, parity⟩⟩ ≠ .legacy := by
      rw [type_of_canonicalBody told fitted]
      exact legacy
    have kept : e.signature.v = Word.ofBool parity := by
      rw [v_of_yParity known, parityOffset_of_typed legacy]
      exact BitVec.add_zero _
    rw [storedSignature_of_typed typed, ← kept, if_neg legacy]

theorem ofCanonical_eq_returned (converted : e.toCanonical = .ok g) :
    ofCanonical g (some e.chainId) = e.returned := by
  have stored := storedSignature_eq_returned converted
  obtain ⟨c, parity, body, told, -, fitted, rfl⟩ := toCanonical_eq_ok converted
  have parts := partsOf_of_canonicalBody told fitted
    ⟨e.marked.signature.r, e.marked.signature.s, parity⟩
  exact ofCanonical_eq_withoutSidecar (e := e.setSignature e.returnedSignature) parts stored

end Returned

section Unsigned

variable {e : Envelope} (legacy : e.type = .legacy)
  (unsigned : e.signature.isEmpty = true ∨ e.applySignature .noSignature = e)

include legacy unsigned

theorem returned_of_unsigned : e.returned = e.setSignature .empty := by
  have blank : e.returnedSignature = .empty := by
    rw [returnedSignature, if_pos legacy]
    rcases unsigned with empty | stays
    · rw [eq_empty_of_isEmpty empty]
      rfl
    · have ones : e.signature.r = 1 ∧ e.signature.s = 1 := by
        rw [← stays]
        simp [applySignature, setSignature, legacy, TxType.isTyped]
      rw [if_pos ones]
  rw [returned, blank, withoutSidecar, setSidecar?, changeFields?]
  cases fields : e.fields with
  | legacy price => simp [setSignature, fields, Fields.withSidecar?]
  | _ => simp [type, fields, Fields.type] at legacy

/-- The marker tells the chain. -/
theorem tellsParity_of_unsigned (chain : e.chainId.toNat < UInt64.size) : e.TellsParity := by
  rw [← tellsParity_marked chain, TellsParity, type_marked, if_pos legacy, chainId_marked,
    signature_marked_of_unsigned legacy unsigned, toNat_marker chain]
  simp

theorem ofCanonical_none_of_unsigned {g : CanonicalTx} (chain : e.chainId.toNat < UInt64.size)
    (converted : e.toCanonical = .ok g) :
    ofCanonical g none = e.setSignature .empty := by
  rw [← returned_of_unsigned legacy unsigned, ← ofCanonical_eq_returned converted]
  obtain ⟨c, parity, body, -, -, fitted, rfl⟩ := toCanonical_eq_ok converted
  obtain ⟨price, rfl⟩ := legacy_of_canonicalBody fitted legacy
  have chained : isChainless (storedV 27 e.chainId true) = false := isChainless_storedV chain false
  have replay : e.marked.isReplayProtected = true := by
    rw [isReplayProtected, signature_marked_of_unsigned legacy unsigned, chained]
    rfl
  rw [replay, if_pos rfl]
  rfl

end Unsigned

/-- The conversion succeeds exactly where the chain has 64 bits, `v` tells a parity and each fee has
128 bits, and otherwise names the first of these that is violated. What comes back is the envelope
but for its blobs and the stored form of its signature. What is unsigned on the oldest type comes
back unsigned and with its chain, though nobody tells the chain. -/
theorem toCanonical_domain (e : Envelope) :
    ((∃ g, e.toCanonical = .ok g) ↔
      e.chainId.toNat < UInt64.size ∧ e.TellsParity ∧
        ∀ fee ∈ e.fields.fees, fee.toNat < Fee.size) ∧
    (UInt64.size ≤ e.chainId.toNat → e.toCanonical = .error (.fieldOverflow "chain_id")) ∧
    (e.chainId.toNat < UInt64.size → ¬e.TellsParity →
      ∃ fault, e.toCanonical = .error (.invalidSignature fault)) ∧
    (e.chainId.toNat < UInt64.size → e.TellsParity → ∀ fee, e.fields.excessive? = some fee →
      e.toCanonical = .error (.fieldOverflow fee.1)) ∧
    (∀ g, e.toCanonical = .ok g → ofCanonical g (some e.chainId) = e.returned) ∧
    (e.type = .legacy → e.signature.isEmpty = true ∨ e.applySignature .noSignature = e →
      e.chainId.toNat < UInt64.size → (∀ fee ∈ e.fields.fees, fee.toNat < Fee.size) →
      ∃ g, e.toCanonical = .ok g ∧ ofCanonical g none = e.setSignature .empty) := by
  refine ⟨toCanonical_isOk_iff, toCanonical_of_wideChain, toCanonical_of_foreignV, ?_, ?_, ?_⟩
  · intro chain tells fee excessive
    exact toCanonical_of_excessive chain tells excessive
  · intro g converted
    exact ofCanonical_eq_returned converted
  · intro legacy unsigned chain fits
    have tells := tellsParity_of_unsigned legacy unsigned chain
    obtain ⟨g, converted⟩ := toCanonical_isOk_iff.mpr ⟨chain, tells, fits⟩
    exact ⟨g, converted, ofCanonical_none_of_unsigned legacy unsigned chain converted⟩

/-- A bare parity comes back with its chain. -/
example : ((new .legacy 1).setSignature ⟨0, 1, 2⟩).returned
    = (new .legacy 1).setSignature ⟨37, 1, 2⟩ := by decide

end Envelope

end TxCourier

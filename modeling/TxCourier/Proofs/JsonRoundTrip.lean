import TxCourier.Envelope.Object
import TxCourier.Proofs.JsonRecord
import TxCourier.Proofs.Sidecar

/-! # Envelopes come back from their transaction objects

Whatever its members, a transaction object is read as itself, and the object of an envelope gives
that envelope: the members that its type does not have are absent, the parity agrees with `v`
wherever it would stand in for it, and the recipient is as the type allows it. -/
namespace TxCourier

open Json

/-! ## What stands in lists -/

def AccessEntry.members (entry : AccessEntry) : List (String × Option Json) :=
  [("address", some (.ofFixed entry.address)),
    ("storageKeys", some (.array (entry.storageKeys.map Json.ofFixed)))]

theorem AccessEntry.exchanges : Exchanges toJson ofJson? where
  read entry := by
    have object : entry.toJson = ofMembers entry.members := rfl
    have distinct : (entry.members.map (·.1)).Nodup := by
      change ["address", "storageKeys"].Nodup
      decide
    have found := @Record.find?_getElem? entry.members distinct
    have address := Record.required_eq (exchanges_fixed 20) (found 0 rfl)
    have storageKeys := Record.required_eq (exchanges_fixed 32).list (found 1 rfl)
    unfold ofJson?
    rw [object, bind_of_eq_some (record?_ofMembers distinct ["address", "storageKeys"]),
      bind_of_eq_some address, bind_of_eq_some storageKeys]
    rfl
  solid _ := nofun
  spelled entry := by
    have object : entry.toJson = ofMembers entry.members := rfl
    rw [object]
    refine isSpelled_ofMembers (List.forall_mem_cons.mpr
      ⟨(exchanges_fixed 20).spelled_some _, List.forall_mem_singleton.mpr
        ((exchanges_fixed 32).list.spelled_some _)⟩)

def Authorization.members (auth : Authorization) : List (String × Option Json) :=
  [("chainId", some (.ofWord auth.chainId)), ("address", some (.ofFixed auth.address)),
    ("nonce", some (.ofQuantity auth.nonce.toNat)),
    ("yParity", some (.ofQuantity auth.yParity.toNat)), ("r", some (.ofWord auth.r)),
    ("s", some (.ofWord auth.s))]

/-- The parity is written, so nothing has to stand in for it. -/
theorem Authorization.exchanges : Exchanges toJson ofJson? where
  read auth := by
    have object : auth.toJson = ofMembers auth.members := rfl
    have names : auth.members.map (·.1) = ["chainId", "address", "nonce", "yParity", "r", "s"] :=
      rfl
    have distinct : (auth.members.map (·.1)).Nodup := by
      rw [names]
      decide
    have found := @Record.find?_getElem? auth.members distinct
    have chainId := Record.required_eq exchanges_word (found 0 rfl)
    have address := Record.required_eq (exchanges_fixed 20) (found 1 rfl)
    have nonce := Record.required_eq exchanges_uint64 (found 2 rfl)
    have yParity := Record.optional_eq (o := some auth.yParity) exchanges_uint8 (found 3 rfl)
    have r := Record.required_eq exchanges_word (found 4 rfl)
    have s := Record.required_eq exchanges_word (found 5 rfl)
    have unnamed : Record.find? ⟨present auth.members, true⟩ "v" = none := by
      refine Record.find?_of_absent ?_
      rw [names]
      decide
    have stored : Record.optional ⟨present auth.members, true⟩ "v" uint8? = some none := by
      rw [Record.optional, unnamed]
    have definite : auth.toJson.isDefinite (depthLimit - 2) = true := rfl
    have record := record?_ofMembers distinct
      ["chainId", "address", "nonce", "yParity", "v", "r", "s"]
    rw [← object] at record
    change (do
      let r ← auth.toJson.record? ["chainId", "address", "nonce", "yParity", "v", "r", "s"]
      if auth.toJson.isDefinite (depthLimit - 2) then _ else _) = _
    rw [bind_of_eq_some record, if_pos definite, bind_of_eq_some yParity, bind_of_eq_some stored,
      bind_of_eq_some chainId, bind_of_eq_some address, bind_of_eq_some nonce]
    dsimp only [Option.or]
    rw [bind_of_eq_some rfl, bind_of_eq_some r, bind_of_eq_some s]
    rfl
  solid _ := nofun
  spelled auth := by
    have object : auth.toJson = ofMembers auth.members := rfl
    rw [object]
    refine isSpelled_ofMembers ?_
    simp only [Authorization.members, List.forall_mem_cons]
    exact ⟨exchanges_word.spelled_some _, (exchanges_fixed 20).spelled_some _,
      exchanges_uint64.spelled_some _, exchanges_uint8.spelled_some _,
      exchanges_word.spelled_some _, exchanges_word.spelled_some _, List.forall_mem_nil _⟩

/-! ## The object -/

namespace TransactionObject

/-- A list that may be absent. -/
def listed {α : Type} (write : α → Json) (items : Option (List α)) : Option Json :=
  items.map fun items => .array (items.map write)

def members (t : TransactionObject) : List (String × Option Json) :=
  [("type", some (.ofQuantity t.type.toNat)),
    ("chainId", t.chainId.map Json.ofWord),
    ("nonce", some (.ofQuantity t.nonce.toNat)),
    ("to", t.recipient.map Json.ofFixed),
    ("gas", some (.ofQuantity t.gas.toNat)),
    ("gasPrice", t.gasPrice.map Json.ofWord),
    ("maxPriorityFeePerGas", t.maxPriorityFeePerGas.map Json.ofWord),
    ("maxFeePerGas", t.maxFeePerGas.map Json.ofWord),
    ("maxFeePerBlobGas", t.maxFeePerBlobGas.map Json.ofWord),
    ("value", some (.ofWord t.value)),
    ("input", some (.ofBytes t.input)),
    ("accessList", listed AccessEntry.toJson t.accessList),
    ("blobVersionedHashes", listed Json.ofFixed t.blobVersionedHashes),
    ("authorizationList", listed Authorization.toJson t.authorizationList),
    ("v", some (.ofWord t.v)),
    ("r", some (.ofWord t.r)),
    ("s", some (.ofWord t.s)),
    ("yParity", t.yParity.map fun y => .ofQuantity y.toNat),
    ("blobs", listed Json.ofFixed t.blobs),
    ("commitments", listed Json.ofFixed t.commitments),
    ("proofs", listed Json.ofFixed t.proofs),
    ("hash", t.hash.map Json.ofFixed)]

theorem toJson_eq (t : TransactionObject) : t.toJson = ofMembers t.members := rfl

theorem distinct_members (t : TransactionObject) : (t.members.map (·.1)).Nodup := by
  have same : t.members.map (·.1) = names := rfl
  rw [same]
  decide

theorem isSpelled_toJson (t : TransactionObject) : t.toJson.IsSpelled := by
  rw [toJson_eq]
  refine isSpelled_ofMembers ?_
  simp only [members, List.forall_mem_cons]
  exact ⟨exchanges_uint64.spelled_some _, exchanges_word.spelled_map _,
    exchanges_uint64.spelled_some _, (exchanges_fixed 20).spelled_map _,
    exchanges_uint64.spelled_some _, exchanges_word.spelled_map _, exchanges_word.spelled_map _,
    exchanges_word.spelled_map _, exchanges_word.spelled_map _, exchanges_word.spelled_some _,
    exchanges_bytes.spelled_some _, AccessEntry.exchanges.list.spelled_map _,
    (exchanges_fixed 32).list.spelled_map _, Authorization.exchanges.list.spelled_map _,
    exchanges_word.spelled_some _, exchanges_word.spelled_some _, exchanges_word.spelled_some _,
    exchanges_uint64.spelled_map _, (exchanges_fixed 131072).list.spelled_map _,
    (exchanges_fixed 48).list.spelled_map _, (exchanges_fixed 48).list.spelled_map _,
    (exchanges_fixed 32).spelled_map _, List.forall_mem_nil _⟩

theorem ofJson?_toJson (t : TransactionObject) : ofJson? t.toJson = some t := by
  have found := @Record.find?_getElem? t.members t.distinct_members
  have type := Record.required_eq exchanges_uint64 (found 0 rfl)
  have chainId := Record.optional_eq exchanges_word (found 1 rfl)
  have nonce := Record.required_eq exchanges_uint64 (found 2 rfl)
  have recipient := Record.optional_eq (exchanges_fixed 20) (found 3 rfl)
  have gas := Record.required_eq exchanges_uint64 (found 4 rfl)
  have gasPrice := Record.optional_eq exchanges_word (found 5 rfl)
  have tip := Record.optional_eq exchanges_word (found 6 rfl)
  have cap := Record.optional_eq exchanges_word (found 7 rfl)
  have blobFeeCap := Record.optional_eq exchanges_word (found 8 rfl)
  have value := Record.required_eq exchanges_word (found 9 rfl)
  have input := Record.required_eq exchanges_bytes (found 10 rfl)
  have accessList := Record.optional_eq AccessEntry.exchanges.list (found 11 rfl)
  have blobHashes := Record.optional_eq (exchanges_fixed 32).list (found 12 rfl)
  have authorizations := Record.optional_eq Authorization.exchanges.list (found 13 rfl)
  have v := Record.withDefault_eq exchanges_word 0 (found 14 rfl)
  have r := Record.withDefault_eq exchanges_word 0 (found 15 rfl)
  have s := Record.withDefault_eq exchanges_word 0 (found 16 rfl)
  have yParity := Record.optional_eq exchanges_uint64 (found 17 rfl)
  have blobs := Record.optional_eq (exchanges_fixed 131072).list (found 18 rfl)
  have commitments := Record.optional_eq (exchanges_fixed 48).list (found 19 rfl)
  have proofs := Record.optional_eq (exchanges_fixed 48).list (found 20 rfl)
  have hash := Record.optional_eq (exchanges_fixed 32) (found 21 rfl)
  unfold ofJson?
  rw [toJson_eq, bind_of_eq_some (record?_ofMembers t.distinct_members names), bind_of_eq_some type,
    bind_of_eq_some chainId, bind_of_eq_some nonce, bind_of_eq_some recipient, bind_of_eq_some gas,
    bind_of_eq_some gasPrice, bind_of_eq_some tip, bind_of_eq_some cap, bind_of_eq_some blobFeeCap,
    bind_of_eq_some value, bind_of_eq_some input, bind_of_eq_some accessList,
    bind_of_eq_some blobHashes, bind_of_eq_some authorizations, bind_of_eq_some v,
    bind_of_eq_some r, bind_of_eq_some s, bind_of_eq_some yParity, bind_of_eq_some blobs,
    bind_of_eq_some commitments, bind_of_eq_some proofs, bind_of_eq_some hash]
  rfl

end TransactionObject

/-! ## The envelope -/

namespace Envelope

theorem yParity_of_zero {e : Envelope} (zero : e.signature.v = 0) : e.yParity = .ok false := by
  have offset : e.parityOffset = 0 := if_pos (.inr zero)
  unfold yParity
  rw [zero, offset]
  rfl

theorem typeOf_object (e : Envelope) : e.object.typeOf = .ok e.type := by
  have code : e.object.type.toNat = e.type.code.toNat := UInt8.toNat_toUInt64 _
  unfold TransactionObject.typeOf
  rw [code, TxType.ofCode?_code]

theorem fieldsOf_object (e : Envelope) : e.object.fieldsOf e.type = .ok e.fields := by
  obtain ⟨chainId, nonce, gas, recipient, value, data, fields, signature, isSome⟩ := e
  cases fields with
  | blob fees list cap hashes sidecar =>
    cases sidecar with
    | none => rfl
    | some sidecar => rfl
  | _ => rfl

/-- The parity stands in for a `v` of zero, which tells the same parity. -/
theorem storedV_object (e : Envelope) : e.object.storedV e.type = e.signature.v := by
  unfold TransactionObject.storedV
  split
  · rename_i parity given
    split
    · rename_i replaced
      obtain ⟨typed, zero⟩ : e.type.isTyped = true ∧ e.signature.v = 0 := replaced
      have told : e.object.yParity = some 0 := by
        unfold object
        dsimp only
        rw [if_pos typed, yParity_of_zero zero]
        rfl
      cases given.symm.trans told
      rw [zero]
      rfl
    · rfl
  · rfl

theorem envelope_object (e : Envelope) : e.object.envelope = .ok e := by
  have chain : e.object.chainOf e.type = .ok e.chainId := rfl
  have stored : e.object.storedV e.type = e.signature.v := e.storedV_object
  unfold TransactionObject.envelope
  simp only [typeOf_object, chain, fieldsOf_object, stored, bind, Except.bind, pure, Except.pure]
  refine congrArg Except.ok ?_
  -- All members but the recipient are put in as they are.
  apply Envelope.ext
  case recipient => exact e.recipient_eq
  all_goals rfl

/-- The text of an envelope's transaction object is read as that envelope. -/
theorem ofJson_toJson (e : Envelope) : ofJson e.toJson = .ok e := by
  unfold ofJson toJson
  rw [parse?_render e.object.isSpelled_toJson, Option.bind_some,
    TransactionObject.ofJson?_toJson]
  exact envelope_object e

end Envelope

end TxCourier

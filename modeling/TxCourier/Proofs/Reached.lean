import TxCourier.Proofs.Conversion
import TxCourier.Proofs.Parts

/-! # What stays true of envelopes

An envelope is made in one of five ways and then changed by setters and signatures, as often as
anyone likes. Its type is the one it was made with, it has exactly the parts of that type, and a
type that cannot create contracts has a recipient from the beginning to the end. -/
namespace TxCourier

namespace TransactionObject

theorem type_of_fieldsOf {o : TransactionObject} {t : TxType} {fields : Fields}
    (filled : o.fieldsOf t = .ok fields) : fields.type = t := by
  cases t with
  | legacy | accessList | dynamicFee =>
    obtain ⟨_, -, same⟩ := Envelope.bind_eq_ok.mp filled
    cases same
    rfl
  | blob =>
    obtain ⟨_, -, filled⟩ := Envelope.bind_eq_ok.mp filled
    obtain ⟨_, -, filled⟩ := Envelope.bind_eq_ok.mp filled
    obtain ⟨_, -, filled⟩ := Envelope.bind_eq_ok.mp filled
    obtain ⟨_, -, same⟩ := Envelope.bind_eq_ok.mp filled
    cases same
    rfl
  | setCode =>
    obtain ⟨_, -, filled⟩ := Envelope.bind_eq_ok.mp filled
    obtain ⟨_, -, same⟩ := Envelope.bind_eq_ok.mp filled
    cases same
    rfl

/-- Where an object gives an envelope, the type is the one it names and the recipient is as that
type allows it. -/
theorem recipient_of_envelope {o : TransactionObject} {e : Envelope} {t : TxType}
    (named : o.typeOf = .ok t) (made : o.envelope = .ok e) :
    e.type = t ∧ e.recipient = t.recipient o.recipient := by
  obtain ⟨named', found, made⟩ := Envelope.bind_eq_ok.mp made
  obtain ⟨chainId, -, made⟩ := Envelope.bind_eq_ok.mp made
  obtain ⟨fields, filled, same⟩ := Envelope.bind_eq_ok.mp made
  cases named.symm.trans found
  cases same
  have kept : fields.type = t := type_of_fieldsOf filled
  exact ⟨kept, congrArg (fun t : TxType => t.recipient o.recipient) kept⟩

end TransactionObject

namespace Envelope

/-! ## Making an envelope -/

/-- The ways to make an envelope, with the type it is made for and the recipient that is offered. -/
inductive Made : TxType → Option Address → Envelope → Prop
  | new (t : TxType) (chainId : Word) : Made t none (new t chainId)
  | ofFields (chainId : Word) (fields : Fields) : Made fields.type none (ofFields chainId fields)
  | ofCanonical (t : CanonicalTx) (fallback : Option Word) :
      Made t.type (partsOf t fallback).2.2 (ofCanonical t fallback)
  | ofWire {b : Bytes} {t : CanonicalTx} {e : Envelope}
      (read : CanonicalTx.read? b = some (t, [])) (accepted : ofWire b = .ok e) :
      Made t.type (partsOf t none).2.2 e
  | ofJson {text : String} {o : TransactionObject} {t : TxType} {e : Envelope}
      (read : (Json.parse? text).bind TransactionObject.ofJson? = some o)
      (named : o.typeOf = .ok t) (accepted : ofJson text = .ok e) : Made t o.recipient e

theorem recipient_ofCanonical_eq (t : CanonicalTx) (fallback : Option Word) :
    (ofCanonical t fallback).recipient = t.type.recipient (partsOf t fallback).2.2 := by
  have kept : (partsOf t fallback).2.1.type = t.type := type_ofCanonical t fallback
  rw [recipient_ofCanonical, kept]

theorem Made.type_recipient {t : TxType} {offered : Option Address} {e : Envelope}
    (made : Made t offered e) : e.type = t ∧ e.recipient = t.recipient offered := by
  cases made with
  | new t chainId =>
    have type : (Fields.empty t).type = t := Fields.type_empty t
    exact ⟨type, congrArg (fun t : TxType => t.recipient none) type⟩
  | ofFields chainId fields => exact ⟨rfl, rfl⟩
  | ofCanonical t fallback =>
    exact ⟨type_ofCanonical t fallback, recipient_ofCanonical_eq t fallback⟩
  | ofWire read accepted =>
    obtain ⟨t', read', rfl⟩ := ofWire_eq_ok_iff.mp accepted
    cases read.symm.trans read'
    exact ⟨type_ofCanonical _ none, recipient_ofCanonical_eq _ none⟩
  | ofJson read named accepted =>
    rw [Envelope.ofJson, read] at accepted
    exact TransactionObject.recipient_of_envelope named accepted

/-! ## Changing it -/

/-- What can be done to an envelope. A setter that has no result leaves it alone. -/
inductive Change where
  | put (p : Part) (v : p.Value)
  | sign (outcome : SignOutcome)

def Change.apply (e : Envelope) : Change → Envelope
  | put p v => e.put p v
  | sign outcome => e.applySignature outcome

def run (changes : List Change) (e : Envelope) : Envelope := changes.foldl Change.apply e

theorem type_apply (c : Change) (e : Envelope) : (c.apply e).type = e.type := by
  cases c with
  | put p v => exact type_put p v e
  | sign outcome => rfl

theorem type_run (changes : List Change) (e : Envelope) : (e.run changes).type = e.type := by
  induction changes generalizing e with
  | nil => rfl
  | cons c rest ih => exact (ih (c.apply e)).trans (type_apply c e)

/-! ## The blobs -/

/-- The same part set twice is what it was set to last. -/
theorem put_put (p : Part) (v w : p.Value) (e : Envelope) : (e.put p v).put p w = e.put p w := by
  refine eq_of_get? fun q => ?_
  by_cases same : q = p
  · subst q
    rw [get?_put_self, get?_put_self, get?_put_self, type_put, Option.map_map]
    rfl
  · rw [get?_put_of_ne p w _ same, get?_put_of_ne p v _ same, get?_put_of_ne p w _ same]

theorem withoutSidecar_put (sidecar : Option Sidecar) (e : Envelope) :
    (e.put (.field .sidecar) sidecar).withoutSidecar = e.withoutSidecar :=
  put_put (.field .sidecar) sidecar none e

/-! ## Regularity -/

/-- An envelope of a type has the parts of that type, each of which can be set by itself. -/
structure Regular (t : TxType) (e : Envelope) : Prop where
  type : e.type = t
  recipient : t.needsRecipient = true → e.recipient.isSome = true
  /-- No recipient becomes the zero address where one is needed. -/
  zeroed : t.needsRecipient = true → (e.put .recipient none).recipient = some Address.zero
  has : ∀ p, (e.get? p).isSome = p.isOf t
  carries : e.fields.sidecar? = (e.get? (.field .sidecar)).join
  /-- A setter has a result where the type has the part. -/
  settable : ∀ p v, (e.set? p v).isSome = p.isOf t
  untouched : ∀ p v, p.isOf t = false → e.put p v = e
  changed : ∀ p v, p.isOf t = true →
    (e.put p v).get? p = some (p.stored t v) ∧ ∀ q, q ≠ p → (e.put p v).get? q = e.get? q
  /-- There is nothing about an envelope but its parts. -/
  whole : ∀ other : Envelope, (∀ p, other.get? p = e.get? p) → other = e
  exchangeable : ∀ p q v w, p ≠ q → (e.put p v).put q w = (e.put q w).put p v
  blobs : ∀ sidecar, (e.put (.field .sidecar) sidecar).signingDigest = e.signingDigest ∧
    (e.put (.field .sidecar) sidecar).hash = e.hash ∧
    (e.put (.field .sidecar) sidecar).encoded = e.encoded

theorem sidecar?_eq_join (e : Envelope) :
    e.fields.sidecar? = (e.get? (.field .sidecar)).join := by
  change e.fields.sidecar? = (e.fields.get? .sidecar).join
  cases e.fields <;> rfl

theorem regular (e : Envelope) : Regular e.type e where
  type := rfl
  recipient := e.recipient_isSome
  zeroed needs := if_pos needs
  has p := isSome_get? p e
  carries := e.sidecar?_eq_join
  settable p v := isSome_set? p v e
  untouched p v := put_of_not_isOf
  changed p v present := by
    obtain ⟨before, had⟩ := Option.isSome_iff_exists.mp ((isSome_get? p e).trans present)
    refine ⟨?_, fun q => get?_put_of_ne p v e⟩
    rw [get?_put_self, had, Option.map_some]
  whole other := eq_of_get?
  exchangeable p q v w := put_comm p q v w e
  blobs sidecar := by
    have encoded : (e.put (.field .sidecar) sidecar).encoded = e.encoded := by
      rw [← encoded_withoutSidecar, withoutSidecar_put, encoded_withoutSidecar]
    refine ⟨?_, congrArg keccak256 encoded, encoded⟩
    rw [← signingDigest_withoutSidecar, withoutSidecar_put, signingDigest_withoutSidecar]

/-- However an envelope was made and whatever was done to it, its type is the one it was made for
and it is regular. It began with the recipient that was offered, as that type allows it. -/
theorem run_regular {t : TxType} {offered : Option Address} {e : Envelope}
    (made : Made t offered e) (changes : List Change) :
    e.type = t ∧ e.recipient = t.recipient offered ∧ Regular t (e.run changes) := by
  obtain ⟨type, recipient⟩ := made.type_recipient
  have kept : (e.run changes).type = t := (type_run changes e).trans type
  exact ⟨type, recipient, kept ▸ (e.run changes).regular⟩

/-- A recipient cannot be taken from a set-code envelope, nor a gas price given to it. -/
theorem run_regular_setCode :
    Made .setCode none (new .setCode 7) ∧
      Regular .setCode ((new .setCode 7).run
        [.put .recipient none, .put (.field .gasPrice) 5, .sign .noSignature]) :=
  ⟨.new .setCode 7, (run_regular (.new .setCode 7) _).2.2⟩

end Envelope

end TxCourier

import TxCourier.Envelope.Exchange
import TxCourier.Envelope.Object
import TxCourier.Proofs.Sidecar

/-! # The parts of an envelope

An envelope is known from its parts: those that every type has, and the fields that only some types
define. What a setter does is told part by part. It changes the part that it is about, if the type
has it, and nothing else, so that setters of different parts may change places. The type is no part
and stays as it was made. -/
namespace TxCourier

/-! ## Fields that only some types define -/

inductive FieldName where
  | gasPrice
  | tip
  | feeCap
  | accessList
  | blobFeeCap
  | blobHashes
  /-- The blobs, which may be absent on a type that can carry them. -/
  | sidecar
  | authorizations
deriving DecidableEq

namespace FieldName

abbrev Value : FieldName → Type
  | gasPrice | tip | feeCap | blobFeeCap => Word
  | accessList => AccessList
  | blobHashes => List Hash
  | sidecar => Option Sidecar
  | authorizations => List Authorization

/-- The types that define a field. -/
def isOf (t : TxType) : FieldName → Bool
  | gasPrice => !t.isDynamicFee
  | tip | feeCap => t.isDynamicFee
  | accessList => t.isTyped
  | blobFeeCap | blobHashes | sidecar => t = .blob
  | authorizations => t = .setCode

end FieldName

/-- Two types that define the same fields are one type. -/
theorem TxType.eq_of_isOf {s t : TxType} (same : ∀ name : FieldName, name.isOf s = name.isOf t) :
    s = t := by
  have price := same .gasPrice
  have list := same .accessList
  have blobs := same .sidecar
  have authorized := same .authorizations
  revert price list blobs authorized
  cases s <;> cases t <;> decide

namespace Fields

def get? (name : FieldName) (fields : Fields) : Option name.Value :=
  match name with
  | .gasPrice => fields.gasPrice?
  | .tip => fields.feeCaps?.map FeeCaps.tip
  | .feeCap => fields.feeCaps?.map FeeCaps.cap
  | .accessList => fields.accessList?
  | .blobFeeCap => fields.blobFeeCap?
  | .blobHashes => fields.blobHashes?
  | .sidecar => if fields.type = .blob then some fields.sidecar? else none
  | .authorizations => fields.authorizations?

def with? (name : FieldName) (value : name.Value) (fields : Fields) : Option Fields :=
  match name with
  | .gasPrice => fields.withGasPrice? value
  | .tip => fields.withTip? value
  | .feeCap => fields.withFeeCap? value
  | .accessList => fields.withAccessList? value
  | .blobFeeCap => fields.withBlobFeeCap? value
  | .blobHashes => fields.withBlobHashes? value
  | .sidecar => fields.withSidecar? value
  | .authorizations => fields.withAuthorizations? value

section

variable {name other : FieldName} {value : name.Value} {fields after : Fields}

theorem isSome_get? (name : FieldName) (fields : Fields) :
    (fields.get? name).isSome = name.isOf fields.type := by
  cases name <;> cases fields <;> rfl

theorem isSome_with? (name : FieldName) (value : name.Value) (fields : Fields) :
    (fields.with? name value).isSome = name.isOf fields.type := by
  cases name <;> cases fields <;> rfl

theorem type_of_with? (changed : fields.with? name value = some after) :
    after.type = fields.type := by
  cases name <;> cases fields <;> cases changed <;> rfl

theorem get?_of_with? (changed : fields.with? name value = some after) :
    after.get? name = some value := by
  cases name <;> cases fields <;> cases changed <;> rfl

theorem get?_of_with?_of_ne (changed : fields.with? name value = some after)
    (different : other ≠ name) : after.get? other = fields.get? other := by
  cases name <;> cases fields <;> cases changed <;> cases other <;>
    first
    | rfl
    | exact absurd rfl different

/-- Fields are known from what each name gives. -/
theorem eq_of_get? {a b : Fields} (same : ∀ name, a.get? name = b.get? name) : a = b := by
  have types : a.type = b.type := by
    refine TxType.eq_of_isOf fun name => ?_
    rw [← isSome_get? name a, ← isSome_get? name b, same name]
  have price := same .gasPrice
  have tip := same .tip
  have cap := same .feeCap
  have list := same .accessList
  have blobCap := same .blobFeeCap
  have hashes := same .blobHashes
  have sidecar := same .sidecar
  have auths := same .authorizations
  cases a <;> cases b <;> cases types
  case legacy.legacy =>
    cases price
    rfl
  case accessList.accessList =>
    cases price
    cases list
    rfl
  case dynamicFee.dynamicFee f _ g _ =>
    obtain ⟨_, _⟩ := f
    obtain ⟨_, _⟩ := g
    cases tip
    cases cap
    cases list
    rfl
  case blob.blob f _ _ _ _ g _ _ _ _ =>
    obtain ⟨_, _⟩ := f
    obtain ⟨_, _⟩ := g
    cases tip
    cases cap
    cases list
    cases blobCap
    cases hashes
    cases sidecar
    rfl
  case setCode.setCode f _ _ g _ _ =>
    obtain ⟨_, _⟩ := f
    obtain ⟨_, _⟩ := g
    cases tip
    cases cap
    cases list
    cases auths
    rfl

end

end Fields

/-! ## All parts -/

namespace Envelope

inductive Part where
  | chainId
  | nonce
  | gas
  | recipient
  | value
  | data
  | signature
  /-- A field that only some types define. -/
  | field (name : FieldName)
deriving DecidableEq

namespace Part

abbrev Value : Part → Type
  | chainId | value => Word
  | nonce | gas => UInt64
  | recipient => Option Address
  | data => Bytes
  | signature => RawSignature
  | field name => name.Value

/-- Whether envelopes of a type have the part. -/
def isOf (t : TxType) : Part → Bool
  | field name => name.isOf t
  | _ => true

/-- What is stored for a value that is given: a recipient as the type allows it, all else as it
is. -/
def stored (t : TxType) : (p : Part) → p.Value → p.Value
  | recipient, whom => t.recipient whom
  | chainId, v | nonce, v | gas, v | value, v | data, v | signature, v | field _, v => v

end Part

def get? (p : Part) (e : Envelope) : Option p.Value :=
  match p with
  | .chainId => some e.chainId
  | .nonce => some e.nonce
  | .gas => some e.gas
  | .recipient => some e.recipient
  | .value => some e.value
  | .data => some e.data
  | .signature => some e.signature
  | .field name => e.fields.get? name

/-- The setter of a field. -/
def setField? (name : FieldName) (value : name.Value) : Envelope → Option Envelope :=
  match name with
  | .gasPrice => setGasPrice? value
  | .tip => setTip? value
  | .feeCap => setFeeCap? value
  | .accessList => setAccessList? value
  | .blobFeeCap => setBlobFeeCap? value
  | .blobHashes => setBlobHashes? value
  | .sidecar => setSidecar? value
  | .authorizations => setAuthorizations? value

/-- The setter of a part, which has a result where the type has the part. -/
def set? (p : Part) (v : p.Value) (e : Envelope) : Option Envelope :=
  match p with
  | .chainId => some (e.setChainId v)
  | .nonce => some (e.setNonce v)
  | .gas => some (e.setGas v)
  | .recipient => some (e.setRecipient v)
  | .value => some (e.setValue v)
  | .data => some (e.setData v)
  | .signature => some (e.setSignature v)
  | .field name => e.setField? name v

/-- The envelope after a setter, the same where the type does not have the part. -/
def put (p : Part) (v : p.Value) (e : Envelope) : Envelope := (e.set? p v).getD e

section

variable {e after : Envelope} {p q : Part} {v : p.Value} {w : q.Value}

theorem setField?_eq (name : FieldName) (value : name.Value) (e : Envelope) :
    e.setField? name value = (e.fields.with? name value).map fun fields => e.setFields fields := by
  cases name <;> rfl

theorem isSome_get? (p : Part) (e : Envelope) : (e.get? p).isSome = p.isOf e.type := by
  cases p with
  | field name => exact e.fields.isSome_get? name
  | _ => rfl

theorem isSome_set? (p : Part) (v : p.Value) (e : Envelope) :
    (e.set? p v).isSome = p.isOf e.type := by
  cases p with
  | field name =>
    change (e.setField? name v).isSome = _
    rw [setField?_eq, Option.isSome_map]
    exact e.fields.isSome_with? name v
  | _ => rfl

theorem put_of_not_isOf (foreign : p.isOf e.type = false) : e.put p v = e := by
  have unset : (e.set? p v).isSome = false := by rw [isSome_set?, foreign]
  rw [put, Option.isNone_iff_eq_none.mp (Option.isSome_eq_false_iff.mp unset), Option.getD_none]

/-- What a setter leaves where it has a result: the part as it is stored, and the rest. -/
structure Sets (e : Envelope) (p : Part) (v : p.Value) (after : Envelope) : Prop where
  type : after.type = e.type
  self : after.get? p = some (p.stored e.type v)
  others : ∀ q, q ≠ p → after.get? q = e.get? q

theorem sets_of_set? (changed : e.set? p v = some after) : Sets e p v after := by
  cases p with
  | field name =>
    change e.setField? name v = some after at changed
    rw [setField?_eq] at changed
    obtain ⟨fields, made, rfl⟩ := Option.map_eq_some_iff.mp changed
    have type : fields.type = e.fields.type := Fields.type_of_with? made
    refine ⟨type, Fields.get?_of_with? made, fun q different => ?_⟩
    cases q with
    | field other =>
      exact Fields.get?_of_with?_of_ne made fun same => different (congrArg Part.field same)
    | recipient =>
      -- The recipient is put as the type allows it, and the type is the one it was before.
      change some (fields.type.recipient e.recipient) = some e.recipient
      rw [type, recipient_eq]
    | _ => rfl
  | _ =>
    cases changed
    refine ⟨rfl, rfl, fun q different => ?_⟩
    cases q <;> first | rfl | exact absurd rfl different

theorem type_put (p : Part) (v : p.Value) (e : Envelope) : (e.put p v).type = e.type := by
  unfold put
  cases changed : e.set? p v with
  | none => rfl
  | some after => exact (sets_of_set? changed).type

theorem get?_put_self (p : Part) (v : p.Value) (e : Envelope) :
    (e.put p v).get? p = (e.get? p).map fun _ => p.stored e.type v := by
  have there : (e.get? p).isSome = (e.set? p v).isSome := by rw [isSome_get?, isSome_set?]
  unfold put
  cases changed : e.set? p v with
  | none =>
    rw [changed, Option.isSome_none, Option.isSome_eq_false_iff, Option.isNone_iff_eq_none]
      at there
    rw [Option.getD_none, there, Option.map_none]
  | some after =>
    rw [changed, Option.isSome_some] at there
    obtain ⟨before, had⟩ := Option.isSome_iff_exists.mp there
    rw [had]
    exact (sets_of_set? changed).self

theorem get?_put_of_ne (p : Part) (v : p.Value) (e : Envelope) (different : q ≠ p) :
    (e.put p v).get? q = e.get? q := by
  unfold put
  cases changed : e.set? p v with
  | none => rfl
  | some after => exact (sets_of_set? changed).others q different

/-- An envelope is known from its parts. -/
theorem eq_of_get? {a b : Envelope} (same : ∀ p, a.get? p = b.get? p) : a = b := by
  apply Envelope.ext
  case chainId => exact Option.some.inj (same .chainId)
  case nonce => exact Option.some.inj (same .nonce)
  case gas => exact Option.some.inj (same .gas)
  case recipient => exact Option.some.inj (same .recipient)
  case value => exact Option.some.inj (same .value)
  case data => exact Option.some.inj (same .data)
  case signature => exact Option.some.inj (same .signature)
  case fields => exact Fields.eq_of_get? fun name => same (.field name)

/-- Setters of different parts may change places. -/
theorem put_comm (p q : Part) (v : p.Value) (w : q.Value) (e : Envelope) (different : p ≠ q) :
    (e.put p v).put q w = (e.put q w).put p v := by
  refine eq_of_get? fun r => ?_
  by_cases first : r = p
  · subst r
    rw [get?_put_of_ne q w _ different, get?_put_self, get?_put_self, type_put,
      get?_put_of_ne q w _ different]
  · by_cases second : r = q
    · subst r
      rw [get?_put_self, get?_put_of_ne p v _ first, get?_put_of_ne p v _ first, get?_put_self,
        type_put]
    · rw [get?_put_of_ne q w _ second, get?_put_of_ne p v _ first, get?_put_of_ne p v _ first,
        get?_put_of_ne q w _ second]

end

end Envelope

end TxCourier

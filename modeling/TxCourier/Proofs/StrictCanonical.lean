import TxCourier.Proofs.Canonical
import TxCourier.Proofs.StrictRlp

/-! # Only canonical transactions are read

The bytes that are read as a transaction are its encoding, followed by the rest. Beside that the
oldest type is read behind the code zero, with which it is never written. -/
namespace TxCourier

open Rlp

namespace CanonicalTx

/-! ## Members of the lists -/

theorem eq_of_accessEntry? {i : Item} {entry : AccessEntry}
    (found : accessEntry? i = some entry) : i = entry.item := by
  unfold accessEntry? at found
  split at found
  · rename_i address keys split
    simp only [Option.bind_eq_bind, Option.bind_eq_some_iff] at found
    obtain ⟨a, whom, k, listed, same⟩ := found
    cases same
    rw [Item.eq_of_items? split, Item.eq_of_fixed? whom,
      Item.eq_of_listOf? Item.eq_of_fixed? listed]
    rfl
  · cases found

@[grind →]
theorem eq_of_accessList? {i : Item} {list : AccessList}
    (found : accessList? i = some list) : i = list.item :=
  Item.eq_of_listOf? eq_of_accessEntry? found

theorem eq_of_authorization? {i : Item} {auth : Authorization}
    (found : authorization? i = some auth) : i = auth.item := by
  unfold authorization? at found
  split at found
  · rename_i chainId address nonce yParity r s split
    simp only [Option.bind_eq_bind, Option.bind_eq_some_iff] at found
    obtain ⟨c, chain, a, whom, n, counted, y, bit, r', first, s', second, same⟩ := found
    cases same
    rw [Item.eq_of_items? split, Item.eq_of_word? chain, Item.eq_of_fixed? whom,
      Item.eq_of_uint64? counted, Item.eq_of_uint8? bit, Item.eq_of_word? first,
      Item.eq_of_word? second]
    rfl
  · cases found

@[grind →]
theorem eq_of_authorizations? {i : Item} {auths : List Authorization}
    (found : i.listOf? authorization? = some auths) :
    i = .ofList (auths.map Authorization.item) :=
  Item.eq_of_listOf? eq_of_authorization? found

@[grind →]
theorem eq_of_fixedList? {n : Nat} {i : Item} {list : List (FixedBytes n)}
    (found : i.listOf? (Item.fixed? n) = some list) : i = .ofList (list.map Item.ofFixed) :=
  Item.eq_of_listOf? Item.eq_of_fixed? found

/-! ## Fields -/

/-- A `v` that is read tells the parity and the chain by the sum of which it is made. -/
theorem eq_of_splitV {n : Nat} {parity : Bool} {told : Option UInt64}
    (found : splitV n = some (parity, told)) :
    n = (match told with
      | some chainId => 35 + 2 * chainId.toNat
      | none => 27) + if parity then 1 else 0 := by
  unfold splitV at found
  split at found
  · cases found
    assumption
  split at found
  · cases found
    assumption
  split at found
  · rename_i range
    cases found
    have chain : (UInt64.ofNat ((n - 35) / 2)).toNat = (n - 35) / 2 :=
      UInt64.toNat_ofNat_of_lt' range.2
    simp only [chain, decide_eq_true_eq]
    split <;> omega
  · cases found

@[grind →]
theorem eq_of_signature? {parity r s : Item} {sig : Signature}
    (found : signature? parity r s = some sig) :
    parity = .ofNat (if sig.parity then 1 else 0) ∧ r = .ofWord sig.r ∧ s = .ofWord sig.s := by
  simp only [signature?, Option.bind_eq_bind, Option.bind_eq_some_iff] at found
  obtain ⟨p, bit, r', first, s', second, same⟩ := found
  cases same
  exact ⟨Item.eq_of_bool? bit, Item.eq_of_word? first, Item.eq_of_word? second⟩

@[grind →]
theorem eq_of_feePair? {tip cap : Item} {fees : FeePair}
    (found : feePair? tip cap = some fees) :
    tip = .ofNat fees.tip.toNat ∧ cap = .ofNat fees.cap.toNat := by
  simp only [feePair?, Option.bind_eq_bind, Option.bind_eq_some_iff] at found
  obtain ⟨t, tipped, c, capped, same⟩ := found
  cases same
  exact ⟨Item.eq_of_fee? tipped, Item.eq_of_fee? capped⟩

theorem eq_of_ofLegacyItems? {items : List Item} {t : CanonicalTx}
    (found : ofLegacyItems? items = some t) :
    t.type = .legacy ∧ t.blobs? = none ∧ items = t.items := by
  unfold ofLegacyItems? at found
  split at found
  · rename_i nonce price gas recipient value data v r s
    simp only [Option.bind_eq_bind, Option.bind_eq_some_iff] at found
    obtain ⟨n, counted, p, priced, g, limited, whom, goes, amount, sent, input, called, number,
      digits, ⟨parity, told⟩, split, r', first, s', second, same⟩ := found
    cases same
    refine ⟨rfl, rfl, ?_⟩
    obtain ⟨rfl, -⟩ := Item.eq_of_nat? digits
    have sum := eq_of_splitV split
    cases told <;> grind [CanonicalTx.items, CanonicalTx.v]
  · cases found

/-- The members of the list are written as they were read, each in its place. -/
theorem eq_of_ofTypedItems? {type : TxType} {items : List Item} {t : CanonicalTx}
    (found : ofTypedItems? type items = some t) :
    t.type = type ∧ t.blobs? = none ∧ items = t.items := by
  unfold ofTypedItems? at found
  split at found
  case h_1 =>
    simp only [Option.bind_eq_bind, Option.bind_eq_some_iff] at found
    obtain ⟨chain, told, price, priced, whom, goes, list, announced, sig, signed, n, counted, g,
      limited, amount, sent, input, called, same⟩ := found
    cases same
    refine ⟨rfl, rfl, ?_⟩
    grind [CanonicalTx.items, CanonicalTx.v]
  case h_2 =>
    simp only [Option.bind_eq_bind, Option.bind_eq_some_iff] at found
    obtain ⟨chain, told, fees, priced, whom, goes, list, announced, sig, signed, n, counted, g,
      limited, amount, sent, input, called, same⟩ := found
    cases same
    refine ⟨rfl, rfl, ?_⟩
    grind [CanonicalTx.items, CanonicalTx.v]
  case h_3 =>
    simp only [Option.bind_eq_bind, Option.bind_eq_some_iff] at found
    obtain ⟨chain, told, fees, priced, whom, goes, list, announced, cap, capped, hashes, hashed,
      sig, signed, n, counted, g, limited, amount, sent, input, called, same⟩ := found
    cases same
    refine ⟨rfl, rfl, ?_⟩
    grind [CanonicalTx.items, CanonicalTx.v, Item.ofRecipient]
  case h_4 =>
    simp only [Option.bind_eq_bind, Option.bind_eq_some_iff] at found
    obtain ⟨chain, told, fees, priced, whom, goes, list, announced, auths, allowed, sig, signed, n,
      counted, g, limited, amount, sent, input, called, same⟩ := found
    cases same
    refine ⟨rfl, rfl, ?_⟩
    grind [CanonicalTx.items, CanonicalTx.v, Item.ofRecipient]
  case h_5 => cases found

/-! ## Blobs beside the fields -/

/-- The items behind the code: the fields, or the list of them with the blobs beside it. -/
def outerItems (t : CanonicalTx) : List Item :=
  match t.blobs? with
  | none => t.items
  | some blobs =>
    .ofList t.items :: (if blobs.provesCells then [.ofNat 1] else []) ++ blobs.sidecar.items

theorem type_of_blobs? {t : CanonicalTx} {blobs : TravellingBlobs}
    (carried : t.blobs? = some blobs) : t.type = .blob := by
  obtain ⟨nonce, gas, value, data, body, sig⟩ := t
  cases body with
  | blob => rfl
  | _ => cases carried

theorem encoded_eq (t : CanonicalTx) : t.encoded = Envelope.encodeAs t.type t.outerItems := by
  unfold encoded outerItems
  cases carried : t.blobs? with
  | none => rfl
  | some blobs =>
    rw [type_of_blobs? carried]

theorem eq_of_sidecar? {blobs commitments proofs : Item} {sidecar : Sidecar}
    (found : sidecar? blobs commitments proofs = some sidecar) :
    [blobs, commitments, proofs] = sidecar.items := by
  simp only [sidecar?, Option.bind_eq_bind, Option.bind_eq_some_iff] at found
  obtain ⟨b, blobbed, c, committed, p, proved, same⟩ := found
  cases same
  rw [eq_of_fixedList? blobbed, eq_of_fixedList? committed, eq_of_fixedList? proved]
  rfl

theorem eq_of_ofTravellingItems? {items : List Item} {t : CanonicalTx}
    (found : ofTravellingItems? items = some t) :
    t.type = .blob ∧ items = t.outerItems := by
  unfold ofTravellingItems? at found
  split at found
  case h_1 fields blobs commitments proofs =>
    simp only [Option.bind_eq_bind, Option.bind_eq_some_iff] at found
    obtain ⟨inner, split, plain, typed, sidecar, beside, same⟩ := found
    cases same
    obtain ⟨blob, -, rfl⟩ := eq_of_ofTypedItems? typed
    have carried := blobs?_withBlobs blob ⟨false, sidecar⟩
    refine ⟨type_of_blobs? carried, ?_⟩
    simp [outerItems, carried, Item.eq_of_items? split, ← eq_of_sidecar? beside]
  case h_2 fields version blobs commitments proofs =>
    simp only [Option.bind_eq_bind, Option.bind_eq_some_iff] at found
    obtain ⟨inner, split, plain, typed, found⟩ := found
    by_cases cells : version = .ofNat 1
    · rw [if_pos cells, Option.bind_eq_some_iff] at found
      obtain ⟨sidecar, beside, same⟩ := found
      cases same
      obtain ⟨blob, -, rfl⟩ := eq_of_ofTypedItems? typed
      have carried := blobs?_withBlobs blob ⟨true, sidecar⟩
      refine ⟨type_of_blobs? carried, ?_⟩
      simp [outerItems, carried, cells, Item.eq_of_items? split, ← eq_of_sidecar? beside]
    · rw [if_neg cells] at found
      cases found
  case h_3 => cases found

theorem eq_of_ofItems? {type : TxType} {items : List Item} {t : CanonicalTx}
    (found : ofItems? type items = some t) : t.type = type ∧ items = t.outerItems := by
  have plain (known : t.type = type ∧ t.blobs? = none ∧ items = t.items) :
      t.type = type ∧ items = t.outerItems := by
    obtain ⟨same, none, written⟩ := known
    exact ⟨same, by rw [written, outerItems, none]⟩
  unfold ofItems? at found
  split at found
  · exact plain (eq_of_ofLegacyItems? found)
  · exact eq_of_ofTravellingItems? found
  · exact plain (eq_of_ofTypedItems? found)

/-! ## Transactions -/

theorem eq_of_splitCode? {b list : Bytes} {type : TxType}
    (found : splitCode? b = some (type, list)) :
    type = .legacy ∧ b = list ∨ b = type.code :: list := by
  cases b with
  | nil => cases found
  | cons x tail =>
    simp only [splitCode?] at found
    split at found
    · obtain ⟨t, known, same⟩ := Option.map_eq_some_iff.mp found
      cases same
      have code := UInt8.toNat_inj.mp (TxType.code_of_ofCode? known)
      exact .inr (by rw [code])
    · cases found
      exact .inl ⟨rfl, rfl⟩

theorem splitCode?_append {b list : Bytes} {type : TxType}
    (found : splitCode? b = some (type, list)) (more : Bytes) :
    splitCode? (b ++ more) = some (type, list ++ more) := by
  cases b with
  | nil => cases found
  | cons x tail =>
    simp only [splitCode?, List.cons_append] at found ⊢
    split at found
    · rename_i code
      obtain ⟨t, known, same⟩ := Option.map_eq_some_iff.mp found
      cases same
      simp [code, known]
    · rename_i large
      cases found
      simp [large]

/-- What reading finds: a code, a list behind it, and the transaction in the items of the list. -/
theorem read?_eq_some_iff {b rest : Bytes} {t : CanonicalTx} :
    read? b = some (t, rest) ↔
      ∃ type list i items, splitCode? b = some (type, list) ∧ Item.read? list = some (i, rest) ∧
        i.items? = some items ∧ ofItems? type items = some t := by
  constructor
  · intro found
    simp only [read?, Option.bind_eq_bind, Option.bind_eq_some_iff] at found
    obtain ⟨⟨type, list⟩, code, ⟨i, left⟩, first, items, split, tx, reads, same⟩ := found
    cases same
    exact ⟨type, list, i, items, code, first, split, reads⟩
  · rintro ⟨type, list, i, items, code, first, split, reads⟩
    simp [read?, code, first, split, reads]

/-- Only the encoding of a transaction is read as it, with the code of the oldest type in front or
without. -/
theorem eq_of_read? {b rest : Bytes} {t : CanonicalTx} (found : read? b = some (t, rest)) :
    (Item.ofList t.outerItems).Fits ∧
      (b = t.encoded ++ rest ∨ t.type = .legacy ∧ b = t.type.code :: (t.encoded ++ rest)) := by
  obtain ⟨type, list, i, items, code, first, split, reads⟩ := read?_eq_some_iff.mp found
  obtain ⟨rfl, rfl⟩ := eq_of_ofItems? reads
  obtain rfl := Item.eq_of_items? split
  obtain ⟨rfl, fits⟩ := Item.eq_of_read? first
  refine ⟨fits, ?_⟩
  rw [encoded_eq]
  by_cases legacy : t.type = .legacy
  · have bare : Envelope.encodeAs t.type t.outerItems = (Item.ofList t.outerItems).encode := by
      rw [legacy]
      rfl
    rw [bare]
    rcases eq_of_splitCode? code with ⟨-, same⟩ | coded
    · exact .inl same
    · exact .inr ⟨legacy, coded⟩
  · have typed := TxType.isTyped_iff.mpr legacy
    rcases eq_of_splitCode? code with ⟨bare, -⟩ | coded
    · exact absurd bare legacy
    · refine .inl ?_
      rw [Envelope.encodeAs, if_pos typed, coded, List.cons_append]

/-- More bytes behind a transaction are more of the rest. -/
theorem read?_append {b rest : Bytes} {t : CanonicalTx} (found : read? b = some (t, rest))
    (more : Bytes) : read? (b ++ more) = some (t, rest ++ more) := by
  obtain ⟨type, list, i, items, code, first, split, reads⟩ := read?_eq_some_iff.mp found
  exact read?_eq_some_iff.mpr ⟨type, list ++ more, i, items, splitCode?_append code more,
    Item.read?_append first more, split, reads⟩

/-! ## Without the blobs -/

/-- The transaction by itself. -/
def withoutBlobs (t : CanonicalTx) : CanonicalTx :=
  match t.body with
  | .blob chainId fees recipient list cap hashes _ =>
    { t with body := .blob chainId fees recipient list cap hashes none }
  | _ => t

section WithoutBlobs

variable (t : CanonicalTx)

@[simp] theorem type_withoutBlobs : t.withoutBlobs.type = t.type := by
  obtain ⟨nonce, gas, value, data, body, sig⟩ := t
  cases body <;> rfl

@[simp] theorem items_withoutBlobs : t.withoutBlobs.items = t.items := by
  obtain ⟨nonce, gas, value, data, body, sig⟩ := t
  cases body <;> rfl

@[simp] theorem blobs?_withoutBlobs : t.withoutBlobs.blobs? = none := by
  obtain ⟨nonce, gas, value, data, body, sig⟩ := t
  cases body <;> rfl

end WithoutBlobs

/-- The fields have room where what stands behind the code has. -/
theorem fits_items {t : CanonicalTx} (fits : (Item.ofList t.outerItems).Fits) :
    (Item.ofList t.items).Fits := by
  unfold outerItems at fits
  split at fits
  · exact fits
  · exact fits.of_mem (by simp)

/-- The bytes that are hashed are read as the transaction by itself. -/
theorem read?_canonicalBytes {t : CanonicalTx} (fits : (Item.ofList t.items).Fits) (rest : Bytes) :
    read? (t.canonicalBytes ++ rest) = some (t.withoutBlobs, rest) := by
  have reads : ofItems? t.withoutBlobs.type t.withoutBlobs.items = some t.withoutBlobs :=
    ofItems?_items t.blobs?_withoutBlobs (by simpa using fits)
  rw [type_withoutBlobs, items_withoutBlobs] at reads
  exact read?_encodeAs fits reads rest

end CanonicalTx

end TxCourier

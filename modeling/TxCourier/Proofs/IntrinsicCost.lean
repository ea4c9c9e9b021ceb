import TxCourier.Gas.Intrinsic

/-! # The intrinsic gas is one sum

The cost is charged item by item in 64 bits and given up at the first item with which it does not
fit. Nothing is ever taken off, so this comes to forming the exact sum and asking once whether it
fits. The cost then depends on how many bytes of each kind, entries, storage keys and authorizations
there are, and not on their order. -/
namespace TxCourier.IntrinsicGas

/-! ## One charge behind another -/

/-- So many things at one price. -/
structure Charge where
  count : Nat
  price : Nat

/-- What comes to the base, in the order in which it is charged. -/
def charges (rules : IntrinsicRules) (s : Subject) : List Charge :=
  [⟨nonzeros s.data, nonzeroPrice rules⟩, ⟨zeros s.data, zeroPrice⟩]
    ++ (if s.isCreation ∧ rules.shanghai then [⟨words s.data, codeWordPrice⟩] else [])
    ++ [⟨(s.accessList.getD []).length, accessEntryPrice⟩,
      ⟨storageKeys (s.accessList.getD []), storageKeyPrice⟩,
      ⟨(s.authorizations.getD []).length, authorizationPrice⟩]

def chargeAll? : List Charge → UInt64 → Option UInt64
  | [], gas => some gas
  | c :: rest, gas => (charge? c.count c.price gas).bind (chargeAll? rest)

/-- Some gas and the prices of all charges. -/
def total : List Charge → Nat → Nat
  | [], gas => gas
  | c :: rest, gas => total rest (gas + c.count * c.price)

theorem le_total (charges : List Charge) (gas : Nat) : gas ≤ total charges gas := by
  induction charges generalizing gas with
  | nil => exact Nat.le_refl gas
  | cons c rest ih => exact Nat.le_trans (Nat.le_add_right _ _) (ih _)

/-- A charge adds its price, and is made where the sum still is a number of 64 bits. -/
theorem charge?_eq_some_iff {count price : Nat} {gas after : UInt64} :
    charge? count price gas = some after ↔ after.toNat = gas.toNat + count * price := by
  have bounded : after.toNat < UInt64.size := after.toNat_lt
  constructor
  · intro made
    unfold charge? at made
    split at made
    · dsimp only at made
      split at made
      · rename_i fits
        cases made
        exact UInt64.toNat_ofNat_of_lt' fits
      · cases made
    · cases made
  · intro sum
    have fits : gas.toNat + count * price < UInt64.size := sum ▸ bounded
    have alone : count * price < UInt64.size := Nat.lt_of_le_of_lt (Nat.le_add_left _ _) fits
    rw [charge?, if_pos alone, if_pos fits, ← sum, UInt64.ofNat_toNat]

/-- No charge is given up that would fit in the end, since what follows only adds to it. -/
theorem chargeAll?_eq_some_iff {charges : List Charge} {gas after : UInt64} :
    chargeAll? charges gas = some after ↔ after.toNat = total charges gas.toNat := by
  induction charges generalizing gas with
  | nil =>
    rw [chargeAll?, total, Option.some.injEq, ← UInt64.toNat_inj]
    exact eq_comm
  | cons c rest ih =>
    rw [chargeAll?, total, Option.bind_eq_some_iff]
    constructor
    · rintro ⟨between, made, others⟩
      rw [← charge?_eq_some_iff.mp made]
      exact ih.mp others
    · intro sum
      have fits : gas.toNat + c.count * c.price < UInt64.size :=
        Nat.lt_of_le_of_lt (sum ▸ le_total rest _) after.toNat_lt
      have between : (UInt64.ofNat (gas.toNat + c.count * c.price)).toNat
          = gas.toNat + c.count * c.price := UInt64.toNat_ofNat_of_lt' fits
      refine ⟨_, charge?_eq_some_iff.mpr between, ih.mpr ?_⟩
      rw [between]
      exact sum

/-! ## The cost of a transaction -/

theorem charged?_eq_chargeAll? (rules : IntrinsicRules) (s : Subject) :
    charged? rules s = chargeAll? (charges rules s) (UInt64.ofNat (base rules s.isCreation)) := by
  unfold charged? charges
  by_cases metered : s.isCreation ∧ rules.shanghai
  · simp [metered, chargeAll?]
  · simp [metered, chargeAll?]

theorem exact_eq_total (rules : IntrinsicRules) (s : Subject) :
    exact rules s = total (charges rules s) (base rules s.isCreation) := by
  unfold exact charges
  by_cases metered : s.isCreation ∧ rules.shanghai
  · simp [metered, total]
  · simp [metered, total]

theorem toNat_base (rules : IntrinsicRules) (isCreation : Bool) :
    (UInt64.ofNat (base rules isCreation)).toNat = base rules isCreation := by
  unfold base
  split
  · rfl
  · rfl

theorem charged?_eq_some_iff {rules : IntrinsicRules} {s : Subject} {gas : UInt64} :
    charged? rules s = some gas ↔ gas.toNat = exact rules s := by
  rw [charged?_eq_chargeAll?, chargeAll?_eq_some_iff, toNat_base, exact_eq_total]

theorem charged?_eq_none_iff {rules : IntrinsicRules} {s : Subject} :
    charged? rules s = none ↔ UInt64.size ≤ exact rules s := by
  constructor
  · intro refused
    by_cases fits : exact rules s < UInt64.size
    · have made := charged?_eq_some_iff.mpr (UInt64.toNat_ofNat_of_lt' fits)
      rw [refused] at made
      cases made
    · exact Nat.le_of_not_lt fits
  · intro large
    cases made : charged? rules s with
    | none => rfl
    | some gas =>
      have bounded : gas.toNat < UInt64.size := gas.toNat_lt
      have sum := charged?_eq_some_iff.mp made
      omega

/-! ## Order -/

/-- The same bytes, entries and authorizations, perhaps in another order. -/
structure Rearranges (s s' : Subject) : Prop where
  data : s.data.Perm s'.data
  accessList : (s.accessList.getD []).Perm (s'.accessList.getD [])
  authorizations : (s.authorizations.getD []).Perm (s'.authorizations.getD [])
  isCreation : s.isCreation = s'.isCreation

theorem Rearranges.exact_eq {s s' : Subject} (same : Rearranges s s') (rules : IntrinsicRules) :
    exact rules s = exact rules s' := by
  have nonzeros : nonzeros s.data = nonzeros s'.data := same.data.countP_eq _
  have zeros : zeros s.data = zeros s'.data := same.data.countP_eq _
  have words : words s.data = words s'.data := congrArg (fun n => (n + 31) / 32) same.data.length_eq
  have keys : storageKeys (s.accessList.getD []) = storageKeys (s'.accessList.getD []) :=
    (same.accessList.flatMap_right _).length_eq
  rw [exact, exact, nonzeros, zeros, words, keys, same.accessList.length_eq,
    same.authorizations.length_eq, same.isCreation]

/-- The cost is this sum of the numbers of things at their prices where that has 64 bits, and there
is none where it has more. Another order of the bytes, the entries or the authorizations makes no
difference. -/
theorem charged?_eq_sum (rules : IntrinsicRules) (s : Subject) :
    let entries := s.accessList.getD []
    let sum := (if s.isCreation ∧ rules.homestead then 53000 else 21000)
      + s.data.countP (fun x => x != 0) * (if rules.istanbul then 16 else 68)
      + s.data.countP (fun x => x == 0) * 4
      + (if s.isCreation ∧ rules.shanghai then (s.data.length + 31) / 32 * 2 else 0)
      + entries.length * 2400
      + (entries.flatMap AccessEntry.storageKeys).length * 1900
      + (s.authorizations.getD []).length * 25000
    (∀ gas, charged? rules s = some gas ↔ gas.toNat = sum) ∧
    (charged? rules s = none ↔ UInt64.size ≤ sum) ∧
    ∀ s', Rearranges s s' → charged? rules s' = charged? rules s := by
  intro entries sum
  have exact_eq : exact rules s = sum := rfl
  rw [← exact_eq]
  refine ⟨fun gas => charged?_eq_some_iff, charged?_eq_none_iff, fun s' same => ?_⟩
  apply Option.ext
  intro gas
  rw [charged?_eq_some_iff, charged?_eq_some_iff, same.exact_eq]

/-- The code of a contract with its bytes in another order. -/
theorem charged?_eq_sum_creation :
    let code : Subject := ⟨[0, 1, 2], some [⟨Address.zero, []⟩], none, true⟩
    let turned : Subject := ⟨[2, 1, 0], some [⟨Address.zero, []⟩], some [], true⟩
    Rearranges code turned ∧ charged? .all turned = charged? .all code ∧
      charged? .all code = some 55438 := by
  intro code turned
  have same : Rearranges code turned := ⟨by decide, by decide, by decide, rfl⟩
  have sum := charged?_eq_sum .all code
  exact ⟨same, sum.2.2 turned same, (sum.1 55438).mpr (by decide)⟩

end TxCourier.IntrinsicGas

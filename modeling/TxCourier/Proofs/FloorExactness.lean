import TxCourier.Proofs.FeeFloor

/-! # Where the floor is exact

A quote has to reach a ratio of the base fee. The product with the numerator stops at the largest
word before it is divided, so that the floor is lower than the ratio says where the product has more
than 256 bits. Nothing is refused that reaches the ratio, but of what does not reach it some may
pass then, and with it quotes below the base fee. -/
namespace TxCourier.FeeFloor

open Attempt

/-- What the ratio asks for, over the naturals. A chain without a base fee asks for a single
price. -/
def Admits (floor : FeeFloor) (baseFee : Option Word) (quote : GasQuote) : Prop :=
  (baseFee = none ∧ quote.isDynamic = false) ∨
    ∃ fee, baseFee = some fee ∧
      fee.toNat * floor.numerator.toNat ≤ quote.ceiling.toNat * floor.denominator.toNat

/-- The quote does not reach the product, which has more than 256 bits, but reaches the largest
word. -/
def SlipsThrough (floor : FeeFloor) (baseFee : Option Word) (quote : GasQuote) : Prop :=
  ∃ fee, baseFee = some fee ∧
    Word.size - 1 ≤ quote.ceiling.toNat * floor.denominator.toNat ∧
    quote.ceiling.toNat * floor.denominator.toNat < fee.toNat * floor.numerator.toNat

theorem admits_some {floor : FeeFloor} {fee : Word} {quote : GasQuote} :
    floor.Admits (some fee) quote ↔
      fee.toNat * floor.numerator.toNat ≤ quote.ceiling.toNat * floor.denominator.toNat := by
  simp [Admits]

theorem slipsThrough_some {floor : FeeFloor} {fee : Word} {quote : GasQuote} :
    floor.SlipsThrough (some fee) quote ↔
      Word.size - 1 ≤ quote.ceiling.toNat * floor.denominator.toNat ∧
        quote.ceiling.toNat * floor.denominator.toNat
          < fee.toNat * floor.numerator.toNat := by
  simp [SlipsThrough]

theorem not_admits_of_slipsThrough {floor : FeeFloor} {baseFee : Option Word} {quote : GasQuote}
    (slips : floor.SlipsThrough baseFee quote) : ¬floor.Admits baseFee quote := by
  obtain ⟨fee, rfl, -, below⟩ := slips
  rw [admits_some]
  exact Nat.not_le.mpr below

/-- All that passes either reaches the product or slips through below it. -/
theorem fault?_eq_none_iff_admits_or {floor : FeeFloor} (divided : 0 < floor.denominator.toNat)
    {baseFee : Option Word} {quote : GasQuote} :
    floor.fault? baseFee quote = none ↔
      floor.Admits baseFee quote ∨ floor.SlipsThrough baseFee quote := by
  rw [fault?_eq_none_iff]
  constructor
  · rintro (single | ⟨fee, same, reached⟩)
    · exact .inl (.inl single)
    · rw [least_le_iff divided] at reached
      by_cases below : quote.ceiling.toNat * floor.denominator.toNat
          < fee.toNat * floor.numerator.toNat
      · exact .inr ⟨fee, same, by omega, below⟩
      · exact .inl (.inr ⟨fee, same, Nat.not_lt.mp below⟩)
  · rintro ((single | ⟨fee, same, reached⟩) | ⟨fee, same, largest, -⟩)
    · exact .inl single
    · refine .inr ⟨fee, same, (least_le_iff divided _ _).mpr ?_⟩
      exact Nat.le_trans (Nat.min_le_left _ _) reached
    · refine .inr ⟨fee, same, (least_le_iff divided _ _).mpr ?_⟩
      exact Nat.le_trans (Nat.min_le_right _ _) largest

/-- A floor of the base fee at least, as the ratio says, stays one until the price below the base
fee, taken as often as the denominator says, comes to the largest word. -/
theorem baseFee_le_least_iff {floor : FeeFloor} (divided : 0 < floor.denominator.toNat)
    (proper : floor.denominator.toNat ≤ floor.numerator.toNat) (fee : Word) :
    fee.toNat ≤ (floor.least fee).toNat ↔
      (fee.toNat - 1) * floor.denominator.toNat < Word.size - 1 := by
  by_cases zero : fee.toNat = 0
  · simp [zero, Word.size]
  · have reached := least_le_iff divided fee (fee.toNat - 1)
    have product : (fee.toNat - 1) * floor.denominator.toNat
        < fee.toNat * floor.numerator.toNat := by
      calc (fee.toNat - 1) * floor.denominator.toNat
          < fee.toNat * floor.denominator.toNat := Nat.mul_lt_mul_of_pos_right (by omega) divided
        _ ≤ fee.toNat * floor.numerator.toNat := Nat.mul_le_mul_left _ proper
    omega

/-- The decision is that of the ratio over the naturals except on quotes that slip through, and
refuses none that reaches the ratio. With a ratio of one at least, all that passes pays the base fee
exactly where the price below the base fee, taken as often as the denominator says, is less than the
largest word. -/
theorem check_exact_unless_slips (floor : FeeFloor) (divided : 0 < floor.denominator.toNat)
    {node : Node} {t : Trace} {head : Header}
    (latest : node.Answers t.queries .latestHeader head) :
    let passes := fun quote => ((floor.check quote).outcome node t).1 = .ok ()
    (∀ quote, (passes quote ↔ floor.Admits head.baseFee quote) ↔
      ¬floor.SlipsThrough head.baseFee quote) ∧
    (∀ quote, floor.Admits head.baseFee quote → passes quote) ∧
    (floor.denominator.toNat ≤ floor.numerator.toNat → ∀ fee, head.baseFee = some fee →
      ((∀ quote, passes quote → fee.toNat ≤ quote.ceiling.toNat) ↔
        (fee.toNat - 1) * floor.denominator.toNat < Word.size - 1)) := by
  intro passes
  have decided (quote : GasQuote) : passes quote ↔
      floor.Admits head.baseFee quote ∨ floor.SlipsThrough head.baseFee quote :=
    (floor.check_ok_iff latest quote).trans (fault?_eq_none_iff_admits_or divided)
  refine ⟨fun quote => ?_, fun quote admitted => (decided quote).mpr (.inl admitted),
    fun proper fee same => ?_⟩
  · rw [decided]
    constructor
    · intro exact_here slips
      exact not_admits_of_slipsThrough slips (exact_here.mp (.inr slips))
    · intro stays
      exact or_iff_left stays
  · rw [← baseFee_le_least_iff divided proper]
    have priced (quote : GasQuote) : passes quote ↔
        (floor.least fee).toNat ≤ quote.ceiling.toNat := by
      refine (floor.check_ok_iff latest quote).trans ?_
      rw [same, fault?_eq_none_iff]
      simp
    constructor
    · intro covered
      exact covered (.single (floor.least fee)) ((priced _).mpr (Nat.le_refl _))
    · intro reached quote passed
      exact Nat.le_trans reached ((priced quote).mp passed)

/-- A head with a base fee. -/
def headWith (fee : Word) : Header := ⟨0, FixedBytes.replicate 32 0, some fee⟩

theorem answers_headWith (fee : Word) :
    (Node.telling (headWith fee) 0 0).Answers Trace.start.queries .latestHeader (headWith fee) :=
  (Node.tells_telling (headWith fee) 0 0).latest _

/-- Six fifths of half of all words are more than any word. A cap of half that base fee passes. -/
theorem check_admits_below_baseFee :
    let fee : Word := BitVec.ofNat 256 (Word.size / 2)
    let cap : Word := BitVec.ofNat 256 (Word.size / 4)
    (((ofRatio 6 5).check (.capped none 0 cap)).outcome (Node.telling (headWith fee) 0 0)
        Trace.start).1 = .ok () ∧
      ¬(ofRatio 6 5).Admits (some fee) (.capped none 0 cap) ∧ cap.toNat < fee.toNat := by
  intro fee cap
  refine ⟨(check_ok_iff (answers_headWith fee) _ _).mpr (by decide), ?_, by decide⟩
  exact not_admits_of_slipsThrough (slipsThrough_some.mpr (by decide))

/-- Six fifths of 1000000001 are rounded up. -/
theorem check_exact_unless_slips_rounded :
    let passes := fun quote => (((ofRatio 6 5).check quote).outcome
      (Node.telling (headWith 1000000001) 0 0) Trace.start).1 = .ok ()
    0 < (ofRatio 6 5).denominator.toNat ∧
      passes (.capped none 1 1200000002) ∧ ¬passes (.capped none 1 1200000001) ∧
      ∀ quote, passes quote → 1000000001 ≤ quote.ceiling.toNat := by
  intro passes
  obtain ⟨exactly, admits, covers⟩ :=
    check_exact_unless_slips (ofRatio 6 5) (by decide) (answers_headWith 1000000001)
  refine ⟨by decide, admits _ (admits_some.mpr (by decide)), fun passed => ?_,
    (covers (by decide) _ rfl).mpr (by decide)⟩
  have fits : ¬(ofRatio 6 5).SlipsThrough (some 1000000001) (.capped none 1 1200000001) :=
    mt slipsThrough_some.mp (by decide)
  exact absurd (admits_some.mp (((exactly _).mpr fits).mp passed)) (by decide)

end TxCourier.FeeFloor

import TxCourier.Proofs.Vetting
import TxCourier.Proofs.Words

/-! # Quotes and the floor

The floor and the cap of a quote are both computed with operations that stay at the largest word.
Read over the naturals, a floor is reached where the price, taken as often as the denominator says,
reaches the product, and the cap is the exact sum as far as words reach. So whether quotes pass does
not hang on where either operation stops, only on the multiplier and the ratio. -/
namespace TxCourier

open Attempt

/-! ## The floor over the naturals -/

namespace Word

theorem toNat_ofUInt64_lt (n : UInt64) : n.toNat < size - 1 :=
  Nat.lt_trans n.toNat_lt (by decide)

end Word

namespace FeeFloor

/-- The product, rounded up to a whole price. -/
theorem toNat_least {floor : FeeFloor} (divided : 0 < floor.denominator.toNat) (baseFee : Word) :
    (floor.least baseFee).toNat
      = (min (baseFee.toNat * floor.numerator.toNat) (Word.size - 1)
          + floor.denominator.toNat - 1) / floor.denominator.toNat := by
  unfold least
  rw [Word.toNat_saturatingMul]
  refine Nat.mod_eq_of_lt ?_
  generalize product : min (baseFee.toNat * floor.numerator.toNat) (Word.size - 1) = p
  have bounded : p < Word.size := by
    rw [← product]
    exact Nat.lt_of_le_of_lt (Nat.min_le_right _ _) (by decide)
  rw [Nat.div_lt_iff_lt_mul divided]
  calc p + floor.denominator.toNat - 1 < p + floor.denominator.toNat := by omega
    _ ≤ p * floor.denominator.toNat + floor.denominator.toNat := by
        exact Nat.add_le_add_right (Nat.le_mul_of_pos_right p divided) _
    _ = (p + 1) * floor.denominator.toNat := by rw [Nat.add_mul, Nat.one_mul]
    _ ≤ Word.size * floor.denominator.toNat := Nat.mul_le_mul_right _ bounded

/-- A price reaches the floor where it reaches the product without division. -/
theorem least_le_iff {floor : FeeFloor} (divided : 0 < floor.denominator.toNat) (baseFee : Word)
    (price : Nat) :
    (floor.least baseFee).toNat ≤ price ↔
      min (baseFee.toNat * floor.numerator.toNat) (Word.size - 1)
        ≤ price * floor.denominator.toNat := by
  rw [toNat_least divided, Nat.div_le_iff_le_mul_add_pred divided,
    Nat.mul_comm floor.denominator.toNat]
  omega

end FeeFloor

/-! ## The cap of a quote -/

namespace QuoteSource

/-- The cap of a quote over a base fee. -/
def cap (multiplier : UInt64) (baseFee tip : Word) : Word :=
  Word.saturatingAdd (Word.saturatingMul baseFee (Word.ofUInt64 multiplier)) tip

theorem overBaseFee_eq (multiplier : UInt64) (baseFee tip : Word) :
    overBaseFee multiplier baseFee tip = .capped (some baseFee) tip (cap multiplier baseFee tip) :=
  rfl

/-- Stopping after the product and once more after the sum is stopping once. -/
theorem toNat_cap (multiplier : UInt64) (baseFee tip : Word) :
    (cap multiplier baseFee tip).toNat
      = min (Word.size - 1) (multiplier.toNat * baseFee.toNat + tip.toNat) := by
  unfold cap Word.saturatingAdd
  rw [Word.toNat_clamp, Word.toNat_saturatingMul, Nat.mul_comm multiplier.toNat]
  omega

theorem tip_le_cap (multiplier : UInt64) (baseFee tip : Word) :
    tip.toNat ≤ (cap multiplier baseFee tip).toNat := by
  have fits := tip.toNat_lt_size
  rw [toNat_cap]
  omega

theorem baseFee_le_cap {multiplier : UInt64} (counted : 0 < multiplier.toNat)
    (baseFee tip : Word) : baseFee.toNat ≤ (cap multiplier baseFee tip).toNat := by
  have fits := baseFee.toNat_lt_size
  have once : baseFee.toNat ≤ multiplier.toNat * baseFee.toNat :=
    Nat.le_mul_of_pos_left _ counted
  rw [toNat_cap]
  omega

end QuoteSource

/-! ## Coherence -/

namespace FeeFloor

/-- A quote passes where its ceiling reaches the floor, and without a base fee where it is a single
price. -/
theorem fault?_eq_none_iff {floor : FeeFloor} {baseFee : Option Word} {quote : GasQuote} :
    floor.fault? baseFee quote = none ↔
      (baseFee = none ∧ quote.isDynamic = false) ∨
        ∃ fee, baseFee = some fee ∧ (floor.least fee).toNat ≤ quote.ceiling.toNat := by
  cases baseFee with
  | none => cases quote <;> simp [fault?, GasQuote.isDynamic]
  | some fee => cases quote <;> simp [fault?, GasQuote.ceiling]

theorem fault?_overBaseFee_eq_none_iff {floor : FeeFloor} {multiplier : UInt64}
    {baseFee tip : Word} :
    floor.fault? (some baseFee) (QuoteSource.overBaseFee multiplier baseFee tip) = none ↔
      (floor.least baseFee).toNat ≤ (QuoteSource.cap multiplier baseFee tip).toNat := by
  rw [QuoteSource.overBaseFee_eq, fault?_eq_none_iff]
  simp [GasQuote.ceiling]

/-- With a multiplier that reaches the ratio every cap reaches the floor. Where the cap stops at the
largest word, the product has stopped there as well or is below it. -/
theorem least_le_cap {floor : FeeFloor} {multiplier : UInt64}
    (divided : 0 < floor.denominator.toNat)
    (coherent : floor.numerator.toNat ≤ multiplier.toNat * floor.denominator.toNat)
    (baseFee tip : Word) :
    (floor.least baseFee).toNat ≤ (QuoteSource.cap multiplier baseFee tip).toNat := by
  rw [least_le_iff divided, QuoteSource.toNat_cap]
  by_cases stopped : Word.size - 1 ≤ multiplier.toNat * baseFee.toNat + tip.toNat
  · rw [Nat.min_eq_left stopped]
    exact Nat.le_trans (Nat.min_le_right _ _) (Nat.le_mul_of_pos_right _ divided)
  · rw [Nat.min_eq_right (Nat.le_of_not_le stopped)]
    calc min (baseFee.toNat * floor.numerator.toNat) (Word.size - 1)
        ≤ baseFee.toNat * floor.numerator.toNat := Nat.min_le_left _ _
      _ ≤ baseFee.toNat * (multiplier.toNat * floor.denominator.toNat) :=
          Nat.mul_le_mul_left _ coherent
      _ = multiplier.toNat * baseFee.toNat * floor.denominator.toNat := by
          rw [Nat.mul_left_comm, Nat.mul_assoc]
      _ ≤ (multiplier.toNat * baseFee.toNat + tip.toNat) * floor.denominator.toNat :=
          Nat.mul_le_mul_right _ (Nat.le_add_right _ _)

/-- A base fee of one and no tip tell whether the multiplier reaches the ratio. -/
theorem coherent_of_least_le_cap {floor : FeeFloor} {multiplier : UInt64}
    (divided : 0 < floor.denominator.toNat)
    (reached : (floor.least 1).toNat ≤ (QuoteSource.cap multiplier 1 0).toNat) :
    floor.numerator.toNat ≤ multiplier.toNat * floor.denominator.toNat := by
  rw [least_le_iff divided, QuoteSource.toNat_cap] at reached
  have one : (1 : Word).toNat = 1 := rfl
  have zero : (0 : Word).toNat = 0 := rfl
  rw [one, zero, Nat.one_mul, Nat.mul_one, Nat.add_zero,
    Nat.min_eq_left (Nat.le_of_lt (Word.toNat_ofUInt64_lt _)),
    Nat.min_eq_right (Nat.le_of_lt (Word.toNat_ofUInt64_lt _))] at reached
  exact reached

end FeeFloor

/-! ## Couriers with settings -/

/-- Whenever it is asked, the node tells this head, this tip and this price. -/
structure Node.Tells (node : Node) (head : Header) (tip price : Word) : Prop where
  latest (asked : List Query) : node.Answers asked .latestHeader head
  tipped (asked : List Query) : node.Answers asked .tip tip
  priced (asked : List Query) : node.Answers asked .gasPrice price

/-- The node that tells a head, a tip and a price, and nothing else. -/
def Node.telling (head : Header) (tip price : Word) : Node :=
  Node.steady fun
    | .latestHeader => .ok head
    | .tip => .ok tip
    | .gasPrice => .ok price
    | _ => .error (.transport "silent")

theorem Node.tells_telling (head : Header) (tip price : Word) :
    (Node.telling head tip price).Tells head tip price where
  latest _ := rfl
  tipped _ := rfl
  priced _ := rfl

/-- The quote for a head, given what else is told. -/
def QuoteSource.quoteFor (multiplier : UInt64) (head : Header) (tip price : Word) : GasQuote :=
  match head.baseFee with
  | none => .single price
  | some baseFee => overBaseFee multiplier baseFee tip

theorem Node.Tells.reaches_ofHead {node : Node} {head : Header} {tip price : Word}
    (tells : node.Tells head tip price) (multiplier : UInt64) (t : Trace) :
    ∃ asked, Reaches (QuoteSource.ofHead multiplier) node t
      (QuoteSource.quoteFor multiplier head tip price) asked := by
  unfold QuoteSource.quoteFor
  cases fee : head.baseFee with
  | none =>
    exact ⟨_, TxCourier.reaches_ofHead.mpr (.single (tells.latest _) fee (tells.priced _))⟩
  | some baseFee =>
    exact ⟨_, TxCourier.reaches_ofHead.mpr (.capped (tells.latest _) fee (tells.tipped _))⟩

/-- A floor decides by the head that the node tells. -/
theorem FeeFloor.check_ok_iff {node : Node} {t : Trace} {head : Header}
    (latest : node.Answers t.queries .latestHeader head) (floor : FeeFloor) (quote : GasQuote) :
    ((floor.check quote).outcome node t).1 = .ok () ↔ floor.fault? head.baseFee quote = none := by
  constructor
  · intro ended
    obtain ⟨told, latest', accepted, -⟩ := reaches_floorCheck.mp ⟨_, Prod.ext ended rfl, rfl⟩
    have same : told = head := Except.ok.inj (latest'.symm.trans latest)
    rw [← same]
    exact accepted
  · intro accepted
    obtain ⟨t', ended, -⟩ := reaches_floorCheck.mpr ⟨head, latest, accepted, rfl⟩
    rw [ended]

theorem Node.Tells.check_ok_iff {node : Node} {head : Header} {tip price : Word}
    (tells : node.Tells head tip price) (floor : FeeFloor) (quote : GasQuote) (t : Trace) :
    ((floor.check quote).outcome node t).1 = .ok () ↔ floor.fault? head.baseFee quote = none :=
  floor.check_ok_iff (tells.latest _) quote

namespace Settings

/-- What validity says about the prices. -/
theorem prices_of_validated {s : Settings} (valid : s.validated = .ok s) :
    0 < s.prices.multiplier.toNat ∧ 0 < s.prices.denominator.toNat ∧
      s.prices.floor = ⟨s.prices.numerator, s.prices.denominator⟩ := by
  have positive {n : UInt64} (nonzero : n ≠ 0) : 0 < n.toNat :=
    Nat.pos_of_ne_zero fun zero => nonzero (UInt64.toNat.inj zero)
  unfold validated at valid
  split at valid
  · cases valid
  · rename_i faultless
    unfold fault? at faultless
    split at faultless
    · cases faultless
    · rename_i counted
      split at faultless
      · cases faultless
      · rename_i divided
        refine ⟨positive counted, positive divided, ?_⟩
        rw [PriceSettings.floor, FeeFloor.ofRatio, if_neg divided]

/-- Of valid settings, what the courier quotes passes its own decision for every head, tip and
price exactly where the multiplier reaches the ratio. The decision may be asked for at another time
than the quote, as long as the node tells the same. Every quote with a cap has the exact sum for it
as far as words reach, and so pays the tip and the base fee at least. -/
theorem quotes_pass_iff_coherent {s : Settings} (valid : s.validated = .ok s) (chainId : Word) :
    let courier := Courier.ofSettings chainId s
    ((∀ head tip price node, node.Tells head tip price → ∀ t u, ∃ quote decide,
        (courier.quotes.outcome node t).1 = .ok quote ∧ courier.decide = some decide ∧
        ((decide quote).outcome node u).1 = .ok ()) ↔
      s.prices.numerator.toNat ≤ s.prices.multiplier.toNat * s.prices.denominator.toNat) ∧
    ∀ node t baseFee tip cap, (courier.quotes.outcome node t).1 = .ok (.capped baseFee tip cap) →
      ∃ fee, baseFee = some fee ∧
        cap.toNat
          = min (Word.size - 1) (s.prices.multiplier.toNat * fee.toNat + tip.toNat) ∧
        tip.toNat ≤ cap.toNat ∧ fee.toNat ≤ cap.toNat := by
  intro courier
  obtain ⟨counted, divided, floor⟩ := prices_of_validated valid
  have decides : courier.decide = some s.prices.floor.check := rfl
  have quotes : courier.quotes = QuoteSource.ofHead s.prices.multiplier := rfl
  rw [quotes, decides, floor]
  refine ⟨⟨fun passes => ?_, fun coherent head tip price node tells t u => ?_⟩, ?_⟩
  · let head : Header := ⟨0, FixedBytes.replicate 32 0, some 1⟩
    have tells := Node.tells_telling head 0 0
    obtain ⟨quote, decide, quoted, same, passed⟩ := passes head 0 0 _ tells Trace.start Trace.start
    cases same
    obtain ⟨_, t', ended, -⟩ := tells.reaches_ofHead s.prices.multiplier Trace.start
    rw [ended] at quoted
    cases quoted
    have accepted := (tells.check_ok_iff _ _ _).mp passed
    exact FeeFloor.coherent_of_least_le_cap divided
      (FeeFloor.fault?_overBaseFee_eq_none_iff.mp accepted)
  · obtain ⟨_, t', ended, -⟩ := tells.reaches_ofHead s.prices.multiplier t
    refine ⟨_, _, congrArg Prod.fst ended, rfl, (tells.check_ok_iff _ _ _).mpr ?_⟩
    unfold QuoteSource.quoteFor
    cases head.baseFee with
    | none => rfl
    | some baseFee =>
      exact FeeFloor.fault?_overBaseFee_eq_none_iff.mpr
        (FeeFloor.least_le_cap divided coherent baseFee tip)
  · intro node t baseFee tip cap quoted
    obtain ⟨asked, made⟩ : ∃ asked, Quoted node t.queries s.prices.multiplier
        (.capped baseFee tip cap) asked := ⟨_, reaches_ofHead.mp ⟨_, Prod.ext quoted rfl, rfl⟩⟩
    cases made with
    | capped => exact ⟨_, rfl, QuoteSource.toNat_cap _ _ _, QuoteSource.tip_le_cap _ _ _,
        QuoteSource.baseFee_le_cap counted _ _⟩

/-- The default settings are valid and coherent, so what they quote passes. -/
theorem quotes_pass_iff_coherent_default :
    Settings.default.validated = .ok Settings.default ∧
      ∀ head tip price node, node.Tells head tip price → ∀ t u, ∃ quote decide,
        ((Courier.ofSettings 1 Settings.default).quotes.outcome node t).1 = .ok quote ∧
        (Courier.ofSettings 1 Settings.default).decide = some decide ∧
        ((decide quote).outcome node u).1 = .ok () :=
  ⟨rfl, (quotes_pass_iff_coherent rfl 1).1.mpr (by decide)⟩

end Settings

end TxCourier

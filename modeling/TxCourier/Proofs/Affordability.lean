import TxCourier.Funds
import TxCourier.Proofs.IntrinsicCost
import TxCourier.Proofs.Session
import TxCourier.Proofs.Words

/-! # Who can afford a transaction

A balance is enough where it is above zero and, once there is a quote, covers the intrinsic gas at
the most that the quote pays. Gas that needs more than 64 bits and a cost that needs more than 256
are not held against the sender. What is executed is not paid for here, so a balance that is enough
need not be enough in the end. -/
namespace TxCourier.Funds

open Attempt

/-! ## The balance -/

/-- The exact intrinsic gas of some data, which creates a contract or not. -/
def gasFor (rules : IntrinsicRules) (data : Bytes) (isCreation : Bool) : Nat :=
  IntrinsicGas.exact rules ⟨data, none, none, isCreation⟩

/-- The balance is above zero, and covers the gas at the ceiling of the quote where that fits. -/
def Affords (rules : IntrinsicRules) (balance : Word) (data : Bytes) (isCreation : Bool)
    (quote : Option GasQuote) : Prop :=
  0 < balance.toNat ∧
    (quote = none ∨ ∃ q, quote = some q ∧
      (UInt64.size ≤ gasFor rules data isCreation ∨
        Word.size ≤ gasFor rules data isCreation * q.ceiling.toNat ∨
        gasFor rules data isCreation * q.ceiling.toNat ≤ balance.toNat))

section

variable {rules : IntrinsicRules} {balance : Word} {data : Bytes} {isCreation : Bool}

/-- There is a cost exactly where both the gas and its price fit. -/
theorem cost?_eq_some_iff {quote : GasQuote} {cost : Word} :
    cost? rules data isCreation quote = some cost ↔
      gasFor rules data isCreation < UInt64.size ∧
        cost.toNat = gasFor rules data isCreation * quote.ceiling.toNat := by
  unfold cost?
  simp only [Option.bind_eq_bind, Option.bind_eq_some_iff, IntrinsicGas.charged?_eq_some_iff,
    Word.checkedMul_eq_some_iff, Word.toNat_ofUInt64]
  constructor
  · rintro ⟨gas, sum, product⟩
    rw [sum] at product
    exact ⟨Nat.lt_of_le_of_lt (Nat.le_of_eq sum.symm) gas.toNat_lt, product⟩
  · rintro ⟨fits, product⟩
    have sum := UInt64.toNat_ofNat_of_lt' fits
    refine ⟨UInt64.ofNat (gasFor rules data isCreation), sum, ?_⟩
    rw [sum]
    exact product

theorem cost?_eq_none_iff {quote : GasQuote} :
    cost? rules data isCreation quote = none ↔
      UInt64.size ≤ gasFor rules data isCreation ∨
        Word.size ≤ gasFor rules data isCreation * quote.ceiling.toNat := by
  constructor
  · intro refused
    by_cases gas : UInt64.size ≤ gasFor rules data isCreation
    · exact .inl gas
    · refine .inr (Nat.le_of_not_lt fun fits => ?_)
      have made : cost? rules data isCreation quote
          = some (BitVec.ofNat 256 (gasFor rules data isCreation * quote.ceiling.toNat)) :=
        cost?_eq_some_iff.mpr ⟨Nat.lt_of_not_le gas, Nat.mod_eq_of_lt fits⟩
      rw [refused] at made
      cases made
  · intro large
    cases made : cost? rules data isCreation quote with
    | none => rfl
    | some cost =>
      obtain ⟨gas, product⟩ := cost?_eq_some_iff.mp made
      have fits := cost.toNat_lt_size
      rcases large with large | large
      · exact absurd gas (Nat.not_lt.mpr large)
      · exact absurd fits (Nat.not_lt.mpr (product ▸ large))

theorem covers_eq_true_iff {quote : Option GasQuote} :
    covers rules balance data isCreation quote = true ↔
      Affords rules balance data isCreation quote := by
  unfold covers Affords
  by_cases zero : balance = 0
  · simp [zero]
  · have positive : 0 < balance.toNat :=
      Nat.pos_of_ne_zero fun value => zero (BitVec.eq_of_toNat_eq value)
    rw [if_neg zero]
    cases quote with
    | none => simp [positive]
    | some q =>
      simp only [positive, true_and, Option.bind_some, reduceCtorEq, Option.some.injEq,
        exists_eq_left', false_or]
      cases made : cost? rules data isCreation q with
      | none =>
        rcases cost?_eq_none_iff.mp made with large | large
        · simp [large]
        · simp [large]
      | some cost =>
        obtain ⟨gas, product⟩ := cost?_eq_some_iff.mp made
        have fits := cost.toNat_lt_size
        rw [product] at fits
        simp [product, Nat.not_le.mpr gas, Nat.not_le.mpr fits]

instance (quote : Option GasQuote) : Decidable (Affords rules balance data isCreation quote) :=
  decidable_of_iff _ covers_eq_true_iff

/-- A larger balance is enough wherever a smaller one is. -/
theorem Affords.mono {more : Word} {quote : Option GasQuote}
    (enough : Affords rules balance data isCreation quote) (larger : balance.toNat ≤ more.toNat) :
    Affords rules more data isCreation quote := by
  obtain ⟨positive, unquoted | ⟨q, quoted, gas | cost | covered⟩⟩ := enough
  · exact ⟨Nat.lt_of_lt_of_le positive larger, .inl unquoted⟩
  · exact ⟨Nat.lt_of_lt_of_le positive larger, .inr ⟨q, quoted, .inl gas⟩⟩
  · exact ⟨Nat.lt_of_lt_of_le positive larger, .inr ⟨q, quoted, .inr (.inl cost)⟩⟩
  · exact ⟨Nat.lt_of_lt_of_le positive larger,
      .inr ⟨q, quoted, .inr (.inr (Nat.le_trans covered larger))⟩⟩

end

/-! ## The decision -/

section

variable {node : Node} {t : Trace} {rules : IntrinsicRules} {sender : Address} {data : Bytes}
  {recipient : Option Address} {quote : Option GasQuote}

theorem outcome_check_of_refused {e : NodeError}
    (refused : (node t.queries (.balance sender none)).result = .error e) :
    ((check rules sender data recipient quote).outcome node t).1 = .error (.node e) := by
  unfold check
  rw [outcome_bind, outcome_ask, refused]

theorem outcome_check_of_told {balance : Word}
    (told : node.Answers t.queries (.balance sender none) balance) :
    ((check rules sender data recipient quote).outcome node t).1
      = if covers rules balance data recipient.isNone quote then .ok ()
        else .error (.insufficientBalance ⟨some balance, none⟩) := by
  unfold check
  rw [outcome_bind, outcome_ask, told]
  dsimp only
  split
  · rfl
  · rfl

end

/-- The check passes where the balance that the node tells is enough. Where it is not, the check
fails with that balance and nothing that the node said, and where the node tells none, with what it
said instead. So what passes with some balance passes with any larger one. -/
theorem check_passes_iff_affords (rules : IntrinsicRules) (sender : Address) (data : Bytes)
    (recipient : Option Address) (quote : Option GasQuote) :
    let verdict := fun node t => ((check rules sender data recipient quote).outcome node t).1
    (∀ node t (balance : Word), node.Answers t.queries (.balance sender none) balance →
      (verdict node t = .ok () ↔ Affords rules balance data recipient.isNone quote) ∧
      (¬Affords rules balance data recipient.isNone quote →
        verdict node t = .error (.insufficientBalance ⟨some balance, none⟩))) ∧
    (∀ node t e, (node t.queries (.balance sender none)).result = .error e →
      verdict node t = .error (.node e)) ∧
    ∀ node t (balance : Word), node.Answers t.queries (.balance sender none) balance →
      ∀ node' t' (more : Word), node'.Answers t'.queries (.balance sender none) more →
        balance.toNat ≤ more.toNat → verdict node t = .ok () → verdict node' t' = .ok () := by
  intro verdict
  have passes (node : Node) (t : Trace) (balance : Word)
      (told : node.Answers t.queries (.balance sender none) balance) :
      verdict node t = .ok () ↔ Affords rules balance data recipient.isNone quote := by
    rw [← covers_eq_true_iff]
    simp only [verdict, outcome_check_of_told told]
    split
    · simp [*]
    · simp [*]
  refine ⟨fun node t balance told => ⟨passes node t balance told, fun short => ?_⟩,
    fun node t e => outcome_check_of_refused, ?_⟩
  · rw [← covers_eq_true_iff] at short
    simp only [verdict, outcome_check_of_told told, if_neg short]
  · intro node t balance told node' t' more told' larger passed
    have enough := (passes node t balance told).mp passed
    exact (passes node' t' more told').mpr (enough.mono larger)

/-- The node that tells one balance, and nothing else. -/
def tellingBalance (balance : Word) : Node :=
  Node.steady fun
    | .balance .. => .ok balance
    | _ => .error (.transport "silent")

/-- A transfer at a price of ten costs 210000. -/
theorem check_passes_iff_affords_transfer :
    let verdict := fun balance => ((check .all Address.zero [] (some Address.zero)
      (some (.single 10))).outcome (tellingBalance balance) Trace.start).1
    verdict 210000 = .ok () ∧
      verdict 209999 = .error (.insufficientBalance ⟨some 209999, none⟩) ∧
      verdict 300000 = .ok () := by
  intro verdict
  have decided := check_passes_iff_affords .all Address.zero [] (some Address.zero)
    (some (.single 10))
  have exact_cost := (decided.1 (tellingBalance 210000) Trace.start 210000 rfl).1.mpr (by decide)
  exact ⟨exact_cost, (decided.1 (tellingBalance 209999) Trace.start 209999 rfl).2 (by decide),
    decided.2.2 (tellingBalance 210000) Trace.start 210000 rfl (tellingBalance 300000) Trace.start
      300000 rfl (by decide) exact_cost⟩

end TxCourier.Funds

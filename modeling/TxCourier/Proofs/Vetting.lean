import TxCourier.Courier
import TxCourier.Proofs.DraftRun

/-! # What a call is vetted by

A courier that asks the node about everything puts its questions in one order, and goes on only
where each answer is good. What is held is the list of the questions and the answers themselves, for
a node that may answer differently every time. -/
namespace TxCourier

open Attempt

/-- The fields of an unsigned transaction with the price of a quote. -/
def GasQuote.fields : GasQuote → Fields
  | single price => .legacy price
  | capped _ tip cap => .dynamicFee ⟨tip, cap⟩ []

/-- What couriers that ask the node about everything differ in. There are no rules where nobody
looks at the funds. -/
structure Terms where
  chainId : Word
  polling : Polling
  multiplier : UInt64
  floor : FeeFloor
  rules : Option IntrinsicRules
  strict : Bool

namespace Terms

def courier (terms : Terms) : Courier where
  chainId := terms.chainId
  polling := terms.polling
  quotes := QuoteSource.ofHead terms.multiplier
  decide := some terms.floor.check
  estimator := GasEstimator.ofNode
  nonces := NonceSource.ofNode
  funds := terms.rules.map Funds.check
  strict := terms.strict

/-- The terms on which nothing is configured. -/
def default (chainId : Word) : Terms :=
  ⟨chainId, .default, PriceSettings.default.multiplier, PriceSettings.default.floor, none, true⟩

def ofSettings (chainId : Word) (s : Settings) : Terms :=
  ⟨chainId, ⟨s.waiting.attempts, s.waiting.pauseMillis⟩, s.prices.multiplier, s.prices.floor,
    some s.rules, s.strict⟩

/-- A draft with all that a transaction needs. -/
def draft (terms : Terms) (sender : Address) (call : ContractCall) (nonce : UInt64)
    (quote : GasQuote) (gas : UInt64) : Draft :=
  ⟨terms.chainId, some sender, some call.recipient, call.toContract, call.data, call.value,
    some nonce, some quote, some gas, none⟩

theorem courier_default (chainId : Word) : (default chainId).courier = Courier.new chainId := rfl

theorem courier_ofSettings (chainId : Word) (s : Settings) :
    (ofSettings chainId s).courier = Courier.ofSettings chainId s := rfl

end Terms

/-! ## The stages -/

section Stages

variable (node : Node) (call : ContractCall) (asked : List Query)

/-- The node's prices make a quote. -/
inductive Quoted (multiplier : UInt64) : GasQuote → List Query → Prop
  | single {head : Header} {price : Word} (latest : node.Answers asked .latestHeader head)
      (feeless : head.baseFee = none)
      (priced : node.Answers (.latestHeader :: asked) .gasPrice price) :
      Quoted multiplier (.single price) (.gasPrice :: .latestHeader :: asked)
  | capped {head : Header} {baseFee tip : Word} (latest : node.Answers asked .latestHeader head)
      (fee : head.baseFee = some baseFee)
      (tipped : node.Answers (.latestHeader :: asked) .tip tip) :
      Quoted multiplier (QuoteSource.overBaseFee multiplier baseFee tip)
        (.tip :: .latestHeader :: asked)

/-- The sender has money, and enough of it where the cost is known. -/
inductive Funded (rules : Option IntrinsicRules) (sender : Address) (quote : GasQuote) :
    List Query → Prop
  | unasked (unruled : rules = none) : Funded rules sender quote asked
  | covered {r : IntrinsicRules} {balance : Word} (ruled : rules = some r)
      (told : node.Answers asked (.balance sender none) balance)
      (enough : Funds.covers r balance call.data false (some quote) = true) :
      Funded rules sender quote (.balance sender none :: asked)

/-- The recipient has code where it has to, and is not called with no data where that is refused. -/
inductive Looked (strict : Bool) : List Query → Prop
  | unasked (free : call.toContract = false) (lax : strict = false) : Looked strict asked
  | seen {code : Bytes} (wanted : call.toContract = true ∨ strict = true)
      (told : node.Answers asked (.pendingCode call.recipient) code)
      (there : call.toContract = true → code ≠ [])
      (spoken : strict = true → code ≠ [] → call.data ≠ []) :
      Looked strict (.pendingCode call.recipient :: asked)

end Stages

/-- The message by which the gas of a call is estimated. -/
def ContractCall.message (call : ContractCall) (sender : Address) (quote : GasQuote) :
    CallMessage :=
  (CallMessage.unpriced sender (some call.recipient) call.data call.value).withQuote quote

/-- The answers that let a call pass, after questions that were asked before. -/
structure Vetting (terms : Terms) (node : Node) (sender : Address) (call : ContractCall)
    (asked : List Query) where
  nonce : UInt64
  quote : GasQuote
  gas : UInt64
  head : Header
  quoted : List Query
  funded : List Query
  looked : List Query
  counted : node.Answers asked (.pendingNonce sender) nonce
  priced : Quoted node (.pendingNonce sender :: asked) terms.multiplier quote quoted
  estimated : node.Answers quoted (.estimate (call.message sender quote)) gas
  covered : Funded node call (.estimate (call.message sender quote) :: quoted) terms.rules sender
    quote funded
  seen : Looked node call funded terms.strict looked
  latest : node.Answers looked .latestHeader head
  accepted : terms.floor.fault? head.baseFee quote = none

namespace Vetting

variable {terms : Terms} {node : Node} {sender : Address} {call : ContractCall}
  {asked : List Query}

/-- All questions, the newest first. -/
def queries (v : Vetting terms node sender call asked) : List Query := .latestHeader :: v.looked

def draft (v : Vetting terms node sender call asked) : Draft :=
  terms.draft sender call v.nonce v.quote v.gas

/-- The transaction that is made of the answers. -/
def envelope (v : Vetting terms node sender call asked) : Envelope where
  chainId := terms.chainId
  nonce := v.nonce
  gas := v.gas
  recipient := some call.recipient
  value := call.value
  data := call.data
  fields := v.quote.fields
  signature := .empty
  recipient_isSome := fun _ => rfl

theorem assemble_draft (v : Vetting terms node sender call asked) :
    v.draft.assemble = .ok v.envelope := by
  obtain ⟨nonce, quote, gas⟩ := v
  cases quote <;> rfl

end Vetting

/-! ## Passing the stages -/

variable {node : Node} {t : Trace} {asked : List Query}

theorem reaches_ofHead {multiplier : UInt64} {quote : GasQuote} :
    Reaches (QuoteSource.ofHead multiplier) node t quote asked ↔
      Quoted node t.queries multiplier quote asked := by
  constructor
  · rintro ⟨t', ended, rfl⟩
    obtain ⟨head, _, got, rest⟩ := outcome_bind_ok.mp ended
    obtain ⟨latest, rfl⟩ := outcome_ask_ok.mp got
    cases fee : head.baseFee with
    | none =>
      rw [fee] at rest
      obtain ⟨price, _, got, rest⟩ := outcome_bind_ok.mp rest
      obtain ⟨priced, rfl⟩ := outcome_ask_ok.mp got
      cases rest
      exact .single latest fee priced
    | some baseFee =>
      rw [fee] at rest
      obtain ⟨tip, _, got, rest⟩ := outcome_bind_ok.mp rest
      obtain ⟨tipped, rfl⟩ := outcome_ask_ok.mp got
      cases rest
      exact .capped latest fee tipped
  · intro quoted
    cases quoted with
    | @single head price latest feeless priced =>
      refine Reaches.bind (Reaches.ask rfl latest) fun t' same => ?_
      rw [feeless]
      exact Reaches.bind (Reaches.ask same priced) fun _ same' => Reaches.pure _ same'
    | @capped head baseFee tip latest fee tipped =>
      refine Reaches.bind (Reaches.ask rfl latest) fun t' same => ?_
      rw [fee]
      exact Reaches.bind (Reaches.ask same tipped) fun _ same' => Reaches.pure _ same'

theorem reaches_estimate {message : CallMessage} {gas : UInt64} :
    Reaches (GasEstimator.ofNode message) node t gas asked ↔
      node.Answers t.queries (.estimate message) gas ∧ asked = .estimate message :: t.queries := by
  unfold GasEstimator.ofNode Node.Answers Reaches
  rw [outcome_bind, outcome_sessionAsk]
  cases reply : (node t.queries (.estimate message)).result with
  | ok got =>
    constructor
    · rintro ⟨t', ended, rfl⟩
      cases ended
      exact ⟨rfl, rfl⟩
    · rintro ⟨same, rfl⟩
      cases same
      exact ⟨_, rfl, rfl⟩
  | error e =>
    constructor
    · rintro ⟨t', ended, -⟩
      cases ended
    · rintro ⟨same, -⟩
      cases same

theorem reaches_fundsCheck {r : IntrinsicRules} {sender : Address} {data : Bytes}
    {recipient : Option Address} {quote : Option GasQuote} :
    Reaches (Funds.check r sender data recipient quote) node t () asked ↔
      ∃ balance, node.Answers t.queries (.balance sender none) balance ∧
        Funds.covers r balance data recipient.isNone quote = true ∧
        asked = .balance sender none :: t.queries := by
  constructor
  · rintro ⟨t', ended, rfl⟩
    obtain ⟨balance, _, got, rest⟩ := outcome_bind_ok.mp ended
    obtain ⟨told, rfl⟩ := outcome_ask_ok.mp got
    split at rest
    · rename_i enough
      cases rest
      exact ⟨balance, told, enough, rfl⟩
    · cases rest
  · rintro ⟨balance, told, enough, rfl⟩
    refine Reaches.bind (Reaches.ask rfl told) fun t' same => ?_
    rw [if_pos enough]
    exact Reaches.pure () same

theorem reaches_floorCheck {floor : FeeFloor} {quote : GasQuote} :
    Reaches (floor.check quote) node t () asked ↔
      ∃ head, node.Answers t.queries .latestHeader head ∧ floor.fault? head.baseFee quote = none ∧
        asked = .latestHeader :: t.queries := by
  constructor
  · rintro ⟨t', ended, rfl⟩
    obtain ⟨head, _, got, rest⟩ := outcome_bind_ok.mp ended
    obtain ⟨latest, rfl⟩ := outcome_ask_ok.mp got
    split at rest
    · cases rest
    · rename_i accepted
      cases rest
      exact ⟨head, latest, accepted, rfl⟩
  · rintro ⟨head, latest, accepted, rfl⟩
    refine Reaches.bind (Reaches.ask rfl latest) fun t' same => ?_
    rw [accepted]
    exact Reaches.pure () same

theorem reaches_checkRecipient {d : Draft} {call : ContractCall} {strict : Bool}
    (recipient : d.recipient = some call.recipient) (must : d.mustBeContract = call.toContract)
    (data : d.data = call.data) :
    Reaches (d.checkRecipient strict) node t () asked ↔
      Looked node call t.queries strict asked := by
  unfold Draft.checkRecipient
  rw [recipient, must, data]
  dsimp only
  by_cases wanted : (call.toContract || strict) = true
  · rw [if_pos wanted]
    have either : call.toContract = true ∨ strict = true := by simpa using wanted
    constructor
    · rintro ⟨t', ended, rfl⟩
      obtain ⟨code, _, got, rest⟩ := outcome_bind_ok.mp ended
      obtain ⟨told, rfl⟩ := outcome_ask_ok.mp got
      change Bytes at code
      split at rest
      · cases rest
      · rename_i there
        split at rest
        · cases rest
        · rename_i spoken
          cases rest
          refine .seen either told ?_ ?_
          · simpa [List.isEmpty_eq_false_iff] using there
          · simpa [List.isEmpty_eq_false_iff] using spoken
    · intro looked
      cases looked with
      | unasked free lax => simp [free, lax] at wanted
      | seen _ told there spoken =>
        refine Reaches.bind (Reaches.ask rfl told) fun t' same => ?_
        rw [if_neg (by simpa using there), if_neg (by simpa using spoken)]
        exact Reaches.pure () same
  · rw [if_neg wanted]
    have neither : call.toContract = false ∧ strict = false := by simpa using wanted
    constructor
    · rintro ⟨t', ended, rfl⟩
      cases ended
      exact .unasked neither.1 neither.2
    · intro looked
      cases looked with
      | unasked free lax => exact Reaches.pure () rfl
      | seen either => simp [neither.1, neither.2] at either

/-! ## All stages -/

section AllStages

variable {terms : Terms} {sender : Address} {call : ContractCall} {nonce gas : UInt64}
  {quote : GasQuote}

theorem reaches_check {d : Draft} :
    Reaches (Draft.attemptAll [.check terms.strict (some terms.floor.check)]
        (terms.draft sender call nonce quote gas)) node t d asked ↔
      ∃ looked head, Looked node call t.queries terms.strict looked ∧
        node.Answers looked .latestHeader head ∧ terms.floor.fault? head.baseFee quote = none ∧
        d = terms.draft sender call nonce quote gas ∧ asked = .latestHeader :: looked := by
  have steps : Draft.attemptAll [.check terms.strict (some terms.floor.check)]
      (terms.draft sender call nonce quote gas)
      = (terms.draft sender call nonce quote gas).checkRecipient terms.strict >>= fun _ =>
        terms.floor.check quote >>= fun _ => pure (terms.draft sender call nonce quote gas) := by
    simp only [Draft.attemptAll, Draft.Step.attempt, bind_pure]
    rfl
  rw [steps]
  have seen {t : Trace} {asked : List Query} :
      Reaches ((terms.draft sender call nonce quote gas).checkRecipient terms.strict) node t ()
        asked ↔ Looked node call t.queries terms.strict asked := reaches_checkRecipient rfl rfl rfl
  constructor
  · rintro ⟨t', ended, rfl⟩
    obtain ⟨⟨⟩, between, looks, rest⟩ := outcome_bind_ok.mp ended
    obtain ⟨⟨⟩, last, checks, rest⟩ := outcome_bind_ok.mp rest
    cases rest
    obtain ⟨head, latest, accepted, same⟩ := reaches_floorCheck.mp ⟨_, checks, rfl⟩
    exact ⟨between.queries, head, seen.mp ⟨_, looks, rfl⟩, latest, accepted, rfl, same⟩
  · rintro ⟨looked, head, looks, latest, accepted, rfl, rfl⟩
    refine Reaches.bind (seen.mpr looks) fun t' same => ?_
    rw [← same] at latest ⊢
    exact Reaches.bind (reaches_floorCheck.mpr ⟨head, latest, accepted, rfl⟩) fun _ same' =>
      Reaches.pure _ same'

theorem reaches_fundsAndCheck {d : Draft} :
    Reaches (Draft.attemptAll ((terms.rules.map Funds.check).toList.map Draft.Step.funds
          ++ [.check terms.strict (some terms.floor.check)])
        (terms.draft sender call nonce quote gas)) node t d asked ↔
      ∃ funded looked head, Funded node call t.queries terms.rules sender quote funded ∧
        Looked node call funded terms.strict looked ∧
        node.Answers looked .latestHeader head ∧ terms.floor.fault? head.baseFee quote = none ∧
        d = terms.draft sender call nonce quote gas ∧ asked = .latestHeader :: looked := by
  cases rules : terms.rules with
  | none =>
    constructor
    · intro reached
      obtain ⟨looked, head, passed⟩ := reaches_check.mp reached
      exact ⟨t.queries, looked, head, .unasked rfl, passed⟩
    · rintro ⟨_, looked, head, unasked, passed⟩
      cases unasked with
      | unasked => exact reaches_check.mpr ⟨looked, head, passed⟩
      | covered ruled => cases ruled
  | some r =>
    have steps : Draft.attemptAll (((some r).map Funds.check).toList.map Draft.Step.funds
          ++ [.check terms.strict (some terms.floor.check)])
        (terms.draft sender call nonce quote gas)
        = Funds.check r sender call.data (some call.recipient) (some quote) >>= fun _ =>
          Draft.attemptAll [.check terms.strict (some terms.floor.check)]
            (terms.draft sender call nonce quote gas) := by
      simp only [Option.map_some, Option.toList_some, List.map_cons, List.map_nil, List.cons_append,
        List.nil_append, Draft.attemptAll, Draft.Step.attempt, bind_assoc, pure_bind]
      rfl
    rw [steps]
    constructor
    · rintro ⟨t', ended, rfl⟩
      obtain ⟨⟨⟩, between, pays, rest⟩ := outcome_bind_ok.mp ended
      obtain ⟨balance, told, enough, same⟩ := reaches_fundsCheck.mp ⟨_, pays, rfl⟩
      obtain ⟨looked, head, passed⟩ := reaches_check.mp ⟨_, rest, rfl⟩
      exact ⟨between.queries, looked, head, same ▸ .covered rfl told enough, passed⟩
    · rintro ⟨_, looked, head, funded, looks, passed⟩
      cases funded with
      | unasked unruled => cases unruled
      | covered ruled told enough =>
        cases ruled
        refine Reaches.bind (reaches_fundsCheck.mpr ⟨_, told, enough, rfl⟩) fun t' same => ?_
        rw [← same] at looks
        exact reaches_check.mpr ⟨looked, head, looks, passed⟩

/-- The steps of a call are three questions about the transaction, and then the checks. -/
theorem attemptAll_steps (terms : Terms) (key : PublicKey) (call : ContractCall) :
    Draft.attemptAll (.senderOf key :: terms.courier.steps call true) (Draft.new terms.chainId)
      = wrapping (.during Draft.askingNonce) (NonceSource.ofNode key.address true) >>= fun nonce =>
        QuoteSource.ofHead terms.multiplier >>= fun quote =>
        wrapping .estimation (GasEstimator.ofNode (call.message key.address quote)) >>= fun gas =>
        Draft.attemptAll ((terms.rules.map Funds.check).toList.map Draft.Step.funds
          ++ [.check terms.strict (some terms.floor.check)])
          (terms.draft key.address call nonce quote gas) := by
  simp only [Courier.steps, Terms.courier, List.cons_append, List.nil_append, Draft.attemptAll,
    Draft.Step.attempt, bind_assoc, pure_bind]
  rfl

/-- The steps of a call succeed exactly where it is vetted. -/
theorem reaches_attemptAll {key : PublicKey} {d : Draft} :
    Reaches (Draft.attemptAll (.senderOf key :: terms.courier.steps call true)
        (Draft.new terms.chainId)) node t d asked ↔
      ∃ v : Vetting terms node key.address call t.queries, d = v.draft ∧ asked = v.queries := by
  rw [attemptAll_steps]
  constructor
  · rintro ⟨t', ended, rfl⟩
    obtain ⟨nonce, _, counts, rest⟩ := outcome_bind_ok.mp ended
    obtain ⟨counted, rfl⟩ := outcome_ask_ok.mp (outcome_wrapping_ok.mp counts)
    obtain ⟨quote, quoted, prices, rest⟩ := outcome_bind_ok.mp rest
    obtain ⟨gas, between, estimates, rest⟩ := outcome_bind_ok.mp rest
    obtain ⟨estimated, same⟩ := reaches_estimate.mp ⟨_, outcome_wrapping_ok.mp estimates, rfl⟩
    obtain ⟨funded, looked, head, covered, seen, latest, accepted, rfl, queries⟩ :=
      reaches_fundsAndCheck.mp ⟨_, rest, rfl⟩
    exact ⟨⟨nonce, quote, gas, head, quoted.queries, funded, looked, counted,
      reaches_ofHead.mp ⟨_, prices, rfl⟩, estimated, same ▸ covered, seen, latest, accepted⟩, rfl,
      queries⟩
  · rintro ⟨v, rfl, rfl⟩
    refine Reaches.bind (Reaches.wrapping (Reaches.ask rfl v.counted) _) fun t₁ same₁ => ?_
    have priced := v.priced
    rw [← same₁] at priced
    refine Reaches.bind (reaches_ofHead.mpr priced) fun t₂ same₂ => ?_
    have estimated := v.estimated
    have covered := v.covered
    rw [← same₂] at estimated covered
    have estimates := Reaches.wrapping (reaches_estimate.mpr ⟨estimated, rfl⟩) .estimation
    refine Reaches.bind estimates fun t₃ same₃ => ?_
    rw [← same₃] at covered
    exact reaches_fundsAndCheck.mpr
      ⟨v.funded, v.looked, v.head, covered, v.seen, v.latest, v.accepted, rfl, rfl⟩

end AllStages

end TxCourier

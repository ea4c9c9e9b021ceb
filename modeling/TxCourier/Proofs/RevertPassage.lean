import TxCourier.Node.JsonRpc
import TxCourier.Proofs.Classification
import TxCourier.Proofs.DraftRun
import TxCourier.Proofs.HexLanguage
import TxCourier.Proofs.Wrapping

/-! # The way of a revert payload

A node that refuses an estimate puts the payload of the contract's error into the data of its own.
On the way up it is a string of a response, the text of a node's error, a part of a failure and the
failure of a draft, and what is read at the end are the bytes that were written. What stands between
the quotation marks is taken as it is: digits written as escapes are not read. -/
namespace TxCourier

namespace JsonRpc

/-! ## The data of an error -/

theorem escape_of_plain {c : Char} (printed : 35 ≤ c.toNat) (backslash : c.toNat ≠ 92) :
    Json.escape c = [c] := by
  have other {d : Char} (different : d.toNat < 35 ∨ d.toNat = 92) : c ≠ d := by
    rintro rfl
    omega
  unfold Json.escape
  rw [if_neg (other (by decide)), if_neg (other (by decide)), if_neg (other (by decide)),
    if_neg (other (by decide)), if_neg (other (by decide)), if_neg (other (by decide)),
    if_neg (other (by decide)), if_neg (by omega)]

/-- The quotation marks at the ends are taken off if there are none inside. -/
theorem unquoted_quoted {cs : List Char} (inner : ∀ c ∈ cs, c ≠ '"') :
    unquoted (String.ofList ('"' :: (cs ++ ['"']))) = String.ofList cs := by
  have kept {ds : List Char} (inner : ∀ c ∈ ds, c ≠ '"') :
      ds.dropWhile (fun c => decide (c = '"')) = ds := by
    cases ds with
    | nil => rfl
    | cons c rest => exact List.dropWhile_cons_of_neg (by simpa using inner c List.mem_cons_self)
  have ends : ((cs ++ ['"']).dropWhile fun c => decide (c = '"')).reverse.dropWhile
      (fun c => decide (c = '"')) = cs.reverse := by
    cases cs with
    | nil => rfl
    | cons c rest =>
      have front : c ≠ '"' := inner c List.mem_cons_self
      rw [List.cons_append, List.dropWhile_cons_of_neg (by simpa using front), ← List.cons_append,
        List.reverse_append]
      refine (List.dropWhile_cons_of_pos (by simp)).trans (kept fun d member => ?_)
      exact inner d (List.mem_reverse.mp member)
  unfold unquoted
  dsimp only
  rw [String.toList_ofList, List.dropWhile_cons_of_pos (by simp), ends, List.reverse_reverse]

/-- A string that is printed without escapes is found between its quotation marks. -/
theorem unquoted_ofString {text : String}
    (plain : ∀ c ∈ text.toList, 35 ≤ c.toNat ∧ c.toNat ≠ 92) :
    unquoted (Json.ofString text).render = text := by
  have written : text.toList.flatMap Json.escape = text.toList := by
    rw [List.flatMap_def, List.map_congr_left fun c member =>
      escape_of_plain (plain c member).1 (plain c member).2, ← List.flatMap_def]
    exact List.flatMap_singleton' _
  have inner (c : Char) (member : c ∈ text.toList) : c ≠ '"' := by
    rintro rfl
    exact absurd (plain _ member).1 (by decide)
  have shown : (Json.ofString text).render = String.ofList ('"' :: (text.toList ++ ['"'])) := by
    rw [Json.render, Json.ofString, Json.tokens, List.flatMap_singleton, ← written]
    rfl
  rw [shown, unquoted_quoted inner, String.ofList_toList]

/-- An escape that stands in the data stays there. -/
example : dataText "\"\\u0030x08c379a0\"" = "0x\\u0030x08c379a0" := by decide

theorem plain_of_spells {text : String} {b : Bytes} (spells : Hex.Spells text b) :
    ∀ c ∈ text.toList, 35 ≤ c.toNat ∧ c.toNat ≠ 92 := by
  intro c member
  rcases Hex.mem_of_afterPrefix member with rfl | rfl | rfl | digit
  · decide
  · decide
  · decide
  · have value := spells.isSome_value? digit
    unfold Hex.value? at value
    grind

/-! ## The question and its answer -/

theorem feeMember_of_lt {name : String} {fee : Word} (narrow : fee.toNat < Fee.size) :
    feeMember name (some fee) = .ok (some (.ofWord fee)) := by
  rw [feeMember, Word.toFee?, if_pos narrow]

/-- The requests that were sent for what was asked so far. -/
def sent (t : Trace) : List Request := t.queries.filterMap fun q => (request q).toOption

/-- The transport lets a question fail with some data in its answer. -/
def Refuses (transport : List Request → Request → Response) (t : Trace) (q : Query)
    (message data : String) : Prop :=
  ∀ r, request q = .ok r →
    transport (sent t) r = .error ExecutionError.revertedCode message (some data)

end JsonRpc

/-! ## The failure and its payload -/

/-- The node's error that reports a revert with some data. -/
def NodeError.reverted (message data : String) : NodeError :=
  .answered ExecutionError.revertedCode message (some (JsonRpc.dataText data))

section

variable {message data : String} {b : Bytes}

theorem revertData?_reverted_iff :
    (ExecutionError.ofNode (.reverted message data)).revertData? = some b ↔
      Hex.decodeLenient (JsonRpc.unquoted data) = .ok b := by
  have read : (ExecutionError.ofNode (.reverted message data)).revertData?
      = (Hex.decodeLenient (JsonRpc.dataText data)).toOption := by
    rw [ExecutionError.revertData?, if_pos (by rfl)]
    rfl
  rw [read, JsonRpc.dataText, Hex.decodeLenient_withPrefix]
  cases Hex.decodeLenient (JsonRpc.unquoted data) with
  | ok whole => simp [Except.toOption]
  | error bad => simp [Except.toOption]

theorem ofError?_reverted
    (read : (ExecutionError.ofNode (.reverted message data)).revertData? = some b)
    (interfaces : List Abi.Interface) :
    Revert.ofError? (.ofNode (.reverted message data)) interfaces
      = Revert.parse? b interfaces := by
  rw [revertData?_reverted_iff, ← Hex.decodeLenient_withPrefix] at read
  exact congrArg (Option.bind · fun payload => Revert.parse? payload interfaces)
    (congrArg Except.toOption read)

end

/-- What is asked of a refused estimate, in any wrappers, is answered by the node's error. -/
theorem Failure.answers_wrapped_estimation (e : NodeError) (wrappers : List Wrapper) :
    ((Failure.estimation (.ofNodeError e)).wrapped wrappers).isEstimation = true ∧
      ((Failure.estimation (.ofNodeError e)).wrapped wrappers).isNodes = true ∧
      ((Failure.estimation (.ofNodeError e)).wrapped wrappers).execution? = some (.ofNode e) := by
  rw [isEstimation_wrapped, isNodes_wrapped, execution?_wrapped]
  exact ⟨.inr rfl, isNodes_ofNodeError e, execution?_ofNodeError e⟩

/-- The prices that a quote has. -/
def GasQuote.fees : GasQuote → List Word
  | .single price => [price]
  | .capped _ tip cap => [tip, cap]

namespace Draft

/-- Each price of the quote fits in the bits that a request has for it. -/
def HasNarrowFees (d : Draft) : Prop :=
  ∀ quote, d.quote = some quote → ∀ fee ∈ quote.fees, fee.toNat < Fee.size

variable {d : Draft} {transport : List JsonRpc.Request → JsonRpc.Request → JsonRpc.Response}
  {t : Trace} {message data : String}

theorem exists_request_estimate (narrow : d.HasNarrowFees) :
    ∃ params, JsonRpc.request (.estimate d.message) = .ok ⟨"eth_estimateGas", params⟩ := by
  have written : ∃ v, JsonRpc.transaction d.message = .ok v := by
    unfold Draft.message
    cases quoted : d.quote with
    | none => exact ⟨_, rfl⟩
    | some quote =>
      have small := narrow quote quoted
      cases quote with
      | single price =>
        have fits := small price List.mem_cons_self
        dsimp only [CallMessage.withQuote, JsonRpc.transaction]
        rw [JsonRpc.feeMember_of_lt fits]
        exact ⟨_, rfl⟩
      | capped baseFee tip cap =>
        have tipFits := small tip List.mem_cons_self
        have capFits := small cap (List.mem_cons_of_mem tip List.mem_cons_self)
        dsimp only [CallMessage.withQuote, JsonRpc.transaction]
        rw [JsonRpc.feeMember_of_lt tipFits, JsonRpc.feeMember_of_lt capFits]
        exact ⟨_, rfl⟩
  obtain ⟨v, written⟩ := written
  refine ⟨some [v, JsonRpc.pendingTag], ?_⟩
  rw [JsonRpc.request, written]
  rfl

/-- What the node says to the question, with the data as the text that it was. -/
theorem result_of_refuses (narrow : d.HasNarrowFees)
    (refused : JsonRpc.Refuses transport t (.estimate d.message) message data) :
    (JsonRpc.node transport t.queries (.estimate d.message)).result
      = .error (.reverted message data) := by
  obtain ⟨params, put⟩ := exists_request_estimate narrow
  have answered : JsonRpc.exchange transport (JsonRpc.sent t) (.estimate d.message)
      = .error (.node (.reverted message data)) := by
    rw [JsonRpc.exchange, put]
    dsimp only
    rw [refused _ put]
    rfl
  exact congrArg (Except.mapError JsonRpc.Fault.toNodeError) answered

theorem outcome_gasLimitFrom_of_error {node : Node} {n : UInt64} {e : NodeError}
    (ready : d.requireNonce = .ok n)
    (refused : (node t.queries (.estimate d.message)).result = .error e) :
    ((Step.gasLimitFrom GasEstimator.ofNode).attempt d).outcome node t
      = (.error (.estimation (.ofNodeError e)),
        t.after (.estimate d.message) (node t.queries (.estimate d.message)).delay) := by
  have needs : (Attempt.ofExcept d.requireNonce).outcome node t = (.ok n, t) := by
    rw [ready]
    rfl
  have estimated : (GasEstimator.ofNode d.message).outcome node t
      = (.error (.ofNodeError e),
        t.after (.estimate d.message) (node t.queries (.estimate d.message)).delay) := by
    rw [GasEstimator.ofNode, Attempt.outcome_bind, Attempt.outcome_sessionAsk, refused]
    rfl
  rw [Step.attempt, Attempt.outcome_bind, needs]
  dsimp only
  rw [Attempt.outcome_bind, Attempt.outcome_wrapping, estimated]

/-- The data of a refused estimate reaches whoever asks the failure of the draft, whatever steps
follow and whatever the failure is wrapped in, also where the message makes the refusal one for a
lack of funds. What is read is what the text between the quotation marks spells, and the errors of
contracts that are found in the failure are those of that payload. So a payload arrives that was
written as a string of digits, of either case and with either prefix or none. -/
theorem runAll_keeps_payload {n : UInt64} (fine : d.failure = none)
    (ready : d.requireNonce = .ok n) (narrow : d.HasNarrowFees)
    (refused : JsonRpc.Refuses transport t (.estimate d.message) message data)
    (later : List Step) :
    ∃ failure e,
      (((runAll (.gasLimitFrom GasEstimator.ofNode :: later) d).run
        (JsonRpc.node transport)).run t).1.failure = some failure ∧
      (∀ wrappers, (failure.wrapped wrappers).isEstimation = true ∧
        (failure.wrapped wrappers).isNodes = true ∧
        (failure.wrapped wrappers).execution? = some e) ∧
      (∀ text b, data = (Json.ofString text).render → Hex.Spells text b →
        e.revertData? = some b) ∧
      (∀ b, e.revertData? = some b ↔ Hex.decodeLenient (JsonRpc.unquoted data) = .ok b) ∧
      ∀ b, e.revertData? = some b →
        ∀ interfaces, Revert.ofError? e interfaces = Revert.parse? b interfaces := by
  have answered := result_of_refuses narrow refused
  have broken := outcome_gasLimitFrom_of_error ready answered
  refine ⟨.estimation (.ofNodeError (.reverted message data)), .ofNode (.reverted message data),
    failure_runAll_of_error fine broken later, Failure.answers_wrapped_estimation _, ?_,
    fun _ => revertData?_reverted_iff, ?_⟩
  · intro text b written spells
    have shown := JsonRpc.unquoted_ofString (JsonRpc.plain_of_spells spells)
    rw [revertData?_reverted_iff, written, shown]
    exact Hex.decodeLenient_of_spells spells
  · intro b read interfaces
    exact ofError?_reverted read interfaces

/-- A draft that lacks nothing but its gas limit. -/
def pricedDraft : Draft :=
  { Draft.new 1 with sender := some Address.zero, nonce := some 3, quote := some (.single 7) }

/-- A transport over which a contract reverts with words about funds, when an estimate is asked
for. -/
def poorTransport : List JsonRpc.Request → JsonRpc.Request → JsonRpc.Response := fun _ r =>
  if r.method = "eth_estimateGas"
  then .error 3 "execution reverted: insufficient funds for gas" (some "\"0X08C379a0\"")
  else .failed "no route to host"

theorem runAll_keeps_payload_poorTransport :
    ∃ failure e,
      (((runAll [.gasLimitFrom GasEstimator.ofNode, .gasLimit 50000] pricedDraft).run
        (JsonRpc.node poorTransport)).run Trace.start).1.failure = some failure ∧
      (failure.wrapped [.during "building", .estimation]).execution? = some e ∧
      e.revertData? = some [0x08, 0xc3, 0x79, 0xa0] := by
  have narrow : pricedDraft.HasNarrowFees := by
    rintro quote ⟨⟩ fee member
    rw [List.mem_singleton.mp member]
    decide
  have spells : Hex.Spells "0X08C379a0" [0x08, 0xc3, 0x79, 0xa0] := by
    unfold Hex.Spells
    decide
  have refused : JsonRpc.Refuses poorTransport Trace.start (.estimate pricedDraft.message)
      "execution reverted: insufficient funds for gas" "\"0X08C379a0\"" := by
    rintro r put
    cases put
    rfl
  obtain ⟨failure, e, latched, wrapped, arrives, -⟩ :=
    runAll_keeps_payload rfl rfl narrow refused [.gasLimit 50000]
  exact ⟨failure, e, latched, (wrapped _).2.2, arrives _ _ (by decide) spells⟩

end Draft

end TxCourier

import TxCourier.Proofs.Vetting

/-! # What the steps of a draft set

A step that is taken sets at most one part of the draft, to a value that it was given or that it
asked for. So a draft in which nothing failed is known from the list of what was set: each part is
what was set last for it. The order between different parts is of no account. -/
namespace TxCourier

namespace Draft

/-- The parts of a draft that steps set. -/
inductive Part where
  | sender
  /-- The recipient, and whether it has to have code. -/
  | recipient
  | data
  | value
  | nonce
  | quote
  | gasLimit
deriving DecidableEq

/-- What a part can be set to. -/
abbrev Part.Value : Part → Type
  | sender => Address
  | recipient => Option Address × Bool
  | data => Bytes
  | value => Word
  | nonce => UInt64
  | quote => GasQuote
  | gasLimit => UInt64

/-- A part and what it is set to. -/
structure Setting where
  part : Part
  value : part.Value

namespace Setting

/-- The step that sets a part and asks nobody. -/
def step : Setting → Step
  | ⟨.sender, a⟩ => .sender a
  | ⟨.recipient, (whom, mustBeContract)⟩ => .recipient whom mustBeContract
  | ⟨.data, b⟩ => .data b
  | ⟨.value, v⟩ => .value v
  | ⟨.nonce, n⟩ => .nonce n
  | ⟨.quote, q⟩ => .quote q
  | ⟨.gasLimit, limit⟩ => .gasLimit limit

def apply : Setting → Draft → Draft
  | ⟨.sender, a⟩ => setSender a
  | ⟨.recipient, (whom, mustBeContract)⟩ => setRecipient whom mustBeContract
  | ⟨.data, b⟩ => setData b
  | ⟨.value, v⟩ => setValue v
  | ⟨.nonce, n⟩ => setNonce n
  | ⟨.quote, q⟩ => setQuote q
  | ⟨.gasLimit, limit⟩ => setGasLimit limit

/-- What a part is set to, if it is that part that is set. -/
def value? (p : Part) (s : Setting) : Option p.Value :=
  if same : s.part = p then some (same ▸ s.value) else none

end Setting

/-- What a part was set to last, if it was set. -/
def last? (p : Part) (settings : List Setting) : Option p.Value :=
  (settings.filterMap (Setting.value? p)).getLast?

theorem last?_append_singleton (p : Part) (settings : List Setting) (s : Setting) :
    last? p (settings ++ [s]) = (s.value? p).or (last? p settings) := by
  unfold last?
  cases set : s.value? p with
  | none => simp [set]
  | some a => simp [set]

/-- What a part was set to last depends on the settings of that part. -/
theorem last?_eq_of_filter {p : Part} {a b : List Setting}
    (same : a.filter (fun s => s.part = p) = b.filter (fun s => s.part = p)) :
    last? p a = last? p b := by
  have only (settings : List Setting) :
      (settings.filter fun s => s.part = p).filterMap (Setting.value? p)
        = settings.filterMap (Setting.value? p) := by
    rw [List.filterMap_filter]
    congr 1
    funext s
    by_cases about : s.part = p
    · simp [about]
    · simp [about, Setting.value?]
  rw [last?, last?, ← only a, ← only b, same]

/-- The draft in which each part is what it was set to last. -/
def settled (chainId : Word) (settings : List Setting) : Draft where
  chainId
  sender := last? .sender settings
  recipient := (last? .recipient settings).bind (·.1)
  mustBeContract := (last? .recipient settings).any (·.2)
  data := (last? .data settings).getD []
  value := (last? .value settings).getD 0
  nonce := last? .nonce settings
  quote := last? .quote settings
  gasLimit := last? .gasLimit settings
  failure := none

theorem settled_nil (chainId : Word) : settled chainId [] = new chainId := rfl

theorem apply_settled (chainId : Word) (settings : List Setting) (s : Setting) :
    s.apply (settled chainId settings) = settled chainId (settings ++ [s]) := by
  obtain ⟨part, value⟩ := s
  unfold settled
  simp only [last?_append_singleton]
  cases part <;> rfl

/-! ## The transaction -/

/-- The unsigned transaction of what was set last, or the first part that it needs and that was
never set. -/
def built (chainId : Word) (settings : List Setting) : Except Failure Envelope :=
  match last? .sender settings, last? .quote settings, last? .nonce settings,
    last? .gasLimit settings with
  | none, _, _, _ => .error (.missing .sender)
  | some _, none, _, _ => .error (.missing .price)
  | some _, some _, none, _ => .error (.missing .nonce)
  | some _, some _, some _, none => .error (.missing .gasLimit)
  | some _, some quote, some nonce, some gas => .ok {
      chainId, nonce, gas
      recipient := (last? .recipient settings).bind (·.1)
      value := (last? .value settings).getD 0
      data := (last? .data settings).getD []
      fields := quote.fields
      signature := .empty
      recipient_isSome := by cases quote <;> intro needs <;> cases needs }

theorem assemble_settled (chainId : Word) (settings : List Setting) :
    (settled chainId settings).assemble = built chainId settings := by
  unfold assemble assembleAs requireGasLimit requireNonce requireQuote requireSender type settled
    built
  dsimp only
  cases last? .sender settings with
  | none => rfl
  | some a =>
    cases last? .quote settings with
    | none => rfl
    | some q =>
      cases last? .nonce settings with
      | none => rfl
      | some n =>
        cases last? .gasLimit settings with
        | none => rfl
        | some limit => cases q <;> rfl

/-- The order between settings of different parts is of no account. -/
theorem built_eq_of_filter (chainId : Word) {a b : List Setting}
    (same : ∀ p, a.filter (fun s => s.part = p) = b.filter (fun s => s.part = p)) :
    built chainId a = built chainId b := by
  have last (p : Part) : last? p a = last? p b := last?_eq_of_filter (same p)
  unfold built
  simp only [last]

end Draft

end TxCourier

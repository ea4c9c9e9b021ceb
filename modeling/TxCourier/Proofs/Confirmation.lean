import TxCourier.Proofs.Interruption

/-! # What a wait for confirmations finds

The replies of the node decide how a wait ends, how often it asks and how long it takes. They are
told here by their places: the reply to the question after so many like it. -/
namespace TxCourier

namespace Delivery

open Attempt

/-- The receipt that is found after so many answers that there is none. -/
structure FoundAt (node : Node) (asked : List Query) (hash : Hash) (attempts i : Nat)
    (receipt : Receipt) : Prop where
  budget : i < attempts
  before : ∀ j, j < i → node.reply asked (.receipt hash) j = .ok none
  here : node.reply asked (.receipt hash) i = .ok (some receipt)

/-- Blocks on top of a receipt's block are wanted, and so many heads were too low. -/
structure Pending (node : Node) (asked : List Query) (hash : Hash) (attempts : Nat)
    (confirmations : UInt64) (i : Nat) (receipt : Receipt) (block : UInt64) (heads : Nat) :
    Prop where
  found : FoundAt node asked hash attempts i receipt
  succeeded : receipt.succeeded = true
  wanted : confirmations ≠ 0
  mined : receipt.blockNumber = some block
  low : ∀ j, j < heads → ∃ head,
    node.reply (List.replicate (i + 1) (.receipt hash) ++ asked) .blockNumber j = .ok head ∧
      head.toNat < block.toNat + confirmations.toNat

/-- How a wait ends that nobody breaks off, after so many questions for the receipt and so many for
the head. -/
inductive Concludes (node : Node) (asked : List Query) (hash : Hash) (attempts : Nat)
    (confirmations : UInt64) : Nat → Nat → Except Failure Outcome → Prop where
  | missing (unknown : ∀ j, j < attempts → node.reply asked (.receipt hash) j = .ok none) :
      Concludes node asked hash attempts confirmations attempts 0 (.ok .missing)
  | receiptRefused {i : Nat} {e : NodeError} (budget : i < attempts)
      (before : ∀ j, j < i → node.reply asked (.receipt hash) j = .ok none)
      (here : node.reply asked (.receipt hash) i = .error e) :
      Concludes node asked hash attempts confirmations (i + 1) 0 (.error (.node e))
  | failed {i : Nat} {receipt : Receipt} (found : FoundAt node asked hash attempts i receipt)
      (failed : receipt.succeeded = false) :
      Concludes node asked hash attempts confirmations (i + 1) 0 (.error (.receiptFailed hash))
  | atOnce {i : Nat} {receipt : Receipt} (found : FoundAt node asked hash attempts i receipt)
      (succeeded : receipt.succeeded = true) (unwanted : confirmations = 0) :
      Concludes node asked hash attempts confirmations (i + 1) 0 (.ok (.confirmed receipt))
  | withoutBlock {i : Nat} {receipt : Receipt}
      (found : FoundAt node asked hash attempts i receipt) (succeeded : receipt.succeeded = true)
      (wanted : confirmations ≠ 0) (nowhere : receipt.blockNumber = none) :
      Concludes node asked hash attempts confirmations (i + 1) 0
        (.error (.receiptWithoutBlock hash))
  | buried {i j : Nat} {receipt : Receipt} {block head : UInt64}
      (pending : Pending node asked hash attempts confirmations i receipt block j)
      (here : node.reply (List.replicate (i + 1) (.receipt hash) ++ asked) .blockNumber j
        = .ok head)
      (deep : block.toNat + confirmations.toNat ≤ head.toNat) :
      Concludes node asked hash attempts confirmations (i + 1) (j + 1) (.ok (.confirmed receipt))
  | headRefused {i j : Nat} {receipt : Receipt} {block : UInt64} {e : NodeError}
      (pending : Pending node asked hash attempts confirmations i receipt block j)
      (here : node.reply (List.replicate (i + 1) (.receipt hash) ++ asked) .blockNumber j
        = .error e) :
      Concludes node asked hash attempts confirmations (i + 1) (j + 1) (.error (.node e))

/-- So many questions a wait may come to put. The head is asked for only behind a receipt that calls
for it, and while all heads before were too low. -/
structure Course (node : Node) (asked : List Query) (hash : Hash) (attempts : Nat)
    (confirmations : UInt64) (receipts heads : Nat) : Prop where
  budget : receipts ≤ attempts
  unknown : ∀ j, j + 1 < receipts → node.reply asked (.receipt hash) j = .ok none
  waits : heads ≠ 0 → ∃ i receipt block j, receipts = i + 1 ∧ heads = j + 1 ∧
    Pending node asked hash attempts confirmations i receipt block j

/-- The trace after so many questions for the receipt, and so many for the head behind them. -/
def waited (node : Node) (pause : Nat) (hash : Hash) (receipts heads : Nat) (t : Trace) : Trace :=
  Trace.polled node pause .blockNumber heads (Trace.polled node pause (.receipt hash) receipts t)

variable {node : Node} {hash : Hash} {polling : Polling} {confirmations : UInt64} {t t' : Trace}

theorem queries_polled (pause i : Nat) (t : Trace) :
    (Trace.polled node pause (.receipt hash) (i + 1) t).queries
      = List.replicate (i + 1) (.receipt hash) ++ t.queries := by
  rw [Trace.polled_succ, Trace.queries_after, Trace.queries_between]
  rfl

theorem FoundAt.stopsAt {asked : List Query} {attempts i : Nat} {receipt : Receipt}
    (found : FoundAt node asked hash attempts i receipt) :
    node.StopsAt asked (.receipt hash) Known i where
  before j earlier known := known (found.before j earlier)
  here none := nomatch found.here.symm.trans none

theorem Course.receipts {asked : List Query} {attempts i : Nat} (budget : i < attempts)
    (before : ∀ j, j < i → node.reply asked (.receipt hash) j = .ok none) :
    Course node asked hash attempts confirmations (i + 1) 0 where
  budget := budget
  unknown j more := before j (Nat.lt_of_succ_lt_succ more)
  waits more := absurd rfl more

theorem Course.heads {asked : List Query} {attempts i j : Nat} {receipt : Receipt}
    {block : UInt64} (pending : Pending node asked hash attempts confirmations i receipt block j) :
    Course node asked hash attempts confirmations (i + 1) (j + 1) where
  budget := pending.found.budget
  unknown j more := pending.found.before j (Nat.lt_of_succ_lt_succ more)
  waits _ := ⟨i, receipt, block, j, rfl, rfl, pending⟩

theorem Course.of_concludes {asked : List Query} {attempts receipts heads : Nat}
    {result : Except Failure Outcome}
    (concludes : Concludes node asked hash attempts confirmations receipts heads result) :
    Course node asked hash attempts confirmations receipts heads := by
  cases concludes with
  | missing unknown =>
    exact ⟨Nat.le_refl _, fun j more => unknown j (Nat.lt_of_succ_lt more),
      fun more => absurd rfl more⟩
  | receiptRefused budget before _ => exact Course.receipts budget before
  | failed found _ => exact Course.receipts found.budget found.before
  | atOnce found _ _ => exact Course.receipts found.budget found.before
  | withoutBlock found _ _ _ => exact Course.receipts found.budget found.before
  | buried pending _ _ => exact Course.heads pending
  | headRefused pending _ => exact Course.heads pending

/-! ## The end of a wait, found from the replies -/

theorem outcome_await_missing (fuel : Nat)
    (unknown : ∀ j, j < polling.attempts.toNat →
      node.reply t.queries (.receipt hash) j = .ok none) :
    outcome (await polling hash confirmations .never fuel) node t
      = (.ok .missing, waited node polling.pause hash polling.attempts.toNat 0 t) := by
  unfold await waited
  rw [outcome_bind, outcome_firstReceipt_none fun j below known => known (unknown j below),
    Trace.polled_zero]
  rfl

theorem outcome_await_refused {i : Nat} {e : NodeError} (fuel : Nat)
    (budget : i < polling.attempts.toNat)
    (before : ∀ j, j < i → node.reply t.queries (.receipt hash) j = .ok none)
    (here : node.reply t.queries (.receipt hash) i = .error e) :
    outcome (await polling hash confirmations .never fuel) node t
      = (.error (.node e), waited node polling.pause hash (i + 1) 0 t) := by
  have stopped : node.StopsAt t.queries (.receipt hash) Known i :=
    ⟨fun j earlier known => known (before j earlier), fun none => nomatch here.symm.trans none⟩
  unfold await waited
  rw [outcome_bind, outcome_firstReceipt_known budget stopped, here, Trace.polled_zero]
  rfl

/-- Behind a receipt the wait goes on as that receipt says. -/
theorem outcome_await_found {i : Nat} {receipt : Receipt} (fuel : Nat)
    (found : FoundAt node t.queries hash polling.attempts.toNat i receipt) :
    outcome (await polling hash confirmations .never fuel) node t =
      if receipt.succeeded = true then
        if confirmations = 0 then
          (.ok (.confirmed receipt), waited node polling.pause hash (i + 1) 0 t)
        else
          match receipt.blockNumber with
          | none =>
            (.error (.receiptWithoutBlock hash), waited node polling.pause hash (i + 1) 0 t)
          | some block =>
            match outcome (isBuried block confirmations polling.pause .never fuel) node
                (waited node polling.pause hash (i + 1) 0 t) with
            | (.ok buried, t') => (.ok (if buried then .confirmed receipt else .unfinished), t')
            | (.error failure, t') => (.error failure, t')
      else (.error (.receiptFailed hash), waited node polling.pause hash (i + 1) 0 t) := by
  unfold await waited
  rw [outcome_bind, outcome_firstReceipt_known found.budget found.stopsAt, found.here,
    Trace.polled_zero]
  change outcome (if (!receipt.succeeded) = true then _ else _) node _ = _
  cases receipt.succeeded with
  | false => rfl
  | true =>
    change outcome (if confirmations = 0 then _ else _) node _ = if confirmations = 0 then _ else _
    split
    · rfl
    · cases receipt.blockNumber with
      | none => rfl
      | some block =>
        refine (outcome_bind (isBuried block confirmations polling.pause .never fuel) _).trans ?_
        dsimp only
        cases outcome (isBuried block confirmations polling.pause .never fuel) node
          (Trace.polled node polling.pause (.receipt hash) (i + 1) t) with
        | mk ended t' =>
          cases ended with
          | error failure => rfl
          | ok buried =>
            cases buried with
            | true => rfl
            | false => rfl

theorem outcome_await_pending {i heads : Nat} {receipt : Receipt} {block : UInt64} (fuel : Nat)
    (pending : Pending node t.queries hash polling.attempts.toNat confirmations i receipt block
      heads) :
    outcome (await polling hash confirmations .never fuel) node t =
      match outcome (isBuried block confirmations polling.pause .never fuel) node
          (waited node polling.pause hash (i + 1) 0 t) with
      | (.ok buried, t') => (.ok (if buried then .confirmed receipt else .unfinished), t')
      | (.error failure, t') => (.error failure, t') := by
  rw [outcome_await_found fuel pending.found, if_pos pending.succeeded, if_neg pending.wanted,
    pending.mined]

theorem queries_waited (pause i : Nat) (t : Trace) :
    (waited node pause hash (i + 1) 0 t).queries
      = List.replicate (i + 1) (.receipt hash) ++ t.queries := by
  rw [waited, Trace.polled_zero, queries_polled]

theorem polled_waited (pause receipts heads : Nat) (t : Trace) :
    Trace.polled node pause .blockNumber heads (waited node pause hash receipts 0 t)
      = waited node pause hash receipts heads t := by
  rw [waited, Trace.polled_zero, waited]

theorem Pending.shallow {i heads : Nat} {receipt : Receipt} {block : UInt64} {asked : List Query}
    {attempts : Nat}
    (pending : Pending node asked hash attempts confirmations i receipt block heads) (j : Nat)
    (earlier : j < heads) :
    ¬ Deep block confirmations
        (node.reply (List.replicate (i + 1) (.receipt hash) ++ asked) .blockNumber j) := by
  intro deep
  obtain ⟨head, answer, low⟩ := pending.low j earlier
  exact Nat.not_le.mpr low (deep head answer)

/-- What is told of a wait's end is how it ends, given fuel for its questions. -/
theorem outcome_await_of_concludes {receipts heads : Nat} {result : Except Failure Outcome}
    (fuel : Nat)
    (concludes : Concludes node t.queries hash polling.attempts.toNat confirmations receipts heads
      result) (enough : heads ≤ fuel) :
    outcome (await polling hash confirmations .never fuel) node t
      = (result, waited node polling.pause hash receipts heads t) := by
  cases concludes with
  | missing unknown => exact outcome_await_missing fuel unknown
  | receiptRefused budget before here => exact outcome_await_refused fuel budget before here
  | failed found failed =>
    rw [outcome_await_found fuel found, if_neg (by rw [failed]; exact Bool.false_ne_true)]
  | atOnce found succeeded unwanted =>
    rw [outcome_await_found fuel found, if_pos succeeded, if_pos unwanted]
  | withoutBlock found succeeded wanted nowhere =>
    rw [outcome_await_found fuel found, if_pos succeeded, if_neg wanted, nowhere]
  | @buried i j receipt block head pending here deep =>
    have stopped : node.StopsAt (waited node polling.pause hash (i + 1) 0 t).queries .blockNumber
        (Deep block confirmations) j := by
      rw [queries_waited]
      refine ⟨pending.shallow, fun head' same => ?_⟩
      cases here.symm.trans same
      exact deep
    rw [outcome_await_pending fuel pending,
      outcome_isBuried_deep pending.wanted enough stopped, queries_waited, here, polled_waited]
    rfl
  | @headRefused i j receipt block e pending here =>
    have stopped : node.StopsAt (waited node polling.pause hash (i + 1) 0 t).queries .blockNumber
        (Deep block confirmations) j := by
      rw [queries_waited]
      exact ⟨pending.shallow, fun head' same => nomatch here.symm.trans same⟩
    rw [outcome_await_pending fuel pending,
      outcome_isBuried_deep pending.wanted enough stopped, queries_waited, here, polled_waited]
    rfl

theorem outcome_await_of_pending {i fuel : Nat} {receipt : Receipt} {block : UInt64}
    (pending : Pending node t.queries hash polling.attempts.toNat confirmations i receipt block
      fuel) :
    outcome (await polling hash confirmations .never fuel) node t
      = (.ok .unfinished, Trace.between node polling.pause .blockNumber fuel
          (waited node polling.pause hash (i + 1) 0 t)) := by
  have shallow : ∀ j, j < fuel → ¬ Deep block confirmations
      (node.reply (waited node polling.pause hash (i + 1) 0 t).queries .blockNumber j) := by
    rw [queries_waited]
    exact pending.shallow
  rw [outcome_await_pending fuel pending, outcome_isBuried_unfinished pending.wanted shallow]
  rfl

/-- Whatever the node replies, the wait ends one way or uses up its fuel on heads that are too
low. -/
theorem concludes_or_pending (node : Node) (asked : List Query) (hash : Hash) (attempts : Nat)
    (confirmations : UInt64) (fuel : Nat) :
    (∃ receipts heads result, heads ≤ fuel ∧
        Concludes node asked hash attempts confirmations receipts heads result) ∨
      ∃ i receipt block, Pending node asked hash attempts confirmations i receipt block fuel := by
  rcases node.goes_or_stops asked (.receipt hash) Known attempts with unknown | ⟨i, budget, stopped⟩
  · exact .inl ⟨_, _, _, Nat.zero_le _,
      .missing fun j below => Classical.not_not.mp (unknown j below)⟩
  have before : ∀ j, j < i → node.reply asked (.receipt hash) j = .ok none :=
    fun j earlier => Classical.not_not.mp (stopped.before j earlier)
  cases here : node.reply asked (.receipt hash) i with
  | error e => exact .inl ⟨_, _, _, Nat.zero_le _, .receiptRefused budget before here⟩
  | ok answer =>
    cases answer with
    | none => exact absurd here stopped.here
    | some receipt =>
      have found : FoundAt node asked hash attempts i receipt := ⟨budget, before, here⟩
      cases succeeded : receipt.succeeded with
      | false => exact .inl ⟨_, _, _, Nat.zero_le _, .failed found succeeded⟩
      | true =>
        by_cases wanted : confirmations = 0
        · exact .inl ⟨_, _, _, Nat.zero_le _, .atOnce found succeeded wanted⟩
        cases mined : receipt.blockNumber with
        | none => exact .inl ⟨_, _, _, Nat.zero_le _, .withoutBlock found succeeded wanted mined⟩
        | some block =>
          rcases node.goes_or_stops (List.replicate (i + 1) (.receipt hash) ++ asked) .blockNumber
            (Deep block confirmations) fuel with shallow | ⟨j, below, buried⟩
          · exact .inr ⟨i, receipt, block, found, succeeded, wanted, mined,
              fun j below => exists_of_not_deep (shallow j below)⟩
          have pending : Pending node asked hash attempts confirmations i receipt block j :=
            ⟨found, succeeded, wanted, mined,
              fun j' earlier => exists_of_not_deep (buried.before j' earlier)⟩
          cases answer : node.reply (List.replicate (i + 1) (.receipt hash) ++ asked)
              .blockNumber j with
          | error e => exact .inl ⟨_, _, _, below, .headRefused pending answer⟩
          | ok head => exact .inl ⟨_, _, _, below, .buried pending answer (buried.here head answer)⟩

theorem Concludes.ne_unfinished {asked : List Query} {attempts receipts heads : Nat}
    {result : Except Failure Outcome}
    (concludes : Concludes node asked hash attempts confirmations receipts heads result) :
    result ≠ .ok .unfinished := by
  intro same
  cases concludes <;> cases same

theorem outcome_await_iff (fuel : Nat) {result : Except Failure Outcome}
    (finished : result ≠ .ok .unfinished) :
    outcome (await polling hash confirmations .never fuel) node t = (result, t') ↔
      ∃ receipts heads, heads ≤ fuel ∧
        Concludes node t.queries hash polling.attempts.toNat confirmations receipts heads result ∧
        t' = waited node polling.pause hash receipts heads t := by
  constructor
  · intro ended
    rcases concludes_or_pending node t.queries hash polling.attempts.toNat confirmations fuel with
      ⟨receipts, heads, found, enough, concludes⟩ | ⟨i, receipt, block, pending⟩
    · have same := (outcome_await_of_concludes fuel concludes enough).symm.trans ended
      cases same
      exact ⟨receipts, heads, enough, concludes, rfl⟩
    · have same := (outcome_await_of_pending pending).symm.trans ended
      cases same
      exact absurd rfl finished
  · rintro ⟨receipts, heads, enough, concludes, rfl⟩
    exact outcome_await_of_concludes fuel concludes enough

theorem outcome_await_unfinished_iff (fuel : Nat) :
    (outcome (await polling hash confirmations .never fuel) node t).1 = .ok .unfinished ↔
      ∃ i receipt block, Pending node t.queries hash polling.attempts.toNat confirmations i receipt
        block fuel := by
  constructor
  · intro ended
    rcases concludes_or_pending node t.queries hash polling.attempts.toNat confirmations fuel with
      ⟨receipts, heads, found, enough, concludes⟩ | pending
    · rw [outcome_await_of_concludes fuel concludes enough] at ended
      exact absurd ended concludes.ne_unfinished
    · exact pending
  · rintro ⟨i, receipt, block, pending⟩
    rw [outcome_await_of_pending pending]

/-! ## What is done meanwhile -/

/-- What a wait leaves behind the events before it is the beginning of some course. -/
def Follows (node : Node) (polling : Polling) (hash : Hash) (confirmations : UInt64) (t t' : Trace) :
    Prop :=
  ∃ receipts heads done,
    Course node t.queries hash polling.attempts.toNat confirmations receipts heads ∧
      t'.newestFirst = done ++ t.newestFirst ∧
      done <:+ Trace.polls polling.pause .blockNumber heads
        ++ Trace.polls polling.pause (.receipt hash) receipts

theorem newestFirst_waited (pause receipts heads : Nat) (t : Trace) :
    (waited node pause hash receipts heads t).newestFirst
      = (Trace.polls pause .blockNumber heads ++ Trace.polls pause (.receipt hash) receipts)
        ++ t.newestFirst := by
  rw [waited, Trace.newestFirst_polled, Trace.newestFirst_polled, List.append_assoc]

theorem Follows.of_suffix {receipts heads : Nat} {s : Trace}
    (course : Course node t.queries hash polling.attempts.toNat confirmations receipts heads)
    (since : t.newestFirst <:+ s.newestFirst)
    (within : s.newestFirst <:+ (waited node polling.pause hash receipts heads t).newestFirst) :
    Follows node polling hash confirmations t s := by
  obtain ⟨done, same⟩ := since
  obtain ⟨rest, whole⟩ := within
  refine ⟨receipts, heads, done, course, same.symm, rest, ?_⟩
  rw [newestFirst_waited, ← same, ← List.append_assoc] at whole
  exact List.append_cancel_right whole

/-- Unbroken it stays within one course. -/
theorem exists_course (node : Node) (polling : Polling) (hash : Hash) (confirmations : UInt64)
    (fuel : Nat) (t : Trace) :
    ∃ receipts heads,
      Course node t.queries hash polling.attempts.toNat confirmations receipts heads ∧
        (outcome (await polling hash confirmations .never fuel) node t).2.newestFirst <:+
          (waited node polling.pause hash receipts heads t).newestFirst := by
  rcases concludes_or_pending node t.queries hash polling.attempts.toNat confirmations fuel with
    ⟨receipts, heads, result, enough, concludes⟩ | ⟨i, receipt, block, pending⟩
  · have ended := outcome_await_of_concludes fuel concludes enough
    exact ⟨receipts, heads, Course.of_concludes concludes, [],
      congrArg (fun outcome => outcome.2.newestFirst) ended⟩
  · refine ⟨i + 1, fuel + 1, Course.heads pending, ?_⟩
    rw [outcome_await_of_pending pending]
    have whole : (waited node polling.pause hash (i + 1) (fuel + 1) t).newestFirst
        = Trace.polls polling.pause .blockNumber (fuel + 1)
          ++ (waited node polling.pause hash (i + 1) 0 t).newestFirst := rfl
    rw [whole, ← Trace.newestFirst_between fuel (waited node polling.pause hash (i + 1) 0 t)]
    exact List.suffix_cons _ _

theorem follows_await (node : Node) (polling : Polling) (hash : Hash) (confirmations : UInt64)
    (c : Cancellation) (fuel : Nat) (t : Trace) :
    Follows node polling hash confirmations t
      (outcome (await polling hash confirmations c fuel) node t).2 := by
  obtain ⟨receipts, heads, course, within⟩ :=
    exists_course node polling hash confirmations fuel t
  have whole := interruptible_await polling hash confirmations fuel
  by_cases seen : c.isSeenAt t.now t.count = true
  · rw [outcome_await_seen polling hash confirmations fuel seen]
    refine Follows.of_suffix course (List.suffix_refl _) ?_
    rw [newestFirst_waited]
    exact List.suffix_append _ _
  cases c with
  | never => exact Follows.of_suffix course whole.through.suffix within
  | made m =>
    have cut := whole node t m (.of_not_hasCome (eq_false_of_ne_true seen))
    dsimp only at cut
    generalize outcome (await polling hash confirmations .never fuel) node t = unbroken
      at cut within
    generalize outcome (await polling hash confirmations (.made m) fuel) node t = broken at cut
    cases cut with
    | finished through _ => exact Follows.of_suffix course through.suffix within
    | between before _ passing later =>
      exact Follows.of_suffix course before.suffix
        (((passing.suffix.1.trans passing.suffix.2).trans later.suffix).trans within)
    | amid before passing later _ _ _ =>
      exact Follows.of_suffix course (before.suffix.trans passing.suffix.1)
        ((passing.suffix.2.trans later.suffix).trans within)

/-- Broken off or not, a wait stays in the course that the replies allow. Unless it is broken off
they decide how it ends, what it has asked and how long it took. Broken off before it began it does
nothing, and at a moment to come it goes as far as it would have gone by then. -/
theorem await_follows_replies (node : Node) (polling : Polling) (hash : Hash)
    (confirmations : UInt64) (fuel : Nat) (t : Trace) :
    (∀ c, Follows node polling hash confirmations t
        (outcome (await polling hash confirmations c fuel) node t).2) ∧
      (∀ result t', result ≠ .ok .unfinished →
        (outcome (await polling hash confirmations .never fuel) node t = (result, t') ↔
          ∃ receipts heads, heads ≤ fuel ∧
            Concludes node t.queries hash polling.attempts.toNat confirmations receipts heads
              result ∧
            t' = waited node polling.pause hash receipts heads t)) ∧
      ((outcome (await polling hash confirmations .never fuel) node t).1 = .ok .unfinished ↔
        ∃ i receipt block, Pending node t.queries hash polling.attempts.toNat confirmations i
          receipt block fuel) ∧
      (∀ c, c.isSeenAt t.now t.count = true →
        outcome (await polling hash confirmations c fuel) node t =
          (if polling.attempts.toNat = 0 then .ok .missing else .error .cancelled, t)) ∧
      ∀ m, t.IsBy m →
        CutOff node m t (outcome (await polling hash confirmations .never fuel) node t)
          (outcome (await polling hash confirmations (.made m) fuel) node t) :=
  ⟨fun c => follows_await node polling hash confirmations c fuel t,
    fun _ _ finished => outcome_await_iff fuel finished,
    outcome_await_unfinished_iff fuel,
    fun _ seen => outcome_await_seen polling hash confirmations fuel seen,
    interruptible_await polling hash confirmations fuel node t⟩

/-- The answer that is under way is not waited for, whatever it would be. -/
example (hash : Hash) (confirmations : UInt64) (e : NodeError) (fuel : Nat) :
    outcome (await .default hash confirmations (.made ⟨2, none⟩) fuel)
      (fun _ _ => ⟨.error e, 5⟩) .start = (.error .cancelled, ⟨2, [.asked (.receipt hash)]⟩) := rfl

/-- No pause is begun behind an answer that came at once, if it was broken off in between. -/
example (hash : Hash) (confirmations : UInt64) (fuel : Nat) :
    outcome (await .default hash confirmations (.made ⟨0, some 1⟩) fuel)
      (Node.steady fun q => match q with
        | .receipt _ => .ok none
        | _ => .error (.transport "")) .start
      = (.error .cancelled, ⟨0, [.asked (.receipt hash)]⟩) := rfl

end Delivery

end TxCourier

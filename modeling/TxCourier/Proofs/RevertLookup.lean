import TxCourier.Proofs.RevertRoundTrip

/-! # Which error a payload names

A payload is looked up among the declarations in their order: first the errors of the language, then
those of the interfaces. The first declaration that has the selector and can read the arguments is
the one that is reported. One that has the selector and cannot read them is passed over, and one
that stands behind it is reported as if the other were not there. Whether two declarations have the
same selector is not asked here. -/
namespace TxCourier

namespace Abi

/-! ## How many arguments are read -/

theorem Parameter.length_of_resolveAll? {inputs : List Parameter} {types : List AbiType}
    (resolved : resolveAll? inputs = some types) : types.length = inputs.length := by
  induction inputs generalizing types with
  | nil =>
    cases resolved
    rfl
  | cons p rest ih =>
    rw [resolveAll?] at resolved
    obtain ⟨t, -, resolved⟩ := Option.bind_eq_some_iff.mp resolved
    obtain ⟨others, found, made⟩ := Option.bind_eq_some_iff.mp resolved
    cases made
    rw [List.length_cons, List.length_cons, ih found]

theorem length_of_readAll {types : List AbiType} {values : List AbiValue} {c c' : Cursor}
    (read : readAll types c = some (values, c')) : values.length = types.length := by
  induction types generalizing values c with
  | nil =>
    cases read
    rfl
  | cons t rest ih =>
    rw [readAll] at read
    obtain ⟨⟨v, between⟩, -, read⟩ := Option.bind_eq_some_iff.mp read
    obtain ⟨⟨others, last⟩, found, made⟩ := Option.bind_eq_some_iff.mp read
    cases made
    rw [List.length_cons, List.length_cons, ih found]

namespace ErrorDeclaration

/-- There are parameters, and nowhere in their types is there anything but groups of nothing, arrays
of such groups and arrays of a length of zero. -/
def IsVoid (e : ErrorDeclaration) : Prop :=
  e.inputs ≠ [] ∧ ∃ types, Parameter.resolveAll? e.inputs = some types ∧ allVoid types = true

/-- An argument is read for each parameter, unless there is nothing to read for any of them. -/
theorem length_of_decode? {e : ErrorDeclaration} {body : Bytes} {values : List AbiValue}
    (read : e.decode? body = some values) : values.length = e.inputs.length ↔ ¬e.IsVoid := by
  obtain ⟨types, resolved, read⟩ := Option.bind_eq_some_iff.mp read
  have arity := Parameter.length_of_resolveAll? resolved
  unfold decodeArguments? at read
  -- Void types give no values at all, however many they are, and any others one for each.
  split at read
  · rename_i void
    cases read
    constructor
    · rintro same ⟨filled, -⟩
      exact filled (List.eq_nil_of_length_eq_zero same.symm)
    · intro solid
      by_cases bare : e.inputs = []
      · rw [bare]
        rfl
      · exact absurd ⟨bare, types, resolved, void⟩ solid
  · rename_i solid
    refine iff_of_true ?_ ?_
    · dsimp only at read
      split at read
      · obtain ⟨⟨got, last⟩, found, same⟩ := Option.map_eq_some_iff.mp read
        cases same
        rw [← arity, length_of_readAll found]
      · cases read
    · rintro ⟨-, types', resolved', void⟩
      cases resolved.symm.trans resolved'
      exact solid void

end ErrorDeclaration

end Abi

open Abi

namespace Revert

variable {payload : Bytes} {interfaces : List Interface} {k : KnownError}

/-- A declaration reads a payload as some values: it has the selector, its types exist, and the
arguments can be read as such. -/
def Reads (payload : Bytes) (e : ErrorDeclaration) (values : List AbiValue) : Prop :=
  e.selector = payload.take 4 ∧ e.decode? (payload.drop 4) = some values

theorem match?_eq_some_iff {e : ErrorDeclaration} :
    match? (payload.take 4) (payload.drop 4) e = some k ↔
      ∃ values, Reads payload e values ∧ k = .of e values := by
  unfold match? Reads
  split
  · rename_i named
    rw [Option.map_eq_some_iff]
    constructor
    · rintro ⟨values, reads, same⟩
      exact ⟨values, ⟨named, reads⟩, same.symm⟩
    · rintro ⟨values, ⟨-, reads⟩, same⟩
      exact ⟨values, reads, same.symm⟩
  · rename_i other
    constructor
    · rintro ⟨⟩
    · rintro ⟨values, ⟨named, -⟩, -⟩
      exact absurd named other

theorem match?_eq_none_iff {e : ErrorDeclaration} :
    match? (payload.take 4) (payload.drop 4) e = none ↔ ∀ values, ¬Reads payload e values := by
  rw [Option.eq_none_iff_forall_ne_some]
  constructor
  · intro none values reads
    exact none _ (match?_eq_some_iff.mpr ⟨values, reads, rfl⟩)
  · intro unread k found
    obtain ⟨values, reads, -⟩ := match?_eq_some_iff.mp found
    exact unread values reads

theorem parse?_of_short (short : payload.length < 4) : parse? payload interfaces = none :=
  if_pos short

theorem parse?_of_long (long : 4 ≤ payload.length) :
    parse? payload interfaces
      = (candidates interfaces).findSome? (match? (payload.take 4) (payload.drop 4)) :=
  if_neg (Nat.not_lt.mpr long)

/-- What is reported is the first declaration that reads the payload. -/
theorem parse?_eq_some_iff :
    parse? payload interfaces = some k ↔
      4 ≤ payload.length ∧ ∃ before e after values, candidates interfaces = before ++ e :: after ∧
        Reads payload e values ∧ k = .of e values ∧
        ∀ d ∈ before, ∀ other, ¬Reads payload d other := by
  by_cases long : 4 ≤ payload.length
  · rw [parse?_of_long long, List.findSome?_eq_some_iff]
    constructor
    · rintro ⟨before, e, after, tried, found, first⟩
      obtain ⟨values, reads, rfl⟩ := match?_eq_some_iff.mp found
      exact ⟨long, before, e, after, values, tried, reads, rfl,
        fun d member => match?_eq_none_iff.mp (first d member)⟩
    · rintro ⟨-, before, e, after, values, tried, reads, same, first⟩
      exact ⟨before, e, after, tried, match?_eq_some_iff.mpr ⟨values, reads, same⟩,
        fun d member => match?_eq_none_iff.mpr (first d member)⟩
  · rw [parse?_of_short (Nat.lt_of_not_le long)]
    simp [long]

/-- The errors of the language are tried first, so trying them once more finds nothing new. -/
theorem parse?_append (interfaces more : List Interface) :
    parse? payload (interfaces ++ more)
      = (parse? payload interfaces).or (parse? payload more) := by
  by_cases long : 4 ≤ payload.length
  · rw [parse?_of_long long, parse?_of_long long, parse?_of_long long]
    unfold candidates
    rw [List.flatMap_append, List.findSome?_append, List.findSome?_append, List.findSome?_append,
      List.findSome?_append]
    cases List.findSome? (match? (payload.take 4) (payload.drop 4)) [reasonError, panicError] with
    | none => rw [Option.none_or, Option.none_or, Option.none_or]
    | some k => rw [Option.some_or, Option.some_or, Option.some_or]
  · have short := Nat.lt_of_not_le long
    rw [parse?_of_short short, parse?_of_short short, parse?_of_short short]
    rfl

theorem long_of_reads {e : ErrorDeclaration} {values : List AbiValue}
    (reads : Reads payload e values) : 4 ≤ payload.length := by
  have length := length_selector e
  rw [reads.1, List.length_take] at length
  omega

/-- A payload without a selector names nothing. What is reported is what the first declaration that
reads the payload makes of it, whatever declarations before it have the selector and cannot read it.
It has an argument for each parameter, unless all of them are void, and then it has none. More
interfaces add reports where there was none and change none that was there, those of the errors of
the language among them. -/
theorem parse?_reports_first (payload : Bytes) (interfaces : List Interface) :
    (payload.length < 4 → parse? payload interfaces = none) ∧
    (∀ k, parse? payload interfaces = some k →
      (keccak256 (Hex.octets k.signature)).toList.take 4 = payload.take 4 ∧
      k.formatted = k.name ++ "(" ++ ", ".intercalate k.arguments ++ ")" ∧
      ∃ e ∈ candidates interfaces, ∃ values, Reads payload e values ∧ k = .of e values ∧
        (k.arguments.length = e.inputs.length ↔ ¬e.IsVoid)) ∧
    (∀ more, parse? payload (interfaces ++ more)
      = (parse? payload interfaces).or (parse? payload more)) ∧
    (∀ k, parse? payload interfaces = some k →
      ∀ more, parse? payload (interfaces ++ more) = some k) ∧
    ∀ before e after values, candidates interfaces = before ++ e :: after →
      Reads payload e values → (∀ d ∈ before, ∀ other, ¬Reads payload d other) →
      parse? payload interfaces = some (.of e values) := by
  refine ⟨parse?_of_short, ?_, parse?_append interfaces, ?_, ?_⟩
  · intro k found
    obtain ⟨-, before, e, after, values, tried, reads, rfl, -⟩ := parse?_eq_some_iff.mp found
    have member : e ∈ candidates interfaces := by
      rw [tried]
      exact List.mem_append_right before List.mem_cons_self
    have arity : (KnownError.of e values).arguments.length = values.length := List.length_map _
    refine ⟨reads.1, rfl, e, member, values, reads, rfl, ?_⟩
    rw [arity]
    exact ErrorDeclaration.length_of_decode? reads.2
  · intro k found more
    rw [parse?_append, found, Option.some_or]
  · intro before e after values tried reads first
    exact parse?_eq_some_iff.mpr
      ⟨long_of_reads reads, before, e, after, values, tried, reads, rfl, first⟩

/-- A checked overflow, which is behind an error of another selector and before an interface. -/
theorem parse?_reports_first_panic :
    parse? (panicError.selector ++ (List.replicate 31 0 ++ [0x11])) [⟨[boundsError]⟩]
      = some (.of panicError [.uint 17]) := by
  have body : (panicError.selector ++ (List.replicate 31 0 ++ [0x11])).drop 4
      = List.replicate 31 0 ++ [0x11] := by
    rw [selector_panicError]
    rfl
  have named : (panicError.selector ++ (List.replicate 31 0 ++ [0x11])).take 4
      = panicError.selector := by
    rw [selector_panicError]
    rfl
  obtain ⟨-, -, -, -, reports⟩ := parse?_reports_first
    (panicError.selector ++ (List.replicate 31 0 ++ [0x11])) [⟨[boundsError]⟩]
  refine reports [reasonError] panicError [boundsError] [.uint 17] rfl ⟨named.symm, ?_⟩ ?_
  · rw [body]
    rfl
  · rintro d member other ⟨same, -⟩
    rw [List.mem_singleton.mp member, named, selector_reasonError, selector_panicError] at same
    exact absurd same (by decide)

/-- An error with one parameter, of the type of groups without members. -/
def voidError : ErrorDeclaration := ⟨"Nothing", [⟨"what", "()", []⟩]⟩

theorem selector_voidError : voidError.selector = [0x92, 0x39, 0x71, 0x2f] := by
  decide +kernel

/-- The payload is reported as the error with the one parameter, and without an argument. -/
theorem parse?_leaves_out_void :
    parse? [0x92, 0x39, 0x71, 0x2f] [⟨[voidError]⟩] = some (.of voidError []) ∧
    (∀ e ∈ candidates [⟨[voidError]⟩],
      e.selector = [0x92, 0x39, 0x71, 0x2f] → e = voidError) ∧
    (KnownError.of voidError []).arguments.length = 0 ∧ voidError.inputs.length = 1 := by
  have tried : candidates [⟨[voidError]⟩] = [reasonError, panicError] ++ voidError :: [] := rfl
  have first : ∀ d ∈ [reasonError, panicError], d.selector ≠ [0x92, 0x39, 0x71, 0x2f] := by
    simp [selector_reasonError, selector_panicError]
  refine ⟨?_, ?_, rfl, rfl⟩
  · refine parse?_eq_some_iff.mpr
      ⟨by decide, _, _, _, [], tried, ⟨selector_voidError, rfl⟩, rfl, ?_⟩
    rintro d member other ⟨same, -⟩
    exact first d member same
  · intro e member named
    rw [tried] at member
    rcases List.mem_append.mp member with before | last
    · exact absurd named (first e before)
    · exact List.mem_singleton.mp last

end Revert

end TxCourier

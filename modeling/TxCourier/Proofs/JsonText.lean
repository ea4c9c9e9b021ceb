import TxCourier.Json.Parser
import TxCourier.Json.Printer

/-! # Values come back from their text

The tokens of a value build it again on whatever is still open around it. The text splits into its
tokens again where every string stands for a text and no number occurs: the end of a number is told
only by what follows, and nothing here depends on that. -/
namespace TxCourier.Json

/-! ## Strings -/

theorem Reading.pushUnit_of_control (r : Reading) {c : Char} (control : c.toNat < 32) :
    r.pushUnit c.toNat = r.push c := by
  have low : ¬ (0xDC00 ≤ c.toNat ∧ c.toNat < 0xE000) := by omega
  have high : ¬ (0xD800 ≤ c.toNat ∧ c.toNat < 0xDC00) := by omega
  unfold Reading.pushUnit Reading.push
  rw [if_neg low, if_neg high, Char.ofNat_toNat]

theorem hexUnit?_control {n : Nat} (control : n < 32) :
    hexUnit? '0' '0'
        (if n / 16 < 10 then Char.ofNat (48 + n / 16) else Char.ofNat (87 + n / 16))
        (if n % 16 < 10 then Char.ofNat (48 + n % 16) else Char.ofNat (87 + n % 16))
      = some n := by
  have all : ∀ m, m < 32 → hexUnit? '0' '0'
      (if m / 16 < 10 then Char.ofNat (48 + m / 16) else Char.ofNat (87 + m / 16))
      (if m % 16 < 10 then Char.ofNat (48 + m % 16) else Char.ofNat (87 + m % 16)) = some m := by
    decide
  exact all n control

theorem stringFrom_plain {c : Char} (rest : List Char) (r : Reading) (quote : c ≠ '"')
    (backslash : c ≠ '\\') (control : ¬ c.toNat < 32) :
    stringFrom (c :: rest) r = stringFrom rest (r.push c) := by
  rw [stringFrom.eq_def]
  split
  · rename_i same
    cases same
  · rename_i same
    cases same
    exact absurd rfl quote
  · rename_i same
    cases same
    exact absurd rfl backslash
  · rename_i same
    cases same
    exact absurd rfl backslash
  · rename_i same
    cases same
    exact if_neg fun bad => bad.elim control backslash

/-- However a character is written, that character is read. -/
theorem stringFrom_escape (c : Char) (rest : List Char) (r : Reading) :
    stringFrom (escape c ++ rest) r = stringFrom rest (r.push c) := by
  by_cases short : c ∈ ['"', '\\', '\n', '\r', '\t', '\x08', '\x0c']
  · simp only [List.mem_cons, List.not_mem_nil, or_false] at short
    rcases short with rfl | rfl | rfl | rfl | rfl | rfl | rfl
    all_goals rfl
  · simp only [List.mem_cons, List.not_mem_nil, or_false, not_or] at short
    obtain ⟨quote, backslash, newline, carriageReturn, tab, backspace, formFeed⟩ := short
    rw [escape, if_neg quote, if_neg backslash, if_neg newline, if_neg carriageReturn, if_neg tab,
      if_neg backspace, if_neg formFeed]
    split
    · rename_i control
      dsimp only [List.cons_append, List.nil_append]
      rw [stringFrom, hexUnit?_control control]
      dsimp only
      rw [Reading.pushUnit_of_control r control]
    · rename_i control
      exact stringFrom_plain rest r quote backslash control

theorem stringFrom_flatMap (cs rest : List Char) (r : Reading) :
    stringFrom (cs.flatMap escape ++ rest) r
      = stringFrom rest (cs.foldl (fun r c => r.push c) r) := by
  induction cs generalizing r with
  | nil => rfl
  | cons c cs ih =>
    rw [List.flatMap_cons, List.append_assoc, stringFrom_escape, ih]
    rfl

theorem foldl_push (cs before : List Char) :
    cs.foldl (fun r c => Reading.push c r) ⟨before, true, none⟩
      = ⟨cs.reverse ++ before, true, none⟩ := by
  induction cs generalizing before with
  | nil => rfl
  | cons c cs ih =>
    rw [List.reverse_cons, List.append_assoc]
    exact ih (c :: before)

theorem stringFrom_quoted (s : String) (rest : List Char) :
    stringFrom (s.toList.flatMap escape ++ '"' :: rest) .empty = some (some s, rest) := by
  have read : (s.toList.foldl (fun r c => Reading.push c r) .empty).result = some s := by
    rw [Reading.empty, foldl_push, List.append_nil]
    unfold Reading.result Reading.settle
    dsimp only
    rw [if_pos rfl, List.reverse_reverse, String.ofList_toList]
  rw [stringFrom_flatMap, stringFrom, read]

/-! ## Tokens -/

namespace Token

/-- Its text tells where it ends and all that it stands for. -/
def isSpelled : Token → Bool
  | number _ => false
  | string s => s.isSome
  | _ => true

variable {t : Token}

theorem token?_text (spelled : t.isSpelled = true) (rest : List Char) :
    token? (t.text ++ rest) = some (t, rest) := by
  cases t with
  | number literal => cases spelled
  | string s =>
    cases s with
    | none => cases spelled
    | some s =>
      have split : (string (some s)).text ++ rest
          = '"' :: (s.toList.flatMap escape ++ '"' :: rest) := by
        unfold text quoted
        rw [List.cons_append, List.append_assoc]
        rfl
      rw [split, token?, stringFrom_quoted]
      rfl
  | bool b =>
    cases b with
    | true => rfl
    | false => rfl
  | _ => rfl

/-- A text begins with something that is not passed over. -/
theorem exists_text_eq_cons (spelled : t.isSpelled = true) :
    ∃ c rest, t.text = c :: rest ∧ isBlank c = false := by
  cases t with
  | number literal => cases spelled
  | string s => exact ⟨'"', _, rfl, rfl⟩
  | bool b =>
    cases b with
    | true => exact ⟨'t', _, rfl, rfl⟩
    | false => exact ⟨'f', _, rfl, rfl⟩
  | _ => exact ⟨_, _, rfl, rfl⟩

end Token

theorem tokensFrom_flatMap (ts read : List Token) (steps : Nat)
    (spelled : ∀ t ∈ ts, t.isSpelled = true) (enough : (ts.flatMap Token.text).length ≤ steps) :
    tokensFrom steps (ts.flatMap Token.text) read = some (read.reverse ++ ts) := by
  induction ts generalizing read steps with
  | nil =>
    rw [List.append_nil]
    cases steps with
    | zero => rfl
    | succ steps => rfl
  | cons t ts ih =>
    have here := spelled t List.mem_cons_self
    obtain ⟨c, more, text, solid⟩ := Token.exists_text_eq_cons here
    have taken : token? (c :: (more ++ ts.flatMap Token.text))
        = some (t, ts.flatMap Token.text) := by
      rw [← List.cons_append, ← text]
      exact Token.token?_text here _
    rw [List.flatMap_cons, text, List.cons_append] at enough ⊢
    rw [List.length_cons, List.length_append] at enough
    obtain ⟨left, rfl⟩ : ∃ left, steps = left + 1 := ⟨steps - 1, by omega⟩
    rw [tokensFrom, solid, taken]
    dsimp only
    rw [if_neg Bool.false_ne_true,
      ih (t :: read) left (fun t' member => spelled t' (List.mem_cons_of_mem t member)) (by omega),
      List.reverse_cons, List.append_assoc]
    rfl

/-! ## Values -/

/-- A value without numbers whose strings all stand for a text. -/
def IsSpelled (v : Json) : Prop := ∀ t ∈ v.tokens, t.isSpelled = true

theorem isSpelled_string (s : String) : IsSpelled (.ofString s) := by
  intro t member
  cases List.mem_singleton.mp member
  rfl

theorem isSpelled_itemTokens {items : List Json} (each : ∀ v ∈ items, IsSpelled v) :
    ∀ t ∈ itemTokens items, t.isSpelled = true := by
  induction items with
  | nil => exact List.forall_mem_nil _
  | cons v rest ih =>
    obtain ⟨first, others⟩ := List.forall_mem_cons.mp each
    exact List.forall_mem_cons.mpr ⟨rfl, List.forall_mem_append.mpr ⟨first, ih others⟩⟩

theorem isSpelled_array {items : List Json} (each : ∀ v ∈ items, IsSpelled v) :
    IsSpelled (.array items) := by
  cases items with
  | nil => exact List.forall_mem_cons.mpr ⟨rfl, List.forall_mem_singleton.mpr rfl⟩
  | cons v rest =>
    -- The items behind a comma, with a bracket in the place of the first one.
    obtain ⟨_, inner⟩ := List.forall_mem_cons.mp (isSpelled_itemTokens each)
    obtain ⟨first, others⟩ := List.forall_mem_append.mp inner
    have closed := List.forall_mem_append.mpr ⟨others, List.forall_mem_singleton.mpr
      (show Token.isSpelled .closeBracket = true from rfl)⟩
    exact List.forall_mem_cons.mpr ⟨rfl, List.forall_mem_append.mpr ⟨first, closed⟩⟩

theorem isSpelled_memberTokens {members : List (JsonString × Json)}
    (each : ∀ m ∈ members, m.1.isSome = true ∧ IsSpelled m.2) :
    ∀ t ∈ memberTokens members, t.isSpelled = true := by
  induction members with
  | nil => exact List.forall_mem_nil _
  | cons m rest ih =>
    obtain ⟨⟨named, first⟩, others⟩ := List.forall_mem_cons.mp each
    have inner := List.forall_mem_append.mpr ⟨first, ih others⟩
    exact List.forall_mem_cons.mpr ⟨rfl, List.forall_mem_cons.mpr ⟨named,
      List.forall_mem_cons.mpr ⟨rfl, inner⟩⟩⟩

theorem isSpelled_object {members : List (JsonString × Json)}
    (each : ∀ m ∈ members, m.1.isSome = true ∧ IsSpelled m.2) : IsSpelled (.object members) := by
  cases members with
  | nil => exact List.forall_mem_cons.mpr ⟨rfl, List.forall_mem_singleton.mpr rfl⟩
  | cons m rest =>
    obtain ⟨⟨named, first⟩, others⟩ := List.forall_mem_cons.mp each
    have closed := List.forall_mem_append.mpr ⟨isSpelled_memberTokens others,
      List.forall_mem_singleton.mpr (show Token.isSpelled .closeBrace = true from rfl)⟩
    have inner := List.forall_mem_append.mpr ⟨first, closed⟩
    exact List.forall_mem_cons.mpr ⟨rfl, List.forall_mem_cons.mpr ⟨named,
      List.forall_mem_cons.mpr ⟨rfl, inner⟩⟩⟩

/-- The first item of an array is read as any other value. -/
theorem foldlM_firstItem (v : Json) (stack : List Frame) (ts : List Token) :
    (tokens v ++ ts).foldlM step ⟨stack, .firstItem⟩
      = (tokens v ++ ts).foldlM step ⟨stack, .value⟩ := by
  cases v with
  | array items =>
    cases items with
    | nil => rw [tokens]; rfl
    | cons v rest => rw [tokens]; rfl
  | object members =>
    cases members with
    | nil => rw [tokens]; rfl
    | cons m rest =>
      obtain ⟨name, v⟩ := m
      rw [tokens]; rfl
  | _ => rw [tokens]; rfl

mutual

/-- The tokens of a value are read as that value on top of whatever is open. -/
theorem foldlM_tokens : ∀ (v : Json) (stack : List Frame) (ts : List Token),
    (tokens v ++ ts).foldlM step ⟨stack, .value⟩ = ts.foldlM step ⟨stack, .next v⟩
  | .null, stack, ts => by rw [tokens]; rfl
  | .bool b, stack, ts => by rw [tokens]; rfl
  | .number literal, stack, ts => by rw [tokens]; rfl
  | .string s, stack, ts => by rw [tokens]; rfl
  | .array [], stack, ts => by rw [tokens]; rfl
  | .array (v :: rest), stack, ts => by
    have first := foldlM_tokens v (.array [] :: stack) (itemTokens rest ++ .closeBracket :: ts)
    have others := foldlM_itemTokens rest stack [] v ts
    rw [tokens, List.cons_append, List.append_assoc, List.append_assoc]
    exact (foldlM_firstItem v _ _).trans (first.trans others)
  | .object [], stack, ts => by rw [tokens]; rfl
  | .object ((name, v) :: rest), stack, ts => by
    have first := foldlM_tokens v (.object [] name :: stack) (memberTokens rest ++ .closeBrace :: ts)
    have others := foldlM_memberTokens rest stack [] name v ts
    rw [tokens, List.cons_append, List.cons_append, List.cons_append, List.append_assoc,
      List.append_assoc]
    exact first.trans others

/-- The items behind one are added to those before it, up to the end of the array. -/
theorem foldlM_itemTokens : ∀ (rest : List Json) (stack : List Frame) (items : List Json)
    (v : Json) (ts : List Token),
      (itemTokens rest ++ .closeBracket :: ts).foldlM step ⟨.array items :: stack, .next v⟩
        = ts.foldlM step ⟨stack, .next (.array ((v :: items).reverse ++ rest))⟩
  | [], stack, items, v, ts => by
    rw [List.append_nil]
    rfl
  | w :: rest, stack, items, v, ts => by
    have next := foldlM_tokens w (.array (v :: items) :: stack)
      (itemTokens rest ++ .closeBracket :: ts)
    have others := foldlM_itemTokens rest stack (v :: items) w ts
    rw [itemTokens, List.cons_append, List.append_assoc, List.foldlM_cons]
    refine (next.trans others).trans ?_
    rw [List.reverse_cons, List.append_assoc]
    rfl

/-- The members behind one are added to those before it, up to the end of the object. -/
theorem foldlM_memberTokens : ∀ (rest : List (JsonString × Json)) (stack : List Frame)
    (members : List (JsonString × Json)) (name : JsonString) (v : Json) (ts : List Token),
      (memberTokens rest ++ .closeBrace :: ts).foldlM step ⟨.object members name :: stack, .next v⟩
        = ts.foldlM step ⟨stack, .next (.object (((name, v) :: members).reverse ++ rest))⟩
  | [], stack, members, name, v, ts => by
    rw [List.append_nil]
    rfl
  | (name', w) :: rest, stack, members, name, v, ts => by
    have next := foldlM_tokens w (.object ((name, v) :: members) name' :: stack)
      (memberTokens rest ++ .closeBrace :: ts)
    have others := foldlM_memberTokens rest stack ((name, v) :: members) name' w ts
    rw [memberTokens, List.cons_append, List.cons_append, List.cons_append, List.append_assoc,
      List.foldlM_cons]
    refine (next.trans others).trans ?_
    rw [List.reverse_cons, List.append_assoc]
    rfl

end

theorem ofTokens?_tokens (v : Json) : ofTokens? v.tokens = some v := by
  have read := foldlM_tokens v [] []
  rw [List.append_nil] at read
  unfold ofTokens?
  rw [read]
  rfl

/-- A value is read from its text. -/
theorem parse?_render {v : Json} (spelled : v.IsSpelled) : parse? v.render = some v := by
  have split : tokens? (v.tokens.flatMap Token.text) = some v.tokens :=
    tokensFrom_flatMap v.tokens [] _ spelled (Nat.le_refl _)
  unfold parse? render
  rw [String.toList_ofList, split]
  exact ofTokens?_tokens v

end TxCourier.Json

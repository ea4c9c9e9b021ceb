import TxCourier.Json.Reader
import TxCourier.Proofs.HexText
import TxCourier.Proofs.JsonText

/-! # Records come back member by member

A kind of value and its reader belong together when the reader gives back whatever was written. An
object is written without the members that are absent. Since its names differ, each is found under
its own, and an absent one under none. -/
namespace TxCourier.Json

/-- What is written is read as itself, is never null, and comes back from its text. -/
structure Exchanges {α : Type} (write : α → Json) (read? : Json → Option α) : Prop where
  read : ∀ a, read? (write a) = some a
  solid : ∀ a, write a ≠ .null
  spelled : ∀ a, (write a).IsSpelled

/-! ## Numbers, bytes and lists -/

theorem quantity?_ofQuantity {limit n : Nat} (below : n < limit) :
    (ofQuantity n).quantity? limit = some n := Radix.parse?_quantity below

theorem exchanges_word : Exchanges ofWord word? where
  read w := by
    unfold word? ofWord
    rw [quantity?_ofQuantity w.toNat_lt_size, Option.map_some, BitVec.ofNat_toNat,
      BitVec.setWidth_eq]
  solid _ := nofun
  spelled _ := isSpelled_string _

theorem exchanges_uint64 : Exchanges (fun n : UInt64 => ofQuantity n.toNat) uint64? where
  read n := by
    unfold uint64?
    rw [quantity?_ofQuantity n.toNat_lt_size, Option.map_some, UInt64.ofNat_toNat]
  solid _ := nofun
  spelled _ := isSpelled_string _

theorem exchanges_uint8 : Exchanges (fun n : UInt8 => ofQuantity n.toNat) uint8? where
  read n := by
    unfold uint8?
    rw [quantity?_ofQuantity n.toNat_lt_size, Option.map_some, UInt8.ofNat_toNat]
  solid _ := nofun
  spelled _ := isSpelled_string _

theorem exchanges_bytes : Exchanges ofBytes bytes? where
  read b := Hex.decode?_prefixed b
  solid _ := nofun
  spelled _ := isSpelled_string _

theorem exchanges_fixed (n : Nat) : Exchanges ofFixed (fixed? n) where
  read b := by
    unfold fixed? ofFixed
    rw [exchanges_bytes.read, Option.bind_some, FixedBytes.ofList?_toList]
  solid _ := nofun
  spelled _ := isSpelled_string _

variable {α : Type} {write : α → Json} {read? : Json → Option α}

theorem Exchanges.list (item : Exchanges write read?) :
    Exchanges (fun items : List α => .array (items.map write)) (listOf? read?) where
  read items := by
    change (items.map write).mapM read? = some items
    induction items with
    | nil => rfl
    | cons a rest ih =>
      rw [List.map_cons, List.mapM_cons, item.read, ih]
      rfl
  solid _ := nofun
  spelled items := by
    refine isSpelled_array fun v member => ?_
    obtain ⟨a, _, rfl⟩ := List.mem_map.mp member
    exact item.spelled a

/-! ## Members -/

/-- The members that are there, by their names. -/
def present (members : List (String × Option Json)) : List (String × Json) :=
  members.filterMap fun (name, value) => value.map fun v => (name, v)

variable {members : List (String × Option Json)}

theorem mem_names_of_mem_present {m : String × Json} (member : m ∈ present members) :
    m.1 ∈ members.map (·.1) := by
  obtain ⟨⟨name, value⟩, listed, written⟩ := List.mem_filterMap.mp member
  obtain ⟨v, _, rfl⟩ := Option.map_eq_some_iff.mp written
  exact List.mem_map.mpr ⟨(name, value), listed, rfl⟩

theorem present_cons_some (name : String) (v : Json) (rest : List (String × Option Json)) :
    present ((name, some v) :: rest) = (name, v) :: present rest := rfl

theorem mapM_ofMembers (members : List (String × Option Json)) :
    (members.filterMap fun (name, value) => value.map fun v => (some name, v)).mapM
        (fun (m : JsonString × Json) => m.1.map fun n => (n, m.2))
      = some (present members) := by
  induction members with
  | nil => rfl
  | cons m rest ih =>
    obtain ⟨name, value⟩ := m
    cases value with
    | none => exact ih
    | some v =>
      change ((some name, v) :: _).mapM _ = _
      rw [List.mapM_cons, ih]
      rfl

/-- A name that is not among the members is found nowhere. -/
theorem filter_present_of_absent {name : String} (absent : name ∉ members.map (·.1)) :
    (present members).filter (fun m => m.1 == name) = [] := by
  refine List.filter_eq_nil_iff.mpr fun m member same => absent ?_
  rw [← eq_of_beq same]
  exact mem_names_of_mem_present member

theorem length_filter_present (distinct : (members.map (·.1)).Nodup) (name : String) :
    ((present members).filter fun m => m.1 == name).length ≤ 1 := by
  induction members with
  | nil => exact Nat.zero_le 1
  | cons m rest ih =>
    obtain ⟨here, value⟩ := m
    obtain ⟨fresh, others⟩ : here ∉ rest.map (·.1) ∧ (rest.map (·.1)).Nodup :=
      List.nodup_cons.mp distinct
    cases value with
    | none => exact ih others
    | some v =>
      rw [present_cons_some, List.filter_cons]
      split
      · rename_i same
        rw [show here = name from eq_of_beq same] at fresh
        rw [filter_present_of_absent fresh]
        exact Nat.le_refl 1
      · exact ih others

theorem repeats_present (distinct : (members.map (·.1)).Nodup) (names : List String) :
    repeats names (present members) = false := by
  refine List.any_eq_false.mpr fun name _ more => ?_
  exact Nat.not_lt.mpr (length_filter_present distinct name) (of_decide_eq_true more)

theorem record?_ofMembers (distinct : (members.map (·.1)).Nodup) (names : List String) :
    (ofMembers members).record? names = some ⟨present members, true⟩ := by
  unfold ofMembers record?
  dsimp only
  rw [mapM_ofMembers, Option.bind_eq_bind, Option.bind_some, repeats_present distinct]
  rfl

/-- What follows a field goes on with what the field was read as. -/
theorem bind_of_eq_some {β : Type} {o : Option α} {a : α} (read : o = some a) (f : α → Option β) :
    (o >>= f) = f a := by
  rw [read]
  rfl

namespace Record

theorem find?_of_absent {name : String} (absent : name ∉ members.map (·.1)) :
    find? ⟨present members, true⟩ name = none := by
  have nowhere := filter_present_of_absent absent
  unfold find?
  rw [List.find?_eq_none.mpr fun m there same => List.filter_eq_nil_iff.mp nowhere m there same]
  rfl

theorem find?_of_mem (distinct : (members.map (·.1)).Nodup) {name : String} {value : Option Json}
    (member : (name, value) ∈ members) : find? ⟨present members, true⟩ name = value := by
  unfold find?
  induction members with
  | nil => cases member
  | cons m rest ih =>
    obtain ⟨here, first⟩ := m
    obtain ⟨fresh, others⟩ : here ∉ rest.map (·.1) ∧ (rest.map (·.1)).Nodup :=
      List.nodup_cons.mp distinct
    rcases List.mem_cons.mp member with same | further
    · cases same
      cases value with
      | none =>
        have nowhere : find? ⟨present rest, true⟩ name = none := find?_of_absent fresh
        exact nowhere
      | some v =>
        dsimp only
        rw [present_cons_some, List.find?_cons, beq_self_eq_true]
        rfl
    · have other : here ≠ name := by
        rintro rfl
        exact fresh (List.mem_map.mpr ⟨_, further, rfl⟩)
      cases first with
      | none => exact ih others further
      | some v =>
        dsimp only
        rw [present_cons_some, List.find?_cons, beq_eq_false_iff_ne.mpr other]
        exact ih others further

/-- The same for a member that is known by its place. -/
theorem find?_getElem? (distinct : (members.map (·.1)).Nodup) {name : String} {value : Option Json}
    (i : Nat) (listed : members[i]? = some (name, value)) :
    find? ⟨present members, true⟩ name = value :=
  find?_of_mem distinct (List.mem_of_getElem? listed)

variable {r : Record} {name : String}

theorem required_eq (kind : Exchanges write read?) {a : α}
    (found : r.find? name = some (write a)) : r.required name read? = some a := by
  rw [required, found, Option.bind_some, kind.read]

theorem withDefault_eq (kind : Exchanges write read?) (default : α) {a : α}
    (found : r.find? name = some (write a)) : r.withDefault name default read? = some a := by
  rw [withDefault, found]
  exact kind.read a

theorem optional_eq (kind : Exchanges write read?) {o : Option α}
    (found : r.find? name = o.map write) : r.optional name read? = some o := by
  cases o with
  | none => rw [optional, found]; rfl
  | some a =>
    have solid := kind.solid a
    have read := kind.read a
    rw [optional, found]
    dsimp only [Option.map_some]
    split
    · rename_i none
      cases none
    · rename_i null
      exact absurd (Option.some.inj null) solid
    · rename_i same
      cases same
      rw [read]
      rfl

end Record

/-! ## The text of an object -/

theorem isSpelled_ofMembers (each : ∀ m ∈ members, ∀ v, m.2 = some v → v.IsSpelled) :
    (ofMembers members).IsSpelled := by
  refine isSpelled_object fun m member => ?_
  obtain ⟨⟨name, value⟩, listed, written⟩ := List.mem_filterMap.mp member
  obtain ⟨v, there, rfl⟩ := Option.map_eq_some_iff.mp written
  exact ⟨rfl, each _ listed v there⟩

theorem Exchanges.spelled_some (kind : Exchanges write read?) (a : α) :
    ∀ v, some (write a) = some v → v.IsSpelled := by
  rintro v same
  cases same
  exact kind.spelled a

theorem Exchanges.spelled_map (kind : Exchanges write read?) (o : Option α) :
    ∀ v, o.map write = some v → v.IsSpelled := by
  rintro v same
  obtain ⟨a, _, rfl⟩ := Option.map_eq_some_iff.mp same
  exact kind.spelled a

end TxCourier.Json

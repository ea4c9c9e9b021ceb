/-! # Tables of a settings file

A file builds one table, to which keys are added along paths. What may be added to a table depends
on how it came to be: a table is opened once by a header, and a table that a dotted key made is
extended by dotted keys only. -/
namespace TxCourier.Toml

/-- How a table came to be. -/
inductive Origin where
  /-- Opened by a header of its own. -/
  | header
  /-- Passed through by the header of a table in it. -/
  | passed
  /-- Made by a key with a dot. -/
  | dotted
  /-- Written out as a value, which nothing is added to. -/
  | inline
deriving DecidableEq, Repr

inductive Value where
  | string (s : String)
  /-- An integer, if the characters are digits of its radix. -/
  | integer (n : Option Int)
  /-- A number in floating point without underscores, or the word for one that is none. -/
  | float (literal : String)
  | bool (b : Bool)
  /-- A date, a time or both. -/
  | moment (text : String)
  | array (items : List Value)
  | table (origin : Origin) (entries : List (String × Value))
  /-- Tables with the same header, the last apart. -/
  | tables (last : List (String × Value)) (earlier : List (List (String × Value)))

abbrev Entries := List (String × Value)

namespace Entries

def find? (key : String) (entries : Entries) : Option Value :=
  (List.find? (fun e => e.1 == key) entries).map (·.2)

/-- The entries with a value under a key, in the place of the one before. -/
def put (key : String) (v : Value) : Entries → Entries
  | [] => [(key, v)]
  | e :: rest => if e.1 == key then (key, v) :: rest else e :: put key v rest

/-- A change of the table at the end of a path. Tables that are not there are made, and of several
with the same header the last is meant. Dotted keys do not enter a table that has a header. -/
def within? (dotted : Bool) : List String → (Origin → Entries → Option Entries) → Origin → Entries →
    Option Entries
  | [], change, origin, entries => change origin entries
  | key :: path, change, _, entries =>
    match find? key entries with
    | none => do
      let made := if dotted then Origin.dotted else .passed
      return put key (.table made (← within? dotted path change made [])) entries
    | some (.table origin inner) =>
      if origin = .inline ∨ dotted ∧ origin = .header then none
      else do return put key (.table origin (← within? dotted path change origin inner)) entries
    | some (.tables last earlier) => do
      return put key (.tables (← within? dotted path change .header last) earlier) entries
    | some _ => none

/-- The last key of a path and the keys in front of it. -/
def split? (path : List String) : Option (List String × String) :=
  match path.reverse with
  | [] => none
  | key :: before => some (before.reverse, key)

/-- The entries with one more table, opened by a header. -/
def open? (path : List String) (entries : Entries) : Option Entries := do
  let (before, key) ← split? path
  within? false before (fun _ inner =>
    match find? key inner with
    | none => some (put key (.table .header []) inner)
    | some (.table .passed there) => some (put key (.table .header there) inner)
    | some _ => none) .header entries

/-- The entries with one more of the tables that share a header. -/
def openNext? (path : List String) (entries : Entries) : Option Entries := do
  let (before, key) ← split? path
  within? false before (fun _ inner =>
    match find? key inner with
    | none => some (put key (.tables [] []) inner)
    | some (.tables last earlier) => some (put key (.tables [] (last :: earlier)) inner)
    | some _ => none) .header entries

/-- The entries of a table with one more value, under a key that is not taken. -/
def add? (path : List String) (v : Value) (origin : Origin) (entries : Entries) :
    Option Entries := do
  let (before, key) ← split? path
  within? true before (fun parent inner =>
    if (parent = .dotted) = (before = []) then none
    else if (find? key inner).isSome then none
    else some (put key v inner)) origin entries

/-- The entries with one more value in the table that a header opened. -/
def addUnder? (header path : List String) (v : Value) (entries : Entries) : Option Entries :=
  within? false header (add? path v) .header entries

end Entries

end TxCourier.Toml

import VisualNovel.Text.Basic

/-!
Tables: values under names, in the order in which the names were first set.

A table is the list of its entries. Setting a name that is present keeps its place, erasing and
setting it again moves it to the end. The keys of a table built by `set` are distinct.

`recordOrder` is the order of a record of the save format: names that are index numbers come first,
in ascending order, and the others follow in their order. `recordEntries` also leaves out the one
name that such a record cannot hold.
-/

namespace VisualNovel

/-- Values under names, in insertion order. -/
structure Table (α : Type) where
  entries : List (Text × α) := []
  deriving Repr, DecidableEq, Inhabited

namespace Table

variable {α β : Type}

/-- The table without entries. -/
def empty : Table α := ⟨[]⟩

/-- The value under a name. -/
def get? (t : Table α) (name : Text) : Option α := t.entries.lookup name

/-- Whether a name is present. -/
def contains (t : Table α) (name : Text) : Bool := (t.get? name).isSome

/-- Sets a name in a list of entries: in its place if present, at the end otherwise. -/
def setEntry (name : Text) (value : α) : List (Text × α) → List (Text × α)
  | [] => [(name, value)]
  | (key, old) :: rest =>
    if key = name then (key, value) :: rest else (key, old) :: setEntry name value rest

/-- Sets a name. -/
def set (t : Table α) (name : Text) (value : α) : Table α := ⟨setEntry name value t.entries⟩

/-- Removes a name. -/
def erase (t : Table α) (name : Text) : Table α := ⟨t.entries.filter fun e => e.1 ≠ name⟩

/-- Changes the value under a name, if it is present. -/
def modify (t : Table α) (name : Text) (change : α → α) : Table α :=
  ⟨t.entries.map fun e => if e.1 = name then (e.1, change e.2) else e⟩

/-- The table that results from setting entries one after another. -/
def ofEntries (entries : List (Text × α)) : Table α :=
  entries.foldl (fun t e => t.set e.1 e.2) empty

/-- The names, in order. -/
def keys (t : Table α) : List Text := t.entries.map (·.1)

/-- The values, in order. -/
def values (t : Table α) : List α := t.entries.map (·.2)

/-- The number of entries. -/
def size (t : Table α) : Nat := t.entries.length

/-- The table with every value changed. -/
def map (f : α → β) (t : Table α) : Table β := ⟨t.entries.map fun e => (e.1, f e.2)⟩

/-- The table with every value changed by a function that also knows its name. -/
def mapNamed (f : Text → α → β) (t : Table α) : Table β :=
  ⟨t.entries.map fun e => (e.1, f e.1 e.2)⟩

end Table

/-! ## Records -/

/-- The index number that a name spells: digits without a leading zero, below `2 ^ 32 - 1`. -/
def indexName? (name : Text) : Option Nat :=
  if name.isEmpty || !name.all Text.isDigit then none
  else
    let n := Text.natOfDigits name
    if Text.ofNat n = name && n < Nat.pow 2 32 - 1 then some n else none

/-- Index numbers first and ascending, then the other names in their order. -/
def recordOrder {α : Type} (entries : List (Text × α)) : List (Text × α) :=
  let indexed := entries.filterMap fun e => (indexName? e.1).map (·, e)
  let sorted := indexed.mergeSort fun a b => a.1 ≤ b.1
  sorted.map (·.2) ++ entries.filter fun e => (indexName? e.1).isNone

/-- The name that a record does not keep when it is set like any other. -/
def unrecordedName : Text := "__proto__"

/-- The entries of a table as those of a record. -/
def Table.recordEntries {α : Type} (t : Table α) : List (Text × α) :=
  recordOrder (t.entries.filter fun e => e.1 ≠ unrecordedName)

end VisualNovel

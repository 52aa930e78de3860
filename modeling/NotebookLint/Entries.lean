/-!
# Entries in order of first insertion

A list of named values in which every name has one place: putting a name again changes its value
and keeps its place. Dictionaries, parameter bags and report sections are such lists.
-/

namespace NotebookLint

/-- Named values in order of the first insertion of each name. -/
abbrev Entries (α : Type) := List (String × α)

namespace Entries

variable {α : Type}

/-- Gives a name its value: in its old place when it has one, at the end otherwise. -/
def put (name : String) (value : α) : Entries α → Entries α
  | [] => [(name, value)]
  | entry :: rest =>
    if entry.1 = name then (name, value) :: rest else entry :: put name value rest

/-- The entries that a sequence of insertions leaves. -/
def ofList (pairs : List (String × α)) : Entries α :=
  pairs.foldl (fun entries pair => put pair.1 pair.2 entries) []

/-- The value of a name. -/
def get? (name : String) : Entries α → Option α
  | [] => none
  | entry :: rest => if entry.1 = name then some entry.2 else get? name rest

/-- The names in order. -/
def names (entries : Entries α) : List String :=
  entries.map Prod.fst

/-- A name that is put has the value that was put. -/
theorem get?_put_self (name : String) (value : α) (entries : Entries α) :
    get? name (put name value entries) = some value := by
  induction entries with
  | nil => simp [put, get?]
  | cons entry rest ih =>
    rw [put]
    split
    · simp [get?]
    · rename_i h
      simp [get?, h, ih]

/-- Putting one name leaves the value of every other name. -/
theorem get?_put_of_ne {name other : String} (value : α) (entries : Entries α)
    (h : other ≠ name) : get? other (put name value entries) = get? other entries := by
  induction entries with
  | nil => simp [put, get?, Ne.symm h]
  | cons entry rest ih =>
    rw [put]
    split
    · rename_i he
      simp [get?, he, Ne.symm h]
    · simp [get?, ih]

/-- Putting a name keeps the places of the names and adds the name at the end if it is new. -/
theorem names_put (name : String) (value : α) (entries : Entries α) :
    names (put name value entries) =
      if name ∈ names entries then names entries else names entries ++ [name] := by
  induction entries with
  | nil => simp [put, names]
  | cons entry rest ih =>
    rw [put]
    by_cases h : entry.1 = name
    · simp [names, h]
    · simp only [h, ↓reduceIte, names, List.map_cons, List.mem_cons, Ne.symm h, false_or]
      simp only [names] at ih
      rw [ih]
      split <;> simp_all

end Entries

end NotebookLint

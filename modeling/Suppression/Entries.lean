import Suppression.Text.Wide

namespace Suppression

/-- Entries keyed by names, in the order in which the keys were first used. -/
abbrev Entries (α : Type) := List (Wide × α)

namespace Entries

variable {α : Type}

def get? (entries : Entries α) (key : Wide) : Option α :=
  match entries with
  | [] => none
  | (k, v) :: rest => if k = key then some v else get? rest key

def keys (entries : Entries α) : List Wide :=
  entries.map Prod.fst

def put (entries : Entries α) (key : Wide) (value : α) : Entries α :=
  match entries with
  | [] => [(key, value)]
  | (k, v) :: rest => if k = key then (k, value) :: rest else (k, v) :: put rest key value

def remove (entries : Entries α) (key : Wide) : Entries α :=
  entries.filter fun entry => entry.1 != key

/-- The entries put one after the other, so that each key occurs once. -/
def ofList (entries : List (Wide × α)) : Entries α :=
  entries.foldl (fun collected entry => put collected entry.1 entry.2) []

theorem get?_put (entries : Entries α) (key other : Wide) (value : α) :
    (put entries key value).get? other =
      if other = key then some value else entries.get? other := by
  induction entries with
  | nil => simp [put, get?, eq_comm]
  | cons entry rest ih =>
      obtain ⟨k, v⟩ := entry
      by_cases hk : k = key
      · subst hk
        by_cases h : other = k <;> simp [put, get?, h, @eq_comm _ k]
      · by_cases h : k = other
        · subst h
          simp [put, get?, hk]
        · simp [put, get?, hk, h, ih]

theorem get?_remove (entries : Entries α) (key other : Wide) :
    (entries.remove key).get? other = if other = key then none else entries.get? other := by
  induction entries with
  | nil => simp [remove, get?]
  | cons entry rest ih =>
      obtain ⟨k, v⟩ := entry
      simp only [remove] at ih
      by_cases hk : k = key
      · subst hk
        by_cases h : other = k
        · subst h
          simpa [remove] using ih
        · simp [remove, get?, Ne.symm h, ih, h]
      · by_cases h : k = other
        · subst h
          simp [remove, get?, hk]
        · simp [remove, get?, hk, h, ih]

theorem keys_put (entries : Entries α) (key : Wide) (value : α) :
    (put entries key value).keys =
      if key ∈ entries.keys then entries.keys else entries.keys ++ [key] := by
  induction entries with
  | nil => simp [put, keys]
  | cons entry rest ih =>
      obtain ⟨k, v⟩ := entry
      simp only [keys] at ih
      by_cases hk : k = key
      · simp [put, keys, hk]
      · by_cases h : key ∈ rest.map Prod.fst <;> simp [put, keys, hk, Ne.symm hk, ih, h]

end Entries

end Suppression

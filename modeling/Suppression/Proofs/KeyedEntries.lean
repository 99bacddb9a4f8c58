import Suppression.Entries

namespace Suppression.Entries

variable {α : Type} {entries : Entries α} {key : Wide} {value : α}

theorem put_of_get? (h : entries.get? key = some value) : entries.put key value = entries := by
  induction entries with
  | nil => simp [get?] at h
  | cons entry rest ih =>
      obtain ⟨k, v⟩ := entry
      by_cases hk : k = key
      · simp only [get?, hk, if_true, Option.some.injEq] at h
        simp [put, hk, h]
      · simp only [get?, hk, if_false] at h
        simp [put, hk, ih h]

theorem put_put (entries : Entries α) (key : Wide) (value next : α) :
    (entries.put key value).put key next = entries.put key next := by
  induction entries with
  | nil => simp [put]
  | cons entry rest ih =>
      obtain ⟨k, v⟩ := entry
      by_cases hk : k = key
      · simp [put, hk]
      · simp [put, hk, ih]

theorem put_of_not_mem (h : key ∉ entries.map Prod.fst) (value : α) :
    entries.put key value = entries ++ [(key, value)] := by
  induction entries with
  | nil => rfl
  | cons entry rest ih =>
      obtain ⟨k, v⟩ := entry
      rw [List.map_cons, List.mem_cons, not_or] at h
      simp [put, Ne.symm h.1, ih h.2]

theorem mem_of_get? (h : entries.get? key = some value) : (key, value) ∈ entries := by
  induction entries with
  | nil => simp [get?] at h
  | cons entry rest ih =>
      obtain ⟨k, v⟩ := entry
      by_cases hk : k = key
      · simp only [get?, hk, if_true, Option.some.injEq] at h
        simp [hk, h]
      · simp only [get?, hk, if_false] at h
        exact List.mem_cons_of_mem _ (ih h)

theorem eq_nil_of_get? (h : ∀ key, entries.get? key = none) : entries = [] := by
  cases entries with
  | nil => rfl
  | cons entry rest => simpa [get?] using h entry.1

theorem get?_eq_none_iff : entries.get? key = none ↔ key ∉ entries.keys := by
  induction entries with
  | nil => simp [get?, keys]
  | cons entry rest ih =>
      obtain ⟨k, v⟩ := entry
      simp only [keys] at ih
      by_cases hk : k = key
      · simp [get?, keys, hk]
      · simp [get?, keys, hk, Ne.symm hk, ih]

theorem keys_prefix_put (entries : Entries α) (key : Wide) (value : α) :
    entries.keys <+: (entries.put key value).keys := by
  rw [keys_put]
  split
  · exact List.prefix_rfl
  · exact List.prefix_append _ _

theorem mem_put {entry : Wide × α} (h : entry ∈ entries.put key value) :
    entry = (key, value) ∨ entry ∈ entries := by
  induction entries with
  | nil => exact Or.inl (List.mem_singleton.mp h)
  | cons first rest ih =>
      obtain ⟨k, v⟩ := first
      by_cases hk : k = key
      · simp only [put, hk, if_true, List.mem_cons] at h
        exact h.imp_right (List.mem_cons_of_mem _)
      · simp only [put, hk, if_false, List.mem_cons] at h
        rcases h with rfl | hrest
        · exact Or.inr List.mem_cons_self
        · exact (ih hrest).imp_right (List.mem_cons_of_mem _)

theorem nodup_keys_put (h : entries.keys.Nodup) (key : Wide) (value : α) :
    (entries.put key value).keys.Nodup := by
  rw [keys_put]
  split
  · exact h
  · next hnew =>
      rw [List.nodup_append]
      refine ⟨h, by simp, ?_⟩
      intro a ha b hb heq
      rw [List.mem_singleton.mp hb] at heq
      exact hnew (heq ▸ ha)

theorem get?_map {β : Type} (f : α → β) (entries : Entries α) (key : Wide) :
    get? (entries.map fun entry => (entry.1, f entry.2)) key = (entries.get? key).map f := by
  induction entries with
  | nil => rfl
  | cons entry rest ih =>
      obtain ⟨k, v⟩ := entry
      by_cases hk : k = key
      · simp [get?, hk]
      · simp [get?, hk, ih]

theorem get?_filterMap (names : List Wide) (entries : Entries α) (key : Wide) :
    get? (names.filterMap fun name => (entries.get? name).map fun value => (name, value)) key =
      if key ∈ names then entries.get? key else none := by
  induction names with
  | nil => rfl
  | cons name rest ih =>
      cases hname : entries.get? name with
      | none =>
          rw [List.filterMap_cons_none (by rw [hname, Option.map_none]), ih]
          by_cases hkey : key = name
          · simp [hkey, hname]
          · simp [hkey]
      | some value =>
          rw [List.filterMap_cons_some (by rw [hname, Option.map_some])]
          by_cases hkey : key = name
          · simp [get?, hkey, hname]
          · simp [get?, hkey, Ne.symm hkey, ih]

theorem map_fst_filterMap {names : List Wide} {entries : Entries α}
    (h : ∀ name ∈ names, (entries.get? name).isSome = true) :
    (names.filterMap fun name => (entries.get? name).map fun value => (name, value)).map Prod.fst =
      names := by
  induction names with
  | nil => rfl
  | cons name rest ih =>
      obtain ⟨hname, hrest⟩ := List.forall_mem_cons.mp h
      obtain ⟨value, hvalue⟩ := Option.isSome_iff_exists.mp hname
      rw [List.filterMap_cons_some (by rw [hvalue, Option.map_some]), List.map_cons, ih hrest]

end Suppression.Entries

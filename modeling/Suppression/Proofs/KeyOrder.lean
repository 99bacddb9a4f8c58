import Mathlib.Data.List.Basic
import Suppression.Json.KeyOrder

namespace Suppression.Json

open scoped List

variable {α β : Type}

/-- The entries whose keys are listed by their size, with the size. -/
def numbered (entries : Entries α) : List (Nat × (Wide × α)) :=
  entries.filterMap fun entry => (index? entry.1).map fun n => (n, entry)

def unnumbered (entries : Entries α) : Entries α :=
  entries.filter fun entry => (index? entry.1).isNone

def byNumber (a b : Nat × (Wide × α)) : Bool :=
  a.1 ≤ b.1

theorem inKeyOrder_eq (entries : Entries α) : inKeyOrder entries =
    ((numbered entries).mergeSort byNumber).map Prod.snd ++ unnumbered entries := rfl

theorem mem_numbered {entries : Entries α} {entry : Nat × (Wide × α)} :
    entry ∈ numbered entries ↔ entry.2 ∈ entries ∧ index? entry.2.1 = some entry.1 := by
  obtain ⟨n, key, value⟩ := entry
  simp [numbered]

theorem map_snd_numbered (entries : Entries α) :
    (numbered entries).map Prod.snd = entries.filter fun entry => (index? entry.1).isSome := by
  induction entries with
  | nil => rfl
  | cons entry rest ih =>
      cases hindex : index? entry.1 <;> simpa [numbered, hindex] using ih

theorem inKeyOrder_perm (entries : Entries α) : inKeyOrder entries ~ entries := by
  have hother : unnumbered entries =
      entries.filter fun entry => !(index? entry.1).isSome := by
    simp [unnumbered]
  rw [inKeyOrder_eq, hother]
  calc
    _ ~ (numbered entries).map Prod.snd ++ entries.filter _ :=
      ((List.mergeSort_perm _ _).map Prod.snd).append_right _
    _ = entries.filter (fun entry => (index? entry.1).isSome) ++ entries.filter _ := by
      rw [map_snd_numbered]
    _ ~ entries := List.filter_append_perm _ entries

theorem inKeyOrder_map (f : α → β) (entries : Entries α) :
    inKeyOrder (entries.map fun entry => (entry.1, f entry.2)) =
      (inKeyOrder entries).map fun entry => (entry.1, f entry.2) := by
  have hnumbered : numbered (entries.map fun entry => (entry.1, f entry.2)) =
      (numbered entries).map fun entry => (entry.1, entry.2.1, f entry.2.2) := by
    simp [numbered, List.filterMap_map, List.map_filterMap, Function.comp_def]
  have hunnumbered : unnumbered (entries.map fun entry => (entry.1, f entry.2)) =
      (unnumbered entries).map fun entry => (entry.1, f entry.2) := by
    simp [unnumbered, List.filter_map, Function.comp_def]
  have hsorted : ((numbered entries).mergeSort byNumber).map
      (fun entry => (entry.1, entry.2.1, f entry.2.2)) =
        ((numbered entries).map fun entry => (entry.1, entry.2.1, f entry.2.2)).mergeSort
          byNumber := List.map_mergeSort fun _ _ _ _ => rfl
  rw [inKeyOrder_eq, inKeyOrder_eq, hnumbered, hunnumbered, ← hsorted, List.map_append,
    List.map_map, List.map_map]
  rfl

theorem numbered_append (entries others : Entries α) :
    numbered (entries ++ others) = numbered entries ++ numbered others :=
  List.filterMap_append

theorem numbered_unnumbered (entries : Entries α) : numbered (unnumbered entries) = [] := by
  rw [List.eq_nil_iff_forall_not_mem]
  intro entry hmem
  obtain ⟨hother, hindex⟩ := mem_numbered.mp hmem
  simp [unnumbered, hindex] at hother

theorem numbered_map_snd {entries : List (Nat × (Wide × α))}
    (h : ∀ entry ∈ entries, index? entry.2.1 = some entry.1) :
    numbered (entries.map Prod.snd) = entries := by
  induction entries with
  | nil => rfl
  | cons entry rest ih =>
      obtain ⟨hentry, hrest⟩ := List.forall_mem_cons.mp h
      simpa [numbered, hentry] using ih hrest

theorem inKeyOrder_inKeyOrder (entries : Entries α) :
    inKeyOrder (inKeyOrder entries) = inKeyOrder entries := by
  have hindex : ∀ entry ∈ (numbered entries).mergeSort byNumber,
      index? entry.2.1 = some entry.1 :=
    fun entry hmem => (mem_numbered.mp (List.mem_mergeSort.mp hmem)).2
  have hnumbered : numbered (inKeyOrder entries) = (numbered entries).mergeSort byNumber := by
    rw [inKeyOrder_eq, numbered_append, numbered_unnumbered, numbered_map_snd hindex,
      List.append_nil]
  have hunnumbered : unnumbered (inKeyOrder entries) = unnumbered entries := by
    have hnone : unnumbered (((numbered entries).mergeSort byNumber).map Prod.snd) = [] := by
      rw [List.eq_nil_iff_forall_not_mem]
      intro entry hmem
      obtain ⟨hmem, hother⟩ := List.mem_filter.mp hmem
      obtain ⟨found, hfound, rfl⟩ := List.mem_map.mp hmem
      simp [hindex found hfound] at hother
    rw [inKeyOrder_eq, unnumbered, List.filter_append]
    change unnumbered _ ++ unnumbered (unnumbered entries) = _
    rw [hnone, List.nil_append, unnumbered, unnumbered, List.filter_filter]
    simp
  have hsorted : ((numbered entries).mergeSort byNumber).Pairwise fun a b => byNumber a b :=
    List.pairwise_mergeSort
      (fun a b c hab hbc => by
        simp only [byNumber, decide_eq_true_eq] at *
        omega)
      (fun a b => by
        simp only [byNumber, Bool.or_eq_true, decide_eq_true_eq]
        omega) _
  rw [inKeyOrder_eq (inKeyOrder entries), hnumbered, hunnumbered,
    List.mergeSort_of_pairwise hsorted, ← inKeyOrder_eq]

end Suppression.Json

import Mathlib.Data.List.Basic
import Suppression.FileTree.Change

namespace Suppression.FileTree

variable {tree after : FileTree} {place : Place}

theorem lookup_filter_ne (nodes : List (Place × Node)) (place other : Place) :
    (nodes.filter fun entry => entry.1 != place).lookup other =
      if other = place then none else nodes.lookup other := by
  induction nodes with
  | nil => simp
  | cons entry rest ih =>
      obtain ⟨first, node⟩ := entry
      by_cases hfirst : first = place
      · subst hfirst
        by_cases hother : other = first
        · simpa [hother] using ih
        · rw [List.filter_cons_of_neg (by simp), ih, if_neg hother,
            List.lookup_cons, beq_eq_false_iff_ne.mpr hother]
          simp [hother]
      · rw [List.filter_cons_of_pos (by simp [hfirst]), List.lookup_cons, List.lookup_cons, ih]
        by_cases hother : other = first
        · simp [hother, hfirst]
        · simp [beq_eq_false_iff_ne.mpr hother]

theorem node?_putNode (tree : FileTree) {place : Place} (hplace : place ≠ []) (node : Node)
    (other : Place) : (tree.putNode place node).node? other =
      if other = place then some node else tree.node? other := by
  unfold node?
  split
  · rw [if_neg hplace.symm]
  · simp only [putNode, List.lookup_append, lookup_filter_ne]
    split
    · next heq => simp [heq]
    · next hne => simp [List.lookup_cons, beq_eq_false_iff_ne.mpr hne]

theorem node?_of_walk_write {links : Nat} {current : Place} {names : List String}
    {node? : Option Node} (h : tree.walk .write links current names = .ok (place, node?))
    (hnode : node? ≠ some .directory) :
    place ≠ [] ∧ tree.node? place = node? ∧ ∀ target, node? ≠ some (.link target) := by
  fun_induction walk tree .write links current names with
  | case1 links current =>
      obtain ⟨-, rfl⟩ : current = place ∧ some Node.directory = node? := by simpa using h
      exact absurd rfl hnode
  | case2 links current name rest hempty ih => exact ih h
  | case3 links current rest hup ih => exact ih h
  | case4 => simp at h
  | case5 => simp at h
  | case6 links current name rest hname hup hslash hlong here hnone hlast =>
      obtain ⟨rfl, rfl⟩ : here = place ∧ none = node? := by simpa using h
      exact ⟨by simp [here], hnone, by simp⟩
  | case7 => simp at h
  | case8 links current name rest hname hup hslash hlong here hdirectory ih => exact ih h
  | case9 links current name rest hname hup hslash hlong here content hfile hlast =>
      obtain ⟨rfl, rfl⟩ : here = place ∧ some (Node.file content) = node? := by simpa using h
      exact ⟨by simp [here], hfile, by simp⟩
  | case10 => simp at h
  | case11 links current name rest hname hup hslash hlong here target hlink hkeep =>
      simp at hkeep
  | case12 => simp at h
  | case13 current name rest hname hup hslash hlong here target hlink hkeep fewer ih => exact ih h

theorem walk_putNode {links : Nat} {current : Place} {names : List String} {node? : Option Node}
    (h : tree.walk .write links current names = .ok (place, node?))
    (hnode : node? ≠ some .directory) (content : List UInt8) :
    (tree.putNode place (.file content)).walk .follow links current names =
      .ok (place, some (.file content)) := by
  obtain ⟨hplace, hbefore, hlink⟩ := node?_of_walk_write h hnode
  have hput := node?_putNode tree hplace (.file content)
  -- Directories and links on the way stay as they are.
  have hkept {here : Place} {node : Node} (hhere : tree.node? here = some node)
      (hpassed : node = .directory ∨ ∃ target, node = .link target) :
      (tree.putNode place (.file content)).node? here = some node := by
    rw [hput, if_neg, hhere]
    rintro rfl
    rw [hbefore] at hhere
    subst hhere
    rcases hpassed with rfl | ⟨target, rfl⟩
    · exact hnode rfl
    · exact hlink target rfl
  fun_induction walk tree .write links current names with
  | case1 links current =>
      obtain ⟨-, rfl⟩ : current = place ∧ some Node.directory = node? := by simpa using h
      exact absurd rfl hnode
  | case2 links current name rest hempty ih => rw [walk, if_pos hempty, ih h]
  | case3 links current rest hup ih => rw [walk, if_neg hup, if_pos rfl, ih h]
  | case4 => simp at h
  | case5 => simp at h
  | case6 links current name rest hname hup hslash hlong here hnone hlast =>
      obtain ⟨rfl, -⟩ : here = place ∧ none = node? := by simpa using h
      rw [walk, if_neg hname, if_neg hup, if_neg (by simp), if_neg hlong]
      simp [here, hput, hlast]
  | case7 => simp at h
  | case8 links current name rest hname hup hslash hlong here hdirectory ih =>
      rw [walk, if_neg hname, if_neg hup, if_neg (by simp), if_neg hlong]
      simp only [here] at hdirectory ih h
      simp only [hkept hdirectory (.inl rfl), ih h]
  | case9 links current name rest hname hup hslash hlong here old hfile hlast =>
      obtain ⟨rfl, -⟩ : here = place ∧ some (Node.file old) = node? := by simpa using h
      rw [walk, if_neg hname, if_neg hup, if_neg (by simp), if_neg hlong]
      simp [here, hput, hlast]
  | case10 => simp at h
  | case11 links current name rest hname hup hslash hlong here target hlink' hkeep =>
      simp at hkeep
  | case12 => simp at h
  | case13 current name rest hname hup hslash hlong here target hlink' hkeep fewer ih =>
      rw [walk, if_neg hname, if_neg hup, if_neg (by simp), if_neg hlong]
      simp only [here] at hlink'
      simp only [hkept hlink' (.inr ⟨target, rfl⟩)]
      simpa using ih h

theorem read_of_write {path : String} {content : List UInt8}
    (h : tree.write path content = .ok after) : after.read path = .ok content := by
  simp only [write, bind, Except.bind] at h
  split at h
  · simp at h
  next hcheck =>
  split at h
  · simp at h
  · simp at h
  next place node? hdirectory hfind =>
  obtain rfl := Except.ok.inj h
  have hread : (tree.putNode place (.file content)).find path =
      .ok (place, some (.file content)) := by
    simp only [find, bind, Except.bind] at hfind ⊢
    split at hfind
    · simp at hfind
    · exact walk_putNode hfind hdirectory content
  simp [read, hcheck, hread, bind, Except.bind]

theorem read_of_writeWithParents {path : String} {content : List UInt8}
    (h : tree.writeWithParents path content = (.ok (), after)) :
    after.read path = .ok content := by
  simp only [writeWithParents] at h
  split at h
  · simp at h
  split at h
  · simp at h
  next made hmade =>
  split at h
  · simp at h
  next written hwrite =>
  obtain rfl : written = after := by simpa using h
  exact read_of_write hwrite

end Suppression.FileTree

import Suppression.Json.Reader
import Suppression.Proofs.HeldNumber
import Suppression.Proofs.KeyedEntries

namespace Suppression.Json

/-- No object names a field twice, and every number is held. -/
inductive IsRead : Json → Prop
  | null : IsRead .null
  | bool (value : Bool) : IsRead (.bool value)
  | num {value : Number} : value.IsHeld → IsRead (.num value)
  | str (value : Wide) : IsRead (.str value)
  | arr {items : List Json} : (∀ item ∈ items, IsRead item) → IsRead (.arr items)
  | obj {fields : List (Wide × Json)} : (fields.map Prod.fst).Nodup →
      (∀ field ∈ fields, IsRead field.2) → IsRead (.obj fields)

/-- The parts of an array or object that is still open have been read. -/
def Frame.IsRead : Frame → Prop
  | .array items => ∀ item ∈ items, item.IsRead
  | .object fields => (Json.obj fields).IsRead
  | .field fields _ => (Json.obj fields).IsRead

def Mode.IsRead : Mode → Prop
  | .word _ meaning => meaning.IsRead
  | .done result => result.IsRead
  | _ => True

theorem IsRead.put {fields : Entries Json} (h : (Json.obj fields).IsRead) (key : Wide)
    {value : Json} (hvalue : value.IsRead) : (Json.obj (fields.put key value)).IsRead := by
  cases h with
  | obj hkeys hfields =>
      refine .obj (Entries.nodup_keys_put hkeys key value) ?_
      intro field hmem
      rcases Entries.mem_put hmem with rfl | hold
      · exact hvalue
      · exact hfields field hold

namespace Reader

/-- Everything that has been read so far. -/
structure IsRead (r : Reader) : Prop where
  stack : ∀ frame ∈ r.stack, frame.IsRead
  mode : r.mode.IsRead

variable {stack : List Frame} {r next : Reader} {c : Char}

theorem isRead_complete (hstack : ∀ frame ∈ stack, frame.IsRead) {value : Json}
    (hvalue : value.IsRead) : (complete stack value).IsRead := by
  unfold complete
  split
  · next items rest =>
      obtain ⟨hitems, hrest⟩ := List.forall_mem_cons.mp hstack
      have hframe : Frame.IsRead (.array (value :: items)) :=
        List.forall_mem_cons.mpr ⟨hvalue, hitems⟩
      exact ⟨List.forall_mem_cons.mpr ⟨hframe, hrest⟩, trivial⟩
  · next fields key rest =>
      obtain ⟨hfields, hrest⟩ := List.forall_mem_cons.mp hstack
      have hframe : Frame.IsRead (.object (Entries.put fields key value)) :=
        Json.IsRead.put hfields key hvalue
      exact ⟨List.forall_mem_cons.mpr ⟨hframe, hrest⟩, trivial⟩
  · exact ⟨hstack, hvalue⟩

theorem isRead_begin? (hstack : ∀ frame ∈ stack, frame.IsRead) (h : begin? stack c = some next) :
    next.IsRead := by
  have hobject : Frame.IsRead (.object []) := .obj (by simp) (by simp)
  have harray : Frame.IsRead (.array []) := by simp [Frame.IsRead]
  unfold begin? at h
  split at h
  · obtain rfl := Option.some.inj h
    exact ⟨List.forall_mem_cons.mpr ⟨hobject, hstack⟩, trivial⟩
  · obtain rfl := Option.some.inj h
    exact ⟨List.forall_mem_cons.mpr ⟨harray, hstack⟩, trivial⟩
  · obtain rfl := Option.some.inj h
    exact ⟨hstack, trivial⟩
  · obtain rfl := Option.some.inj h
    exact ⟨hstack, .bool true⟩
  · obtain rfl := Option.some.inj h
    exact ⟨hstack, .bool false⟩
  · obtain rfl := Option.some.inj h
    exact ⟨hstack, .null⟩
  · split at h
    · obtain rfl := Option.some.inj h
      exact ⟨hstack, trivial⟩
    · simp at h

theorem isRead_continue? (hstack : ∀ frame ∈ stack, frame.IsRead)
    (h : continue? stack c = some next) : next.IsRead := by
  unfold continue? at h
  split at h
  · obtain rfl := Option.some.inj h
    exact ⟨hstack, trivial⟩
  · obtain rfl := Option.some.inj h
    exact ⟨hstack, trivial⟩
  · next items rest =>
      obtain rfl := Option.some.inj h
      obtain ⟨hitems, hrest⟩ := List.forall_mem_cons.mp hstack
      refine isRead_complete hrest (.arr fun item hmem => ?_)
      exact hitems item (List.mem_reverse.mp hmem)
  · next fields rest =>
      obtain rfl := Option.some.inj h
      obtain ⟨hfields, hrest⟩ := List.forall_mem_cons.mp hstack
      exact isRead_complete hrest hfields
  · simp at h

theorem isRead_inText? (hstack : ∀ frame ∈ stack, frame.IsRead) {isKey : Bool} {s : OpenString}
    (h : inText? stack isKey s c = some next) : next.IsRead := by
  have hstay {s : OpenString} {r : Reader} (h : some { stack, mode := .text isKey s } = some r) :
      r.IsRead := by
    obtain rfl := Option.some.inj h
    exact ⟨hstack, trivial⟩
  unfold inText? at h
  split at h
  · split at h
    · obtain rfl := Option.some.inj h
      unfold closeText
      split
      · exact ⟨hstack, trivial⟩
      · exact isRead_complete hstack (.str _)
    · split at h
      · exact hstay h
      · split at h
        · simp at h
        · exact hstay h
  · split at h
    · exact hstay h
    · obtain ⟨meaning, -, h⟩ := Option.bind_eq_some_iff.mp h
      exact hstay h
  · obtain ⟨digit, -, h⟩ := Option.bind_eq_some_iff.mp h
    split at h
    · exact hstay h
    · exact hstay h

theorem isRead_closeNumber? (hstack : ∀ frame ∈ stack, frame.IsRead) {read : List Char}
    (h : closeNumber? stack read = some next) : next.IsRead := by
  obtain ⟨decimal, -, rfl⟩ := Option.map_eq_some_iff.mp h
  exact isRead_complete hstack (.num decimal.isHeld_toNumber)

namespace IsRead

theorem between? (h : r.IsRead) (hnext : r.between? c = some next) : next.IsRead := by
  have hkey {next : Reader} (hnext : some { r with mode := .text true {} } = some next) :
      next.IsRead := by
    obtain rfl := Option.some.inj hnext
    exact ⟨h.stack, trivial⟩
  unfold Reader.between? at hnext
  split at hnext
  · obtain rfl := Option.some.inj hnext
    exact h
  · split at hnext
    · exact isRead_begin? h.stack hnext
    · split at hnext
      · exact isRead_continue? h.stack hnext
      · exact isRead_begin? h.stack hnext
    · split at hnext
      · exact hkey hnext
      · simp at hnext
    · split at hnext
      · exact hkey hnext
      · split at hnext
        · exact isRead_continue? h.stack hnext
        · simp at hnext
    · split at hnext
      · next fields rest hstack _ =>
          obtain rfl := Option.some.inj hnext
          obtain ⟨hfields, hrest⟩ := List.forall_mem_cons.mp (hstack ▸ h.stack)
          exact ⟨List.forall_mem_cons.mpr ⟨hfields, hrest⟩, trivial⟩
      · simp at hnext
    · exact isRead_continue? h.stack hnext
    · simp at hnext

theorem step? (h : r.IsRead) (hnext : r.step? c = some next) : next.IsRead := by
  have hmode := h.mode
  unfold Reader.step? at hnext
  split at hnext
  · exact isRead_inText? h.stack hnext
  · split at hnext
    · obtain rfl := Option.some.inj hnext
      exact ⟨h.stack, trivial⟩
    · obtain ⟨closed, hclosed, hnext⟩ := Option.bind_eq_some_iff.mp hnext
      exact (isRead_closeNumber? h.stack hclosed).between? hnext
  · simp at hnext
  · next last meaning hword =>
      rw [hword] at hmode
      split at hnext
      · obtain rfl := Option.some.inj hnext
        exact isRead_complete h.stack hmode
      · simp at hnext
  · next first rest meaning _ hword =>
      rw [hword] at hmode
      split at hnext
      · obtain rfl := Option.some.inj hnext
        exact ⟨h.stack, hmode⟩
      · simp at hnext
  · exact h.between? hnext

theorem run? (h : r.IsRead) {text : List Char} (hnext : r.run? text = some next) :
    next.IsRead := by
  induction text generalizing r with
  | nil =>
      obtain rfl := Option.some.inj hnext
      exact h
  | cons c rest ih =>
      obtain ⟨first, hfirst, hrest⟩ := Option.bind_eq_some_iff.mp hnext
      exact ih (h.step? hfirst) hrest

theorem result? (h : r.IsRead) {json : Json} (hjson : r.result? = some json) : json.IsRead := by
  unfold Reader.result? at hjson
  split at hjson
  · next value hdone _ =>
      obtain rfl := Option.some.inj hjson
      have hmode := h.mode
      rw [hdone] at hmode
      exact hmode
  · obtain ⟨decimal, -, rfl⟩ := Option.map_eq_some_iff.mp hjson
    exact .num decimal.isHeld_toNumber
  · simp at hjson

end IsRead

end Reader

theorem isRead_of_read? {text : String} {json : Json} (h : read? text = some json) :
    json.IsRead := by
  obtain ⟨last, hlast, hresult⟩ := Option.bind_eq_some_iff.mp h
  have hstart : Reader.IsRead {} := ⟨by simp, trivial⟩
  exact (hstart.run? hlast).result? hresult

end Suppression.Json

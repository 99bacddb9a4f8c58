import Mathlib.Data.List.Nodup
import Suppression.Proofs.JsonReading
import Suppression.Proofs.KeyOrder
import Suppression.Proofs.NaturalText
import Suppression.Snapshot.Cache

namespace Suppression

open scoped List

theorem mapM_map_eq_some {α β : Type} {read : β → Option α} {write : α → β} {items : List α}
    (h : ∀ item ∈ items, read (write item) = some item) :
    (items.map write).mapM read = some items := by
  induction items with
  | nil => rfl
  | cons item rest ih =>
      obtain ⟨hitem, hrest⟩ := List.forall_mem_cons.mp h
      rw [List.map_cons, List.mapM_cons, hitem, ih hrest]
      rfl

theorem Json.reads_twoFields {first second : Wide × Json} (hkeys : first.1 ≠ second.1)
    (hfirst : Reads first.2) (hsecond : Reads second.2) (swapped : Bool) :
    Reads (twoFields swapped first second) := by
  cases swapped with
  | false => exact .obj (by simp [hkeys]) (by simp [hfirst, hsecond])
  | true => exact .obj (by simp [Ne.symm hkeys]) (by simp [hfirst, hsecond])

namespace Target

/-- A target without a rule has no place at which to write it. -/
def IsWritable (target : Target) : Prop :=
  target.rule = none → target.ruleFirst = false

theorem reads_toJson (target : Target) : Json.Reads target.toJson := by
  unfold toJson
  split
  · exact .obj (by simp) (by simp [Json.Reads.str])
  · exact Json.reads_twoFields (by simp) (.str _) (.str _) _

theorem ofJson?_toJson {target : Target} (h : target.IsWritable) :
    ofJson? target.toJson = some target := by
  obtain ⟨analyzer, rule, ruleFirst⟩ := target
  cases rule with
  | none =>
      obtain rfl : ruleFirst = false := h rfl
      rfl
  | some rule => cases ruleFirst <;> rfl

end Target

namespace IntervalEnd

theorem reads_toJson {last : IntervalEnd}
    (h : ∀ number, last = .line number → Json.NumberReads number) : Json.Reads last.toJson := by
  cases last with
  | unbounded => exact .str _
  | line number => exact .num (h number rfl)

theorem ofJson?_toJson (last : IntervalEnd) : ofJson? last.toJson = some last := by
  cases last <;> rfl

end IntervalEnd

namespace Interval

structure IsWritable (interval : Interval) : Prop where
  startLine : Json.NumberReads interval.startLine
  endLine : ∀ number, interval.endLine = .line number → Json.NumberReads number
  targets : ∀ target ∈ interval.targets, target.IsWritable
  fieldOrder : interval.fieldOrder ~ ["origin", "startLine", "endLine", "targets"]

variable {interval : Interval}

theorem isSome_get?_toFields
    (h : interval.fieldOrder ~ ["origin", "startLine", "endLine", "targets"]) :
    ∀ name ∈ interval.fieldOrder, (interval.toFields.get? name).isSome = true := by
  intro name hname
  have hmem := h.mem_iff.mp hname
  simp only [List.mem_cons, List.not_mem_nil, or_false] at hmem
  rcases hmem with rfl | rfl | rfl | rfl <;> rfl

theorem reads_toJson (h : interval.IsWritable) : Json.Reads interval.toJson := by
  unfold toJson
  refine .obj ?_ fun field hmem => ?_
  · rw [Entries.map_fst_filterMap (isSome_get?_toFields h.fieldOrder), h.fieldOrder.nodup_iff]
    decide
  · obtain ⟨name, -, hfield⟩ := List.mem_filterMap.mp hmem
    obtain ⟨value, hvalue, rfl⟩ := Option.map_eq_some_iff.mp hfield
    have hread := Entries.mem_of_get? hvalue
    simp only [toFields, List.mem_cons, Prod.mk.injEq, List.not_mem_nil, or_false] at hread
    rcases hread with ⟨-, rfl⟩ | ⟨-, rfl⟩ | ⟨-, rfl⟩ | ⟨-, rfl⟩
    · exact .str _
    · exact .num h.startLine
    · exact IntervalEnd.reads_toJson h.endLine
    · refine .arr ?_
      intro item hitem
      obtain ⟨target, -, rfl⟩ := List.mem_map.mp hitem
      exact target.reads_toJson

theorem ofJson?_toJson (h : interval.IsWritable) : ofJson? interval.toJson = some interval := by
  have hkeys := Entries.map_fst_filterMap (isSome_get?_toFields h.fieldOrder)
  have hmem (name : Wide) : name ∈ interval.fieldOrder ↔
      name ∈ (["origin", "startLine", "endLine", "targets"] : List Wide) := h.fieldOrder.mem_iff
  have hfields : Json.fieldsAmong? interval.toJson
      ["origin", "startLine", "endLine", "targets"] =
        some (interval.fieldOrder.filterMap fun name =>
          (interval.toFields.get? name).map fun value => (name, value)) := by
    refine Option.filter_eq_some_iff.mpr ⟨rfl, List.all_eq_true.mpr ?_⟩
    intro field hfield
    have hname : field.1 ∈ interval.fieldOrder := hkeys ▸ List.mem_map_of_mem hfield
    exact List.contains_iff_mem.mpr ((hmem field.1).mp hname)
  have hread {name : Wide} {value : Json} (hvalue : interval.toFields.get? name = some value)
      (hname : name ∈ (["origin", "startLine", "endLine", "targets"] : List Wide)) :
      Entries.get? (interval.fieldOrder.filterMap fun name =>
        (interval.toFields.get? name).map fun value => (name, value)) name = some value := by
    rw [Entries.get?_filterMap, if_pos ((hmem name).mpr hname), hvalue]
  have horigin := @hread "origin" (.str interval.origin.name) rfl (by decide)
  have hstart := @hread "startLine" (.num interval.startLine) rfl (by decide)
  have hend := @hread "endLine" interval.endLine.toJson rfl (by decide)
  have htargets := @hread "targets" (.arr (interval.targets.map Target.toJson)) rfl (by decide)
  have hname : IntervalOrigin.ofName? interval.origin.name = some interval.origin := by
    cases interval.origin <;> rfl
  have hitems := mapM_map_eq_some fun target ht => Target.ofJson?_toJson (h.targets target ht)
  simp only [ofJson?, hfields, horigin, hstart, hend, htargets, Option.bind_eq_bind,
    Option.bind_some, Json.str?, Json.num?, Json.arr?, hname, IntervalEnd.ofJson?_toJson, hitems,
    Entries.keys, hkeys]
  rfl

end Interval

namespace Snapshot

structure IsWritable (snapshot : Snapshot) : Prop where
  watermark : Json.NumberReads snapshot.watermark
  intervals : ∀ interval ∈ snapshot.intervals, interval.IsWritable

variable {snapshot : Snapshot}

theorem reads_toJson (h : snapshot.IsWritable) : Json.Reads snapshot.toJson := by
  refine Json.reads_twoFields (by simp) (.num h.watermark) (.arr ?_) _
  intro item hmem
  obtain ⟨interval, hinterval, rfl⟩ := List.mem_map.mp hmem
  exact Interval.reads_toJson (h.intervals interval hinterval)

theorem ofJson?_toJson (h : snapshot.IsWritable) : ofJson? snapshot.toJson = some snapshot := by
  have hitems := mapM_map_eq_some fun interval hmem =>
    Interval.ofJson?_toJson (h.intervals interval hmem)
  obtain ⟨watermark, intervals, intervalsFirst⟩ := snapshot
  cases intervalsFirst with
  | false =>
      change (Option.bind ((intervals.map Interval.toJson).mapM Interval.ofJson?) _) = _
      rw [hitems]
      rfl
  | true =>
      change (Option.bind ((intervals.map Interval.toJson).mapM Interval.ofJson?) _) = _
      rw [hitems]
      rfl

end Snapshot

namespace CacheEntry

variable {entry : CacheEntry}

theorem reads_toJson (h : entry.snapshot.IsWritable) : Json.Reads entry.toJson :=
  Json.reads_twoFields (by simp) (.str _) (Snapshot.reads_toJson h) _

theorem ofJson?_toJson (h : entry.snapshot.IsWritable) : ofJson? entry.toJson = some entry := by
  have hsnapshot := Snapshot.ofJson?_toJson h
  obtain ⟨fingerprint, snapshot, snapshotFirst⟩ := entry
  cases snapshotFirst with
  | false =>
      change (Option.bind (Snapshot.ofJson? snapshot.toJson) _) = _
      rw [hsnapshot]
      rfl
  | true =>
      change (Option.bind (Snapshot.ofJson? snapshot.toJson) _) = _
      rw [hsnapshot]
      rfl

end CacheEntry

namespace Cache

structure IsWritable (cache : Cache) : Prop where
  keys : cache.keys.Nodup
  entries : ∀ entry ∈ cache, entry.2.snapshot.IsWritable

variable {cache : Cache}

theorem toJson_eq (cache : Cache) : cache.toJson = .obj [
    ("version", .num version),
    ("files", .obj ((Json.inKeyOrder cache).map fun entry => (entry.1, entry.2.toJson)))] := rfl

theorem reads_toJson (h : cache.IsWritable) : Json.Reads cache.toJson := by
  have hperm := Json.inKeyOrder_perm cache
  have hversion : Json.NumberReads version := @Json.numberReads_ofNat 1 (by decide)
  have hfiles : Json.Reads
      (.obj ((Json.inKeyOrder cache).map fun entry => (entry.1, entry.2.toJson))) := by
    refine .obj ?_ fun field hmem => ?_
    · rw [List.map_map]
      exact (hperm.map Prod.fst).nodup_iff.mpr h.keys
    · obtain ⟨entry, hentry, rfl⟩ := List.mem_map.mp hmem
      exact CacheEntry.reads_toJson (h.entries entry (hperm.mem_iff.mp hentry))
  rw [toJson_eq]
  exact .obj (by simp) (by simp [hfiles, Json.Reads.num hversion])

theorem ofJson?_files (files : Entries Json) :
    ofJson? (.obj [("version", .num version), ("files", .obj files)]) =
      (Json.inKeyOrder files).mapM fun (file, json) => do
        return (file, ← CacheEntry.ofJson? json) := by
  have hfields : Json.fieldsAmong?
      (.obj [("version", .num version), ("files", .obj files)]) ["version", "files"] =
        some ([("version", .num version), ("files", .obj files)] : Entries Json) := rfl
  have hversion : Entries.get? [("version", .num version), ("files", Json.obj files)] "version" =
      some (.num version) := rfl
  have hfiles : Entries.get? [("version", .num version), ("files", Json.obj files)] "files" =
      some (.obj files) := rfl
  simp only [ofJson?, hfields, hversion, hfiles, Option.bind_eq_bind, Option.bind_some, Json.num?,
    Json.fields?, if_true]

theorem ofJson?_toJson (h : cache.IsWritable) :
    ofJson? cache.toJson = some (Json.inKeyOrder cache) := by
  have hfiles : Json.inKeyOrder ((Json.inKeyOrder cache).map fun entry =>
      (entry.1, entry.2.toJson)) =
        (Json.inKeyOrder cache).map fun entry => (entry.1, entry.2.toJson) := by
    rw [Json.inKeyOrder_map CacheEntry.toJson, Json.inKeyOrder_inKeyOrder]
  have hitems : ((Json.inKeyOrder cache).map fun entry => (entry.1, entry.2.toJson)).mapM
      (fun (file, json) => do return (file, ← CacheEntry.ofJson? json)) =
        some (Json.inKeyOrder cache) := by
    refine mapM_map_eq_some ?_
    intro entry hmem
    have hentry := h.entries entry ((Json.inKeyOrder_perm cache).mem_iff.mp hmem)
    simp [CacheEntry.ofJson?_toJson hentry]
  rw [toJson_eq, ofJson?_files, hfiles, hitems]

theorem decode?_encode (h : cache.IsWritable) :
    decode? (encode cache) = (some (Json.inKeyOrder cache)).filter fun cache =>
      cache.all fun (_, entry) => entry.isValid := by
  rw [decode?, encode, (reads_toJson h).read?_pretty, Option.bind_some, ofJson?_toJson h]

end Cache

end Suppression

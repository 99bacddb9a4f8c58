import Suppression.Proofs.CacheDocument
import Suppression.Proofs.ReadDocument

namespace Suppression

open scoped List

/-- The lines of the interval are finite, as far as it has any. -/
def Interval.isFinite (interval : Interval) : Bool :=
  interval.startLine.isFinite &&
    match interval.endLine with
    | .unbounded => true
    | .line number => number.isFinite

def Snapshot.isFinite (snapshot : Snapshot) : Bool :=
  snapshot.watermark.isFinite && snapshot.intervals.all Interval.isFinite

theorem map_of_mapM_eq_some {α β γ : Type} {read : β → Option α} {f : α → γ} {g : β → γ}
    (hread : ∀ item result, read item = some result → f result = g item) {items : List β}
    {results : List α} (h : items.mapM read = some results) : results.map f = items.map g := by
  induction items generalizing results with
  | nil =>
      obtain rfl : [] = results := by simpa using h
      rfl
  | cons item rest ih =>
      rw [List.mapM_cons] at h
      obtain ⟨first, hfirst, h⟩ := Option.bind_eq_some_iff.mp h
      obtain ⟨others, hothers, h⟩ := Option.bind_eq_some_iff.mp h
      obtain rfl : first :: others = results := by simpa using h
      rw [List.map_cons, List.map_cons, hread item first hfirst, ih hothers]

theorem exists_of_mapM_eq_some {α β : Type} {read : β → Option α} {items : List β}
    {results : List α} (h : items.mapM read = some results) {result : α} (hmem : result ∈ results) :
    ∃ item ∈ items, read item = some result := by
  have hsome := List.mem_map_of_mem (f := some) hmem
  rw [map_of_mapM_eq_some (fun _ _ hitem => hitem.symm) h] at hsome
  exact List.mem_map.mp hsome

namespace Json

variable {json value : Json} {fields : Entries Json} {allowed : List Wide} {key : Wide}

theorem IsRead.fields? (h : json.IsRead) (hfields : json.fields? = some fields) :
    fields.keys.Nodup ∧ ∀ field ∈ fields, field.2.IsRead := by
  cases h with
  | obj hkeys hvalues =>
      obtain rfl := Option.some.inj hfields
      exact ⟨hkeys, hvalues⟩
  | _ => simp [Json.fields?] at hfields

theorem IsRead.fieldsAmong (h : json.IsRead) (hfields : json.fieldsAmong? allowed = some fields) :
    fields.keys.Nodup ∧ (∀ key ∈ fields.keys, key ∈ allowed) ∧
      ∀ {key value}, fields.get? key = some value → value.IsRead := by
  obtain ⟨hobject, hall⟩ := Option.filter_eq_some_iff.mp hfields
  obtain ⟨hkeys, hvalues⟩ := h.fields? hobject
  refine ⟨hkeys, ?_, ?_⟩
  · intro key hmem
    obtain ⟨field, hfield, rfl⟩ := List.mem_map.mp hmem
    exact List.contains_iff_mem.mp (List.all_eq_true.mp hall field hfield)
  · intro key value hvalue
    exact hvalues (key, value) (Entries.mem_of_get? hvalue)

theorem IsRead.num? (h : json.IsRead) {number : Number} (hnumber : json.num? = some number) :
    number.IsHeld := by
  cases h with
  | num hheld =>
      obtain rfl := Option.some.inj hnumber
      exact hheld
  | _ => simp [Json.num?] at hnumber

theorem IsRead.arr? (h : json.IsRead) {items : List Json} (hitems : json.arr? = some items) :
    ∀ item ∈ items, item.IsRead := by
  cases h with
  | arr hread =>
      obtain rfl := Option.some.inj hitems
      exact hread
  | _ => simp [Json.arr?] at hitems

end Json

theorem Target.isWritable_of_ofJson? {json : Json} {target : Target}
    (h : ofJson? json = some target) : target.IsWritable := by
  simp only [ofJson?, Option.bind_eq_bind, Option.bind_eq_some_iff] at h
  obtain ⟨fields, -, name, -, analyzer, -, h⟩ := h
  split at h
  · obtain rfl := Option.some.inj h
    exact fun _ => rfl
  · obtain ⟨rule, -, h⟩ := Option.bind_eq_some_iff.mp h
    obtain rfl := Option.some.inj h
    exact nofun

theorem IntervalEnd.isHeld_of_ofJson? {json : Json} (hread : json.IsRead) {last : IntervalEnd}
    (h : ofJson? json = some last) : ∀ number, last = .line number → number.IsHeld := by
  rintro number rfl
  unfold ofJson? at h
  split at h
  · simp at h
  · next value =>
      obtain rfl : value = number := by simpa using h
      exact hread.num? rfl
  · simp at h

/-- The numbers are held, and the fields have an order. -/
structure Interval.IsHeld (interval : Interval) : Prop where
  startLine : interval.startLine.IsHeld
  endLine : ∀ number, interval.endLine = .line number → number.IsHeld
  targets : ∀ target ∈ interval.targets, target.IsWritable
  fieldOrder : interval.fieldOrder ~ ["origin", "startLine", "endLine", "targets"]

theorem Interval.isHeld_of_ofJson? {json : Json} (hread : json.IsRead) {interval : Interval}
    (h : ofJson? json = some interval) : interval.IsHeld := by
  simp only [ofJson?, Option.bind_eq_bind, Option.bind_eq_some_iff] at h
  obtain ⟨fields, hfields, originJson, horigin, name, -, origin, -, startJson, hstartJson,
    startLine, hstart, endJson, hendJson, endLine, hend, targetsJson, htargetsJson, items, -,
    targets, htargets, h⟩ := h
  obtain rfl := Option.some.inj h
  obtain ⟨hkeys, hamong, hvalues⟩ := hread.fieldsAmong hfields
  constructor
  · exact (hvalues hstartJson).num? hstart
  · exact IntervalEnd.isHeld_of_ofJson? (hvalues hendJson) hend
  · intro target hmem
    obtain ⟨item, -, hitem⟩ := exists_of_mapM_eq_some htargets hmem
    exact Target.isWritable_of_ofJson? hitem
  · -- Every field of the four is there, none twice, and no other one.
    have hpresent {key : Wide} {value : Json} (hvalue : fields.get? key = some value) :
        key ∈ fields.keys := List.mem_map_of_mem (Entries.mem_of_get? hvalue)
    refine (List.perm_ext_iff_of_nodup hkeys (by decide)).mpr fun key => ⟨hamong key, ?_⟩
    simp only [List.mem_cons, List.not_mem_nil, or_false]
    rintro (rfl | rfl | rfl | rfl)
    · exact hpresent horigin
    · exact hpresent hstartJson
    · exact hpresent hendJson
    · exact hpresent htargetsJson

structure Snapshot.IsHeld (snapshot : Snapshot) : Prop where
  watermark : snapshot.watermark.IsHeld
  intervals : ∀ interval ∈ snapshot.intervals, interval.IsHeld

theorem Snapshot.isHeld_of_ofJson? {json : Json} (hread : json.IsRead) {snapshot : Snapshot}
    (h : ofJson? json = some snapshot) : snapshot.IsHeld := by
  simp only [ofJson?, Option.bind_eq_bind, Option.bind_eq_some_iff] at h
  obtain ⟨fields, hfields, watermarkJson, hwatermarkJson, watermark, hwatermark, intervalsJson,
    hintervalsJson, items, hitems, intervals, hintervals, h⟩ := h
  obtain rfl := Option.some.inj h
  obtain ⟨-, -, hvalues⟩ := hread.fieldsAmong hfields
  constructor
  · exact (hvalues hwatermarkJson).num? hwatermark
  · intro interval hmem
    obtain ⟨item, hitem, hinterval⟩ := exists_of_mapM_eq_some hintervals hmem
    exact Interval.isHeld_of_ofJson? ((hvalues hintervalsJson).arr? hitems item hitem) hinterval

theorem CacheEntry.isHeld_of_ofJson? {json : Json} (hread : json.IsRead) {entry : CacheEntry}
    (h : ofJson? json = some entry) : entry.snapshot.IsHeld := by
  simp only [ofJson?, Option.bind_eq_bind, Option.bind_eq_some_iff] at h
  obtain ⟨fields, hfields, -, -, fingerprint, -, snapshotJson, hsnapshotJson, snapshot, hsnapshot,
    h⟩ := h
  obtain rfl := Option.some.inj h
  obtain ⟨-, -, hvalues⟩ := hread.fieldsAmong hfields
  exact Snapshot.isHeld_of_ofJson? (hvalues hsnapshotJson) hsnapshot

/-- No file has two entries, the files are in the order in which they are listed, and the snapshots
are held. -/
structure Cache.IsHeld (cache : Cache) : Prop where
  keys : cache.keys.Nodup
  listed : Json.inKeyOrder cache = cache
  entries : ∀ entry ∈ cache, entry.2.snapshot.IsHeld

theorem Cache.listed_of_map {files : Entries Json} {cache : Cache}
    (h : cache.map (fun entry => (entry.1, some entry.2)) =
      (Json.inKeyOrder files).map fun field => (field.1, CacheEntry.ofJson? field.2)) :
    Json.inKeyOrder cache = cache := by
  have hinjective : Function.Injective
      (List.map fun entry : Wide × CacheEntry => (entry.1, some entry.2)) :=
    List.map_injective_iff.mpr fun a b hab => by simpa [Prod.ext_iff] using hab
  apply hinjective
  rw [← Json.inKeyOrder_map some, h, Json.inKeyOrder_map CacheEntry.ofJson?,
    Json.inKeyOrder_inKeyOrder]

theorem Cache.isHeld_of_ofJson? {json : Json} (hread : json.IsRead) {cache : Cache}
    (h : ofJson? json = some cache) : cache.IsHeld := by
  simp only [ofJson?, Option.bind_eq_bind, Option.bind_eq_some_iff] at h
  obtain ⟨fields, hfields, versionJson, -, written, -, filesJson, hfilesJson, files, hfiles, h⟩ := h
  obtain ⟨-, -, hvalues⟩ := hread.fieldsAmong hfields
  obtain ⟨hkeys, hread⟩ := (hvalues hfilesJson).fields? hfiles
  split at h
  · have hmap : cache.map (fun entry => (entry.1, some entry.2)) =
        (Json.inKeyOrder files).map fun field => (field.1, CacheEntry.ofJson? field.2) := by
      refine map_of_mapM_eq_some ?_ h
      rintro field _ hfield
      obtain ⟨entry, hentry, hpair⟩ := Option.bind_eq_some_iff.mp hfield
      obtain rfl := Option.some.inj hpair
      rw [hentry]
    constructor
    · have hsame := congrArg (List.map Prod.fst) hmap
      rw [List.map_map, List.map_map] at hsame
      change (cache.map Prod.fst).Nodup
      have hlisted : cache.map Prod.fst = (Json.inKeyOrder files).map Prod.fst := hsame
      rw [hlisted]
      exact ((Json.inKeyOrder_perm files).map Prod.fst).nodup_iff.mpr hkeys
    · exact listed_of_map hmap
    · intro entry hmem
      have hentry : (entry.1, some entry.2) ∈
          (Json.inKeyOrder files).map fun field => (field.1, CacheEntry.ofJson? field.2) :=
        hmap ▸ List.mem_map_of_mem (f := fun entry => (entry.1, some entry.2)) hmem
      obtain ⟨field, hfield, heq⟩ := List.mem_map.mp hentry
      refine CacheEntry.isHeld_of_ofJson? ?_ (Prod.mk.inj heq).2
      exact hread field ((Json.inKeyOrder_perm files).mem_iff.mp hfield)
  · simp at h

theorem Cache.isHeld_of_decode? {text : String} {cache : Cache} (h : decode? text = some cache) :
    cache.IsHeld := by
  obtain ⟨hread, -⟩ := Option.filter_eq_some_iff.mp h
  obtain ⟨json, hjson, hcache⟩ := Option.bind_eq_some_iff.mp hread
  exact isHeld_of_ofJson? (Json.isRead_of_read? hjson) hcache

theorem Number.IsHeld.numberReads {number : Number} (h : number.IsHeld)
    (hwhole : number.hasNoFraction = true) (hfinite : number.isFinite = true) {least : Nat}
    (hleast : ofNat least ≤ number) : Json.NumberReads number := by
  obtain ⟨n, -, rfl⟩ := exists_ofNat_of_hasNoFraction hwhole hfinite hleast
  exact Json.numberReads_of_isHeld h

theorem Interval.IsHeld.isWritable {interval : Interval} (h : interval.IsHeld)
    (hvalid : interval.isValid = true) (hfinite : interval.isFinite = true) :
    interval.IsWritable := by
  simp only [isValid, isFinite, Bool.and_eq_true, decide_eq_true_eq] at hvalid hfinite
  obtain ⟨⟨⟨hwhole, hone⟩, -⟩, hend⟩ := hvalid
  refine ⟨h.startLine.numberReads hwhole hfinite.1 hone, ?_, h.targets, h.fieldOrder⟩
  intro last hlast
  simp only [hlast, Bool.and_eq_true, decide_eq_true_eq] at hend hfinite
  exact (h.endLine last hlast).numberReads hend.1.1 hfinite.2 hend.1.2

theorem Snapshot.IsHeld.isWritable {snapshot : Snapshot} (h : snapshot.IsHeld)
    (hvalid : snapshot.isValid = true) (hfinite : snapshot.isFinite = true) :
    snapshot.IsWritable := by
  simp only [isValid, isFinite, Bool.and_eq_true, decide_eq_true_eq, List.all_eq_true]
    at hvalid hfinite
  obtain ⟨⟨hwhole, hzero⟩, hintervals⟩ := hvalid
  constructor
  · exact h.watermark.numberReads hwhole hfinite.1 hzero
  · intro interval hmem
    exact (h.intervals interval hmem).isWritable (hintervals interval hmem)
      (hfinite.2 interval hmem)

structure CacheEntry.IsKeepable (entry : CacheEntry) : Prop where
  valid : entry.isValid = true
  finite : entry.snapshot.isFinite = true
  held : entry.snapshot.IsHeld

theorem CacheEntry.IsKeepable.isWritable {entry : CacheEntry} (h : entry.IsKeepable) :
    entry.snapshot.IsWritable := by
  have hvalid := h.valid
  rw [isValid, Bool.and_eq_true] at hvalid
  exact h.held.isWritable hvalid.2 h.finite

structure Cache.IsKeepable (cache : Cache) : Prop where
  keys : cache.keys.Nodup
  entries : ∀ entry ∈ cache, entry.2.IsKeepable

namespace Cache

variable {cache : Cache}

theorem isKeepable_of_decode? {text : String} (h : decode? text = some cache)
    (hfinite : ∀ entry ∈ cache, entry.2.snapshot.isFinite = true) : cache.IsKeepable := by
  have hheld := isHeld_of_decode? h
  obtain ⟨-, hvalid⟩ := Option.filter_eq_some_iff.mp h
  refine ⟨hheld.keys, fun entry hmem => ?_⟩
  exact ⟨List.all_eq_true.mp hvalid entry hmem, hfinite entry hmem, hheld.entries entry hmem⟩

theorem IsKeepable.decode?_encode (h : cache.IsKeepable) :
    decode? (encode cache) = some (Json.inKeyOrder cache) := by
  have hwritable : cache.IsWritable :=
    ⟨h.keys, fun entry hmem => (h.entries entry hmem).isWritable⟩
  rw [Cache.decode?_encode hwritable, Option.filter_eq_some_iff]
  refine ⟨rfl, List.all_eq_true.mpr fun entry hmem => ?_⟩
  exact (h.entries entry ((Json.inKeyOrder_perm cache).mem_iff.mp hmem)).valid

/-- The text of a cache of one file that is known up to a line, with some intervals. -/
def knownTo (file watermark intervals : String) : String :=
  "\x7b\"version\":1,\"files\":\x7b\"" ++ file ++ "\":\x7b\"fingerprint\":\"p\"," ++
    "\"snapshot\":\x7b\"intervals\":[" ++ intervals ++ "],\"watermark\":" ++ watermark ++
    "\x7d\x7d\x7d\x7d"

end Cache

end Suppression

import Suppression.Proofs.HeldCache

/-!
Caches that are read and written again. A number without a finite value is written as `null`, so
what is read back is the document with `null` in its place (`Json.read?_nulled`), and no cache has
`null` where a number belongs. So what has been read is kept as a whole or, if a number in it is
infinite, lost as a whole (`Cache.decode?_encode_of_decode?`).
-/

namespace Suppression

open scoped List

theorem isSome_of_mapM_eq_some {α β : Type} {read : β → Option α} {items : List β}
    {results : List α} (h : items.mapM read = some results) {item : β} (hmem : item ∈ items) :
    ∃ result, read item = some result := by
  have hitem := List.mem_map_of_mem (f := read) hmem
  rw [← map_of_mapM_eq_some (fun _ _ hread => hread.symm) h] at hitem
  obtain ⟨result, -, hresult⟩ := List.mem_map.mp hitem
  exact ⟨result, hresult.symm⟩

namespace Json

mutual

/-- The document with `null` in the place of each number without a finite value. -/
def nulled : Json → Json
  | num (.finite value) => num (.finite value)
  | num _ => null
  | arr items => arr (nulledItems items)
  | obj fields => obj (nulledFields fields)
  | null => null
  | bool value => bool value
  | str value => str value

def nulledItems : List Json → List Json
  | [] => []
  | item :: rest => nulled item :: nulledItems rest

def nulledFields : List (Wide × Json) → List (Wide × Json)
  | [] => []
  | (key, value) :: rest => (key, nulled value) :: nulledFields rest

end

mutual

theorem write_nulled (spacing : Spacing) (level : Nat) :
    ∀ json : Json, (nulled json).write spacing level = json.write spacing level
  | num (.finite value) => rfl
  | num (.infinite negative) => rfl
  | num .nan => rfl
  | arr [] => rfl
  | arr (item :: rest) => by
      rw [nulled, nulledItems, write, write, write_nulled spacing (level + 1) item,
        writeItems_nulled spacing (level + 1) rest]
  | obj [] => rfl
  | obj ((key, value) :: rest) => by
      rw [nulled, nulledFields, write, write, write_nulled spacing (level + 1) value,
        writeFields_nulled spacing (level + 1) rest]
  | null => rfl
  | bool value => rfl
  | str value => rfl

theorem writeItems_nulled (spacing : Spacing) (level : Nat) :
    ∀ items : List Json,
      writeItems spacing level (nulledItems items) = writeItems spacing level items
  | [] => rfl
  | item :: rest => by
      rw [nulledItems, writeItems, writeItems, write_nulled spacing level item,
        writeItems_nulled spacing level rest]

theorem writeFields_nulled (spacing : Spacing) (level : Nat) :
    ∀ fields : List (Wide × Json),
      writeFields spacing level (nulledFields fields) = writeFields spacing level fields
  | [] => rfl
  | (key, value) :: rest => by
      rw [nulledFields, writeFields, writeFields, write_nulled spacing level value,
        writeFields_nulled spacing level rest]

end

theorem nulledItems_eq (items : List Json) : nulledItems items = items.map nulled := by
  induction items with
  | nil => rfl
  | cons item rest ih => rw [nulledItems, List.map_cons, ih]

theorem nulledFields_eq (fields : List (Wide × Json)) :
    nulledFields fields = fields.map fun field => (field.1, nulled field.2) := by
  induction fields with
  | nil => rfl
  | cons field rest ih => rw [nulledFields, List.map_cons, ih]

theorem nulled_twoFields (swapped : Bool) (first second : Wide × Json) :
    nulled (twoFields swapped first second) =
      twoFields swapped (first.1, nulled first.2) (second.1, nulled second.2) := by
  cases swapped <;> rfl

theorem get?_nulled_twoFields {swapped : Bool} {first second : Wide × Json}
    (hkeys : first.1 ≠ second.1) {allowed : List Wide} {fields : Entries Json}
    (h : fieldsAmong? (nulled (twoFields swapped first second)) allowed = some fields) :
    fields.get? first.1 = some (nulled first.2) ∧
      fields.get? second.1 = some (nulled second.2) := by
  obtain ⟨hobject, -⟩ := Option.filter_eq_some_iff.mp h
  rw [nulled_twoFields] at hobject
  obtain rfl := Option.some.inj hobject
  cases swapped
  · simp [Entries.get?, hkeys]
  · simp [Entries.get?, hkeys.symm]

theorem isFinite_of_nulled {number read : Number} (h : (nulled (num number)).num? = some read) :
    number.isFinite = true := by
  cases number with
  | finite value => rfl
  | infinite negative => simp [nulled, num?] at h
  | nan => simp [nulled, num?] at h

theorem read?_nulled {json : Json} (h : (nulled json).Reads) :
    read? (json.pretty ++ "\n") = some (nulled json) := by
  rw [← h.read?_pretty, pretty, pretty, write_nulled]

end Json

theorem Number.IsHeld.reads_nulled {number : Number} (h : number.IsHeld)
    (hwhole : number.hasNoFraction = true) {least : Nat} (hleast : ofNat least ≤ number) :
    (Json.nulled (.num number)).Reads := by
  cases number with
  | nan => exact .null
  | infinite negative => exact .null
  | finite value => exact .num (h.numberReads hwhole rfl hleast)

theorem Target.nulled_toJson (target : Target) : Json.nulled target.toJson = target.toJson := by
  unfold toJson
  split
  · rfl
  · rw [Json.nulled_twoFields]
    rfl

namespace Interval

variable {interval : Interval}

theorem IsHeld.reads_nulled (h : interval.IsHeld) (hvalid : interval.isValid = true) :
    (Json.nulled interval.toJson).Reads := by
  simp only [isValid, Bool.and_eq_true, decide_eq_true_eq] at hvalid
  obtain ⟨⟨⟨hwhole, hone⟩, -⟩, hend⟩ := hvalid
  rw [toJson, Json.nulled, Json.nulledFields_eq]
  refine .obj ?_ fun field hmem => ?_
  · rw [List.map_map]
    change (List.map Prod.fst _).Nodup
    rw [Entries.map_fst_filterMap (isSome_get?_toFields h.fieldOrder), h.fieldOrder.nodup_iff]
    decide
  · obtain ⟨written, hwritten, rfl⟩ := List.mem_map.mp hmem
    obtain ⟨name, -, hfield⟩ := List.mem_filterMap.mp hwritten
    obtain ⟨value, hvalue, rfl⟩ := Option.map_eq_some_iff.mp hfield
    have hread := Entries.mem_of_get? hvalue
    simp only [toFields, List.mem_cons, Prod.mk.injEq, List.not_mem_nil, or_false] at hread
    rcases hread with ⟨-, rfl⟩ | ⟨-, rfl⟩ | ⟨-, rfl⟩ | ⟨-, rfl⟩
    · exact .str _
    · exact h.startLine.reads_nulled hwhole hone
    · cases hlast : interval.endLine with
      | unbounded => exact .str _
      | line number =>
          simp only [hlast, Bool.and_eq_true, decide_eq_true_eq] at hend
          exact (h.endLine number hlast).reads_nulled hend.1.1 hend.1.2
    · rw [Json.nulled, Json.nulledItems_eq]
      refine .arr fun item hitem => ?_
      obtain ⟨_, htarget, rfl⟩ := List.mem_map.mp hitem
      obtain ⟨target, -, rfl⟩ := List.mem_map.mp htarget
      rw [target.nulled_toJson]
      exact target.reads_toJson

theorem isFinite_of_nulled (h : interval.IsHeld) {read : Interval}
    (hread : ofJson? (Json.nulled interval.toJson) = some read) : interval.isFinite = true := by
  simp only [ofJson?, Option.bind_eq_bind, Option.bind_eq_some_iff] at hread
  obtain ⟨fields, hfields, originJson, -, name, -, origin, -, startJson, hstartJson, startLine,
    hstart, endJson, hendJson, endLine, hend, -⟩ := hread
  obtain ⟨hobject, -⟩ := Option.filter_eq_some_iff.mp hfields
  rw [toJson, Json.nulled, Json.nulledFields_eq] at hobject
  obtain rfl := Option.some.inj hobject
  have hvalue {name : Wide} {value found : Json}
      (hvalue : interval.toFields.get? name = some value)
      (hname : name ∈ (["origin", "startLine", "endLine", "targets"] : List Wide))
      (hfound : Entries.get? ((interval.fieldOrder.filterMap fun name =>
        (interval.toFields.get? name).map fun value => (name, value)).map fun field =>
          (field.1, Json.nulled field.2)) name = some found) : Json.nulled value = found := by
    rw [Entries.get?_map, Entries.get?_filterMap, if_pos (h.fieldOrder.mem_iff.mpr hname), hvalue]
      at hfound
    exact Option.some.inj hfound
  obtain rfl := @hvalue "startLine" (.num interval.startLine) _ rfl (by decide) hstartJson
  obtain rfl := @hvalue "endLine" interval.endLine.toJson _ rfl (by decide) hendJson
  have hstart : interval.startLine.isFinite = true := Json.isFinite_of_nulled hstart
  rw [isFinite, hstart, Bool.true_and]
  split
  · rfl
  · next number hlast =>
      rw [hlast] at hend
      cases number with
      | finite value => rfl
      | infinite negative => simp [IntervalEnd.toJson, Json.nulled, IntervalEnd.ofJson?] at hend
      | nan => simp [IntervalEnd.toJson, Json.nulled, IntervalEnd.ofJson?] at hend

end Interval

namespace Snapshot

variable {snapshot : Snapshot}

theorem IsHeld.reads_nulled (h : snapshot.IsHeld) (hvalid : snapshot.isValid = true) :
    (Json.nulled snapshot.toJson).Reads := by
  simp only [isValid, Bool.and_eq_true, decide_eq_true_eq, List.all_eq_true] at hvalid
  obtain ⟨⟨hwhole, hzero⟩, hintervals⟩ := hvalid
  rw [toJson, Json.nulled_twoFields]
  refine Json.reads_twoFields (by simp) (h.watermark.reads_nulled hwhole hzero) ?_ _
  rw [Json.nulled, Json.nulledItems_eq]
  refine .arr fun item hmem => ?_
  obtain ⟨_, hwritten, rfl⟩ := List.mem_map.mp hmem
  obtain ⟨interval, hinterval, rfl⟩ := List.mem_map.mp hwritten
  exact (h.intervals interval hinterval).reads_nulled (hintervals interval hinterval)

theorem isFinite_of_nulled (h : snapshot.IsHeld) {read : Snapshot}
    (hread : ofJson? (Json.nulled snapshot.toJson) = some read) : snapshot.isFinite = true := by
  simp only [ofJson?, Option.bind_eq_bind, Option.bind_eq_some_iff] at hread
  obtain ⟨fields, hfields, watermarkJson, hwatermarkJson, watermark, hwatermark, intervalsJson,
    hintervalsJson, items, hitems, intervals, hintervals, -⟩ := hread
  obtain ⟨hfirst, hsecond⟩ := Json.get?_nulled_twoFields (by simp) hfields
  obtain rfl := Option.some.inj (hfirst.symm.trans hwatermarkJson)
  obtain rfl := Option.some.inj (hsecond.symm.trans hintervalsJson)
  rw [isFinite, Json.isFinite_of_nulled hwatermark, Bool.true_and, List.all_eq_true]
  intro interval hmem
  rw [Json.nulled, Json.nulledItems_eq] at hitems
  obtain rfl := Option.some.inj hitems
  obtain ⟨read, hread⟩ := isSome_of_mapM_eq_some hintervals
    (List.mem_map_of_mem (List.mem_map_of_mem hmem))
  exact Interval.isFinite_of_nulled (h.intervals interval hmem) hread

end Snapshot

theorem CacheEntry.reads_nulled {entry : CacheEntry} (h : entry.snapshot.IsHeld)
    (hvalid : entry.isValid = true) : (Json.nulled entry.toJson).Reads := by
  rw [isValid, Bool.and_eq_true] at hvalid
  rw [toJson, Json.nulled_twoFields]
  exact Json.reads_twoFields (by simp) (.str _) (h.reads_nulled hvalid.2) _

theorem CacheEntry.isFinite_of_nulled {entry : CacheEntry} (h : entry.snapshot.IsHeld)
    {read : CacheEntry} (hread : ofJson? (Json.nulled entry.toJson) = some read) :
    entry.snapshot.isFinite = true := by
  simp only [ofJson?, Option.bind_eq_bind, Option.bind_eq_some_iff] at hread
  obtain ⟨fields, hfields, -, -, -, -, snapshotJson, hsnapshotJson, snapshot, hsnapshot, -⟩ := hread
  obtain ⟨-, hsecond⟩ := Json.get?_nulled_twoFields (by simp) hfields
  obtain rfl := Option.some.inj (hsecond.symm.trans hsnapshotJson)
  exact Snapshot.isFinite_of_nulled h hsnapshot

namespace Cache

variable {cache : Cache}

theorem nulled_toJson (cache : Cache) : Json.nulled cache.toJson = .obj [
    ("version", .num version),
    ("files", .obj ((Json.inKeyOrder cache).map fun entry =>
      (entry.1, Json.nulled entry.2.toJson)))] := by
  have hfiles : Json.nulled (.obj ((Json.inKeyOrder cache).map fun entry =>
      (entry.1, entry.2.toJson))) = .obj ((Json.inKeyOrder cache).map fun entry =>
        (entry.1, Json.nulled entry.2.toJson)) := by
    rw [Json.nulled, Json.nulledFields_eq, List.map_map]
    rfl
  rw [toJson_eq, ← hfiles]
  rfl

theorem IsHeld.read?_encode (h : cache.IsHeld) (hvalid : ∀ entry ∈ cache, entry.2.isValid = true) :
    Json.read? cache.encode = some (Json.nulled cache.toJson) := by
  refine Json.read?_nulled ?_
  have hversion : Json.NumberReads version := @Json.numberReads_ofNat 1 (by decide)
  have hfiles : Json.Reads (.obj ((Json.inKeyOrder cache).map fun entry =>
      (entry.1, Json.nulled entry.2.toJson))) := by
    rw [h.listed]
    refine .obj ?_ fun field hmem => ?_
    · rw [List.map_map]
      exact h.keys
    · obtain ⟨entry, hentry, rfl⟩ := List.mem_map.mp hmem
      exact CacheEntry.reads_nulled (h.entries entry hentry) (hvalid entry hentry)
  rw [nulled_toJson]
  exact .obj (by simp) (by simp [hfiles, Json.Reads.num hversion])

theorem isFinite_of_nulled (h : cache.IsHeld) {read : Cache}
    (hread : ofJson? (Json.nulled cache.toJson) = some read) :
    ∀ entry ∈ cache, entry.2.snapshot.isFinite = true := by
  rw [nulled_toJson, ofJson?_files, h.listed,
    Json.inKeyOrder_map fun entry : CacheEntry => Json.nulled entry.toJson, h.listed] at hread
  intro entry hmem
  obtain ⟨_, hentry⟩ := isSome_of_mapM_eq_some hread (List.mem_map_of_mem hmem)
  obtain ⟨_, hsnapshot, -⟩ := Option.bind_eq_some_iff.mp hentry
  exact CacheEntry.isFinite_of_nulled (h.entries entry hmem) hsnapshot

theorem decode?_encode_of_isFinite {text : String} (h : decode? text = some cache)
    (hfinite : ∀ entry ∈ cache, entry.2.snapshot.isFinite = true) :
    decode? (encode cache) = some cache := by
  rw [(isKeepable_of_decode? h hfinite).decode?_encode, (isHeld_of_decode? h).listed]

theorem decode?_encode_of_infinite {text : String} (h : decode? text = some cache)
    (hinfinite : ¬ ∀ entry ∈ cache, entry.2.snapshot.isFinite = true) :
    decode? (encode cache) = none := by
  have hvalid := (Option.filter_eq_some_iff.mp h).2
  have hheld := isHeld_of_decode? h
  have hlost : ofJson? (Json.nulled cache.toJson) = none := by
    rw [Option.eq_none_iff_forall_ne_some]
    intro read hread
    exact hinfinite (isFinite_of_nulled hheld hread)
  rw [decode?, hheld.read?_encode (List.all_eq_true.mp hvalid), Option.bind_some, hlost]
  rfl

/-- What has been read from a cache file is read again after it has been written to one, as a whole,
unless a number in it is infinite: then nothing of it is read. -/
theorem decode?_encode_of_decode? {text : String} (h : decode? text = some cache) :
    decode? (encode cache) =
      if ∀ entry ∈ cache, entry.2.snapshot.isFinite = true then some cache else none := by
  split
  · next hfinite => exact decode?_encode_of_isFinite h hfinite
  · next hinfinite => exact decode?_encode_of_infinite h hinfinite

/-- Two of the files go by half of a pair of units. -/
theorem decode?_encode_of_decode?_farLine :
    let entry (watermark intervals : String) := "\x7b\"fingerprint\":\"\\udbff\"," ++
      "\"snapshot\":\x7b\"intervals\":[" ++ intervals ++ "],\"watermark\":" ++ watermark ++
        "\x7d\x7d"
    let text := "\x7b\"version\":1,\"files\":\x7b\"\\udc00\":" ++ entry "1e300" "" ++
      ",\"__proto__\":" ++ entry "250" ("\x7b\"origin\":\"Start\",\"targets\":[" ++
        "\x7b\"rule\":\"R\\ud800\",\"analyzer\":\"A\"\x7d],\"startLine\":2.50e2," ++
          "\"endLine\":\"open\"\x7d") ++ ",\"\\ud800\":" ++ entry "0" "" ++ "\x7d\x7d"
    let names : List Wide :=
      [.ofLetters [.half (.low 0)], "__proto__", .ofLetters [.half (.high 0)]]
    ∃ cache, decode? text = some cache ∧ cache.keys = names ∧ names.Nodup ∧
      decode? (encode cache) = some cache := by
  intro entry text names
  have hread : (decode? text).map (fun cache =>
      (cache.keys, cache.all fun entry => entry.2.snapshot.isFinite)) =
        some (names, true) := by decide +kernel
  obtain ⟨cache, hcache, heq⟩ := Option.map_eq_some_iff.mp hread
  obtain ⟨hkeys, hfinite⟩ := Prod.mk.inj heq
  refine ⟨cache, hcache, hkeys, by decide, ?_⟩
  rw [decode?_encode_of_decode? hcache, if_pos (List.all_eq_true.mp hfinite)]

/-- A number beyond the finite ones is read as an infinity and written as `null`. -/
theorem decode?_encode_infiniteLine : ∃ cache, decode? (knownTo "a.py" "1e400" "") = some cache ∧
    decode? (encode cache) = none := by
  have hread : (decode? (knownTo "a.py" "1e400" "")).map (fun cache =>
      cache.all fun entry => entry.2.snapshot.isFinite) = some false := by decide +kernel
  obtain ⟨cache, hcache, hinfinite⟩ := Option.map_eq_some_iff.mp hread
  refine ⟨cache, hcache, decode?_encode_of_infinite hcache fun hfinite => ?_⟩
  rw [List.all_eq_true.mpr hfinite] at hinfinite
  simp at hinfinite

end Cache

end Suppression

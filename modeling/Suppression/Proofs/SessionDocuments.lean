import Suppression.Proofs.AcceptedCache
import Suppression.Proofs.SessionRecords

/-!
What a persist leaves behind in a session. As long as nothing is handed over to the store while it
writes the cache file, a persist that succeeds leaves a document with what was known about each
file at the end of its turn (`Session.Stores.step`); a file of which nothing is known keeps the
entry that the cache had of it.
-/

namespace Suppression

open scoped List

theorem Record.IsGathered.isStorable {record : Record} (h : record.IsGathered Target.IsStorable) :
    record.IsStorable :=
  ⟨h.fingerprint, h.placed, h.targets⟩

/-- All files have been visited, and the cache file has not failed to be written. -/
def Persist.HasVisited (persist : Persist) : Prop :=
  persist.IsFlushing ∨ persist.stage = .ended (.ok ())

/-- The files that have had their turn are the first ones that are known, and what was known about
them did not count as changed then. -/
structure Persist.Visits (keys : List Wide) (errands : List Errand) (persist : Persist) : Prop where
  tracked : persist.tracked <+: keys
  turns : persist.turns.keys <+: keys
  unchanged : ∀ turn ∈ persist.turns, turn.2.changed = false
  handing : ∀ index, persist.stage = .handing index → ∃ file progress,
    errands[index]? = some ⟨.handOver file, progress⟩ ∧ persist.turns.keys ++ [file] <+: keys
  visited : persist.HasVisited → persist.tracked <+: persist.turns.keys

namespace Persist

variable {keys later : List Wide} {errands errands' : List Errand} {persist next : Persist}
  {apart : Prop} {session : Session} {tree : FileTree} {tracker : Tracker}

theorem Visits.mono (h : persist.Visits keys errands) (hkeys : keys <+: later)
    (herrands : ∀ (index : Nat) file progress,
      errands[index]? = some ⟨.handOver file, progress⟩ →
        ∃ progress', errands'[index]? = some ⟨.handOver file, progress'⟩) :
    persist.Visits later errands' := by
  refine ⟨h.tracked.trans hkeys, h.turns.trans hkeys, h.unchanged, fun index hindex => ?_,
    h.visited⟩
  obtain ⟨file, progress, herrand, hnext⟩ := h.handing index hindex
  obtain ⟨progress', herrand'⟩ := herrands index file progress herrand
  exact ⟨file, progress', herrand', hnext.trans hkeys⟩

theorem visits_call (keys : List Wide) (errands : List Errand) :
    Visits keys errands { tracked := keys } :=
  ⟨List.prefix_rfl, List.nil_prefix, by simp, nofun,
    fun h => by simp [HasVisited, IsFlushing, IsWriting] at h⟩

/-- The step lemma of visiting files. -/
theorem Visits.go (h : persist.Visits session.tracker.records.keys session.errands)
    (hended : ∀ errand ∈ session.errands, ∀ record,
      errand.progress.outcome? = some (.handedOver (.ok record)) → record.changed = false)
    (hgoes : persist.Goes apart session tree tracker next) :
    next.Visits session.tracker.records.keys session.errands := by
  obtain ⟨htracked, hturns, hunchanged, hhanding, hvisited⟩ := h
  -- When there is no next file, all have had their turn.
  have hall (hnone : session.tracker.records[persist.turns.length]? = none) :
      persist.tracked <+: persist.turns.keys := by
    have hlength : session.tracker.records.keys.length ≤ persist.turns.keys.length := by
      simpa [Entries.keys] using List.getElem?_eq_none_iff.mp hnone
    rw [hturns.eq_of_length_le hlength]
    exact htracked
  cases hgoes with
  | @proceed index file progress record hstage herrand houtcome =>
      obtain ⟨file', progress', herrand', hnext⟩ := hhanding index hstage
      obtain ⟨hjob, -⟩ := Errand.mk.inj (Option.some.inj (herrand.symm.trans herrand'))
      obtain rfl := Job.handOver.inj hjob
      refine ⟨htracked, ?_, fun turn hmem => ?_, by simp, ?_⟩
      · simpa [Entries.keys] using hnext
      · rcases List.mem_append.mp hmem with hold | hnew
        · exact hunchanged turn hold
        · obtain rfl := List.mem_singleton.mp hnew
          exact hended _ (List.mem_of_getElem? herrand) record houtcome
      · simp [HasVisited, IsFlushing, IsWriting]
  | reject _ _ _ =>
      exact ⟨htracked, hturns, hunchanged, by simp, by simp [HasVisited, IsFlushing, IsWriting]⟩
  | rest _ hnone _ _ => exact ⟨htracked, hturns, hunchanged, by simp, fun _ => hall hnone⟩
  | flush _ hnone _ _ _ => exact ⟨htracked, hturns, hunchanged, by simp, fun _ => hall hnone⟩
  | begin hstage _ _ =>
      exact ⟨htracked, hturns, hunchanged, by simp, fun _ => hvisited (Or.inl (Or.inl hstage))⟩
  | write hstage _ _ _ _ =>
      exact ⟨htracked, hturns, hunchanged, by simp,
        fun _ => hvisited (Or.inl (Or.inr ⟨_, hstage⟩))⟩
  | fail _ _ _ =>
      exact ⟨htracked, hturns, hunchanged, by simp, by simp [HasVisited, IsFlushing, IsWriting]⟩

end Persist

namespace Job.Works

variable {tree : FileTree} {tracker after : Tracker} {job : Job} {progress later : Progress}

theorem keys_prefix (h : job.Works tree tracker progress after later) :
    tracker.records.keys <+: after.records.keys := by
  cases h with
  | request job r next =>
      cases r with
      | remember file record => exact Entries.keys_prefix_put _ _ _
      | load file fingerprint =>
          have hrecords := (Tracker.load_idles tracker tree file fingerprint).1.records
          exact hrecords ▸ List.prefix_rfl
      | _ => exact List.prefix_rfl
  | save hsave => rw [(Tracker.saveEntry_keeps hsave).2]
  | refuse hsave => rw [(Tracker.saveEntry_keeps hsave).2]
  | mark hrecord =>
      unfold Tracker.markSaved
      rw [hrecord]
      exact Entries.keys_prefix_put _ _ _
  | _ => exact List.prefix_rfl

end Job.Works

namespace Session

variable {session after : Session} {settings : TrackerSettings} {path : String}
  {read cache : Cache} {apart : Prop} {tree : FileTree}

theorem getElem?_replace {α : Type} {before rest : List α} (old : α) {next : α} (index : Nat) :
    (before ++ next :: rest)[index]? =
      if index = before.length then some next else (before ++ old :: rest)[index]? := by
  rcases lt_trichotomy index before.length with hlt | rfl | hgt
  · rw [if_neg hlt.ne, List.getElem?_append_left hlt, List.getElem?_append_left hlt]
  · simp
  · rw [if_neg hgt.ne', List.getElem?_append_right hgt.le, List.getElem?_append_right hgt.le]
    obtain ⟨n, hn⟩ := Nat.exists_eq_add_of_lt hgt
    have hindex : index - before.length = n + 1 := by omega
    rw [hindex, List.getElem?_cons_succ, List.getElem?_cons_succ]

theorem exists_errand_of_replace {before rest : List Errand} {job asked : Job}
    {progress progress' : Progress} (later : Progress) {index : Nat}
    (h : (before ++ ⟨job, progress⟩ :: rest)[index]? = some ⟨asked, progress'⟩) :
    ∃ progress'', (before ++ ⟨job, later⟩ :: rest)[index]? = some ⟨asked, progress''⟩ := by
  rw [getElem?_replace ⟨job, progress⟩]
  split
  · next heq =>
      rw [heq, List.getElem?_append_right le_rfl, Nat.sub_self] at h
      obtain ⟨rfl, -⟩ := Errand.mk.inj (Option.some.inj h)
      exact ⟨later, rfl⟩
  · exact ⟨progress', h⟩

/-- The persist of the given number is writing the cache file or about to. -/
def FlushingAt (persists : List Persist) (index : Nat) : Prop :=
  ∃ persist, persists[index]? = some persist ∧ persist.IsFlushing

/-- The store has a cache that may be kept. At most one persist writes the cache file at a time, and
it writes just this cache. Files that are not known have the entries that have been read for
them. -/
structure Stores (path : String) (read cache : Cache) (session : Session) : Prop where
  stocks : session.tracker.Stocks path session.tree cache
  unique : ∀ index index', FlushingAt session.persists index →
    FlushingAt session.persists index' → index = index'
  changed : session.IsFlushing → ∀ store, session.tracker.store = some store →
    store.changed = true
  writing : ∀ persist ∈ session.persists, ∀ text, persist.stage = .writing text →
    text = cache.encode
  untracked : ∀ file, file ∉ session.tracker.records.keys → cache.get? file = read.get? file
  visits : ∀ persist ∈ session.persists,
    persist.Visits session.tracker.records.keys session.errands

namespace Stores

theorem launch (h : session.Stores path read cache) (job : Job) :
    (session.launch job).Stores path read cache := by
  refine ⟨h.stocks, h.unique, h.changed, h.writing, h.untracked, fun persist hmem => ?_⟩
  refine (h.visits persist hmem).mono List.prefix_rfl fun index file progress herrand => ?_
  refine ⟨progress, ?_⟩
  rw [Session.launch, List.getElem?_append_left (List.getElem?_eq_some_iff.mp herrand).1, herrand]

theorem call (h : session.Stores path read cache) : Stores path read cache { session with
    persists := session.persists ++ [{ tracked := session.tracker.records.keys }] } := by
  have hnew : ¬ Persist.IsFlushing { tracked := session.tracker.records.keys } := by
    simp [Persist.IsFlushing, Persist.IsWriting]
  have hold {index : Nat} (hindex : FlushingAt (session.persists ++
      [{ tracked := session.tracker.records.keys }]) index) :
      FlushingAt session.persists index := by
    obtain ⟨persist, hpersist, hflushing⟩ := hindex
    rw [List.getElem?_append] at hpersist
    split at hpersist
    · exact ⟨persist, hpersist, hflushing⟩
    · obtain rfl := List.mem_singleton.mp (List.mem_of_getElem? hpersist)
      exact absurd hflushing hnew
  have hcases {persist : Persist} (hmem : persist ∈ session.persists ++
      [{ tracked := session.tracker.records.keys }]) :
      persist ∈ session.persists ∨ persist = { tracked := session.tracker.records.keys } := by
    simpa using hmem
  refine ⟨h.stocks,
    fun index index' hindex hindex' => h.unique _ _ (hold hindex) (hold hindex'), ?_,
    fun persist hmem text htext => ?_, h.untracked, fun persist hmem => ?_⟩
  · rintro ⟨persist, hmem, hflushing⟩
    rcases hcases hmem with hmem | rfl
    · exact h.changed ⟨persist, hmem, hflushing⟩
    · exact absurd hflushing hnew
  · rcases hcases hmem with hmem | rfl
    · exact h.writing persist hmem text htext
    · cases htext
  · rcases hcases hmem with hmem | rfl
    · exact h.visits persist hmem
    · exact Persist.visits_call _ _

theorem flushingAt_of_replace {before rest : List Persist} (persist : Persist) {next : Persist}
    {index : Nat}
    (h : FlushingAt (before ++ next :: rest) index) :
    index = before.length ∧ next.IsFlushing ∨
      index ≠ before.length ∧ FlushingAt (before ++ persist :: rest) index := by
  obtain ⟨other, hother, hflushing⟩ := h
  rw [getElem?_replace persist] at hother
  split at hother
  · next heq =>
      obtain rfl := Option.some.inj hother
      exact Or.inl ⟨heq, hflushing⟩
  · next hne => exact Or.inr ⟨hne, other, hother, hflushing⟩

theorem persist (h : session.Stores path read cache) {before rest : List Persist}
    {persist next : Persist} (hpersists : session.persists = before ++ persist :: rest)
    (hvisits : next.Visits session.tracker.records.keys session.errands)
    (hflushing : next.IsFlushing → persist.IsFlushing ∨ ¬ session.IsFlushing ∧
      ∀ store, session.tracker.store = some store → store.changed = true)
    (hwriting : ∀ text, next.stage = .writing text → text = cache.encode) :
    Stores path read cache { session with persists := before ++ next :: rest } := by
  have hmem : persist ∈ session.persists := hpersists ▸ by simp
  have hnone {index : Nat} (hnot : ¬ session.IsFlushing) :
      ¬ FlushingAt (before ++ persist :: rest) index := by
    rintro ⟨other, hother, hothers⟩
    exact hnot ⟨other, hpersists ▸ List.mem_of_getElem? hother, hothers⟩
  -- While the persist is flushing, no other one is.
  have halone {index : Nat} (hnext : next.IsFlushing) (hne : index ≠ before.length) :
      ¬ FlushingAt (before ++ persist :: rest) index := by
    intro hindex
    rcases hflushing hnext with hown | ⟨hnot, -⟩
    · exact hne (h.unique _ _ (hpersists ▸ hindex) (hpersists ▸ ⟨persist, by simp, hown⟩))
    · exact hnone hnot hindex
  refine ⟨h.stocks, fun index index' hindex hindex' => ?_, fun ⟨other, hother, hothers⟩ => ?_,
    fun other hother text htext => ?_, h.untracked, fun other hother => ?_⟩
  · rcases flushingAt_of_replace persist hindex with ⟨rfl, hnext⟩ | ⟨hne, hold⟩
    · rcases flushingAt_of_replace persist hindex' with ⟨rfl, -⟩ | ⟨hne', hold'⟩
      · rfl
      · exact absurd hold' (halone hnext hne')
    · rcases flushingAt_of_replace persist hindex' with ⟨rfl, hnext⟩ | ⟨-, hold'⟩
      · exact absurd hold (halone hnext hne)
      · exact h.unique _ _ (hpersists ▸ hold) (hpersists ▸ hold')
  · rcases mem_of_mem_replace hother with rfl | hold
    · exact (hflushing hothers).elim (fun hown => h.changed ⟨persist, hmem, hown⟩) And.right
    · exact h.changed ⟨other, hpersists ▸ hold, hothers⟩
  · rcases mem_of_mem_replace hother with rfl | hold
    · exact hwriting text htext
    · exact h.writing other (hpersists ▸ hold) text htext
  · rcases mem_of_mem_replace hother with rfl | hold
    · exact hvisits
    · exact h.visits other (hpersists ▸ hold)

theorem move (h : session.Stores path read cache) {tree : FileTree} {tracker : Tracker}
    (hrecords : tracker.records = session.tracker.records)
    (hstocks : tracker.Stocks path tree cache)
    (hchanged : session.IsFlushing → ∀ store, tracker.store = some store → store.changed = true) :
    Stores path read cache { session with tree, tracker } := by
  refine ⟨hstocks, h.unique, hchanged, h.writing, fun file hfile => ?_, fun other hother => ?_⟩
  · exact h.untracked file (hrecords ▸ hfile)
  · dsimp only
    rw [hrecords]
    exact h.visits other hother

/-- The step lemma of a persist. -/
theorem go (h : session.Stores path read cache) {Q : Record → Prop}
    (hkeeps : session.Keeps settings path Q) (hapart : apart) {before rest : List Persist}
    {persist next : Persist} {tree : FileTree} {tracker : Tracker}
    (hpersists : session.persists = before ++ persist :: rest)
    (hgoes : persist.Goes apart session tree tracker next) :
    Stores path read cache
      { session with tree, tracker, persists := before ++ next :: rest } := by
  have hmem : persist ∈ session.persists := hpersists ▸ by simp
  have hvisits := (h.visits persist hmem).go
    (fun errand herrand => (hkeeps.fits errand herrand).ended) hgoes
  obtain ⟨store, hstore, -, hopened⟩ := hkeeps.store
  obtain ⟨store', hstore', hstocks⟩ := h.stocks
  obtain rfl := Option.some.inj (hstore.symm.trans hstore')
  have hsettles (hnot : ¬ next.IsFlushing) :
      Stores path read cache { session with persists := before ++ next :: rest } :=
    h.persist hpersists hvisits (fun hnext => absurd hnext hnot)
      fun text htext => absurd (Or.inr ⟨text, htext⟩) hnot
  -- Once the store has been opened, opening it again changes nothing.
  have hsame (hown : persist.IsFlushing) (tree : FileTree) : (store.entries tree).2.1 = store :=
    Store.entries_of_opened (hopened (Or.inr ⟨persist, hmem, hown⟩)) tree
  cases hgoes with
  | proceed _ _ _ => exact hsettles (by simp [Persist.IsFlushing, Persist.IsWriting])
  | reject _ _ _ => exact hsettles (by simp [Persist.IsFlushing, Persist.IsWriting])
  | rest _ _ _ _ => exact hsettles (by simp [Persist.IsFlushing, Persist.IsWriting])
  | flush _ _ hstore' hchanged hnone =>
      refine h.persist hpersists hvisits (fun _ => Or.inr ⟨hnone hapart, fun other hother => ?_⟩)
        (by simp)
      obtain rfl := Option.some.inj (hother.symm.trans hstore')
      exact hchanged
  | begin hstage hstore' hcache =>
      obtain rfl := Option.some.inj (hstore.symm.trans hstore')
      obtain rfl := Except.ok.inj (hcache.symm.trans hstocks.entries)
      have hown : persist.IsFlushing := Or.inl hstage
      have hbegun := h.persist hpersists hvisits (fun _ => Or.inl hown)
        (by rintro _ ⟨⟩; rfl)
      refine hbegun.move (Tracker.records_noteAll _ _)
        ⟨_, Tracker.store_noteAll _ _, hstocks.opened⟩ fun _ other hother => ?_
      obtain rfl := Option.some.inj ((Tracker.store_noteAll _ _).symm.trans hother)
      rw [Store.changed_entries]
      exact h.changed ⟨persist, hmem, hown⟩ store hstore
  | @write text _ cache' written hstage hstore' _ hwrite _ =>
      obtain rfl := Option.some.inj (hstore.symm.trans hstore')
      obtain rfl := h.writing persist hmem text hstage
      have hown : persist.IsFlushing := Or.inr ⟨_, hstage⟩
      have hsettled := hsettles (by simp [Persist.IsFlushing, Persist.IsWriting])
      have hafter := hstocks.written hwrite
      rw [hsame hown] at hafter
      refine hsettled.move (Tracker.records_noteAll _ _) ⟨_, Tracker.store_noteAll _ _, hafter⟩ ?_
      -- No other persist was writing the cache file.
      rintro ⟨other, hother, hothers⟩
      obtain ⟨index, hindex⟩ := List.getElem?_of_mem hother
      rcases flushingAt_of_replace persist ⟨other, hindex, hothers⟩ with
        ⟨-, hnext⟩ | ⟨hne, hold⟩
      · simp [Persist.IsFlushing, Persist.IsWriting] at hnext
      · exact absurd (h.unique _ _ (hpersists ▸ hold) (hpersists ▸ ⟨persist, by simp, hown⟩)) hne
  | fail error hown hlater =>
      have hsettled := hsettles (by simp [Persist.IsFlushing, Persist.IsWriting])
      have hchanged := h.changed ⟨persist, hmem, hown⟩ store hstore
      have hafter := hstocks.unwritten hchanged tree
      rw [hsame hown] at hafter
      exact hsettled.move rfl ⟨store, hstore, hafter⟩ hsettled.changed

/-- The step lemma of a job: the entry of its file is the only one that changes. -/
theorem work (h : session.Stores path read cache)
    (hkeeps : session.Keeps settings path (Record.IsGathered Target.IsStorable)) (hapart : apart)
    {before rest : List Errand} {job : Job} {progress later : Progress} {tracker : Tracker}
    (herrands : session.errands = before ++ ⟨job, progress⟩ :: rest)
    (hwaits : apart → ∀ entry, progress = .saving entry → ¬ session.IsWriting)
    (hworks : job.Works session.tree session.tracker progress tracker later) :
    ∃ kept, Stores path read kept
      { session with tracker, errands := before ++ ⟨job, later⟩ :: rest } := by
  obtain ⟨store, hstore, hstocks⟩ := h.stocks
  have hkeys := hworks.keys_prefix
  have huntracked {file : Wide} (hfile : file ∉ tracker.records.keys) :
      file ∉ session.tracker.records.keys := fun hmem => hfile (hkeys.subset hmem)
  have hvisits : ∀ persist ∈ session.persists,
      persist.Visits tracker.records.keys (before ++ ⟨job, later⟩ :: rest) := by
    intro persist hmem
    refine (h.visits persist hmem).mono hkeys fun index file progress' herrand => ?_
    exact exists_errand_of_replace later (herrands ▸ herrand)
  rcases hworks.store_cases hstore with
    ⟨opened, hafter, hopened⟩ | ⟨entry, found, rfl, hfound, hafter⟩
  · have hopens : opened.Stocks path session.tree cache ∧ opened.changed = store.changed := by
      rcases hopened with rfl | rfl
      · exact ⟨hstocks, rfl⟩
      · exact ⟨hstocks.opened, store.changed_entries _⟩
    refine ⟨cache, ⟨opened, hafter, hopens.1⟩, h.unique, fun hflushing other hother => ?_,
      h.writing, fun file hfile => h.untracked file (huntracked hfile), hvisits⟩
    obtain rfl := Option.some.inj (hafter.symm.trans hother)
    exact hopens.2.trans (h.changed hflushing store hstore)
  · obtain rfl := Except.ok.inj (hfound.symm.trans hstocks.entries)
    have hfits := hkeeps.fits ⟨job, .saving entry⟩ (herrands ▸ by simp)
    obtain ⟨record, hrecord, -, rfl⟩ := hfits.saving entry rfl
    have hgathered := (hkeeps.warrants.records _ record hrecord).kind
    refine ⟨found.put job.file record.entry, ⟨_, hafter, hstocks.save hgathered.isStorable _⟩,
      h.unique, fun _ other hother => ?_, fun persist hmem text htext => ?_, fun file hfile => ?_,
      hvisits⟩
    · obtain rfl := Option.some.inj (hafter.symm.trans hother)
      rfl
    · exact absurd ⟨persist, hmem, text, htext⟩ (hwaits hapart _ rfl)
    · have hold := huntracked hfile
      rw [Entries.get?_put, if_neg, h.untracked file hold]
      rintro rfl
      exact nomatch hrecord.symm.trans (Entries.get?_eq_none_iff.mpr hold)

/-- The step lemma of a session. -/
theorem step (h : session.Stores path read cache)
    (hkeeps : session.Keeps settings path (Record.IsGathered Target.IsStorable)) (hapart : apart)
    (hstep : Step apart session after) : ∃ kept, after.Stores path read kept := by
  cases hstep with
  | ask question => exact ⟨cache, h.launch (.question question)⟩
  | call => exact ⟨cache, h.call⟩
  | work herrands _ hwaits hworks => exact h.work hkeeps hapart herrands hwaits hworks
  | settle herrands =>
      refine ⟨cache, h.stocks, h.unique, h.changed, h.writing, h.untracked, fun persist hmem => ?_⟩
      refine (h.visits persist hmem).mono List.prefix_rfl fun index file progress herrand => ?_
      exact exists_errand_of_replace _ (herrands ▸ herrand)
  | @visit before rest persist file record hpersists hvisiting hnext =>
      have hlaunched := h.launch (.handOver file)
      obtain ⟨htracked, hturns, hunchanged, -, -⟩ :=
        hlaunched.visits persist (hpersists ▸ by simp)
      refine ⟨cache, hlaunched.persist hpersists ⟨htracked, hturns, hunchanged, ?_, ?_⟩ ?_ nofun⟩
      · rintro index ⟨⟩
        refine ⟨file, _, List.getElem?_concat_length, ?_⟩
        have hkey : session.tracker.records.keys[persist.turns.keys.length]? = some file := by
          simp [Entries.keys, hnext]
        obtain ⟨hlt, hfile⟩ := List.getElem?_eq_some_iff.mp hkey
        exact hfile ▸ List.concat_get_prefix hturns hlt
      · simp [Persist.HasVisited, Persist.IsFlushing, Persist.IsWriting]
      · simp [Persist.IsFlushing, Persist.IsWriting]
  | go hpersists hgoes => exact ⟨cache, h.go hkeeps hapart hpersists hgoes⟩
  | @edit later hlater hpath =>
      obtain ⟨store, hstore, hstocks⟩ := h.stocks
      by_cases hwriting : session.IsWriting
      · obtain ⟨persist, hmem, hpersist⟩ := hwriting
        have hflushing : session.IsFlushing := ⟨persist, hmem, Or.inr hpersist⟩
        obtain ⟨store', hstore', -, hopened⟩ := hkeeps.store
        obtain rfl := Option.some.inj (hstore.symm.trans hstore')
        have hafter := hstocks.unwritten (h.changed hflushing store hstore) later
        rw [Store.entries_of_opened (hopened (Or.inr hflushing))] at hafter
        exact ⟨cache, h.move rfl ⟨store, hstore, hafter⟩ h.changed⟩
      · have hafter := hstocks.edit (hstocks.storePath ▸ hpath hwriting store hstore)
        exact ⟨cache, h.move rfl ⟨store, hstore, hafter⟩ h.changed⟩

theorem start (hcache : tree.cacheAt path = .ok read) (hstorable : read.IsStorable)
    (verbose : Bool) : Stores path read read (fresh tree settings path verbose) := by
  have hentries : (Store.entries { path, verbose } tree).1 = .ok read :=
    (Store.readCache_fst { path, verbose } tree).trans hcache
  refine ⟨⟨_, rfl, rfl, hentries, hstorable, fun _ => ⟨read, hcache, .refl read⟩⟩, ?_, ?_, ?_,
    fun _ _ => rfl, ?_⟩ <;> simp [fresh, FlushingAt, IsFlushing]

/-- The run lemma of a session. -/
theorem reached (h : session.Stores path read cache)
    (hkeeps : session.Keeps settings path (Record.IsGathered Target.IsStorable))
    (hmatcher : settings.matcher.Names Target.IsStorable)
    (hapart : apart) (hreached : Reached apart session after) :
    ∃ kept, after.Stores path read kept := by
  induction hreached with
  | refl => exact ⟨cache, h⟩
  | tail hbefore hstep ih =>
      obtain ⟨kept, hstores⟩ := ih
      have hendures := Record.endures_isGathered hmatcher
      exact hstores.step (hkeeps.reached hendures hbefore) hapart hstep

end Stores

end Session

end Suppression

import Suppression.Proofs.Sessions

namespace Suppression

/-- What a job has to go by, given what is known about its file and what the store holds of it. -/
structure Errand.Fits (Q : Record → Prop) (known : Option Record) (held : Option CacheEntry)
    (errand : Errand) : Prop where
  asking : ∀ rest, errand.progress = .asking rest →
    rest.Uses (Request.IsAbout errand.file) ∧ ∃ q, rest.Honors (Record.IsHeldAs Q held) q
  saving : ∀ entry, errand.progress = .saving entry →
    ∃ record, known = some record ∧ record.changed = true ∧ record.entry = entry
  marking : errand.progress = .marking → ∃ record, known = some record ∧ held = some record.entry
  ended : ∀ record, errand.progress.outcome? = some (.handedOver (.ok record)) →
    record.changed = false

namespace Errand

variable {Q : Record → Prop} {known known' : Option Record} {held held' : Option CacheEntry}
  {errand : Errand}

theorem fits_waiting (job : Job) (previous : Option Nat) :
    Fits Q known held ⟨job, .waiting previous⟩ := by
  constructor <;> simp [Progress.outcome?]

theorem fits_asking {job : Job} {rest : Query (Except QueryError Bool)}
    (huses : rest.Uses (Request.IsAbout job.file))
    (hhonors : ∃ q, rest.Honors (Record.IsHeldAs Q held) q) :
    Fits Q known held ⟨job, .asking rest⟩ := by
  constructor
  · rintro _ ⟨⟩
    exact ⟨huses, hhonors⟩
  all_goals simp [Progress.outcome?]

theorem fits_saving (job : Job) {record : Record} (hknown : known = some record)
    (hchanged : record.changed = true) : Fits Q known held ⟨job, .saving record.entry⟩ := by
  constructor
  · simp
  · rintro _ ⟨⟩
    exact ⟨record, hknown, hchanged, rfl⟩
  all_goals simp [Progress.outcome?]

theorem fits_marking (job : Job) {record : Record} (hknown : known = some record)
    (hheld : held = some record.entry) : Fits Q known held ⟨job, .marking⟩ := by
  constructor
  · simp
  · simp
  · exact fun _ => ⟨record, hknown, hheld⟩
  · simp [Progress.outcome?]

theorem fits_of_outcome {progress : Progress} {outcome : Outcome}
    (hprogress : progress = .ended outcome ∨ progress = .settled outcome) (job : Job)
    (h : ∀ record, outcome = .handedOver (.ok record) → record.changed = false) :
    Fits Q known held ⟨job, progress⟩ := by
  rcases hprogress with rfl | rfl
  all_goals
    constructor
    case ended => simpa [Progress.outcome?] using h
    all_goals simp

theorem Fits.of_idle (h : errand.Fits Q known held)
    (hidle : errand.call.isSettled = true ∨ ∃ index, errand.call.stage.previous? = some index) :
    errand.Fits Q known' held' := by
  obtain ⟨job, progress⟩ := errand
  cases progress with
  | waiting previous => exact fits_waiting job previous
  | settled outcome =>
      exact fits_of_outcome (Or.inr rfl) job fun record hrecord =>
        h.ended record (congrArg some hrecord)
  | _ => simp [call, Call.isSettled, Progress.stage, Stage.isSettled, Stage.previous?] at hidle

end Errand

namespace Job.Works

variable {tree : FileTree} {tracker after : Tracker} {job : Job} {progress later : Progress}
  {store : Store} {Q : Record → Prop}

theorem isSettled_eq_false (h : job.Works tree tracker progress after later) :
    progress.stage.isSettled = false := by
  cases h <;> rfl

theorem previous?_eq_none (h : job.Works tree tracker progress after later) :
    later.stage.previous? = none := by
  cases h <;> rfl

theorem settings_eq (h : job.Works tree tracker progress after later) :
    after.settings = tracker.settings := by
  cases h with
  | request job r next => exact Tracker.settings_respond tree r tracker
  | save hsave => exact (Tracker.saveEntry_keeps hsave).1
  | refuse hsave => exact (Tracker.saveEntry_keeps hsave).1
  | mark _ => exact Tracker.markSaved_settings tracker _
  | _ => rfl

theorem store_cases (h : job.Works tree tracker progress after later)
    (hstore : tracker.store = some store) :
    (∃ opened, after.store = some opened ∧ (opened = store ∨ opened = (store.entries tree).2.1)) ∨
    ∃ entry cache, progress = .saving entry ∧ (store.entries tree).1 = .ok cache ∧
      after.store = some { (store.entries tree).2.1 with
        opened := some (.ok (cache.put job.file entry)), changed := true } := by
  cases h with
  | request job r next =>
      refine Or.inl ?_
      cases r with
      | load file fingerprint =>
          refine ⟨(store.entries tree).2.1, ?_, Or.inr rfl⟩
          simp only [Tracker.respond, Tracker.load, hstore, Tracker.store_noteAll,
            (store.load_eq tree file fingerprint).2]
      | _ => exact ⟨store, hstore, Or.inl rfl⟩
  | @save file entry after hsave =>
      refine Or.inr ?_
      rcases Tracker.saveEntry_cases hstore tree file entry with
        ⟨error, texts, -, hrefused⟩ | ⟨cache, texts, hcache, hsaved⟩
      · cases congrArg Prod.fst (hsave.symm.trans hrefused)
      · obtain rfl := (Prod.mk.inj (hsave.symm.trans hsaved)).2
        exact ⟨entry, cache, rfl, hcache, Tracker.store_noteAll _ texts⟩
  | @refuse file entry error after hsave =>
      refine Or.inl ?_
      rcases Tracker.saveEntry_cases hstore tree file entry with
        ⟨error, texts, -, hrefused⟩ | ⟨cache, texts, hcache, hsaved⟩
      · obtain rfl := (Prod.mk.inj (hsave.symm.trans hrefused)).2
        exact ⟨_, Tracker.store_noteAll _ texts, Or.inr rfl⟩
      · cases congrArg Prod.fst (hsave.symm.trans hsaved)
  | mark _ => exact Or.inl ⟨store, (Tracker.markSaved_store tracker _).trans hstore, Or.inl rfl⟩
  | _ => exact Or.inl ⟨store, hstore, Or.inl rfl⟩

theorem elsewhere (h : job.Works tree tracker progress after later)
    (huses : ∀ rest, progress = .asking rest → rest.Uses (Request.IsAbout job.file))
    {other : Wide} (hne : other ≠ job.file) :
    after.records.get? other = tracker.records.get? other := by
  cases h with
  | request job r next =>
      refine (Tracker.respond_elsewhere (fun asked hasked => ?_) tracker).record
      obtain rfl : asked = job.file :=
        Option.some.inj (hasked.symm.trans ((huses _ rfl).1 asked hasked))
      exact hne
  | save hsave => rw [(Tracker.saveEntry_keeps hsave).2]
  | refuse hsave => rw [(Tracker.saveEntry_keeps hsave).2]
  | mark hrecord =>
      rw [Tracker.get?_markSaved hrecord]
      exact if_neg hne
  | _ => rfl

/-- The step lemma of a job: what is known stays what the store holds, and the job fits in. -/
theorem keeps (h : job.Works tree tracker progress after later) (htree : tree.Holdable)
    (hstore : tracker.store = some store) (hkind : Record.Endures tracker.settings.matcher Q)
    (hwarrants : tracker.Warrants Q tree)
    (hfits : Errand.Fits Q (tracker.records.get? job.file) (tracker.heldOf tree job.file)
      ⟨job, progress⟩) :
    after.Warrants Q tree ∧
      Errand.Fits Q (after.records.get? job.file) (after.heldOf tree job.file) ⟨job, later⟩ ∧
      ∀ other, other ≠ job.file → after.heldOf tree other = tracker.heldOf tree other := by
  cases h with
  | start asked previous =>
      have huses := Tracker.uses_answer tracker.settings asked.range asked.origin
      have hhonors := TrackerSettings.answer_honors
        (hkind.toLasts.isHeldAs (tracker.heldOf tree asked.range.file)) asked.range asked.origin
      exact ⟨hwarrants, Errand.fits_asking huses ⟨_, hhonors⟩, fun _ _ => rfl⟩
  | request job r next =>
      obtain ⟨huses, q, hgrants, hnext⟩ := hfits.asking _ rfl
      obtain ⟨hanswer, hafter, hheld⟩ := hwarrants.respond htree
        (fun asked hasked => Option.some.inj (hasked.symm.trans (huses.1 asked hasked))) hgrants
      refine ⟨hafter, ?_, fun other _ => hheld other⟩
      rw [hheld]
      exact Errand.fits_asking (huses.2 _) ⟨q, hnext _ hanswer⟩
  | answer job result =>
      exact ⟨hwarrants, Errand.fits_of_outcome (Or.inl rfl) job (by simp), fun _ _ => rfl⟩
  | skip previous hrecord hunchanged =>
      refine ⟨hwarrants, Errand.fits_of_outcome (Or.inl rfl) _ ?_, fun _ _ => rfl⟩
      rintro _ ⟨⟩
      exact hunchanged
  | @hand file record previous hrecord hchanged =>
      exact ⟨hwarrants, Errand.fits_saving _ hrecord hchanged, fun _ _ => rfl⟩
  | @save file entry after hsave =>
      obtain ⟨record, hrecord, hchanged, rfl⟩ := hfits.saving _ rfl
      obtain ⟨hafter, hrecords, hheld⟩ := hwarrants.saveEntry hstore hrecord hchanged hkind hsave
      refine ⟨hafter, @Errand.fits_marking _ _ _ _ record ?_ ?_, fun other hne => ?_⟩
      · rw [hrecords]
        exact hrecord
      · rw [hheld]
        exact if_pos ⟨rfl, rfl⟩
      · rw [hheld]
        exact if_neg fun hsame => hne hsame.1
  | @refuse file entry error after hsave =>
      obtain ⟨record, hrecord, hchanged, rfl⟩ := hfits.saving _ rfl
      obtain ⟨hafter, -, hheld⟩ := hwarrants.saveEntry hstore hrecord hchanged hkind hsave
      refine ⟨hafter, Errand.fits_of_outcome (Or.inl rfl) _ (by simp), fun other _ => ?_⟩
      rw [hheld]
      exact if_neg (by simp)
  | @mark file record hrecord =>
      obtain ⟨known, hknown, hheld⟩ := hfits.marking rfl
      obtain rfl := Option.some.inj (hknown.symm.trans hrecord)
      have hsame (other : Wide) :
          (tracker.markSaved file).heldOf tree other = tracker.heldOf tree other :=
        Tracker.heldOf_congr (by rw [Tracker.stored, Tracker.stored, Tracker.markSaved_store]) other
      refine ⟨hwarrants.markSaved hrecord hheld hkind, Errand.fits_of_outcome (Or.inl rfl) _ ?_,
        fun other _ => hsame other⟩
      rintro _ ⟨⟩
      rfl

end Job.Works

namespace Session

variable {session after : Session} {settings : TrackerSettings} {path : String}
  {Q : Record → Prop} {apart : Prop}

def turns (session : Session) : Turns :=
  { tracker := session.tracker, calls := session.errands.map Errand.call, locks := session.locks }

/-- Jobs on one file take turns, what is known is what the store holds unless it counts as changed,
and the jobs fit in with that. The store has been opened before the cache file is written. -/
structure Keeps (settings : TrackerSettings) (path : String) (Q : Record → Prop)
    (session : Session) : Prop where
  holdable : session.tree.Holdable
  settings_eq : session.tracker.settings = settings
  ordered : session.turns.Ordered
  store : ∃ store, session.tracker.store = some store ∧ store.path = path ∧
    (store.changed = true ∨ session.IsFlushing → store.opened.isSome = true)
  warrants : session.tracker.Warrants Q session.tree
  fits : ∀ errand ∈ session.errands, errand.Fits Q (session.tracker.records.get? errand.file)
    (session.tracker.heldOf session.tree errand.file)

theorem SettledAt.turns {index : Nat} (h : session.SettledAt index) :
    Turns.SettledAt session.turns.calls index := by
  obtain ⟨job, outcome, hindex⟩ := h
  refine ⟨Errand.call ⟨job, .settled outcome⟩, ?_, rfl⟩
  rw [Session.turns, List.getElem?_map, hindex, Option.map_some]

namespace Keeps

theorem start {tree : FileTree} (htree : tree.Holdable) (verbose : Bool)
    (h : ∀ file entry, (fresh tree settings path verbose).tracker.heldOf tree file = some entry →
      entry.Gives Q) : Keeps settings path Q (fresh tree settings path verbose) := by
  refine ⟨htree, rfl, ⟨Turns.queued_nil, fun file => ?_⟩, ⟨_, rfl, rfl, ?_⟩,
    Tracker.warrants_start _ _ h, by simp [fresh]⟩
  · simp [turns, fresh, Entries.get?, Turns.Locks]
  · simp [fresh, IsFlushing]

theorem launch (h : session.Keeps settings path Q) (job : Job) :
    (session.launch job).Keeps settings path Q := by
  refine ⟨h.holdable, h.settings_eq, ?_, h.store, h.warrants, fun errand hmem => ?_⟩
  · have := h.ordered.launch job.asked
    simpa [turns, Session.launch, Turns.launch, Errand.call, Progress.stage, Job.file] using this
  · rcases List.mem_append.mp hmem with hold | hnew
    · exact h.fits errand hold
    · obtain rfl := List.mem_singleton.mp hnew
      exact Errand.fits_waiting job _

theorem move (h : session.Keeps settings path Q) {tree : FileTree} {tracker : Tracker}
    {persists : List Persist} (htree : tree.Holdable)
    (hsettings : tracker.settings = session.tracker.settings)
    (hreader : tracker.reader = session.tracker.reader)
    (hrecords : tracker.records = session.tracker.records)
    (hstore : ∃ store, tracker.store = some store ∧ store.path = path ∧
      (store.changed = true ∨ (∃ persist ∈ persists, persist.IsFlushing) →
        store.opened.isSome = true))
    (hheld : ∀ file, tracker.heldOf tree file = session.tracker.heldOf session.tree file) :
    Keeps settings path Q { session with tree, tracker, persists } := by
  refine ⟨htree, hsettings.trans h.settings_eq, ⟨h.ordered.queued, h.ordered.locks⟩, hstore,
    h.warrants.of_eq hreader hrecords hheld, fun errand hmem => ?_⟩
  dsimp only
  rw [hrecords, hheld]
  exact h.fits errand hmem

/-- The step lemma of a job in a session. -/
theorem work (h : session.Keeps settings path Q) (hkind : Record.Endures settings.matcher Q)
    {before rest : List Errand} {job : Job} {progress later : Progress} {tracker : Tracker}
    (herrands : session.errands = before ++ ⟨job, progress⟩ :: rest)
    (hprevious : ∀ index, progress = .waiting (some index) → session.SettledAt index)
    (hworks : job.Works session.tree session.tracker progress tracker later) :
    Keeps settings path Q { session with tracker, errands := before ++ ⟨job, later⟩ :: rest } := by
  obtain ⟨store, hstore, hpath, hopened⟩ := h.store
  have hfits := fun errand hmem => h.fits errand (herrands ▸ hmem)
  obtain ⟨hwarrants, hjob, hheld⟩ := hworks.keeps h.holdable hstore (h.settings_eq ▸ hkind)
    h.warrants (hfits ⟨job, progress⟩ (by simp))
  have hcalls : session.turns.calls =
      before.map Errand.call ++ Errand.call ⟨job, progress⟩ :: rest.map Errand.call := by
    rw [turns, herrands, List.map_append, List.map_cons]
  have hwaits : ∀ index, (Errand.call ⟨job, progress⟩).stage.previous? = some index →
      Turns.SettledAt session.turns.calls index := by
    intro index hindex
    cases progress with
    | waiting previous => exact (hprevious index (congrArg Progress.waiting hindex)).turns
    | _ => cases hindex
  refine ⟨h.holdable, hworks.settings_eq.trans h.settings_eq, ?_, ?_, hwarrants,
    fun errand hmem => ?_⟩
  · have hordered := h.ordered.proceed tracker (Errand.call ⟨job, later⟩)
      hcalls hwaits rfl hworks.isSettled_eq_false hworks.previous?_eq_none
    simpa [turns] using hordered
  · rcases hworks.store_cases hstore with
      ⟨opened, hafter, rfl | rfl⟩ | ⟨entry, cache, -, -, hafter⟩
    · exact ⟨_, hafter, hpath, hopened⟩
    · refine ⟨_, hafter, (store.path_entries _).trans hpath, fun _ => ?_⟩
      rw [store.opened_entries, Option.isSome_some]
    · exact ⟨_, hafter, (store.path_entries _).trans hpath, fun _ => rfl⟩
  · have hothers (hother : errand ∈ before ++ rest) :
        errand.Fits Q (tracker.records.get? errand.file)
          (tracker.heldOf session.tree errand.file) := by
      have hold := hfits errand (by simp only [List.mem_append, List.mem_cons] at hother ⊢; tauto)
      by_cases hfile : errand.file = job.file
      · refine hold.of_idle (h.ordered.idle hcalls hwaits hworks.isSettled_eq_false ?_ hfile)
        rw [← List.map_append]
        exact List.mem_map_of_mem hother
      · have helsewhere := hworks.elsewhere
          (fun rest hrest => ((hfits ⟨job, progress⟩ (by simp)).asking rest hrest).1) hfile
        rw [helsewhere, hheld _ hfile]
        exact hold
    rcases List.mem_append.mp hmem with hbefore | hrest
    · exact hothers (List.mem_append_left _ hbefore)
    · rcases List.mem_cons.mp hrest with rfl | hafter
      · exact hjob
      · exact hothers (List.mem_append_right _ hafter)

theorem settle (h : session.Keeps settings path Q) {before rest : List Errand} {job : Job}
    {outcome : Outcome} (herrands : session.errands = before ++ ⟨job, .ended outcome⟩ :: rest) :
    Keeps settings path Q { session with
      errands := before ++ ⟨job, .settled outcome⟩ :: rest
      locks := Turns.unlock session.locks job.file before.length } := by
  have hcalls : session.turns.calls =
      before.map Errand.call ++ Errand.call ⟨job, .ended outcome⟩ :: rest.map Errand.call := by
    rw [turns, herrands, List.map_append, List.map_cons]
  refine ⟨h.holdable, h.settings_eq, ?_, h.store, h.warrants, fun errand hmem => ?_⟩
  · have hordered := h.ordered.settle (Errand.call ⟨job, .settled outcome⟩) hcalls rfl rfl
      rfl rfl
    simpa [turns, Errand.call, Call.file, Job.file] using hordered
  · rcases mem_of_mem_replace hmem with rfl | hold
    · have hended := h.fits ⟨job, .ended outcome⟩ (herrands ▸ by simp)
      exact Errand.fits_of_outcome (Or.inr rfl) job fun record hrecord =>
        hended.ended record (congrArg some hrecord)
    · exact h.fits errand (herrands ▸ hold)

/-- The step lemma of a persist. -/
theorem go (h : session.Keeps settings path Q) {before rest : List Persist}
    {persist next : Persist} {tree : FileTree} {tracker : Tracker}
    (hpersists : session.persists = before ++ persist :: rest)
    (hgoes : persist.Goes apart session tree tracker next) :
    Keeps settings path Q
      { session with tree, tracker, persists := before ++ next :: rest } := by
  obtain ⟨store, hstore, hpath, hopened⟩ := h.store
  have hmem : persist ∈ session.persists := hpersists ▸ by simp
  have hflushing (hnext : next.IsFlushing → persist.IsFlushing ∨ store.changed = true)
      (hafter : ∃ other ∈ before ++ next :: rest, other.IsFlushing) :
      store.opened.isSome = true := by
    obtain ⟨other, hother, hothers⟩ := hafter
    rcases mem_of_mem_replace hother with rfl | hold
    · exact hopened ((hnext hothers).symm.imp_right fun hown => ⟨persist, hmem, hown⟩)
    · exact hopened (Or.inr ⟨other, hpersists ▸ hold, hothers⟩)
  -- Where neither the files nor the tracker change.
  have hidle (hnext : next.IsFlushing → store.changed = true) : Keeps settings path Q
      { session with persists := before ++ next :: rest } :=
    h.move h.holdable rfl rfl rfl
      ⟨store, hstore, hpath, fun hor =>
        hor.elim (fun hchanged => hopened (Or.inl hchanged))
          (hflushing fun hown => Or.inr (hnext hown))⟩
      fun _ => rfl
  -- Once the store has been opened, nothing that it holds depends on the files.
  have hedit (later : FileTree) (hflushing : persist.IsFlushing) (file : Wide) :
      session.tracker.heldOf later file = session.tracker.heldOf session.tree file := by
    refine (h.warrants.edit hstore fun hnone => ?_).2 file
    have hsome := hopened (Or.inr ⟨persist, hmem, hflushing⟩)
    rw [hnone] at hsome
    exact nomatch hsome
  cases hgoes with
  | proceed _ _ _ => exact hidle (by simp [Persist.IsFlushing, Persist.IsWriting])
  | reject _ _ _ => exact hidle (by simp [Persist.IsFlushing, Persist.IsWriting])
  | rest _ _ _ _ => exact hidle (by simp [Persist.IsFlushing, Persist.IsWriting])
  | flush _ _ hstore' hchanged _ =>
      obtain rfl := Option.some.inj (hstore.symm.trans hstore')
      exact hidle fun _ => hchanged
  | begin _ hstore' _ =>
      obtain rfl := Option.some.inj (hstore.symm.trans hstore')
      refine h.move h.holdable (Tracker.settings_noteAll _ _) (Tracker.reader_noteAll _ _)
        (Tracker.records_noteAll _ _) ?_ fun file => Tracker.heldOf_opened hstore _ file
      refine ⟨_, Tracker.store_noteAll _ _, (store.path_entries _).trans hpath, fun _ => ?_⟩
      rw [store.opened_entries, Option.isSome_some]
  | write hwriting hstore' _ _ hwritten =>
      obtain rfl := Option.some.inj (hstore.symm.trans hstore')
      have hown : persist.IsFlushing := Or.inr ⟨_, hwriting⟩
      refine h.move hwritten (Tracker.settings_noteAll _ _) (Tracker.reader_noteAll _ _)
        (Tracker.records_noteAll _ _) ?_ fun file => ?_
      · exact ⟨_, Tracker.store_noteAll _ _, hpath,
          fun _ => hopened (Or.inr ⟨persist, hmem, hown⟩)⟩
      · refine (Tracker.heldOf_congr ?_ file).trans (hedit tree hown file)
        simp only [Tracker.stored, Tracker.store_noteAll, hstore, Option.map_some,
          Store.entries_fst_unchanged]
  | fail error hown hlater =>
      refine h.move hlater rfl rfl rfl ⟨store, hstore, hpath, fun _ => ?_⟩ (hedit tree hown)
      exact hopened (Or.inr ⟨persist, hmem, hown⟩)

/-- The step lemma of a session. -/
theorem step (h : session.Keeps settings path Q) (hkind : Record.Endures settings.matcher Q)
    (hstep : Step apart session after) : after.Keeps settings path Q := by
  cases hstep with
  | ask question => exact h.launch (.question question)
  | call =>
      obtain ⟨store, hstore, hpath, hopened⟩ := h.store
      refine h.move h.holdable rfl rfl rfl ⟨store, hstore, hpath, fun hor => hopened ?_⟩
        fun _ => rfl
      refine hor.imp_right fun ⟨persist, hmem, hflushing⟩ => ?_
      rcases List.mem_append.mp hmem with hold | hnew
      · exact ⟨persist, hold, hflushing⟩
      · obtain rfl := List.mem_singleton.mp hnew
        simp [Persist.IsFlushing, Persist.IsWriting] at hflushing
  | work herrands hprevious _ hworks => exact h.work hkind herrands hprevious hworks
  | settle herrands => exact h.settle herrands
  | @visit before rest persist file record hpersists hvisiting _ =>
      obtain ⟨store, hstore, hpath, hopened⟩ := h.store
      refine (h.launch (.handOver file)).move h.holdable rfl rfl rfl
        ⟨store, hstore, hpath, fun hor => hopened ?_⟩ fun _ => rfl
      refine hor.imp_right fun ⟨other, hmem, hflushing⟩ => ?_
      rcases mem_of_mem_replace hmem with rfl | hold
      · simp [Persist.IsFlushing, Persist.IsWriting] at hflushing
      · exact ⟨other, hpersists ▸ hold, hflushing⟩
  | go hpersists hgoes => exact h.go hpersists hgoes
  | @edit later hlater hpath' =>
      obtain ⟨store, hstore, hpath, hopened⟩ := h.store
      have hcache : store.opened = none →
          later.readText store.path = session.tree.readText store.path := by
        intro hnone
        refine hpath' (fun ⟨persist, hmem, hwriting⟩ => ?_) store hstore
        have hsome := hopened (Or.inr ⟨persist, hmem, Or.inr hwriting⟩)
        rw [hnone] at hsome
        exact nomatch hsome
      exact h.move hlater rfl rfl rfl ⟨store, hstore, hpath, hopened⟩
        (h.warrants.edit hstore hcache).2

/-- The run lemma of a session. -/
theorem reached (h : session.Keeps settings path Q) (hkind : Record.Endures settings.matcher Q)
    (hreached : Reached apart session after) : after.Keeps settings path Q := by
  induction hreached with
  | refl => exact h
  | tail _ hstep ih => exact ih.step hkind hstep

end Keeps

end Session

end Suppression

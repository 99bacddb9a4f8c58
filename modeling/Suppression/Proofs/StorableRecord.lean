import Suppression.Proofs.Answering
import Suppression.Proofs.KeptCache

namespace Suppression

theorem Text.fingerprint_ne_empty (text : String) : fingerprint text ≠ "" := by
  intro hempty
  rw [fingerprint, Digest.ofBytes, ← String.toList_inj, String.toList_ofList] at hempty
  have hlength := congrArg List.length hempty
  simp [Digest.State.words, Digest.hexWord] at hlength

/-- The target may stand in a cache document, and can be written. -/
structure Target.IsStorable (target : Target) : Prop where
  isValid : target.isValid = true
  isWritable : target.IsWritable

theorem Target.IsPlain.isValid {target : Target} (h : target.IsPlain) : target.isValid = true := by
  obtain ⟨name, hname, hne, -⟩ := h.analyzer
  have hrule : target.rule ≠ some (("" : String) : Wide) := by
    intro heq
    obtain ⟨written, hwritten, hne, -⟩ := h.rule _ heq
    exact hne (Wide.text.inj hwritten).symm
  simp [Target.isValid, hname, hne, hrule]

theorem Matcher.standard_namesStorable : standard.Names Target.IsStorable := by
  intro line directive hmatch target hmem
  have hplain := standard_namesPlain line directive hmatch target hmem
  exact ⟨hplain.isValid, hplain.isWritable⟩

/-- The interval comes from directives up to a line, or is that of a later line's own directive. -/
def Interval.IsPlaced (line : Nat) (interval : Interval) : Prop :=
  interval.Within line ∨
    ∃ own targets, 1 ≤ own ∧ own < 2 ^ 53 ∧ interval = .oneLine (.ofNat own) targets

namespace Interval

variable {interval : Interval} {line : Nat}

theorem IsPlaced.mono {later : Nat} (h : interval.IsPlaced line) (hle : line ≤ later) :
    interval.IsPlaced later :=
  h.imp_left fun hwithin => hwithin.mono hle

theorem IsPlaced.exists_within (h : interval.IsPlaced line) (hline : line < 2 ^ 53) :
    ∃ last < 2 ^ 53, interval.Within last := by
  rcases h with hwithin | ⟨own, targets, hpos, hown, rfl⟩
  · exact ⟨line, hline, hwithin⟩
  · exact ⟨own, hown, .inline targets hpos le_rfl⟩

theorem Within.isValid (h : interval.Within line)
    (htargets : ∀ target ∈ interval.targets, target.isValid = true) : interval.isValid = true := by
  have hall : interval.targets.all Target.isValid = true := List.all_eq_true.mpr htargets
  have hlines {n : Nat} (hpos : 1 ≤ n) :
      (Number.ofNat n).hasNoFraction = true ∧ (1 : Number) ≤ .ofNat n :=
    ⟨Number.isInteger_ofNat n, Number.ofNat_le_ofNat.mpr hpos⟩
  cases h with
  | unclosed targets hpos _ =>
      simp only [opened] at hall
      simp [Interval.isValid, opened, hall, hlines hpos]
  | closed targets hpos hordered _ =>
      simp only [opened] at hall
      simp [Interval.isValid, opened, hall, hlines hpos, hlines (hpos.trans hordered), hordered]
  | inline targets hpos _ =>
      simp only [oneLine] at hall
      simp [Interval.isValid, oneLine, hall, hlines hpos]

end Interval

namespace Intervals

variable {intervals : Intervals} {line : Nat}

/-- All intervals come from directives up to a line, or are those of later lines' own directives. -/
def Placed (line : Nat) (intervals : Intervals) : Prop :=
  ∀ interval ∈ intervals, interval.IsPlaced line

theorem Placed.apply (h : intervals.Placed line) {next : Nat} (hlt : line < next)
    (hexact : next < 2 ^ 53) {directive : LineDirective} (hline : directive.line = .ofNat next) :
    (intervals.apply directive).Placed next := by
  intro interval hmem
  rcases mem_apply hmem with hold | ⟨-, rfl⟩ | ⟨-, rfl⟩ | ⟨-, old, hold, rfl | hnext⟩
  · exact (h interval hold).mono hlt.le
  · rw [hline]
    exact Or.inl (.inline _ (by omega) le_rfl)
  · rw [hline]
    exact Or.inl (.unclosed _ (by omega) (by omega))
  · rw [hline]
    rcases h old hold with hwithin | ⟨own, targets, hpos, hown, rfl⟩
    · exact Or.inl (Interval.within_stop_fst hlt _ hwithin)
    · exact Or.inr ⟨own, targets, hpos, hown, by rw [Interval.stop_oneLine]⟩
  · rw [hline] at hnext
    exact Or.inl (Interval.within_stop_snd hexact _ hnext)

theorem Placed.applyAll {matcher : Matcher} {lines : List (List Char)} (h : intervals.Placed line)
    (hexact : line + lines.length < 2 ^ 53) {directives : List LineDirective}
    (hdirectives : matcher.inLinesFrom (line + 1) lines = .ok directives) :
    (intervals.applyAll directives).Placed (line + lines.length) := by
  induction lines generalizing line intervals directives with
  | nil =>
      obtain rfl : directives = [] := by simpa [Matcher.inLinesFrom, eq_comm] using hdirectives
      exact h
  | cons text rest ih =>
      obtain ⟨directive?, others, -, hrest, rfl⟩ := Matcher.inLinesFrom_cons.mp hdirectives
      rw [List.length_cons, ← Nat.add_assoc, Nat.add_right_comm] at hexact ⊢
      rw [applyAll_append]
      refine ih ?_ hexact hrest
      cases directive? with
      | none => exact fun interval hmem => (h interval hmem).mono (Nat.le_succ line)
      | some directive => exact h.apply (Nat.lt_succ_self line) (by omega) rfl

theorem Placed.addInline (h : intervals.Placed line) {own : Nat} (hpos : 1 ≤ own)
    (hown : own < 2 ^ 53) (targets : Targets) :
    (intervals.addInline (.ofNat own) targets).Placed line := by
  unfold Intervals.addInline
  split
  · exact h
  · intro interval hmem
    rcases List.mem_cons.mp ((insert_perm _ _).mem_iff.mp hmem) with rfl | hold
    · exact Or.inr ⟨own, targets, hpos, hown, rfl⟩
    · exact h interval hold

theorem Name.addInline {P : Target → Prop} (h : intervals.Name P) {targets : Targets}
    (hnew : ∀ target ∈ targets, P target) (number : Number) :
    (intervals.addInline number targets).Name P := by
  unfold Intervals.addInline
  split
  · exact h
  · intro interval hmem
    rcases List.mem_cons.mp ((insert_perm _ _).mem_iff.mp hmem) with rfl | hold
    · exact hnew
    · exact h interval hold

end Intervals

/-- What is known about a file may stand in a cache document, and can be written. -/
structure Record.IsStorable (record : Record) : Prop where
  fingerprint : record.fingerprint ≠ ""
  placed : ∃ line < 2 ^ 53, record.watermark = .ofNat line ∧ record.intervals.Placed line
  targets : record.intervals.Name Target.IsStorable

namespace Record

variable {record : Record}

theorem IsStorable.isValid (h : record.IsStorable) : record.entry.isValid = true := by
  obtain ⟨line, hline, hwatermark, hplaced⟩ := h.placed
  have hmark : (Number.ofNat line).hasNoFraction = true ∧ (0 : Number) ≤ .ofNat line :=
    ⟨Number.isInteger_ofNat line, Number.ofNat_le_ofNat.mpr (Nat.zero_le line)⟩
  have hintervals : record.intervals.all Interval.isValid = true := by
    refine List.all_eq_true.mpr fun interval hmem => ?_
    obtain ⟨last, -, hwithin⟩ := (hplaced interval hmem).exists_within hline
    exact hwithin.isValid fun target ht => (h.targets interval hmem target ht).isValid
  have hsnapshot : record.snapshot.isValid = true := by
    simp only [snapshot, Snapshot.isValid, hwatermark, hintervals, hmark.1, hmark.2, decide_true,
      Bool.and_self]
  simp [entry, CacheEntry.isValid, h.fingerprint, hsnapshot]

theorem isWritable_of_placed {line : Nat} (hline : line < 2 ^ 53)
    (hwatermark : record.watermark = .ofNat line) (hplaced : record.intervals.Placed line)
    (htargets : record.intervals.Name Target.IsWritable) : record.entry.snapshot.IsWritable := by
  refine ⟨?_, fun interval hmem => ?_⟩
  · change Json.NumberReads record.watermark
    rw [hwatermark]
    exact Json.numberReads_ofNat hline.le
  · obtain ⟨last, hlast, hwithin⟩ := (hplaced interval hmem).exists_within hline
    exact hwithin.isWritable hlast (htargets interval hmem)

theorem IsStorable.isWritable (h : record.IsStorable) : record.entry.snapshot.IsWritable := by
  obtain ⟨line, hline, hwatermark, hplaced⟩ := h.placed
  exact isWritable_of_placed hline hwatermark hplaced fun interval hmem target ht =>
    (h.targets interval hmem target ht).isWritable

theorem isStorable_of_nil {line : Nat} (hfingerprint : record.fingerprint ≠ "")
    (hline : line < 2 ^ 53) (hwatermark : record.watermark = .ofNat line)
    (hnil : record.intervals = []) : record.IsStorable :=
  ⟨hfingerprint, ⟨line, hline, hwatermark, by simp [hnil, Intervals.Placed]⟩,
    by simp [hnil, Intervals.Name]⟩

theorem isStorable_cold (text : String) (lineCount : Nat) :
    (Record.cold (Text.fingerprint text) lineCount).IsStorable :=
  isStorable_of_nil (Text.fingerprint_ne_empty text) (by norm_num) rfl rfl

end Record

namespace Answered

variable {matcher : Matcher} {lines : List (List Char)} {record known : Record} {line : Nat}
  {range : Range} {origin : Origin} {result : Except QueryError Bool}

theorem isStorable (h : Answered matcher lines record line range origin result known)
    (hmatcher : matcher.Names Target.IsStorable) (hlines : lines.length < 2 ^ 53)
    (hcount : record.lineCount ≤ lines.length) (hwatermark : record.watermark = .ofNat line)
    (hline : line ≤ record.lineCount) (hrecord : record.IsStorable) : known.IsStorable := by
  obtain ⟨line', -, hwatermark', hplaced⟩ := hrecord.placed
  obtain rfl : line = line' := Number.ofNat_inj.mp (hwatermark.symm.trans hwatermark')
  have hcommit {last : Nat} {span : Option Span} {directives : List LineDirective}
      (hle : line ≤ last) (hlast : last ≤ record.lineCount)
      (hsearched : Searched matcher lines span origin line last [] (.ok (.complete directives))) :
      (record.commit last directives).IsStorable := by
    cases hsearched with
    | complete hdirectives =>
        rw [List.append_nil]
        have hlength : line + ((lines.drop line).take (last - line)).length = last := by
          rw [List.length_take, List.length_drop]
          omega
        have hafter := hplaced.applyAll (by omega) hdirectives
        rw [hlength] at hafter
        exact ⟨hrecord.fingerprint, ⟨last, by omega, rfl, hafter⟩,
          hrecord.targets.applyAll (hmatcher.of_mem hdirectives)⟩
  cases h with
  | covered _ _ => exact hrecord
  | faulty _ _ => exact hrecord
  | looked _ _ _ => exact hrecord
  | failed _ => exact hrecord
  | mentioned _ _ => exact hrecord
  | committed _ hlt hsearched =>
      exact hcommit hlt.le (TrackerSettings.lastLine_le _ _) hsearched
  | scanned _ hsearched => exact hcommit hline le_rfl hsearched
  | inline _ hsearched =>
      cases hsearched with
      | @inline directive number hlt _ hfinds _ =>
          have hnumber := hfinds.le_length
          obtain ⟨text, -, hmatch⟩ := hfinds
          refine ⟨hrecord.fingerprint, ⟨line, by omega, hwatermark, ?_⟩, ?_⟩
          · exact hplaced.addInline (by omega) (by omega) directive.targets
          · exact hrecord.targets.addInline (hmatcher _ directive hmatch) _

end Answered

end Suppression

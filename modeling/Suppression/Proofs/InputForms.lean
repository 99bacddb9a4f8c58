import Mathlib.Data.List.DropRight
import Suppression.Diagnostic.Input
import Suppression.Proofs.FormattedTargets
import Suppression.Proofs.NestedDocument

namespace Suppression

namespace Text

/-- Lines that stand one below the other, with nothing but blank lines before, between and after
them. The end of the text may come without a terminator. -/
inductive OnLines : List (List Char) → List Char → Prop
  | blank {blanks : List Char} : (∀ c ∈ blanks, isBlank c = true) → OnLines [] blanks
  | last (line : List Char) : OnLines [line] line
  | cons (line : List Char) {ending : Ending} {lines : List (List Char)} {text : List Char} :
      ending ≠ .none → OnLines lines text → OnLines (line :: lines) (line ++ ending.chars ++ text)
  | skip {blanks : List Char} {ending : Ending} {lines : List (List Char)} {text : List Char} :
      (∀ c ∈ blanks, isBlank c = true) → ending ≠ .none → OnLines lines text →
        OnLines lines (blanks ++ ending.chars ++ text)

/-- The line has no line feed in it, and no blank at either end. -/
structure IsTrimmed (line : List Char) : Prop where
  ne_nil : line ≠ []
  ends : ∀ c, c ∈ line.head? ∨ c ∈ line.getLast? → isBlank c = false
  newline : '\n' ∉ line

variable {line lines blanks text : List Char}

theorem isBlank_of_mem_ending {ending : Ending} : ∀ c ∈ ending.chars, isBlank c = true := by
  cases ending with
  | none => exact fun _ hmem => nomatch hmem
  | lf => exact List.forall_mem_singleton.mpr (by decide)
  | crlf =>
      exact List.forall_mem_cons.mpr ⟨by decide, List.forall_mem_singleton.mpr (by decide)⟩

theorem trimChars_eq_nil (h : ∀ c ∈ blanks, isBlank c = true) : trimChars blanks = [] := by
  rw [trimChars, List.dropWhile_eq_nil_iff.mpr h]
  rfl

theorem rdropWhile_append (p : Char → Bool) (xs ys : List Char) :
    (xs ++ ys).rdropWhile p =
      if ys.rdropWhile p = [] then xs.rdropWhile p else xs ++ ys.rdropWhile p := by
  simp only [List.rdropWhile, List.reverse_append, List.dropWhile_append, List.isEmpty_iff,
    List.reverse_eq_nil_iff]
  split <;> simp

theorem trimChars_eq_rdropWhile (text : List Char) :
    trimChars text = (text.dropWhile isBlank).rdropWhile isBlank := rfl

theorem IsTrimmed.dropWhile (h : IsTrimmed line) (rest : List Char) :
    (line ++ rest).dropWhile isBlank = line ++ rest := by
  obtain ⟨c, own, rfl⟩ := List.exists_cons_of_ne_nil h.ne_nil
  exact List.dropWhile_cons_of_neg (by simp [h.ends c (Or.inl rfl)])

theorem IsTrimmed.rdropWhile (h : IsTrimmed line) : line.rdropWhile isBlank = line := by
  have hlast := trimChars_eq_self h.ends
  rwa [trimChars_eq_rdropWhile, ← List.append_nil line, h.dropWhile, List.append_nil] at hlast

theorem rdropWhile_eq_nil (h : ∀ c ∈ blanks, isBlank c = true) :
    blanks.rdropWhile isBlank = [] :=
  List.rdropWhile_eq_nil_iff.mpr h

section Pieces

variable {ending : Ending} {rest : List Piece}

theorem foldr_cons_line (hnewline : '\n' ∉ line)
    (hcarriage : ending = .lf → line.getLast? ≠ some '\r') :
    line.foldr Piece.cons (⟨[], ending⟩ :: rest) = ⟨line, ending⟩ :: rest := by
  induction line with
  | nil => rfl
  | cons c line ih =>
      obtain ⟨hc, hline⟩ := List.ne_and_not_mem_of_not_mem_cons hnewline
      have hlater : ending = .lf → line.getLast? ≠ some '\r' := by
        intro hlf hlast
        exact hcarriage hlf (by rw [List.getLast?_cons, hlast]; rfl)
      have hkept : ¬ (c = '\r' ∧ line = [] ∧ ending = .lf) := by
        rintro ⟨rfl, rfl, hlf⟩
        exact hcarriage hlf rfl
      rw [List.foldr_cons, ih hline hlater, Piece.cons, if_neg hc.symm]
      exact if_neg hkept

theorem pieces_ending (h : ending ≠ .none) (text : List Char) :
    pieces (ending.chars ++ text) = ⟨[], ending⟩ :: pieces text := by
  cases ending with
  | none => exact absurd rfl h
  | lf => rfl
  | crlf => rfl

theorem pieces_line (hline : IsTrimmed line) (h : ending ≠ .none) (text : List Char) :
    pieces (line ++ ending.chars ++ text) = ⟨line, ending⟩ :: pieces text := by
  have hcarriage : ending = .lf → line.getLast? ≠ some '\r' := by
    rintro - hlast
    exact absurd (hline.ends '\r' (Or.inr hlast)) (by decide)
  rw [List.append_assoc, pieces, List.foldr_append, ← pieces, pieces_ending h]
  exact foldr_cons_line hline.newline hcarriage

theorem exists_foldr_cons_blanks (h : ∀ c ∈ blanks, isBlank c = true) :
    ∃ first skipped, blanks.foldr Piece.cons (⟨[], ending⟩ :: rest) = first :: skipped ++ rest ∧
      ∀ piece ∈ first :: skipped, ∀ c ∈ piece.line, isBlank c = true := by
  induction blanks with
  | nil => exact ⟨⟨[], ending⟩, [], rfl, by simp⟩
  | cons c blanks ih =>
      obtain ⟨hc, hblanks⟩ := List.forall_mem_cons.mp h
      obtain ⟨first, skipped, heq, hall⟩ := ih hblanks
      obtain ⟨hfirst, hskipped⟩ := List.forall_mem_cons.mp hall
      rw [List.foldr_cons, heq, List.cons_append, Piece.cons]
      split_ifs with hnewline hreturn
      · exact ⟨⟨[], .lf⟩, first :: skipped, rfl, List.forall_mem_cons.mpr ⟨by simp, hall⟩⟩
      · exact ⟨⟨[], .crlf⟩, skipped, rfl, List.forall_mem_cons.mpr ⟨by simp, hskipped⟩⟩
      · exact ⟨⟨c :: first.line, first.ending⟩, skipped, rfl,
          List.forall_mem_cons.mpr ⟨List.forall_mem_cons.mpr ⟨hc, hfirst⟩, hskipped⟩⟩

end Pieces

/-- The lines of a text that are not blank. -/
def solidLines (text : List Char) : List (List Char) :=
  (splitLines text).filter fun line => !(trimChars line).isEmpty

theorem filter_blank {skipped : List Piece}
    (h : ∀ piece ∈ skipped, ∀ c ∈ piece.line, isBlank c = true) :
    (skipped.map Piece.line).filter (fun line => !(trimChars line).isEmpty) = [] := by
  apply List.filter_eq_nil_iff.mpr
  intro line hmem
  obtain ⟨piece, hpiece, rfl⟩ := List.mem_map.mp hmem
  simp [trimChars_eq_nil (h piece hpiece)]

theorem IsTrimmed.isEmpty_trimChars (h : IsTrimmed line) : (trimChars line).isEmpty = false := by
  rw [trimChars_eq_self h.ends]
  simpa using h.ne_nil

theorem solidLines_skip {ending : Ending} (hblanks : ∀ c ∈ blanks, isBlank c = true)
    (h : ending ≠ .none) (text : List Char) :
    solidLines (blanks ++ ending.chars ++ text) = solidLines text := by
  obtain ⟨first, skipped, heq, hall⟩ := @exists_foldr_cons_blanks _ ending (pieces text) hblanks
  rw [solidLines, splitLines, List.append_assoc, pieces, List.foldr_append, ← pieces,
    pieces_ending h, heq, List.map_append, List.filter_append, filter_blank hall]
  rfl

namespace OnLines

variable {lines : List (List Char)}

theorem solidLines_eq (h : OnLines lines text) (hlines : ∀ line ∈ lines, IsTrimmed line) :
    solidLines text = lines := by
  induction h with
  | @blank blanks hblanks =>
      obtain ⟨first, skipped, heq, hall⟩ := @exists_foldr_cons_blanks _ Ending.none [] hblanks
      rw [List.append_nil] at heq
      rw [solidLines, splitLines, pieces, heq, filter_blank hall]
  | last line =>
      have hline := hlines line List.mem_cons_self
      have hpieces : pieces line = [⟨line, .none⟩] :=
        foldr_cons_line hline.newline fun heq => absurd heq (by decide)
      simp [solidLines, splitLines, hpieces, hline.isEmpty_trimChars]
  | @cons line ending lines text hended _ ih =>
      obtain ⟨hline, hlater⟩ := List.forall_mem_cons.mp hlines
      rw [solidLines, splitLines, pieces_line hline hended, List.map_cons,
        List.filter_cons_of_pos (by simp [hline.isEmpty_trimChars])]
      exact congrArg _ (ih hlater)
  | skip hblanks hended _ ih => rw [solidLines_skip hblanks hended, ih hlines]

theorem eq_nil (h : OnLines lines []) (hlines : ∀ line ∈ lines, IsTrimmed line) : lines = [] := by
  rw [← h.solidLines_eq hlines]
  rfl

theorem head?_cases (h : OnLines lines text) (hlines : ∀ line ∈ lines, IsTrimmed line) {c : Char}
    (hc : text.head? = some c) : isBlank c = true ∨ ∃ line ∈ lines, line.head? = some c := by
  cases h with
  | blank hblanks => exact Or.inl (hblanks c (List.mem_of_mem_head? hc))
  | last line => exact Or.inr ⟨_, List.mem_cons_self, hc⟩
  | @cons line ending lines text _ _ =>
      have hne := (hlines line List.mem_cons_self).ne_nil
      rw [List.append_assoc, List.head?_append_of_ne_nil _ hne] at hc
      exact Or.inr ⟨line, List.mem_cons_self, hc⟩
  | @skip blanks ending lines text hblanks hended _ =>
      have hne : blanks ++ ending.chars ≠ [] := by
        cases ending <;> simp_all [Ending.chars]
      rw [List.head?_append_of_ne_nil _ hne] at hc
      rcases List.mem_append.mp (List.mem_of_mem_head? hc) with hblank | hending
      · exact Or.inl (hblanks c hblank)
      · exact Or.inl (isBlank_of_mem_ending c hending)

theorem dropWhile (h : OnLines lines text) (hlines : ∀ line ∈ lines, IsTrimmed line) :
    OnLines lines (text.dropWhile isBlank) := by
  induction h with
  | blank hblanks =>
      rw [List.dropWhile_eq_nil_iff.mpr hblanks]
      exact .blank (by simp)
  | last line =>
      have hline := (hlines line List.mem_cons_self).dropWhile []
      rw [List.append_nil] at hline
      rw [hline]
      exact .last line
  | @cons line ending lines text hended hrest _ =>
      rw [List.append_assoc, (hlines line List.mem_cons_self).dropWhile, ← List.append_assoc]
      exact .cons line hended hrest
  | @skip blanks ending lines text hblanks _ _ ih =>
      rw [List.append_assoc, List.dropWhile_append_of_pos hblanks,
        List.dropWhile_append_of_pos isBlank_of_mem_ending]
      exact ih hlines

theorem rdropWhile (h : OnLines lines text) (hlines : ∀ line ∈ lines, IsTrimmed line) :
    OnLines lines (text.rdropWhile isBlank) := by
  induction h with
  | blank hblanks =>
      rw [rdropWhile_eq_nil hblanks]
      exact .blank (by simp)
  | last line =>
      rw [(hlines line List.mem_cons_self).rdropWhile]
      exact .last line
  | @cons line ending lines text hended _ ih =>
      obtain ⟨hline, hlater⟩ := List.forall_mem_cons.mp hlines
      have hrest := ih hlater
      rw [rdropWhile_append]
      split
      · next hnone =>
          rw [hnone] at hrest
          rw [hrest.eq_nil hlater, rdropWhile_append,
            if_pos (rdropWhile_eq_nil isBlank_of_mem_ending), hline.rdropWhile]
          exact .last line
      · exact .cons line hended hrest
  | @skip blanks ending lines text hblanks hended _ ih =>
      have hrest := ih hlines
      rw [rdropWhile_append]
      split
      · next hnone =>
          rw [hnone] at hrest
          rwa [rdropWhile_append, if_pos (rdropWhile_eq_nil isBlank_of_mem_ending),
            rdropWhile_eq_nil hblanks]
      · exact .skip hblanks hended hrest

theorem trimChars (h : OnLines lines text) (hlines : ∀ line ∈ lines, IsTrimmed line) :
    OnLines lines (trimChars text) :=
  (h.dropWhile hlines).rdropWhile hlines

end OnLines

end Text

namespace Diagnostic

/-- The diagnostic that a record is: it has the record's fields, and the record itself is kept with
it. -/
structure IsOf (record : Json) (d : Diagnostic) : Prop where
  faultless : Fault.ofRecord record = []
  fields : ofJson? record = some d
  document : d.document = record
  range : ∃ range, d.range = .ok range

end Diagnostic

/-- The error about a record that is no diagnostic, or that is one without a range. -/
inductive InputError.IsOf (number : Nat) (record : Json) : InputError → Prop
  | faulty : Fault.ofRecord record ≠ [] →
      IsOf number record (.faulty number (Fault.ofRecord record))
  | badRange {d : Diagnostic} {error : PlaceError} : Fault.ofRecord record = [] →
      Diagnostic.ofJson? record = some d → d.range = .error error →
        IsOf number record (.badRange number error)

theorem InputError.IsOf.message {number : Nat} {record : Json} {error : InputError}
    (h : error.IsOf number record) : ∃ detail, error.message =
      "Invalid diagnostics input: record " ++ toString number ++ ": " ++ detail := by
  cases h with
  | faulty _ => exact ⟨_, rfl⟩
  | badRange _ _ _ => exact ⟨_, rfl⟩

namespace Fault

theorem exists_str_of_ofText {field : String} {mayBeEmpty : Bool} {value : Json}
    (h : ofText field mayBeEmpty value = []) : ∃ text, value = .str text := by
  cases value with
  | str text => exact ⟨text, rfl⟩
  | _ => exact nomatch h

theorem ofFields_eq_nil {fields : Entries Json} (h : ofFields fields = []) :
    (∀ field ∈ required, ∃ value, fields.get? field = some value) ∧
      ∀ check ∈ checks, ∀ value, fields.get? check.1 = some value → check.2 check.1 value = [] := by
  simp only [ofFields, List.append_eq_nil_iff, List.map_eq_nil_iff, List.flatMap_eq_nil_iff] at h
  obtain ⟨⟨hmissing, -⟩, hfaults⟩ := h
  constructor
  · intro field hfield
    have hpresent := List.filter_eq_nil_iff.mp hmissing field hfield
    exact Option.ne_none_iff_exists'.mp (by simpa using hpresent)
  · intro check hcheck value hvalue
    have hnone := hfaults check hcheck
    simpa [hvalue] using hnone

theorem exists_ofJson? {record : Json} (h : ofRecord record = []) :
    ∃ d, Diagnostic.ofJson? record = some d ∧ d.document = record := by
  cases record with
  | obj fields =>
      obtain ⟨hrequired, hchecks⟩ := ofFields_eq_nil h
      have htext (field : String) (mayBeEmpty : Bool)
          (hcheck : (field, fun field => ofText field mayBeEmpty) ∈ checks) {value : Json}
          (hvalue : Entries.get? fields field = some value) : ∃ text, value = .str text :=
        exists_str_of_ofText (hchecks _ hcheck value hvalue)
      obtain ⟨_, hfile⟩ := hrequired "file" (by simp [required])
      obtain ⟨file, rfl⟩ := htext "file" false (by simp [checks]) hfile
      obtain ⟨_, hanalyzer⟩ := hrequired "analyzer" (by simp [required])
      obtain ⟨analyzer, rfl⟩ := htext "analyzer" false (by simp [checks]) hanalyzer
      obtain ⟨_, hmessage⟩ := hrequired "message" (by simp [required])
      obtain ⟨message, rfl⟩ := htext "message" true (by simp [checks]) hmessage
      cases hrule : Entries.get? fields "rule" with
      | none =>
          simp [Diagnostic.ofJson?, Json.fields?, hfile, hanalyzer, hmessage, hrule, Json.str?]
      | some value =>
          obtain ⟨rule, rfl⟩ := htext "rule" false (by simp [checks]) hrule
          simp [Diagnostic.ofJson?, Json.fields?, hfile, hanalyzer, hmessage, hrule, Json.str?]
  | _ => exact nomatch h

end Fault

namespace Diagnostic

variable {records : List Json} {number : Nat}

theorem ofRecord_cases (number : Nat) (record : Json) :
    (∃ d, IsOf record d ∧ ofRecord number record = .ok d) ∨
      ∃ error : InputError, error.IsOf number record ∧ ofRecord number record = .error error := by
  unfold ofRecord
  cases hfaults : Fault.ofRecord record with
  | nil =>
      obtain ⟨d, hfields, hdocument⟩ := Fault.exists_ofJson? hfaults
      rw [hfields]
      cases hrange : d.range with
      | ok range => exact Or.inl ⟨d, ⟨hfaults, hfields, hdocument, range, hrange⟩, by simp [hrange]⟩
      | error e => exact Or.inr ⟨_, .badRange hfaults hfields hrange, by simp [hrange]⟩
  | cons fault faults =>
      refine Or.inr ⟨_, .faulty (by simp [hfaults]), ?_⟩
      rw [hfaults]

theorem ofRecordsFrom_cases (number : Nat) (records : List Json) :
    (∃ diagnostics, List.Forall₂ IsOf records diagnostics ∧
        ofRecordsFrom number records = .ok diagnostics) ∨
      ∃ before record after, ∃ error : InputError, records = before ++ record :: after ∧
        (∀ earlier ∈ before, ∃ d, IsOf earlier d) ∧ error.IsOf (number + before.length) record ∧
          ofRecordsFrom number records = .error error := by
  induction records generalizing number with
  | nil => exact Or.inl ⟨[], .nil, rfl⟩
  | cons record rest ih =>
      rw [ofRecordsFrom]
      rcases ofRecord_cases number record with ⟨d, hd, hfirst⟩ | ⟨error, herror, hfirst⟩
      · rcases ih (number + 1) with ⟨diagnostics, hall, hrest⟩ |
          ⟨before, bad, after, error, rfl, hbefore, herror, hrest⟩
        · exact Or.inl ⟨d :: diagnostics, .cons hd hall, by rw [hfirst, hrest]; rfl⟩
        · refine Or.inr ⟨record :: before, bad, after, error, rfl, ?_, ?_, ?_⟩
          · exact List.forall_mem_cons.mpr ⟨⟨d, hd⟩, hbefore⟩
          · rwa [List.length_cons, Nat.add_comm before.length 1, ← Nat.add_assoc]
          · rw [hfirst, hrest]
            rfl
      · exact Or.inr ⟨[], record, rest, error, rfl, by simp, herror, by rw [hfirst]; rfl⟩

/-- The text is an object that stands on a line of its own. -/
structure IsObjectText (text : List Char) (record : Json) : Prop where
  reads : Json.ofChars? text = some record
  first : text.head? = some '\x7b'
  last : text.getLast? = some '\x7d'
  newline : '\n' ∉ text

theorem IsObjectText.isTrimmed {text : List Char} {record : Json} (h : IsObjectText text record) :
    Text.IsTrimmed text := by
  refine ⟨?_, ?_, h.newline⟩
  · rintro rfl
    exact nomatch h.first
  · rintro c (hc | hc)
    · obtain rfl := Option.some.inj (h.first.symm.trans hc)
      decide
    · obtain rfl := Option.some.inj (h.last.symm.trans hc)
      decide

theorem recordsOfLinesFrom_eq {lines : List (List Char)}
    (h : List.Forall₂ (fun line record => Json.ofChars? line = some record) lines records)
    (number : Nat) : recordsOfLinesFrom number lines = .ok records := by
  induction h generalizing number with
  | nil => rfl
  | cons hline _ ih =>
      rw [recordsOfLinesFrom, hline, ih]
      rfl

theorem exists_isObjectText {texts : List (List Char)}
    (h : List.Forall₂ IsObjectText texts records) :
    ∀ text ∈ texts, ∃ record, IsObjectText text record := by
  induction h with
  | nil => simp
  | cons hfirst _ ih => exact List.forall_mem_cons.mpr ⟨⟨_, hfirst⟩, ih⟩

theorem recordsOf_lines {texts : List (List Char)} {text : List Char}
    (h : List.Forall₂ IsObjectText texts records) (hlines : Text.OnLines texts text) :
    recordsOf (Text.trimChars text) = .ok records := by
  have hobjects := exists_isObjectText h
  have htrimmed : ∀ line ∈ texts, Text.IsTrimmed line := by
    intro line hmem
    obtain ⟨record, hline⟩ := hobjects line hmem
    exact hline.isTrimmed
  have hbare := hlines.trimChars htrimmed
  have harray : (Text.trimChars text).head? ≠ some '[' := by
    intro hhead
    rcases hbare.head?_cases htrimmed hhead with hblank | ⟨line, hmem, hline⟩
    · exact absurd hblank (by decide)
    · obtain ⟨record, hobject⟩ := hobjects line hmem
      exact absurd (hobject.first.symm.trans hline) (by decide)
  rw [recordsOf, if_neg harray]
  exact (congrArg _ (hbare.solidLines_eq htrimmed)).trans
    (recordsOfLinesFrom_eq (h.imp fun _ _ => IsObjectText.reads) 0)

theorem recordsOf_array {texts : List (List Char)}
    (h : List.Forall₂ IsObjectText texts records) :
    recordsOf (Text.trimChars ('[' :: ([','].intercalate texts ++ [']']))) = .ok records := by
  have htrim : Text.trimChars ('[' :: ([','].intercalate texts ++ [']'])) =
      '[' :: ([','].intercalate texts ++ [']']) := by
    apply Text.trimChars_eq_self
    rintro c (hc | hc)
    · obtain rfl := Option.some.inj hc
      decide
    · rw [← List.cons_append, List.getLast?_concat] at hc
      obtain rfl := Option.some.inj hc
      decide
  have hfirst : ∀ text ∈ texts, text.head? = some '\x7b' := by
    intro text hmem
    obtain ⟨record, hobject⟩ := exists_isObjectText h text hmem
    exact hobject.first
  rw [htrim, recordsOf, List.head?_cons, if_pos rfl,
    Json.ofChars?_array (h.imp fun _ _ => IsObjectText.reads) hfirst]

/-- Objects on lines of their own and the same objects in an array are the same diagnostics, each
with all of its record, or the same error. The error has the number of the first record that has
faults or no range, and tells what is wrong with it. -/
theorem ofText_spec {texts : List String} {records : List Json}
    (h : List.Forall₂ (fun text record => IsObjectText text.toList record) texts records)
    {lines : String} (hlines : Text.OnLines (texts.map String.toList) lines.toList) :
    (∃ diagnostics, List.Forall₂ IsOf records diagnostics ∧ ofText lines = .ok diagnostics ∧
        ofText ("[" ++ ",".intercalate texts ++ "]") = .ok diagnostics) ∨
      ∃ before record after, ∃ error : InputError, records = before ++ record :: after ∧
        (∀ earlier ∈ before, ∃ d, IsOf earlier d) ∧ error.IsOf before.length record ∧
        (∃ detail, error.message =
          "Invalid diagnostics input: record " ++ toString before.length ++ ": " ++ detail) ∧
        ofText lines = .error error ∧
        ofText ("[" ++ ",".intercalate texts ++ "]") = .error error := by
  have hobjects : List.Forall₂ IsObjectText (texts.map String.toList) records :=
    List.forall₂_map_left_iff.mpr h
  have hread : ofText lines = ofRecordsFrom 0 records := by
    rw [ofText, recordsOf_lines hobjects hlines]
    rfl
  have harray : ofText ("[" ++ ",".intercalate texts ++ "]") = ofRecordsFrom 0 records := by
    have hchars : ("[" ++ ",".intercalate texts ++ "]").toList =
        '[' :: ([','].intercalate (texts.map String.toList) ++ [']']) := by
      simp [String.toList_intercalate]
    rw [ofText, hchars, recordsOf_array hobjects]
    rfl
  rw [hread, harray]
  rcases ofRecordsFrom_cases 0 records with ⟨diagnostics, hall, hok⟩ |
    ⟨before, record, after, error, heq, hbefore, herror, hfails⟩
  · exact Or.inl ⟨diagnostics, hall, hok, hok⟩
  · rw [Nat.zero_add] at herror
    exact Or.inr ⟨before, record, after, error, heq, hbefore, herror, herror.message, hfails,
      hfails⟩

/-- Blank lines do not count: the second record is number one, and its range runs backwards. -/
theorem ofText_spec_blankLines :
    let good := "\x7b\"file\":\"a\",\"analyzer\":\"ty\",\"message\":\"\",\"rank\":[1]\x7d"
    let bad := "\x7b\"file\":\"a\",\"analyzer\":\"ty\",\"message\":\"\"," ++
      "\"line\":5,\"endLine\":3\x7d"
    let lines := "\r\n" ++ good ++ "\n \n" ++ bad ++ "\n"
    ∃ error : InputError, ofText lines = .error error ∧
      ofText ("[" ++ ",".intercalate [good, bad] ++ "]") = .error error ∧
      error = .badRange 1 (.range <|
        .reversed "a" ⟨⟨.ofNat 5, .ofNat 0⟩, ⟨.ofNat 3, .ofNat 0⟩⟩) := by
  intro good bad lines
  have hobject (text : String) (hreads : (Json.ofChars? text.toList).isSome = true)
      (hends : text.toList.head? = some '\x7b' ∧ text.toList.getLast? = some '\x7d' ∧
        '\n' ∉ text.toList) : ∃ record, IsObjectText text.toList record := by
    obtain ⟨record, hrecord⟩ := Option.isSome_iff_exists.mp hreads
    exact ⟨record, hrecord, hends.1, hends.2.1, hends.2.2⟩
  obtain ⟨first, hfirst⟩ := hobject good (by decide +kernel) (by decide +kernel)
  obtain ⟨second, hsecond⟩ := hobject bad (by decide +kernel) (by decide +kernel)
  have hlaid : Text.OnLines [good.toList, bad.toList] ([] ++ Text.Ending.crlf.chars ++
      (good.toList ++ Text.Ending.lf.chars ++ ([' '] ++ Text.Ending.lf.chars ++
        (bad.toList ++ Text.Ending.lf.chars ++ [])))) :=
    .skip (by simp) (by decide) <| .cons _ (by decide) <|
      .skip (List.forall_mem_singleton.mpr (by decide)) (by decide) <|
        .cons _ (by decide) <| .blank (by simp)
  have hlines : Text.OnLines [good.toList, bad.toList] lines.toList := by
    simpa [lines, Text.Ending.chars] using hlaid
  have hfound : (ofText lines).map (fun _ => ()) = .error (.badRange 1 <| .range <|
      .reversed "a" ⟨⟨.ofNat 5, .ofNat 0⟩, ⟨.ofNat 3, .ofNat 0⟩⟩) := by decide +kernel
  rcases ofText_spec (.cons hfirst (.cons hsecond .nil)) hlines with ⟨_, -, hok, -⟩ |
    ⟨_, _, _, error, -, -, -, -, hline, harray⟩
  · simp [hok, Except.map] at hfound
  · rw [hline] at hfound
    exact ⟨error, hline, harray, Except.error.inj hfound⟩

end Diagnostic

end Suppression

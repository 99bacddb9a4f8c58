import Suppression.Json.Reader
import Suppression.Json.Writer
import Suppression.Proofs.KeyedEntries

namespace Suppression.Json

/-- The text of a number is one that is read as the number. -/
def NumberReads (value : Number) : Prop :=
  ∃ first rest decimal, (writeNumber value).toList = first :: rest ∧
    (first.isDigit = true ∨ first = '-') ∧ (∀ c ∈ rest, isNumberChar c = true) ∧
      Decimal.ofJson? (first :: rest) = some decimal ∧ decimal.toNumber = value

/-- The numbers of the document are read back, and no object names a field twice. -/
inductive Reads : Json → Prop
  | null : Reads .null
  | bool (value : Bool) : Reads (.bool value)
  | num {value : Number} : NumberReads value → Reads (.num value)
  | str (value : Wide) : Reads (.str value)
  | arr {items : List Json} : (∀ item ∈ items, Reads item) → Reads (.arr items)
  | obj {fields : List (Wide × Json)} : (fields.map Prod.fst).Nodup →
      (∀ field ∈ fields, Reads field.2) → Reads (.obj fields)

namespace Reader

variable {stack : List Frame}

theorem run?_cons (r : Reader) (c : Char) (rest : List Char) :
    r.run? (c :: rest) = (r.step? c).bind fun next => next.run? rest := rfl

def IsBetween (r : Reader) : Prop :=
  ∀ c, r.step? c = r.between? c

theorem isBetween_complete (stack : List Frame) (value : Json) :
    (complete stack value).IsBetween := by
  intro c
  unfold complete
  split <;> rfl

theorem run?_spaces {r : Reader} (h : r.IsBetween) {spaces : List Char}
    (hspaces : ∀ c ∈ spaces, isSpace c = true) (rest : List Char) :
    r.run? (spaces ++ rest) = r.run? rest := by
  induction spaces with
  | nil => rfl
  | cons c others ih =>
      obtain ⟨hc, hothers⟩ := List.forall_mem_cons.mp hspaces
      rw [List.cons_append, run?_cons, h c, between?, if_pos hc]
      exact ih hothers

theorem run?_escapeUnit (stack : List Frame) (isKey : Bool) (read : List Letter) {n : Nat}
    (hn : n < 0x10000) (rest : List Char) :
    run? { stack, mode := .text isKey { read } } (escapeUnit n ++ rest) =
      run? { stack, mode := .text isKey { read := .ofUnit n :: read } } rest := by
  have hhex : ∀ d < 16, hexDigit? (Nat.digitChar d) = some d := by decide
  have hfirst := hhex (n / 4096) (by omega)
  have hsecond := hhex (n / 256 % 16) (by omega)
  have hthird := hhex (n / 16 % 16) (by omega)
  have hfourth := hhex (n % 16) (by omega)
  have hvalue : ((n / 4096 * 16 + n / 256 % 16) * 16 + n / 16 % 16) * 16 + n % 16 = n := by omega
  simp [escapeUnit, run?_cons, step?, inText?, unescape?, hfirst, hsecond, hthird, hfourth, hvalue,
    OpenString.push]

theorem run?_escapeChar (stack : List Frame) (isKey : Bool) (read : List Letter) (c : Char)
    (rest : List Char) :
    run? { stack, mode := .text isKey { read } } (escapeChar c ++ rest) =
      run? { stack, mode := .text isKey { read := .char c :: read } } rest := by
  unfold escapeChar
  split
  · rfl
  · rfl
  · rfl
  · rfl
  · rfl
  · rfl
  · rfl
  · next hquote hbackslash _ _ _ _ _ =>
      split
      · next hlt =>
          rw [run?_escapeUnit stack isKey read (by omega), Letter.ofUnit_of_lt (by omega),
            Char.ofNat_toNat]
      · next hlt =>
          have hquote' : c ≠ '"' := hquote
          have hbackslash' : c ≠ '\\' := hbackslash
          have hstep : step? { stack, mode := .text isKey { read } } c =
              some { stack, mode := .text isKey { read := .char c :: read } } := by
            simp [step?, inText?, hquote', hbackslash', hlt, OpenString.push]
          rw [List.singleton_append, run?_cons, hstep]
          rfl

theorem run?_escapeLetter (stack : List Frame) (isKey : Bool) (read : List Letter)
    (letter : Letter) (rest : List Char) :
    run? { stack, mode := .text isKey { read } } (escapeLetter letter ++ rest) =
      run? { stack, mode := .text isKey { read := letter :: read } } rest := by
  cases letter with
  | char c => exact run?_escapeChar stack isKey read c rest
  | half half =>
      rw [escapeLetter, run?_escapeUnit stack isKey read half.unit_lt, Letter.ofUnit_unit]

theorem run?_quote (stack : List Frame) (isKey : Bool) (text : Wide) (rest : List Char) :
    run? { stack, mode := .text isKey {} } (text.letters.flatMap escapeLetter ++ '"' :: rest) =
      run? (closeText stack isKey text) rest := by
  have hall (read letters : List Letter) :
      run? { stack, mode := .text isKey { read } } (letters.flatMap escapeLetter ++ '"' :: rest) =
        run? (closeText stack isKey (.ofLetters (letters.reverse ++ read).reverse)) rest := by
    induction letters generalizing read with
    | nil => rfl
    | cons letter others ih =>
        rw [List.flatMap_cons, List.append_assoc, run?_escapeLetter, ih, List.reverse_cons,
          List.append_assoc]
        rfl
  have h := hall [] text.letters
  rwa [List.append_nil, List.reverse_reverse, Wide.ofLetters_letters] at h

def Ends (rest : List Char) : Prop :=
  ∃ c others, rest = c :: others ∧ isNumberChar c = false

theorem run?_numberChars (stack : List Frame) {chars : List Char}
    (hchars : ∀ c ∈ chars, isNumberChar c = true) (read rest : List Char) :
    run? { stack, mode := .number read } (chars ++ rest) =
      run? { stack, mode := .number (chars.reverse ++ read) } rest := by
  induction chars generalizing read with
  | nil => rfl
  | cons c others ih =>
      obtain ⟨hc, hothers⟩ := List.forall_mem_cons.mp hchars
      have hstep : step? { stack, mode := .number read } c =
          some { stack, mode := .number (c :: read) } := by
        simp [step?, hc]
      rw [List.cons_append, run?_cons, hstep, Option.bind_some, ih hothers, List.reverse_cons,
        List.append_assoc]
      rfl

theorem run?_endNumber (stack : List Frame) {read : List Char} {decimal : Decimal}
    (hdecimal : Decimal.ofJson? read.reverse = some decimal) {rest : List Char}
    (hrest : Ends rest) : run? { stack, mode := .number read } rest =
      run? (complete stack (.num decimal.toNumber)) rest := by
  obtain ⟨c, others, rfl, hc⟩ := hrest
  have hstep : step? { stack, mode := .number read } c =
      step? (complete stack (.num decimal.toNumber)) c := by
    rw [isBetween_complete stack (.num decimal.toNumber) c]
    simp [step?, hc, closeNumber?, hdecimal]
  rw [run?_cons, run?_cons, hstep]

theorem begin?_number {first : Char} (h : first.isDigit = true ∨ first = '-') :
    isSpace first = false ∧ first ≠ ']' ∧
      begin? stack first = some { stack, mode := .number [first] } := by
  rcases h with hdigit | rfl
  · have hne {c : Char} (hc : c.isDigit = false) : first ≠ c := by
      rintro rfl
      simp [hdigit] at hc
    refine ⟨?_, hne rfl, ?_⟩
    · simp [isSpace, @hne ' ' rfl, @hne '\t' rfl, @hne '\n' rfl,
        @hne '\r' rfl]
    · unfold begin?
      split <;> simp_all
  · exact ⟨rfl, by decide, rfl⟩

theorem run?_number {value : Number} (h : NumberReads value) (stack : List Frame)
    {rest : List Char} (hrest : Ends rest) :
    run? { stack } ((writeNumber value).toList ++ rest) =
      run? (complete stack (.num value)) rest := by
  obtain ⟨first, others, decimal, htext, hfirst, hothers, hdecimal, rfl⟩ := h
  obtain ⟨hspace, -, hbegin⟩ := @begin?_number stack first hfirst
  have hstep : step? { stack } first = some { stack, mode := .number [first] } := by
    simpa [step?, between?, hspace] using hbegin
  rw [htext, List.cons_append, run?_cons, hstep, Option.bind_some, run?_numberChars stack hothers]
  exact run?_endNumber stack (by simpa using hdecimal) hrest

theorem isSpace_of_mem_lineStart (spacing : Spacing) (level : Nat) :
    ∀ c ∈ (spacing.lineStart level).toList, isSpace c = true := by
  intro c hc
  unfold Spacing.lineStart at hc
  split at hc
  · simp at hc
  · rw [String.toList_ofList] at hc
    rcases List.mem_cons.mp hc with rfl | hspaces
    · rfl
    · rw [List.eq_of_mem_replicate hspaces]
      rfl

theorem run?_colon (stack : List Frame) (fields : Entries Json) (key : Wide) (spacing : Spacing)
    (rest : List Char) :
    run? { stack := .object fields :: stack, mode := .colon key }
        (spacing.colon.toList ++ rest) =
      run? { stack := .field fields key :: stack } rest := by
  unfold Spacing.colon
  split
  · rfl
  · rfl

/-- A value that has been written is read back where a value is expected, and its first character
tells that there is a value. -/
structure ReadsAt (json : Json) : Prop where
  begins : ∀ (spacing : Spacing) (level : Nat), ∃ c others,
    (json.write spacing level).toList = c :: others ∧ c ≠ ']' ∧ isSpace c = false
  reads : ∀ (spacing : Spacing) (level : Nat) (stack : List Frame) (rest : List Char), Ends rest →
    run? { stack } ((json.write spacing level).toList ++ rest) = run? (complete stack json) rest

theorem ReadsAt.reads_first {json : Json} (h : ReadsAt json) (spacing : Spacing) (level : Nat)
    (stack : List Frame) {rest : List Char} (hrest : Ends rest) :
    run? { stack, mode := .itemOrClose } ((json.write spacing level).toList ++ rest) =
      run? (complete stack json) rest := by
  rw [← h.reads spacing level stack rest hrest]
  obtain ⟨c, others, htext, hclose, hspace⟩ := h.begins spacing level
  have hstep : step? { stack, mode := .itemOrClose } c = step? { stack } c := by
    simp [step?, between?, hclose, hspace]
  rw [htext, List.cons_append, run?_cons, run?_cons, hstep]

theorem ends_writeItems (spacing : Spacing) (level : Nat) (items : List Json) {rest : List Char}
    (hrest : Ends rest) : Ends ((writeItems spacing level items).toList ++ rest) := by
  cases items with
  | nil => simpa [writeItems] using hrest
  | cons item others => exact ⟨',', _, by simp [writeItems, String.toList_append]; rfl, rfl⟩

theorem run?_writeItems {items : List Json} (hitems : ∀ item ∈ items, ReadsAt item)
    (spacing : Spacing) (level : Nat) (read : List Json) (stack : List Frame) {rest : List Char}
    (hrest : Ends rest) :
    run? { stack := .array read :: stack, mode := .after }
        ((writeItems spacing level items).toList ++ rest) =
      run? { stack := .array (items.reverse ++ read) :: stack, mode := .after } rest := by
  induction items generalizing read with
  | nil => simp [writeItems]
  | cons item others ih =>
      obtain ⟨hitem, hothers⟩ := List.forall_mem_cons.mp hitems
      have hends := ends_writeItems spacing level others hrest
      have hbetween : IsBetween { stack := .array read :: stack } := fun _ => rfl
      have hcomma (tail : List Char) :
          run? { stack := .array read :: stack, mode := .after } (",".toList ++ tail) =
            run? { stack := .array read :: stack } tail := rfl
      simp only [writeItems, String.toList_append, List.append_assoc]
      rw [hcomma, run?_spaces hbetween (isSpace_of_mem_lineStart spacing level),
        hitem.reads spacing level _ _ hends]
      change run? { stack := .array (item :: read) :: stack, mode := .after } _ = _
      rw [ih hothers, List.reverse_cons, List.append_assoc]
      rfl

theorem ends_writeFields (spacing : Spacing) (level : Nat) (fields : List (Wide × Json))
    {rest : List Char} (hrest : Ends rest) :
    Ends ((writeFields spacing level fields).toList ++ rest) := by
  cases fields with
  | nil => simpa [writeFields] using hrest
  | cons field others => exact ⟨',', _, by simp [writeFields, String.toList_append]; rfl, rfl⟩

theorem run?_field {key : Wide} {value : Json} (hvalue : ReadsAt value) (spacing : Spacing)
    (level : Nat) {read : Entries Json} (hnew : key ∉ read.map Prod.fst) (stack : List Frame)
    {rest : List Char} (hrest : Ends rest) :
    run? { stack := .object read :: stack, mode := .text true {} }
        (key.letters.flatMap escapeLetter ++ '"' :: (spacing.colon.toList ++
          ((value.write spacing level).toList ++ rest))) =
      run? { stack := .object (read ++ [(key, value)]) :: stack, mode := .after } rest := by
  have hput := Entries.put_of_not_mem hnew value
  rw [run?_quote]
  change run? { stack := .object read :: stack, mode := .colon key } _ = _
  rw [run?_colon, hvalue.reads spacing level _ _ hrest]
  change run? { stack := .object (Entries.put read key value) :: stack, mode := .after } _ = _
  rw [hput]

theorem run?_writeFields {fields : List (Wide × Json)}
    (hfields : ∀ field ∈ fields, ReadsAt field.2) (spacing : Spacing) (level : Nat)
    {read : Entries Json}
    (hnew : ((read ++ fields).map Prod.fst).Nodup) (stack : List Frame) {rest : List Char}
    (hrest : Ends rest) :
    run? { stack := .object read :: stack, mode := .after }
        ((writeFields spacing level fields).toList ++ rest) =
      run? { stack := .object (read ++ fields) :: stack, mode := .after } rest := by
  induction fields generalizing read with
  | nil => simp [writeFields]
  | cons field others ih =>
      obtain ⟨key, value⟩ := field
      obtain ⟨hvalue, hothers⟩ := List.forall_mem_cons.mp hfields
      have hends := ends_writeFields spacing level others hrest
      have hbetween : IsBetween { stack := .object read :: stack, mode := .key } := fun _ => rfl
      have hcomma (tail : List Char) :
          run? { stack := .object read :: stack, mode := .after } (",".toList ++ tail) =
            run? { stack := .object read :: stack, mode := .key } tail := rfl
      have hquote (tail : List Char) :
          run? { stack := .object read :: stack, mode := .key } ('"' :: tail) =
            run? { stack := .object read :: stack, mode := .text true {} } tail := rfl
      have hkey : key ∉ read.map Prod.fst := by
        rw [List.map_append] at hnew
        intro hmem
        exact (List.nodup_append.mp hnew).2.2 key hmem key List.mem_cons_self rfl
      simp only [writeFields, String.toList_append, quote, String.toList_ofList, List.append_assoc,
        List.cons_append, List.nil_append]
      rw [hcomma, run?_spaces hbetween (isSpace_of_mem_lineStart spacing level), hquote,
        run?_field hvalue spacing level hkey stack hends, ih hothers]
      · rw [List.append_assoc]
        rfl
      · rwa [List.append_assoc]

theorem ends_close (spacing : Spacing) (level : Nat) {c : Char} (hc : isNumberChar c = false)
    (rest : List Char) : Ends ((spacing.lineStart level).toList ++ (c :: rest)) := by
  unfold Spacing.lineStart
  split
  · exact ⟨c, rest, rfl, hc⟩
  · rw [String.toList_ofList]
    exact ⟨'\n', _, rfl, rfl⟩

theorem toList_bracket (rest : List Char) : "]".toList ++ rest = ']' :: rest := rfl

theorem toList_brace (rest : List Char) : "\x7d".toList ++ rest = '\x7d' :: rest := rfl

theorem readsAt_arr {items : List Json} (hitems : ∀ item ∈ items, ReadsAt item) :
    ReadsAt (.arr items) := by
  cases items with
  | nil =>
      constructor
      · intro spacing level
        rw [write]
        exact ⟨'[', [']'], rfl, by decide, rfl⟩
      · intro spacing level stack rest _
        rw [write]
        rfl
  | cons item others =>
      obtain ⟨hitem, hothers⟩ := List.forall_mem_cons.mp hitems
      constructor
      · intro spacing level
        simp only [write, String.toList_append, List.append_assoc]
        exact ⟨'[', _, rfl, by decide, rfl⟩
      · intro spacing level stack rest hrest
        have hclose : Ends ((spacing.lineStart level).toList ++ (']' :: rest)) :=
          ends_close spacing level rfl rest
        have hends := ends_writeItems spacing (level + 1) others hclose
        have hopen (tail : List Char) : run? { stack } ("[".toList ++ tail) =
            run? { stack := .array [] :: stack, mode := .itemOrClose } tail := rfl
        have hbetween : IsBetween { stack := .array [] :: stack, mode := .itemOrClose } :=
          fun _ => rfl
        have hafter : IsBetween
            { stack := .array (others.reverse ++ [item]) :: stack, mode := .after } := fun _ => rfl
        have hdone : run? { stack := .array (others.reverse ++ [item]) :: stack, mode := .after }
            (']' :: rest) = run? (complete stack (.arr (item :: others))) rest := by
          change run? (complete stack (.arr (others.reverse ++ [item]).reverse)) rest = _
          rw [List.reverse_append, List.reverse_reverse]
          rfl
        simp only [write, String.toList_append, List.append_assoc]
        rw [toList_bracket, hopen, run?_spaces hbetween (isSpace_of_mem_lineStart spacing _),
          hitem.reads_first spacing _ _ hends]
        change run? { stack := .array [item] :: stack, mode := .after } _ = _
        rw [run?_writeItems hothers spacing _ _ _ hclose,
          run?_spaces hafter (isSpace_of_mem_lineStart spacing level)]
        exact hdone

theorem readsAt_obj {fields : List (Wide × Json)} (hkeys : (fields.map Prod.fst).Nodup)
    (hfields : ∀ field ∈ fields, ReadsAt field.2) : ReadsAt (.obj fields) := by
  cases fields with
  | nil =>
      constructor
      · intro spacing level
        rw [write]
        exact ⟨'\x7b', ['\x7d'], rfl, by decide, rfl⟩
      · intro spacing level stack rest _
        rw [write]
        rfl
  | cons field others =>
      obtain ⟨key, value⟩ := field
      obtain ⟨hvalue, hothers⟩ := List.forall_mem_cons.mp hfields
      constructor
      · intro spacing level
        simp only [write, String.toList_append, List.append_assoc]
        exact ⟨'\x7b', _, rfl, by decide, rfl⟩
      · intro spacing level stack rest hrest
        have hclose : Ends ((spacing.lineStart level).toList ++ ('\x7d' :: rest)) :=
          ends_close spacing level rfl rest
        have hends := ends_writeFields spacing (level + 1) others hclose
        have hopen (tail : List Char) : run? { stack } ("\x7b".toList ++ tail) =
            run? { stack := .object [] :: stack, mode := .keyOrClose } tail := rfl
        have hbetween : IsBetween { stack := .object [] :: stack, mode := .keyOrClose } :=
          fun _ => rfl
        have hquote (tail : List Char) :
            run? { stack := .object [] :: stack, mode := .keyOrClose } ('"' :: tail) =
              run? { stack := .object [] :: stack, mode := .text true {} } tail := rfl
        have hafter : IsBetween
            { stack := .object ([(key, value)] ++ others) :: stack, mode := .after } :=
          fun _ => rfl
        simp only [write, quote, String.toList_append, String.toList_ofList, List.append_assoc,
          List.cons_append, List.nil_append]
        rw [toList_brace, hopen, run?_spaces hbetween (isSpace_of_mem_lineStart spacing _), hquote,
          run?_field hvalue spacing _ List.not_mem_nil stack hends, List.nil_append,
          run?_writeFields hothers spacing _ hkeys stack hclose,
          run?_spaces hafter (isSpace_of_mem_lineStart spacing level)]
        rfl

theorem readsAt_num {value : Number} (h : NumberReads value) : ReadsAt (.num value) := by
  constructor
  · intro spacing level
    obtain ⟨first, others, -, htext, hfirst, -⟩ := h
    obtain ⟨hspace, hclose, -⟩ := @begin?_number [] first hfirst
    rw [write]
    exact ⟨first, others, htext, hclose, hspace⟩
  · intro spacing level stack rest hrest
    rw [write]
    exact run?_number h stack hrest

theorem readsAt_str (value : Wide) : ReadsAt (.str value) := by
  constructor
  · intro spacing level
    rw [write, quote, String.toList_ofList]
    exact ⟨'"', _, rfl, by decide, rfl⟩
  · intro spacing level stack rest _
    have hopen (tail : List Char) : run? { stack } ('"' :: tail) =
        run? { stack, mode := .text false {} } tail := rfl
    rw [write, quote, String.toList_ofList, List.cons_append, List.cons_append, hopen,
      List.append_assoc, List.singleton_append, run?_quote]
    rfl

theorem readsAt_of_reads {json : Json} (h : Reads json) : ReadsAt json := by
  induction h with
  | null =>
      constructor
      · intro spacing level
        rw [write]
        exact ⟨'n', _, rfl, by decide, rfl⟩
      · intro spacing level stack rest _
        rw [write]
        rfl
  | bool value =>
      constructor
      · intro spacing level
        rw [write]
        cases value
        · exact ⟨'f', _, rfl, by decide, rfl⟩
        · exact ⟨'t', _, rfl, by decide, rfl⟩
      · intro spacing level stack rest _
        rw [write]
        cases value <;> rfl
  | num hvalue => exact readsAt_num hvalue
  | str value => exact readsAt_str value
  | arr _ hitems => exact readsAt_arr hitems
  | obj hkeys _ hfields => exact readsAt_obj hkeys hfields

end Reader

theorem Reads.read?_pretty {json : Json} (h : Reads json) :
    read? (json.pretty ++ "\n") = some json := by
  have hends : Reader.Ends "\n".toList := ⟨'\n', [], rfl, rfl⟩
  have hrun : Reader.run? {} ((json.write .twoSpaces 0).toList ++ "\n".toList) =
      some { mode := .done json } :=
    (Reader.readsAt_of_reads h).reads .twoSpaces 0 [] _ hends
  rw [read?, ofChars?, pretty, String.toList_append, hrun]
  rfl

end Suppression.Json

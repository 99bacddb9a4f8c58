import Mathlib.Data.List.Forall2
import Suppression.Proofs.JsonReading

namespace Suppression.Json

namespace Reader

variable {stack base : List Frame} {r next : Reader} {c : Char}

/-- The reader with more arrays and objects open around everything that it has seen. A document that
is complete becomes a part of what is around it. -/
def within (base : List Frame) (r : Reader) : Reader :=
  match r.mode, r.stack with
  | .done value, [] => complete base value
  | mode, stack => { stack := stack ++ base, mode }

theorem within_complete (stack base : List Frame) (value : Json) :
    (complete stack value).within base = complete (stack ++ base) value := by
  cases stack with
  | nil => rfl
  | cons frame rest => cases frame <;> rfl

theorem begin?_within (h : begin? stack c = some next) :
    begin? (stack ++ base) c = some (next.within base) := by
  unfold begin? at h ⊢
  split at h
  case h_7 =>
    split at h
    · next hnumber =>
        obtain rfl := Option.some.inj h
        simp [hnumber, within]
    · exact absurd h (Option.some_ne_none next).symm
  all_goals
    obtain rfl := Option.some.inj h
    rfl

theorem continue?_within (h : continue? stack c = some next) :
    continue? (stack ++ base) c = some (next.within base) := by
  unfold continue? at h
  split at h
  case h_3 | h_4 =>
    obtain rfl := Option.some.inj h
    rw [within_complete]
    rfl
  case h_5 => exact absurd h (Option.some_ne_none next).symm
  all_goals
    obtain rfl := Option.some.inj h
    rfl

theorem closeText_within (stack base : List Frame) (isKey : Bool) (text : Wide) :
    (closeText stack isKey text).within base = closeText (stack ++ base) isKey text := by
  unfold closeText
  cases isKey with
  | true => rfl
  | false => exact within_complete stack base (.str text)

theorem inText?_within {isKey : Bool} {s : OpenString} (h : inText? stack isKey s c = some next) :
    inText? (stack ++ base) isKey s c = some (next.within base) := by
  have hstay {s : OpenString} {r : Reader} (h : some { stack, mode := .text isKey s } = some r) :
      some { stack := stack ++ base, mode := .text isKey s } = some (r.within base) := by
    obtain rfl := Option.some.inj h
    rfl
  unfold inText? at h ⊢
  cases hescape : s.escape with
  | plain =>
      simp only [hescape] at h ⊢
      split_ifs at h ⊢
      · obtain rfl := Option.some.inj h
        rw [closeText_within]
      · exact hstay h
      · exact hstay h
  | escaped =>
      simp only [hescape] at h ⊢
      split_ifs at h ⊢
      · exact hstay h
      · obtain ⟨meaning, hmeaning, h⟩ := Option.bind_eq_some_iff.mp h
        exact Option.bind_eq_some_iff.mpr ⟨meaning, hmeaning, hstay h⟩
  | hex digits value =>
      simp only [hescape] at h ⊢
      obtain ⟨digit, hdigit, h⟩ := Option.bind_eq_some_iff.mp h
      refine Option.bind_eq_some_iff.mpr ⟨digit, hdigit, ?_⟩
      split_ifs at h ⊢
      · exact hstay h
      · exact hstay h

theorem closeNumber?_within {read : List Char} (h : closeNumber? stack read = some next) :
    closeNumber? (stack ++ base) read = some (next.within base) := by
  obtain ⟨decimal, hdecimal, rfl⟩ := Option.map_eq_some_iff.mp h
  rw [within_complete]
  exact Option.map_eq_some_iff.mpr ⟨decimal, hdecimal, rfl⟩

theorem between?_within (h : r.between? c = some next) :
    (r.within base).between? c = some (next.within base) := by
  obtain ⟨stack, mode⟩ := r
  unfold between? at h
  split at h
  · next hspace =>
      obtain rfl := Option.some.inj h
      exact if_pos hspace
  · next hspace =>
      rw [between?, if_neg hspace]
      cases mode with
      | value => exact begin?_within h
      | itemOrClose =>
          change (if c = ']' then continue? (stack ++ base) c else begin? (stack ++ base) c) = _
          dsimp only at h
          split_ifs at h ⊢
          · exact continue?_within h
          · exact begin?_within h
      | key =>
          change (if c = '"' then some _ else none) = _
          dsimp only at h
          split_ifs at h ⊢
          obtain rfl := Option.some.inj h
          rfl
      | keyOrClose =>
          change (if c = '"' then some _ else if c = '\x7d' then continue? (stack ++ base) c
            else none) = _
          dsimp only at h
          split_ifs at h ⊢
          · obtain rfl := Option.some.inj h
            rfl
          · exact continue?_within h
      | colon key =>
          dsimp only at h
          split at h
          · obtain rfl := Option.some.inj h
            rfl
          · exact absurd h (Option.some_ne_none next).symm
      | after => exact continue?_within h
      | text isKey content => exact absurd h (Option.some_ne_none next).symm
      | number read => exact absurd h (Option.some_ne_none next).symm
      | word rest meaning => exact absurd h (Option.some_ne_none next).symm
      | done result => exact absurd h (Option.some_ne_none next).symm

/-- The step lemma: each step is the same, whatever is open around what has been read. -/
theorem step?_within (h : r.step? c = some next) :
    (r.within base).step? c = some (next.within base) := by
  obtain ⟨stack, mode⟩ := r
  cases mode with
  | text isKey content => exact inText?_within h
  | number read =>
      change (if isNumberChar c then some _ else _) = _
      simp only [step?] at h
      split_ifs at h ⊢
      · obtain rfl := Option.some.inj h
        rfl
      · obtain ⟨closed, hclosed, hbetween⟩ := Option.bind_eq_some_iff.mp h
        exact Option.bind_eq_some_iff.mpr
          ⟨closed.within base, closeNumber?_within hclosed, between?_within hbetween⟩
  | word rest meaning =>
      cases rest with
      | nil => exact absurd h (Option.some_ne_none next).symm
      | cons first rest =>
          cases rest with
          | nil =>
              change (if c = first then some (complete (stack ++ base) meaning) else none) = _
              simp only [step?] at h
              split_ifs at h ⊢
              obtain rfl := Option.some.inj h
              rw [within_complete]
          | cons second rest =>
              change (if c = first then some _ else none) = _
              simp only [step?] at h
              split_ifs at h ⊢
              obtain rfl := Option.some.inj h
              rfl
  | done result =>
      -- Only a document that is complete has been put elsewhere than on top of the stack.
      have hwithin := @between?_within base _ _ _ h
      cases stack with
      | nil => exact (isBetween_complete base result c).trans hwithin
      | cons frame rest => exact hwithin
  | value => exact between?_within h
  | itemOrClose => exact between?_within h
  | key => exact between?_within h
  | keyOrClose => exact between?_within h
  | colon key => exact between?_within h
  | after => exact between?_within h

theorem run?_within {text : List Char} (h : r.run? text = some next) :
    (r.within base).run? text = some (next.within base) := by
  induction text generalizing r with
  | nil =>
      obtain rfl := Option.some.inj h
      rfl
  | cons c rest ih =>
      obtain ⟨first, hfirst, hrest⟩ := Option.bind_eq_some_iff.mp h
      rw [run?_cons, step?_within hfirst, Option.bind_some, ih hrest]

/-- A text that is a document is read as this document wherever a value may stand. -/
theorem run?_document {text : List Char} {json : Json} (h : ofChars? text = some json)
    (base : List Frame) {rest : List Char} (hrest : Ends rest) :
    run? { stack := base } (text ++ rest) = run? (complete base json) rest := by
  obtain ⟨last, hlast, hresult⟩ := Option.bind_eq_some_iff.mp h
  have hrun : run? { stack := base } text = some (last.within base) :=
    @run?_within base {} last text hlast
  obtain ⟨stack, mode⟩ := last
  rw [run_append, hrun, Option.bind_some]
  unfold result? at hresult
  split at hresult
  · next hmode hstack =>
      obtain rfl := hmode
      obtain rfl := hstack
      obtain rfl := Option.some.inj hresult
      rfl
  · next read hmode hstack =>
      obtain rfl := hmode
      obtain rfl := hstack
      obtain ⟨decimal, hdecimal, rfl⟩ := Option.map_eq_some_iff.mp hresult
      exact run?_endNumber base hdecimal hrest
  · exact nomatch hresult

/-- The run lemma: documents with commas between them are read one after the other as items of the
array that is open. -/
theorem run?_items {texts : List (List Char)} {records : List Json}
    (h : List.Forall₂ (fun text record => ofChars? text = some record) texts records)
    (hne : texts ≠ []) (read : List Json) (rest : List Char) :
    run? { stack := .array read :: base } ([','].intercalate texts ++ ']' :: rest) =
      run? (complete base (.arr (read.reverse ++ records))) rest := by
  induction h generalizing read with
  | nil => exact absurd rfl hne
  | @cons text record texts records htext hothers ih =>
      cases hothers with
      | nil =>
          rw [List.intercalate_singleton, run?_document htext _ ⟨']', rest, rfl, rfl⟩]
          change run? (complete base (.arr (record :: read).reverse)) rest = _
          rw [List.reverse_cons]
      | @cons second record' later records' hsecond hlater =>
          rw [List.intercalate_cons_cons, List.append_assoc, List.append_assoc,
            List.singleton_append, run?_document htext _ ⟨',', _, rfl, rfl⟩]
          change run? { stack := .array (record :: read) :: base } _ = _
          rw [ih (List.cons_ne_nil _ _), List.reverse_cons, List.append_assoc]
          rfl

end Reader

theorem exists_intercalate_eq (text : List Char) (texts : List (List Char)) :
    ∃ tail, [','].intercalate (text :: texts) = text ++ tail := by
  cases texts with
  | nil => exact ⟨[], by simp⟩
  | cons second later =>
      exact ⟨[','] ++ [','].intercalate (second :: later), by
        rw [List.intercalate_cons_cons, List.append_assoc]⟩

theorem ofChars?_array {texts : List (List Char)} {records : List Json}
    (h : List.Forall₂ (fun text record => ofChars? text = some record) texts records)
    (hobjects : ∀ text ∈ texts, text.head? = some '\x7b') :
    ofChars? ('[' :: ([','].intercalate texts ++ [']'])) = some (.arr records) := by
  cases h with
  | nil => rfl
  | @cons text record texts records htext hothers =>
      have hitems := @Reader.run?_items [] _ _ (.cons htext hothers) (List.cons_ne_nil _ _) [] []
      obtain ⟨own, hown⟩ : ∃ own, text = '\x7b' :: own :=
        List.head?_eq_some_iff.mp (hobjects text List.mem_cons_self)
      obtain ⟨tail, htail⟩ := exists_intercalate_eq text texts
      -- What opens an object can be neither the end of the array nor a space before it.
      have hfirst : Reader.run? { stack := [.array []], mode := .itemOrClose }
          ([','].intercalate (text :: texts) ++ [']']) =
          Reader.run? { stack := [.array []] } ([','].intercalate (text :: texts) ++ [']']) := by
        rw [htail, hown]
        rfl
      change (Reader.run? { stack := [.array []], mode := .itemOrClose } _).bind _ = _
      rw [hfirst, hitems]
      rfl

end Suppression.Json

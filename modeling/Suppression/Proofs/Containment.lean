import Mathlib.Order.RelIso.Basic
import Suppression.Proofs.ReadingOrder

namespace Suppression

def Span.extent (span : Span) : Position.Placeᵒᵈ × Position.Place :=
  (OrderDual.toDual span.start.place, span.stop.place)

theorem Span.extent_le_extent {s t : Span} :
    t.extent ≤ s.extent ↔ s.start.place ≤ t.start.place ∧ t.stop.place ≤ s.stop.place :=
  Iff.rfl

namespace Range

variable {a b outer mid inner : Range}

/-- Extents grow at both ends, and the whole file has the largest. -/
abbrev Extent :=
  WithTop (Position.Placeᵒᵈ × Position.Place)

def extent (range : Range) : Extent :=
  match range.span with
  | none => ⊤
  | some span => span.extent

theorem rank_eq_of_extent_eq (h : a.extent = b.extent) : a.rank = b.rank := by
  cases hs : a.span with
  | none =>
      cases ht : b.span with
      | none => simp [rank, hs, ht]
      | some t => simp [extent, hs, ht] at h
  | some s =>
      cases ht : b.span with
      | none => simp [extent, hs, ht] at h
      | some t =>
          obtain ⟨hstart, hstop⟩ : s.start.place = t.start.place ∧ s.stop.place = t.stop.place := by
            simpa [extent, hs, ht, Span.extent] using h
          simp [rank, hs, ht, Span.places, hstart, hstop]

theorem Accepted.contains_iff (houter : outer.Accepted) (hinner : inner.Accepted) :
    outer.contains inner = true ↔ outer.file = inner.file ∧ inner.extent ≤ outer.extent := by
  rw [contains, Bool.and_eq_true, beq_iff_eq]
  refine and_congr_right fun _ => ?_
  cases hs : outer.span with
  | none => simp [extent, hs]
  | some s =>
      cases ht : inner.span with
      | none => simp [extent, hs, ht]
      | some t =>
          have hcounted := houter.isCounted hs
          have hcounted' := hinner.isCounted ht
          have hstart := (hcounted'.start.compares hcounted.start).ne_lt
          have hstop := (hcounted'.stop.compares hcounted.stop).ne_gt
          simp only [extent, hs, ht, WithTop.coe_le_coe, Span.extent_le_extent, Bool.and_eq_true,
            bne_iff_ne, hstart, hstop]

theorem contains_of_file_ne (h : outer.file ≠ inner.file) : outer.contains inner = false := by
  simp [contains, h]

theorem contains_trans (houter : outer.Accepted) (hmid : mid.Accepted) (hinner : inner.Accepted)
    (h : outer.contains mid = true) (h' : mid.contains inner = true) :
    outer.contains inner = true := by
  obtain ⟨hfile, hle⟩ := (houter.contains_iff hmid).mp h
  obtain ⟨hfile', hle'⟩ := (hmid.contains_iff hinner).mp h'
  exact (houter.contains_iff hinner).mpr ⟨hfile.trans hfile', hle'.trans hle⟩

/-- One stretch lies within another and comes before it exactly if both have one start and it stops
earlier. -/
theorem Accepted.contains_and_compare_iff (ha : a.Accepted) (hb : b.Accepted)
    (hfile : a.file = b.file) {s t : Span} (hs : a.span = some s) (ht : b.span = some t) :
    a.contains b = true ∧ b.compare a = .ok .lt ↔ t.start = s.start ∧ t.stop.Before s.stop := by
  have hcounted := ha.isCounted hs
  have hcounted' := hb.isCounted ht
  have hcontains : a.contains b = true ↔
      s.start.place ≤ t.start.place ∧ t.stop.place ≤ s.stop.place := by
    simp only [ha.contains_iff hb, hfile, true_and, extent, hs, ht, WithTop.coe_le_coe,
      Span.extent_le_extent]
  have hcompare : b.compare a = .ok .lt ↔ t.start.place < s.start.place ∨
      t.start.place = s.start.place ∧ t.stop.place < s.stop.place := by
    simp only [hb.compare_eq_lt_iff ha hfile.symm, rank, hs, ht, WithBot.coe_lt_coe, Span.places,
      Prod.Lex.toLex_lt_toLex]
  rw [hcontains, hcompare, hcounted'.stop.before_iff hcounted.stop,
    ← hcounted'.start.place_inj hcounted.start]
  constructor
  · rintro ⟨⟨hstart, -⟩, hlt | hrest⟩
    -- what lies within another range does not start before it, so only the stops can decide
    · exact absurd hlt hstart.not_gt
    · exact hrest
  · rintro ⟨hstart, hstop⟩
    exact ⟨⟨hstart.ge, hstop.le⟩, Or.inr ⟨hstart, hstop⟩⟩

def InFile (file : Wide) : Type :=
  { range : Range // range.Accepted ∧ range.file = file }

namespace InFile

variable {file : Wide}

theorem file_eq (a b : InFile file) : a.val.file = b.val.file :=
  a.property.2.trans b.property.2.symm

theorem rank_inj {a b : InFile file} : a.val.rank = b.val.rank ↔ a = b :=
  (a.property.1.rank_inj b.property.1 (a.file_eq b)).trans Subtype.ext_iff.symm

def ranking (file : Wide) :
    (fun a b : InFile file => a.val.AtMost b.val) ↪r ((· ≤ ·) : Rank → Rank → Prop) where
  toFun range := range.val.rank
  inj' _ _ h := rank_inj.mp h
  map_rel_iff' {a b} := (a.property.1.atMost_iff b.property.1 (a.file_eq b)).symm

def extents (file : Wide) :
    (fun inner outer : InFile file => outer.val.contains inner.val = true) ↪r
      ((· ≤ ·) : Extent → Extent → Prop) where
  toFun range := range.val.extent
  inj' _ _ h := rank_inj.mp (rank_eq_of_extent_eq h)
  map_rel_iff' {inner outer} := by
    rw [outer.property.1.contains_iff inner.property.1]
    exact (and_iff_right (outer.file_eq inner)).symm

end InFile

/-- The order and the containment of the ranges of a file that queries may be about. Comparing them
always gives an order, which is turned round with the ranges and is `eq` only for one and the same
range; it is a linear order, in which the whole file comes first. Containment is a partial order, in
which the whole file takes in the most. One stretch lies within another and comes before it exactly
if both start at the same position and it stops earlier. Ranges of two files do not contain each
other and are refused by the comparison, which names both files. -/
theorem compare_contains_laws (file : Wide) :
    (∀ a b : InFile file, ∃ order, a.val.compare b.val = .ok order ∧
      b.val.compare a.val = .ok order.swap ∧ (order = .eq ↔ a = b)) ∧
    IsLinearOrder (InFile file) (fun a b => a.val.AtMost b.val) ∧
    (∀ a : InFile file, (wholeFile file).AtMost a.val) ∧
    IsPartialOrder (InFile file) (fun inner outer => outer.val.contains inner.val = true) ∧
    (∀ a : InFile file, (wholeFile file).contains a.val = true) ∧
    (∀ (a b : InFile file) (s t : Span), a.val.span = some s → b.val.span = some t →
      (a.val.contains b.val = true ∧ b.val.compare a.val = .ok .lt ↔
        t.start = s.start ∧ t.stop.Before s.stop)) ∧
    ∀ a b : Range, a.file ≠ b.file →
      a.contains b = false ∧ b.contains a = false ∧
        a.compare b = .error ⟨a.file, b.file⟩ ∧ b.compare a = .error ⟨b.file, a.file⟩ := by
  have hwhole := Accepted.wholeFile file
  refine ⟨?_, (InFile.ranking file).isLinearOrder, ?_, (InFile.extents file).isPartialOrder, ?_, ?_,
    ?_⟩
  · intro a b
    obtain ⟨order, horder, hcompares⟩ := a.property.1.exists_compare b.property.1 (a.file_eq b)
    obtain ⟨order', horder', hcompares'⟩ := b.property.1.exists_compare a.property.1 (b.file_eq a)
    obtain rfl : order' = order.swap := hcompares'.inj hcompares.swap
    exact ⟨order, horder, horder', hcompares.eq_eq.trans InFile.rank_inj⟩
  · intro a
    exact (hwhole.atMost_iff a.property.1 a.property.2.symm).mpr bot_le
  · intro a
    exact (hwhole.contains_iff a.property.1).mpr ⟨a.property.2.symm, le_top⟩
  · intro a b s t hs ht
    exact a.property.1.contains_and_compare_iff b.property.1 (a.file_eq b) hs ht
  · intro a b hfile
    exact ⟨contains_of_file_ne hfile, contains_of_file_ne hfile.symm, compare_of_file_ne hfile,
      compare_of_file_ne hfile.symm⟩

/-- Two stretches that start at the same position, with the whole file around them and a range of
another file beside them. -/
theorem compare_contains_laws_sameStart :
    let outer : Range := ⟨"a.py", some ⟨⟨.ofNat 2, .ofNat 4⟩, ⟨.ofNat 10, .ofNat 80⟩⟩⟩
    let inner : Range := ⟨"a.py", some ⟨⟨.ofNat 2, .ofNat 4⟩, ⟨.ofNat 10, .ofNat 9⟩⟩⟩
    let other : Range := ⟨"b.py", some ⟨⟨.ofNat 5, .ofNat 0⟩, ⟨.ofNat 5, .ofNat 0⟩⟩⟩
    outer.Accepted ∧ inner.Accepted ∧ outer ≠ inner ∧
      outer.contains inner = true ∧ inner.compare outer = .ok .lt ∧
      inner.contains outer = false ∧ outer.compare inner = .ok .gt ∧
      (wholeFile "a.py").contains inner = true ∧ (wholeFile "a.py").AtMost inner ∧
      (wholeFile "a.py").AtMost outer ∧
      outer.file ≠ other.file ∧ outer.contains other = false ∧
      outer.compare other = .error ⟨"a.py", "b.py"⟩ := by
  intro outer inner other
  have houter : outer.Accepted :=
    .between (between_ofNat "a.py" 4 80 (by decide) (by decide))
  have hinner : inner.Accepted :=
    .between (between_ofNat "a.py" 4 9 (by decide) (by decide))
  have hne : outer ≠ inner := by decide +kernel
  have hfile : outer.file ≠ other.file := by decide
  let whole : InFile "a.py" := ⟨wholeFile "a.py", .wholeFile "a.py", rfl⟩
  let a : InFile "a.py" := ⟨outer, houter, rfl⟩
  let b : InFile "a.py" := ⟨inner, hinner, rfl⟩
  obtain ⟨horder, hlinear, hleast, hpartial, hgreatest, hstart, hfiles⟩ :=
    compare_contains_laws "a.py"
  obtain ⟨hcontains, hlt⟩ := (hstart a b _ _ rfl rfl).mpr ⟨rfl, by decide +kernel⟩
  have hnot : inner.contains outer = false := by
    by_contra hcontains'
    rw [Bool.not_eq_false] at hcontains'
    exact hne (congrArg Subtype.val (hpartial.antisymm a b hcontains' hcontains))
  have hgt : outer.compare inner = .ok .gt := by
    obtain ⟨order, hforth, hback, -⟩ := horder b a
    obtain rfl : order = .lt := Except.ok.inj (hforth.symm.trans hlt)
    exact hback
  obtain ⟨hother, -, herror, -⟩ := hfiles outer other hfile
  exact ⟨houter, hinner, hne, hcontains, hlt, hnot, hgt, hgreatest b, hleast b,
    hlinear.trans whole b a (hleast b) (Or.inl hlt), hfile, hother, herror⟩

end Range

end Suppression

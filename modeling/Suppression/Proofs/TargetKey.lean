import Suppression.Proofs.PlainTarget
import Suppression.Proofs.StopEffect
import Suppression.Proofs.TextOrder

namespace Suppression

namespace Target

/-- What of a target decides which results it speaks for and which stops end it. -/
def mark (target : Target) : Wide × Option Wide :=
  (target.name, target.rule)

/-- The key that is written for a name of the flat grammar, alone or with a rule. -/
inductive Keyed : Wide × Option Wide → String → Prop
  | name {name : String} : (∀ c ∈ name.toList, Grammar.isNameChar c = true) →
      Keyed (name, none) name
  | rule {name rule : String} : (∀ c ∈ name.toList, Grammar.isNameChar c = true) →
      (∀ c ∈ rule.toList, c ≠ ',' ∧ c ≠ '(') →
      Keyed (name, some rule) (name ++ "(" ++ rule ++ ")")

variable {target other : Target}

theorem IsPlain.exists_keyed (h : target.IsPlain) :
    ∃ text : String, target.key = text ∧ Keyed target.mark text := by
  obtain ⟨analyzer, rule, ruleFirst⟩ := target
  obtain ⟨written, rfl : analyzer = written, -, hchars⟩ := h.analyzer
  have hname : ∀ c ∈ (Text.lower written).toList, Grammar.isNameChar c = true := by
    intro c hc
    rw [Text.lower, String.toList_ofList, Text.lowerAfter_of_isNameChar hchars] at hc
    obtain ⟨d, hd, rfl⟩ := List.mem_map.mp hc
    exact Grammar.isNameChar_toLower (hchars d hd)
  cases rule with
  | none => exact ⟨_, rfl, .name hname⟩
  | some rule =>
      obtain ⟨text, rfl, -, htext⟩ := h.rule rule rfl
      exact ⟨_, rfl, .rule hname htext⟩

variable {mark other : Wide × Option Wide} {text : String}

theorem Keyed.comma_not_mem (h : Keyed mark text) : ',' ∉ text.toList := by
  cases h with
  | name hname => exact fun hmem => absurd (hname _ hmem) (by decide)
  | rule hname hrule =>
      simp only [String.toList_append, List.mem_append]
      rintro (((hmem | hmem) | hmem) | hmem)
      · exact absurd (hname _ hmem) (by decide)
      · exact absurd hmem (by decide)
      · exact (hrule _ hmem).1 rfl
      · exact absurd hmem (by decide)

theorem Keyed.unique (h : Keyed mark text) {key : String} (hother : Keyed other key)
    (hkey : text = key) : mark = other := by
  have hopened {name : String} (hname : ∀ c ∈ name.toList, Grammar.isNameChar c = true) :
      '(' ∉ name.toList := fun hmem => absurd (hname _ hmem) (by decide)
  cases h with
  | name hname =>
      cases hother with
      | name => rw [hkey]
      | rule hname' hrule' => exact absurd (hkey ▸ by simp) (hopened hname)
  | rule hname hrule =>
      cases hother with
      | name hname' => exact absurd (hkey ▸ by simp) (hopened hname')
      | @rule name' rule' hname' hrule' =>
          rename_i name rule
          have hafter : '(' ∉ rule.toList ++ [')'] := by
            rw [List.mem_append, List.mem_singleton]
            rintro (hmem | heq)
            · exact (hrule _ hmem).2 rfl
            · exact absurd heq (by decide)
          have hlists : name.toList ++ '(' :: (rule.toList ++ [')']) =
              name'.toList ++ '(' :: (rule'.toList ++ [')']) := by
            simpa using congrArg String.toList hkey
          obtain ⟨hnames, -, hrules⟩ :=
            (List.append_cons_inj_of_notMem (hopened hname) hafter).mp hlists
          rw [String.toList_inj.mp hnames, String.toList_inj.mp (List.append_cancel_right hrules)]

end Target

namespace Target

variable {target other : Target}

theorem mark_eq_of_key_eq (h : target.IsPlain) (hother : other.IsPlain)
    (hkey : target.key = other.key) : target.mark = other.mark := by
  obtain ⟨text, htext, hkeyed⟩ := h.exists_keyed
  obtain ⟨text', htext', hkeyed'⟩ := hother.exists_keyed
  rw [htext, htext'] at hkey
  exact hkeyed.unique hkeyed' (Wide.text.inj hkey)

theorem isWildcard_iff : target.isWildcard = true ↔ target.mark = (wildcard, none) := by
  simp [isWildcard, mark]

end Target

namespace Targets

variable {a b stop : Targets}

theorem nodup_eraseDups (texts : List Wide) : texts.eraseDups.Nodup := by
  induction hlength : texts.length using Nat.strong_induction_on generalizing texts with
  | _ length ih =>
      cases texts with
      | nil => simp
      | cons first rest =>
          have hshorter := List.length_filter_le (fun text => !text == first) rest
          rw [List.length_cons] at hlength
          rw [List.eraseDups_cons, List.nodup_cons, List.mem_eraseDups]
          refine ⟨by simp, ih _ ?_ _ rfl⟩
          omega

def keyParts (targets : Targets) : List Wide :=
  if isWildcard targets then [Target.wildcard]
  else Wide.sort (targets.map Target.key).eraseDups

theorem key_eq_join (targets : Targets) : key targets = Wide.join "," (keyParts targets) := by
  unfold key keyParts
  split <;> rfl

theorem mem_keyParts (h : isWildcard a = false) {text : Wide} :
    text ∈ keyParts a ↔ ∃ target ∈ a, target.key = text := by
  simp [keyParts, h, Wide.mem_sort]

theorem keyParts_ne_nil (targets : Targets) : keyParts targets ≠ [] := by
  cases h : isWildcard targets with
  | true => simp [keyParts, h]
  | false =>
      obtain ⟨target, hmem⟩ := List.exists_mem_of_ne_nil _ (ne_nil_of_isWildcard_eq_false h)
      exact List.ne_nil_of_mem ((mem_keyParts h).mpr ⟨target, hmem, rfl⟩)

/-- What the key of a plain list is joined from can be read back from it. -/
structure KeyTexts (targets : Targets) (texts : List String) : Prop where
  keyParts : Targets.keyParts targets = texts.map .text
  key : Targets.key targets = .text (",".intercalate texts)
  splitOn : (",".intercalate texts).toList.splitOn ',' = texts.map String.toList

theorem ArePlain.exists_text (h : a.ArePlain) {part : Wide} (hmem : part ∈ keyParts a) :
    ∃ text : String, part = text ∧ ',' ∉ text.toList := by
  cases hwildcard : isWildcard a with
  | true =>
      obtain rfl : part = Target.wildcard := by simpa [keyParts, hwildcard] using hmem
      exact ⟨"all", rfl, by decide⟩
  | false =>
      obtain ⟨target, htarget, rfl⟩ := (mem_keyParts hwildcard).mp hmem
      obtain ⟨text, htext, hkeyed⟩ := (h target htarget).exists_keyed
      exact ⟨text, htext, hkeyed.comma_not_mem⟩

theorem ArePlain.exists_keyTexts (h : a.ArePlain) : ∃ texts, KeyTexts a texts := by
  choose! text htext hcomma using fun part (hmem : part ∈ keyParts a) => h.exists_text hmem
  have hparts : keyParts a = ((keyParts a).map text).map .text := by
    rw [List.map_map]
    exact (List.map_id _).symm.trans (List.map_congr_left htext)
  refine ⟨(keyParts a).map text, hparts, ?_, ?_⟩
  · rw [key_eq_join, ← Wide.join_map_text, ← hparts]
  · rw [String.toList_intercalate]
    apply List.splitOn_intercalate
    · rintro _ hmem
      obtain ⟨_, htexts, rfl⟩ := List.mem_map.mp hmem
      obtain ⟨part, hpart, rfl⟩ := List.mem_map.mp htexts
      exact hcomma part hpart
    · simpa using keyParts_ne_nil a

theorem ArePlain.keyParts_eq (ha : a.ArePlain) (hb : b.ArePlain) (h : key a = key b) :
    keyParts a = keyParts b := by
  obtain ⟨texts, htexts⟩ := ha.exists_keyTexts
  obtain ⟨others, hothers⟩ := hb.exists_keyTexts
  rw [htexts.key, hothers.key] at h
  have hsplit := htexts.splitOn
  rw [Wide.text.inj h, hothers.splitOn] at hsplit
  have hsame : others = texts :=
    (List.map_injective_iff.mpr fun _ _ => String.toList_inj.mp) hsplit
  rw [htexts.keyParts, hothers.keyParts, hsame]

/-- The two lists name the same targets, whatever their order, their repetitions and the letter case
of their analyzers. -/
def Match (a b : Targets) : Prop :=
  ∀ mark, mark ∈ a.map Target.mark ↔ mark ∈ b.map Target.mark

theorem isWildcard_iff : isWildcard a = true ↔
    ∀ mark ∈ a.map Target.mark, mark = (Target.wildcard, none) := by
  simp [isWildcard, Target.isWildcard_iff]

theorem Match.symm (h : Match a b) : Match b a := fun mark => (h mark).symm

theorem Match.isWildcard (h : Match a b) : isWildcard a = isWildcard b := by
  rw [Bool.eq_iff_iff, isWildcard_iff, isWildcard_iff]
  simp only [h _]

theorem ArePlain.isWildcard_of_keyParts (hb : b.ArePlain)
    (h : keyParts b = [Target.wildcard]) : isWildcard b = true := by
  by_contra hfalse
  rw [Bool.not_eq_true] at hfalse
  apply Bool.eq_false_iff.mp hfalse
  rw [isWildcard, List.all_eq_true]
  intro target hmem
  have hkey : target.key = Target.wildcard := by
    have := (mem_keyParts hfalse).mpr ⟨target, hmem, rfl⟩
    rwa [h, List.mem_singleton] at this
  have hall : Target.IsPlain { analyzer := "all" } :=
    ⟨⟨"all", rfl, by decide, List.all_eq_true.mp (by decide)⟩, by simp, rfl⟩
  exact Target.isWildcard_iff.mpr (Target.mark_eq_of_key_eq (hb target hmem) hall hkey)

theorem Match.key_eq (h : Match a b) : key a = key b := by
  have hmark (targets : Targets) : targets.map Target.key =
      (targets.map Target.mark).map fun mark => Target.withRule mark.1 mark.2 := by
    rw [List.map_map]
    rfl
  have hperm : (a.map Target.key).eraseDups.Perm (b.map Target.key).eraseDups := by
    rw [List.perm_ext_iff_of_nodup (nodup_eraseDups _) (nodup_eraseDups _)]
    intro text
    rw [List.mem_eraseDups, List.mem_eraseDups, hmark a, hmark b, List.mem_map, List.mem_map]
    simp only [h _]
  rw [key, key, h.isWildcard, Wide.sort_eq_of_perm hperm]

theorem ArePlain.mem_marks (ha : a.ArePlain) (hb : b.ArePlain) (hwa : isWildcard a = false)
    (hwb : isWildcard b = false) (h : keyParts a = keyParts b) {mark : Wide × Option Wide}
    (hmark : mark ∈ a.map Target.mark) : mark ∈ b.map Target.mark := by
  obtain ⟨target, htarget, rfl⟩ := List.mem_map.mp hmark
  have hpart := (mem_keyParts hwa).mpr ⟨target, htarget, rfl⟩
  rw [h] at hpart
  obtain ⟨other, hother, hkey⟩ := (mem_keyParts hwb).mp hpart
  rw [← Target.mark_eq_of_key_eq (hb other hother) (ha target htarget) hkey]
  exact List.mem_map_of_mem hother

/-- Two plain lists have the same key just if each is for every analyzer, or both name the same
targets. -/
theorem key_eq_iff (ha : a.ArePlain) (hb : b.ArePlain) :
    key a = key b ↔ isWildcard a = true ∧ isWildcard b = true ∨ Match a b := by
  constructor
  · intro h
    have hparts := ha.keyParts_eq hb h
    cases hwa : isWildcard a with
    | true =>
        simp only [keyParts, hwa, if_true] at hparts
        exact Or.inl ⟨rfl, hb.isWildcard_of_keyParts hparts.symm⟩
    | false =>
        cases hwb : isWildcard b with
        | true =>
            rw [show keyParts b = [Target.wildcard] by simp [keyParts, hwb]] at hparts
            rw [ha.isWildcard_of_keyParts hparts] at hwa
            exact absurd hwa (by simp)
        | false =>
            exact Or.inr fun mark =>
              ⟨ha.mem_marks hb hwa hwb hparts, hb.mem_marks ha hwb hwa hparts.symm⟩
  · rintro (⟨hwa, hwb⟩ | h)
    · simp [key, hwa, hwb]
    · exact h.key_eq

theorem endsTarget_eq_of_mark {target other : Target} (h : target.mark = other.mark)
    (stop : Targets) : endsTarget stop target = endsTarget stop other := by
  obtain ⟨hname, hrule⟩ := Prod.mk.inj h
  simp only [endsTarget, Target.ends, hname, hrule]

theorem Match.without (h : Match a b) (stop : Targets) :
    Match (without a stop) (without b stop) := by
  have hsub {a b : Targets} (h : Match a b) (mark : Wide × Option Wide)
      (hmem : mark ∈ (Targets.without a stop).map Target.mark) :
      mark ∈ (Targets.without b stop).map Target.mark := by
    obtain ⟨target, htarget, rfl⟩ := List.mem_map.mp hmem
    obtain ⟨hin, hends⟩ := mem_without.mp htarget
    obtain ⟨other, hother, hmark⟩ := List.mem_map.mp ((h _).mp (List.mem_map_of_mem hin))
    rw [← hmark]
    refine List.mem_map_of_mem (mem_without.mpr ⟨hother, ?_⟩)
    rw [endsTarget_eq_of_mark hmark, hends]
  exact fun mark => ⟨hsub h mark, hsub h.symm mark⟩

theorem Match.without_eq_self (h : Match a b) (hself : Targets.without a stop = a) :
    Targets.without b stop = b := by
  rw [without_eq_self_iff] at hself ⊢
  intro other hother
  obtain ⟨target, htarget, hmark⟩ := List.mem_map.mp ((h _).mpr (List.mem_map_of_mem hother))
  rw [← endsTarget_eq_of_mark hmark, hself target htarget]

theorem Match.eq_nil (h : Match a b) (hnil : a = []) : b = [] := by
  subst hnil
  cases b with
  | nil => rfl
  | cons target rest => simpa using (h target.mark).mpr (by simp)

theorem ArePlain.without (h : a.ArePlain) (stop : Targets) : (Targets.without a stop).ArePlain :=
  fun target hmem => h target (mem_without.mp hmem).1

theorem ArePlain.left (h : a.ArePlain) {rest : Targets}
    (hleft : (stopEffect stop a).left a = some rest) : rest.ArePlain := by
  cases heffect : stopEffect stop a with
  | none =>
      obtain rfl : a = rest := by simpa [heffect, StopEffect.left] using hleft
      exact h
  | close => simp [heffect, StopEffect.left] at hleft
  | narrow remaining =>
      obtain rfl : remaining = rest := by simpa [heffect, StopEffect.left] using hleft
      rw [(eq_of_narrow heffect).1]
      exact h.without stop

theorem stopEffect_eq_none_of_key (ha : a.ArePlain) (hb : b.ArePlain) (h : key a = key b)
    (hnone : stopEffect stop a = .none) : stopEffect stop b = .none := by
  obtain ⟨hstop, hleaves⟩ := stopEffect_eq_none_iff.mp hnone
  refine stopEffect_eq_none_iff.mpr ⟨hstop, ?_⟩
  rcases (key_eq_iff ha hb).mp h with ⟨-, hwb⟩ | hmatch
  · exact Or.inl hwb
  · rw [← hmatch.isWildcard]
    exact hleaves.imp id hmatch.without_eq_self

theorem left_key (ha : a.ArePlain) (hb : b.ArePlain) (h : key a = key b) (stop : Targets) :
    ((stopEffect stop a).left a).map key = ((stopEffect stop b).left b).map key := by
  rcases (key_eq_iff ha hb).mp h with ⟨hwa, hwb⟩ | hmatch
  · rw [stopEffect_spec, stopEffect_spec]
    simp only [hwa, hwb, true_or, if_true]
    split_ifs <;> simp [StopEffect.left, h]
  · have hself : without a stop = a ↔ without b stop = b :=
      ⟨hmatch.without_eq_self, hmatch.symm.without_eq_self⟩
    have hnil : without a stop = [] ↔ without b stop = [] :=
      ⟨(hmatch.without stop).eq_nil, (hmatch.without stop).symm.eq_nil⟩
    rw [stopEffect_spec, stopEffect_spec, hmatch.isWildcard]
    simp only [hself, hnil]
    split_ifs <;> simp [StopEffect.left, h, (hmatch.without stop).key_eq]

end Targets

end Suppression

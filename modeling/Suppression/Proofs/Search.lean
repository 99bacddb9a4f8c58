import Suppression.Proofs.AskingFiles
import Suppression.Proofs.FileLines

namespace Suppression

/-- How a search over the lines beyond a watermark and up to a last line may end. -/
inductive Searched (matcher : Matcher) (lines : List (List Char)) (span : Option Span)
    (origin : Origin) (line last : Nat) (found : List LineDirective) :
    Except QueryError Found → Prop
  | complete {directives : List LineDirective} :
      matcher.inLinesFrom (line + 1) ((lines.drop line).take (last - line)) = .ok directives →
        Searched matcher lines span origin line last found (.ok (.complete (directives ++ found)))
  | inline {directive : Directive} {number : Nat} : line < number → number ≤ last →
      matcher.Finds lines number directive →
        TrackerSettings.endsSearch span origin (directive.onLine number) = true →
          Searched matcher lines span origin line last found
            (.ok (.inline (directive.onLine number)))
  | broken {text : List Char} {number : Nat} {error : String} : line < number → number ≤ last →
      lines[number - 1]? = some text → matcher (String.ofList text) = .error error →
        Searched matcher lines span origin line last found (.error (.grammar error))

namespace Searched

variable {matcher : Matcher} {lines : List (List Char)} {span : Option Span} {origin : Origin}
  {line last : Nat} {found : List LineDirective} {result : Except QueryError Found}

theorem extend (hle : line ≤ last) {text : List Char} (htext : lines[last]? = some text)
    {directive? : Option Directive} (hmatch : matcher (String.ofList text) = .ok directive?)
    (h : Searched matcher lines span origin line last
      ((directive?.map fun directive => directive.onLine (last + 1)).toList ++ found) result) :
    Searched matcher lines span origin line (last + 1) found result := by
  cases h with
  | @complete directives hdirectives =>
      have hcount : line + (last - line) = last := by omega
      have hlast : lines[line + (last - line)]? = some text := by rwa [hcount]
      have hslice := (Matcher.inLinesFrom_slice_succ hlast).mpr
        ⟨directives, directive?, hdirectives, hmatch, rfl⟩
      rw [hcount, show last - line + 1 = last + 1 - line by omega] at hslice
      rw [← List.append_assoc]
      exact .complete hslice
  | inline hlt hnumber hfinds hends => exact .inline hlt (by omega) hfinds hends
  | broken hlt hnumber hline hmatch' => exact .broken hlt (by omega) hline hmatch'

end Searched

theorem TrackerSettings.lastLine_le (span : Span) (lineCount : Nat) :
    lastLine span lineCount ≤ lineCount := by
  unfold lastLine
  split
  · next hlt =>
      cases hline : span.stop.line with
      | nan => simp [Number.toNat]
      | infinite negative => simp [Number.toNat]
      | finite value =>
          rw [hline] at hlt
          have hvalue : value < (lineCount : Rat) := Number.finite_lt_finite.mp hlt
          have hfloor : value.floor < (lineCount : Int) := Rat.floor_lt_iff.mpr hvalue
          simp only [Number.toNat]
          omega
  · exact Nat.le_refl lineCount

theorem TrackerSettings.kind_of_endsSearch {span : Option Span} {origin : Origin}
    {directive : LineDirective} (h : endsSearch span origin directive = true) :
    directive.kind = .inline := by
  cases span with
  | none => simp [endsSearch] at h
  | some span =>
      simp only [endsSearch, Bool.and_eq_true, decide_eq_true_eq] at h
      exact h.1.1.1

namespace Tracker

variable {tree : FileTree} {tracker : Tracker}

theorem ask_directiveAt (h : tracker.reader.Reflects tree) {file : Wide} {text : String}
    (htext : tree.readText file = .ok text) {above : Nat} {line : List Char}
    (hline : (Text.fileLines text.toList)[above]? = some line) (settings : TrackerSettings) :
    ∃ after, Idles tree tracker after ∧
      tracker.ask tree (settings.directiveAt file (above + 1)) =
        (((settings.matcher (String.ofList line)).mapError .grammar).map fun directive? =>
          directive?.map fun directive => directive.onLine (above + 1), after) := by
  obtain ⟨after, hread, hidle⟩ := ask_readLine h htext hline
  refine ⟨after, hidle, ?_⟩
  unfold TrackerSettings.directiveAt
  rw [ask_bind_ok hread]
  cases hmatch : settings.matcher (String.ofList line) with
  | error e =>
      exact ask_bind_error (by rw [ask_ofExcept]; rfl) _
  | ok directive? =>
      rw [ask_bind_ok (by rw [ask_ofExcept]; rfl)]
      rfl

theorem ask_search (h : tracker.reader.Reflects tree) {file : Wide} {text : String}
    (htext : tree.readText file = .ok text) (settings : TrackerSettings) (span : Option Span)
    (origin : Origin) (line : Nat) (found : List LineDirective) {last : Nat}
    (hlast : last ≤ (Text.fileLines text.toList).length) :
    ∃ result after, Idles tree tracker after ∧
      tracker.ask tree (settings.search file span origin (.ofNat line) found last) =
        (result, after) ∧
      Searched settings.matcher (Text.fileLines text.toList) span origin line last found
        result := by
  have hnone : settings.matcher.inLinesFrom (line + 1)
      (((Text.fileLines text.toList).drop line).take 0) = .ok [] := rfl
  -- The search goes upwards, so the induction is on the line that it begins with.
  induction last generalizing tracker found with
  | zero =>
      have hstop : ¬ Number.ofNat line < Number.ofNat 0 := by simp
      refine ⟨.ok (.complete found), tracker, .refl tree tracker, ?_, ?_⟩
      · simp only [TrackerSettings.search, hstop, if_false]
        rfl
      · exact .complete (by rwa [Nat.zero_sub])
  | succ above ih =>
      by_cases hlt : Number.ofNat line < Number.ofNat (above + 1)
      · have hline : line ≤ above := by
          have := Number.ofNat_lt_ofNat.mp hlt
          omega
        obtain ⟨top, htop⟩ : ∃ top, (Text.fileLines text.toList)[above]? = some top :=
          ⟨_, List.getElem?_eq_getElem hlast⟩
        obtain ⟨mid, hidle, hask⟩ := ask_directiveAt h htext htop settings
        simp only [TrackerSettings.search, hlt, if_true]
        cases hmatch : settings.matcher (String.ofList top) with
        | error e =>
            rw [hmatch] at hask
            refine ⟨_, mid, hidle, ask_bind_error hask _, ?_⟩
            exact .broken (Nat.lt_succ_of_le hline) le_rfl htop hmatch
        | ok directive? =>
            rw [hmatch] at hask
            rw [ask_bind_ok hask]
            cases directive? with
            | none =>
                obtain ⟨result, after, hidle', hask', hsearched⟩ :=
                  ih (hidle.reflects h) found (by omega)
                exact ⟨result, after, hidle.trans hidle', hask',
                  hsearched.extend hline htop hmatch⟩
            | some directive =>
                simp only [Option.map_some]
                by_cases hends : TrackerSettings.endsSearch span origin
                    (directive.onLine (above + 1)) = true
                · simp only [hends, if_true]
                  refine ⟨.ok (.inline (directive.onLine (above + 1))), mid, hidle, rfl, ?_⟩
                  exact .inline (Nat.lt_succ_of_le hline) le_rfl ⟨_, htop, hmatch⟩ hends
                · obtain ⟨result, after, hidle', hask', hsearched⟩ :=
                    ih (hidle.reflects h) (directive.onLine (above + 1) :: found) (by omega)
                  simp only [hends]
                  exact ⟨result, after, hidle.trans hidle', hask',
                    hsearched.extend hline htop hmatch⟩
      · refine ⟨.ok (.complete found), tracker, .refl tree tracker, ?_, ?_⟩
        · simp only [TrackerSettings.search, hlt, if_false]
          rfl
        · rw [Number.ofNat_lt_ofNat] at hlt
          exact .complete (by rwa [show above + 1 - line = 0 by omega])

theorem ask_searchFrom (h : tracker.reader.Reflects tree) {file : Wide} {text : String}
    (htext : tree.readText file = .ok text) (settings : TrackerSettings) (span : Option Span)
    (origin : Origin) (line : Nat) {last : Nat}
    (hlast : last ≤ (Text.fileLines text.toList).length) :
    ∃ result after, Idles tree tracker after ∧
      tracker.ask tree (settings.searchFrom file span origin (.ofNat line) last) =
        (result, after) ∧
      Searched settings.matcher (Text.fileLines text.toList) span origin line last [] result := by
  obtain ⟨mid, hnote, hidle⟩ := ask_note tree tracker settings ("Scanning " ++ file ++ " lines " ++
    (Number.ofNat last).text ++ " down to " ++ (Number.ofNat line).succ.text)
  obtain ⟨result, after, hidle', hask, hsearched⟩ :=
    ask_search (hidle.reflects h) htext settings span origin line [] hlast
  refine ⟨result, after, hidle.trans hidle', ?_, hsearched⟩
  rw [TrackerSettings.searchFrom, ask_bind_ok hnote, hask]

end Tracker

end Suppression

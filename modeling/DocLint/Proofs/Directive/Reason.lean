import DocLint.Proofs.Directive.Suppression
import DocLint.Proofs.Rule.Disabled

/-!
# Directives without a reason

A violation has two severities: the one its rule reports with, and the one the settings ask for,
which is put on it at the end. Whether a directive has to give a reason depends on the first of
them, and a violation is dropped or noted before it gets the second.

So a rule that reports errors by itself is never silenced without a reason, also if the settings
play its violations down. A rule that does not is silenced without a reason, also if the settings
make its violations errors (`checkSource_silences_iff`).
-/

namespace DocLint

open Directive

variable {s : Settings} {rule : Rule} {content : String} {v w : Violation} {d : Directive}
  {file : SourceFile} {outline : Outline}

/-- The rules that settings select have the severities they have by themselves. -/
theorem Selection.severity_of_mem (h : rule ∈ (Selection.ofSettings s).rules) :
    rule.severity = rule.name.severity := by
  rw [Selection.rules_ofSettings] at h
  obtain ⟨r, -, rfl⟩ := List.mem_map.1 h
  rw [Rule.name_configured]
  rfl

namespace Analyzer

/-! ### What one rule reports -/

theorem underDirectives_of_no_reason
    (hfirst : ∃ k, IsFirst content rule.name.text v.location.span.line k d)
    (hreason : d.reason = none) :
    underDirectives content rule v =
      if rule.severity = .error then some { v with labels := v.labels ++ [ignoredNote v] }
      else none := by
  unfold underDirectives
  rw [find?_eq_some_iff_isFirst.2 hfirst]
  dsimp only
  rw [hreason, Rule.requiresReason]
  by_cases herror : rule.severity = .error <;> simp [herror]

theorem mem_reported_iff (henabled : s.isEnabled rule.name.text = true) :
    w ∈ reported s file outline rule ↔
      ∃ v ∈ rule.check file outline, ∃ left, underDirectives file.content rule v = some left ∧
        withSeverity s rule left = w := by
  unfold reported
  rw [if_pos henabled]
  simp only [List.mem_map, List.mem_filterMap]
  constructor
  · rintro ⟨left, ⟨v, hv, hleft⟩, hw⟩
    exact ⟨v, hv, left, hleft, hw⟩
  · rintro ⟨v, hv, left, hleft, hw⟩
    exact ⟨left, ⟨v, hv, hleft⟩, hw⟩

/-- The violation with the severity that it is reported with, and with the note on a directive
that is ignored. -/
def noted (s : Settings) (rule : Rule) (v : Violation) : Violation :=
  { v with
    severity := (s.severity? rule.name.text).getD rule.severity
    labels := v.labels ++ [ignoredNote v] }

theorem noted_mem_reported (henabled : s.isEnabled rule.name.text = true)
    (hv : v ∈ rule.check file outline)
    (hfirst : ∃ k, IsFirst file.content rule.name.text v.location.span.line k d)
    (hreason : d.reason = none) (herror : rule.severity = .error) :
    noted s rule v ∈ reported s file outline rule := by
  have hleft := underDirectives_of_no_reason hfirst hreason
  rw [if_pos herror] at hleft
  refine (mem_reported_iff henabled).2 ⟨v, hv, _, hleft, ?_⟩
  unfold withSeverity noted
  rw [(Rule.signed_of_mem_check hv).2]

/-- Where a rule is silenced, it reports nothing at all at the place. -/
theorem location_ne_of_mem_reported (henabled : s.isEnabled rule.name.text = true)
    (hfirst : ∃ k, IsFirst file.content rule.name.text v.location.span.line k d)
    (hreason : d.reason = none) (herror : rule.severity ≠ .error)
    (hw : w ∈ reported s file outline rule) : w.location ≠ v.location := by
  obtain ⟨found, -, left, hleft, rfl⟩ := (mem_reported_iff henabled).1 hw
  obtain ⟨labels, rfl⟩ := exists_labels_of_underDirectives hleft
  intro hlocation
  have hlocation : found.location = v.location := hlocation
  rw [← hlocation] at hfirst
  rw [underDirectives_of_no_reason hfirst hreason, if_neg herror] at hleft
  cases hleft

/-! ### What a check reports -/

theorem checkSource_under_eq_ok (a : Analyzer) (s : Settings) {path : String}
    {reader : SourceReader} (hreader : a.readerFor path = some reader)
    (houtline : reader.read content = .ok outline) :
    (a.under s).checkSource path content = .ok ((Selection.ofSettings s).rules.flatMap
      (reported s { path, content, root := a.root } outline)) := by
  have hunder : (a.under s).readerFor path = some reader := hreader
  unfold checkSource
  rw [hunder]
  dsimp only
  rw [houtline]
  rfl

end Analyzer

/-- **What a directive without a reason silences.** Let it be the first that applies to a
violation of a selected rule. If the rule reports errors by itself, the violation stays, with a
note and with the severity that the settings ask for. If it does not, nothing of the rule is
reported at this place, and this also where the settings ask for errors. -/
theorem checkSource_silences_iff (a : Analyzer) (s : Settings) (path content : String)
    (reader : SourceReader) (hreader : a.readerFor path = some reader)
    (outline : Outline) (houtline : reader.read content = .ok outline)
    (rule : Rule) (hrule : rule ∈ (Selection.ofSettings s).rules)
    (henabled : s.isEnabled rule.name.text = true)
    (v : Violation) (hv : v ∈ rule.check { path, content, root := a.root } outline)
    (d : Directive) (hfirst : ∃ k, IsFirst content rule.name.text v.location.span.line k d)
    (hreason : d.reason = none) :
    ∃ found, (a.under s).checkSource path content = .ok found ∧
      ((∀ w ∈ found, w.rule = rule.name.text → w.location ≠ v.location) ↔
        rule.name.severity ≠ .error) ∧
      (rule.name.severity = .error → Analyzer.noted s rule v ∈ found) := by
  refine ⟨_, a.checkSource_under_eq_ok s hreader houtline, ?_⟩
  have hkept (herror : rule.name.severity = .error) : Analyzer.noted s rule v ∈
      (Selection.ofSettings s).rules.flatMap
        (Analyzer.reported s { path, content, root := a.root } outline) := by
    rw [← Selection.severity_of_mem hrule] at herror
    exact List.mem_flatMap.2
      ⟨rule, hrule, Analyzer.noted_mem_reported henabled hv hfirst hreason herror⟩
  refine ⟨⟨?_, ?_⟩, hkept⟩
  · intro hsilent herror
    exact hsilent _ (hkept herror) (Rule.signed_of_mem_check hv).1 rfl
  · intro herror w hw hname
    obtain ⟨other, hother, hw⟩ := List.mem_flatMap.1 hw
    -- The rule may be selected twice, but all that goes by its name is silenced in the same way.
    have hsame : other.name = rule.name :=
      RuleName.text_injective ((Analyzer.rule_of_mem_reported hw).symm.trans hname)
    rw [← hsame] at henabled hfirst herror
    rw [← Selection.severity_of_mem hother] at herror
    exact Analyzer.location_ne_of_mem_reported henabled hfirst hreason herror hw

/-- A function on the second line that calls the log. -/
def loggingFunction : Outline where
  functions := [{ name := "a", span := { line := 2, column := 1, offset := 25, length := 20 } }]
  calls := [⟨"Log.d", { line := 2, column := 11, offset := 35, length := 8 }⟩]

/-- An analyzer that takes every source for this function. -/
def seeingLogCall : Analyzer where
  root := "."
  rules := []
  readers := [⟨[".kt"], fun _ => .ok loggingFunction⟩]
  excludes := []
  settings := {}
  failOnParseError := false

/-- A source with a directive that gives no reason. -/
def unexplained : SourceFile where
  path := "A.kt"
  content := "// kdoc-lint: allow(all)\nfun a() { Log.d(1) }"
  root := "."

/-- Settings under which missing documentation is no error. -/
def playedDown : Settings where
  rules := [("function-doc", { severity := some .info })]

/-- Missing documentation that is no error any more still needs a reason. -/
theorem checkSource_silences_iff_playedDown :
    ∃ v ∈ (Rule.configured playedDown .functionDoc).check unexplained loggingFunction,
      v.location.span.line = 2 ∧
      ∃ found, (seeingLogCall.under playedDown).checkSource "A.kt" unexplained.content =
        .ok found ∧
        Analyzer.noted playedDown (Rule.configured playedDown .functionDoc) v ∈ found := by
  obtain ⟨v, hv, hline⟩ : ∃ v ∈ (Rule.configured playedDown .functionDoc).check unexplained
      loggingFunction, v.location.span.line = 2 := by decide +kernel
  have hfind : Directive.find? unexplained.content v.location.span.line
      (Rule.configured playedDown .functionDoc).name.text = some ⟨.line, ["all"], none⟩ := by
    rw [hline]
    decide +kernel
  have hrule : Rule.configured playedDown .functionDoc ∈
      (Selection.ofSettings playedDown).rules := by
    rw [Selection.rules_ofSettings]
    exact List.mem_map_of_mem (List.mem_append_left _ (by decide))
  obtain ⟨found, hfound, -, hnoted⟩ := checkSource_silences_iff seeingLogCall playedDown "A.kt"
    unexplained.content ⟨[".kt"], fun _ => .ok loggingFunction⟩ (by rfl) loggingFunction rfl _ hrule
    (by decide) v hv _ (find?_eq_some_iff_isFirst.1 hfind) rfl
  exact ⟨v, hv, hline, found, hfound, hnoted (by decide)⟩

/-- Settings under which calls of the log are errors, and nothing else is looked for. -/
def madeGrave : Settings where
  rules := [("forbidden-log-call", { severity := some .error }),
    ("file-header", { enabled := some false }), ("function-doc", { enabled := some false })]

/-- A call of the log is an error here, and yet dropped for a directive that gives no reason. -/
theorem checkSource_silences_madeGrave :
    (∃ v ∈ (Rule.configured madeGrave .forbiddenLogCall).check unexplained loggingFunction,
      (Analyzer.withSeverity madeGrave (Rule.configured madeGrave .forbiddenLogCall) v).severity =
        .error ∧
      Directive.find? unexplained.content v.location.span.line "forbidden-log-call" =
        some ⟨.line, ["all"], none⟩) ∧
    (seeingLogCall.under madeGrave).checkSource "A.kt" unexplained.content = .ok [] := by
  refine ⟨by decide +kernel, ?_⟩
  have hon : madeGrave.switchedOn = [] := List.mergeSort_nil
  have hrules : (seeingLogCall.under madeGrave).rules =
      (Preset.recommended.names).map (Rule.configured madeGrave) := by
    show (Selection.ofSettings madeGrave).rules = _
    rw [Selection.rules_ofSettings, Selection.extraNames, hon]
    rfl
  unfold Analyzer.checkSource
  rw [hrules]
  decide +kernel

end DocLint

import DocLint.Proofs.Rule.Selection
import DocLint.Proofs.Settings

/-!
# Rules that are switched off

There are two ways in which a rule that is switched off does not run. If the preset has it, or a
table adds it by its code, it stays selected and the analysis skips it. If it was only added by
its name, it is no longer selected. Either way it reports nothing, and no other rule takes notice:
not of the table, which only the rule itself reads, nor of the place in the selection.

Two runs are compared here, under settings and under the same settings with one rule switched
off. One rule at a time, the second run reports what the first one does less the violations of
that rule (`reported_switchOff`); this carries over to the rules of a selection.
-/

namespace DocLint

variable {s : Settings} {r other : RuleName} {file : SourceFile} {outline : Outline}

/-! ### What one rule reports -/

theorem Rule.configured_switchOff (h : other ≠ r) :
    Rule.configured (s.switchOff r.text) other = Rule.configured s other := by
  rw [Rule.configured, Settings.rule_switchOff_of_ne (RuleName.text_injective.ne h),
    Rule.configured]

namespace Analyzer

/-- The settings are only asked about the rule itself. -/
theorem reported_congr {s s' : Settings} {rule : Rule}
    (h : s'.rule rule.name.text = s.rule rule.name.text) :
    reported s' file outline rule = reported s file outline rule := by
  have henabled : s'.isEnabled rule.name.text = s.isEnabled rule.name.text := by
    rw [Settings.isEnabled, h, Settings.isEnabled]
  have hseverity : withSeverity s' rule = withSeverity s rule := by
    funext v
    rw [withSeverity, Settings.severity?, h, withSeverity, Settings.severity?]
  rw [reported, henabled, hseverity, reported]

theorem reported_switchOff_self (rule : Rule) (h : rule.name = r) :
    reported (s.switchOff r.text) file outline rule = [] := by
  have hoff : (s.switchOff r.text).isEnabled rule.name.text = false := by
    rw [h, Settings.isEnabled, Settings.rule_switchOff_self]
    rfl
  rw [reported, hoff]
  rfl

/-- What a rule reports when `r` is switched off. -/
theorem reported_switchOff (s : Settings) (r other : RuleName) :
    reported (s.switchOff r.text) file outline (Rule.configured (s.switchOff r.text) other) =
      (reported s file outline (Rule.configured s other)).filter (·.rule ≠ r.text) := by
  have hrule : ∀ v ∈ reported s file outline (Rule.configured s other), v.rule = other.text := by
    intro v hv
    rw [rule_of_mem_reported hv, Rule.name_configured]
  by_cases h : other = r
  · subst h
    rw [reported_switchOff_self _ (Rule.name_configured _ _)]
    symm
    refine List.filter_eq_nil_iff.2 fun v hv => ?_
    simpa using hrule v hv
  · have htext : other.text ≠ r.text := RuleName.text_injective.ne h
    rw [Rule.configured_switchOff h, reported_congr]
    · symm
      refine List.filter_eq_self.2 fun v hv => ?_
      simpa [hrule v hv] using htext
    · rw [Rule.name_configured, Settings.rule_switchOff_of_ne htext]

/-! ### What a selection reports -/

theorem flatMap_reported_switchOff (s : Settings) (r : RuleName) (names : List RuleName) :
    (names.map (Rule.configured (s.switchOff r.text))).flatMap
        (reported (s.switchOff r.text) file outline) =
      ((names.map (Rule.configured s)).flatMap (reported s file outline)).filter
        (·.rule ≠ r.text) := by
  induction names with
  | nil => rfl
  | cons name names ih =>
      rw [List.map_cons, List.flatMap_cons, reported_switchOff, ih, List.map_cons,
        List.flatMap_cons, List.filter_append]

/-- Where `r` is switched off, nothing is lost when its name is taken from the keys that select
rules. -/
theorem flatMap_reported_filter_keys (s : Settings) (r : RuleName) (keys : List String) :
    (((keys.filter (· ≠ r.text)).filterMap RuleName.find?).map
          (Rule.configured (s.switchOff r.text))).flatMap
        (reported (s.switchOff r.text) file outline) =
      ((keys.filterMap RuleName.find?).map (Rule.configured (s.switchOff r.text))).flatMap
        (reported (s.switchOff r.text) file outline) := by
  induction keys with
  | nil => rfl
  | cons key keys ih =>
      by_cases hkey : key = r.text
      -- The key of `r` selects `r`, which reports nothing. Its code is a key that stays.
      · have hfind : RuleName.find? key = some r := RuleName.find?_eq_some_iff.2 (Or.inl hkey)
        rw [List.filter_cons_of_neg (by simpa using hkey), ih, List.filterMap_cons_some hfind,
          List.map_cons, List.flatMap_cons,
          reported_switchOff_self _ (Rule.name_configured _ _), List.nil_append]
      · rw [List.filter_cons_of_pos (by simpa using hkey)]
        cases hfind : RuleName.find? key with
        | none => rw [List.filterMap_cons_none hfind, List.filterMap_cons_none hfind, ih]
        | some name =>
            rw [List.filterMap_cons_some hfind, List.filterMap_cons_some hfind, List.map_cons,
              List.map_cons, List.flatMap_cons, List.flatMap_cons, ih]

end Analyzer

theorem Preset.chosen_switchOff (s : Settings) (key : String) :
    Preset.chosen (s.switchOff key) = Preset.chosen s := rfl

namespace Selection

theorem extraNames_switchOff (s : Settings) (key : String) :
    extraNames (s.switchOff key) = (extraNames s).filter (· ≠ key) := by
  rw [extraNames, extraNames, Preset.chosen_switchOff, Settings.switchedOn_switchOff,
    List.filter_filter, List.filter_filter]
  exact List.filter_congr fun key' _ => Bool.and_comm _ _

/-- The selected rules report the same less the violations of `r`, whether `r` is still among
them or not. -/
theorem flatMap_reported_ofSettings_switchOff (s : Settings) (r : RuleName) :
    (ofSettings (s.switchOff r.text)).rules.flatMap
        (Analyzer.reported (s.switchOff r.text) file outline) =
      ((ofSettings s).rules.flatMap (Analyzer.reported s file outline)).filter
        (·.rule ≠ r.text) := by
  rw [rules_ofSettings, rules_ofSettings, Preset.chosen_switchOff, extraNames_switchOff]
  rw [List.map_append, List.flatMap_append, Analyzer.flatMap_reported_filter_keys,
    Analyzer.flatMap_reported_switchOff, Analyzer.flatMap_reported_switchOff, List.map_append,
    List.flatMap_append, List.filter_append]

end Selection

/-! ### Checking a file -/

/-- The analyzer with other settings, and with the rules that they select. -/
def Analyzer.under (a : Analyzer) (s : Settings) : Analyzer :=
  { a with rules := (Selection.ofSettings s).rules, settings := s }

/-- Checks under different settings are compared by what the rules report about an outline. -/
theorem Analyzer.checkSource_under_congr (a : Analyzer) {s s' : Settings}
    {f : List Violation → List Violation}
    (h : ∀ file outline, (Selection.ofSettings s').rules.flatMap (reported s' file outline) =
      f ((Selection.ofSettings s).rules.flatMap (reported s file outline)))
    (path content : String) :
    (a.under s').checkSource path content = ((a.under s).checkSource path content).map f := by
  have hreader (s : Settings) : (a.under s).readerFor path = a.readerFor path := rfl
  rw [checkSource, checkSource, hreader, hreader]
  cases a.readerFor path with
  | none => rfl
  | some reader =>
      dsimp only
      cases reader.read content with
      | error cause => rfl
      | ok outline => exact congrArg Except.ok (h _ outline)

theorem Analyzer.checkSource_under_switchOff (a : Analyzer) (s : Settings) (r : RuleName)
    (path content : String) :
    (a.under (s.switchOff r.text)).checkSource path content =
      ((a.under s).checkSource path content).map (·.filter (·.rule ≠ r.text)) := by
  refine a.checkSource_under_congr (fun file outline => ?_) path content
  exact Selection.flatMap_reported_ofSettings_switchOff s r

/-- The request with the rules that settings select, to be run under these settings. -/
def AnalyzerRequest.under (request : AnalyzerRequest) (s : Settings) : AnalyzerRequest :=
  { request with rules := (Selection.ofSettings s).rules, settings := some s }

/-- Under settings that say the same about the analysis, the analyzers only differ in their rules
and settings. -/
theorem AnalyzerRequest.build_under_congr (request : AnalyzerRequest) {s s' : Settings}
    (h : s'.analyzer = s.analyzer) (workingDir : String) :
    (∃ e, (request.under s).build workingDir = .error e ∧
      (request.under s').build workingDir = .error e) ∨
    ∃ a : Analyzer, (request.under s).build workingDir = .ok (a.under s) ∧
      (request.under s').build workingDir = .ok (a.under s') := by
  obtain ⟨preset, failOn, analyzer, rules⟩ := s'
  obtain rfl : analyzer = s.analyzer := h
  have hpatterns : (request.under ⟨preset, failOn, s.analyzer, rules⟩).patterns =
      (request.under s).patterns := rfl
  unfold build
  rw [hpatterns]
  cases (request.under s).patterns.mapM fun p => (Glob.parse p).mapError AnalysisError.glob with
  | error e => exact Or.inl ⟨e, rfl, rfl⟩
  | ok excludes => exact Or.inr ⟨⟨_, [], _, excludes, s, _, _⟩, rfl, rfl⟩

/-- The analyzers with and without a rule only differ in their rules and settings. -/
theorem AnalyzerRequest.build_under_switchOff (request : AnalyzerRequest) (s : Settings)
    (key workingDir : String) :
    (∃ e, (request.under s).build workingDir = .error e ∧
      (request.under (s.switchOff key)).build workingDir = .error e) ∨
    ∃ a : Analyzer, (request.under s).build workingDir = .ok (a.under s) ∧
      (request.under (s.switchOff key)).build workingDir = .ok (a.under (s.switchOff key)) := by
  have hanalyzer : (s.switchOff key).analyzer = s.analyzer := rfl
  exact request.build_under_congr hanalyzer workingDir

/-- **Switching a rule off takes away its violations and nothing else.** The check fails as it
did before, or what it reports is what it reported before, in the same order, without those of
the rule. -/
theorem checkSource_switchOff (request : AnalyzerRequest) (workingDir : String) (s : Settings)
    (r : RuleName) (path content : String) :
    ((request.under (s.switchOff r.text)).build workingDir).bind (·.checkSource path content) =
      (((request.under s).build workingDir).bind (·.checkSource path content)).map
        (·.filter (·.rule ≠ r.text)) := by
  rcases request.build_under_switchOff s r.text workingDir with
    ⟨e, hbuild, hbuild'⟩ | ⟨a, hbuild, hbuild'⟩
  · rw [hbuild, hbuild']
    rfl
  · rw [hbuild, hbuild']
    exact a.checkSource_under_switchOff s r path content

end DocLint

import DocLint.Analyzer
import DocLint.Rule.Selection
import Mathlib.Data.List.Nodup
import Mathlib.Data.List.Pairwise

/-!
# Selections: when a rule is selected twice

A preset has each rule at most once, and the tables of the settings have distinct keys
(`Settings.nodup_rules_of_parse?`). A rule goes by two keys though, its name and its code. Tables
whose keys are names of preset rules are left out of the additions, and those whose keys are codes
are not, so a rule can come in again through its code.

`nodup_selected_iff` says when that happens, and `filter_flatMap_reported` what comes of it: a
rule that is selected twice reports everything twice.
-/

namespace DocLint

/-! ### The keys of a rule -/

namespace RuleName

theorem text_injective : Function.Injective text := by
  intro r r' h
  cases r <;> cases r' <;> first | rfl | exact absurd h (by decide)

/-- No rule has the code of a rule as its name. -/
theorem text_ne_code (r r' : RuleName) : r.text ≠ r'.code := by
  cases r <;> cases r' <;> decide

/-- A rule is found under its name and its code, and under nothing else. -/
theorem find?_eq_some_iff {key : String} {r : RuleName} :
    find? key = some r ↔ key = r.text ∨ key = r.code := by
  constructor
  · intro h
    have hkey : r.text = key ∨ r.code = key := by simpa using List.find?_some h
    exact hkey.imp Eq.symm Eq.symm
  · intro h
    rcases h with rfl | rfl <;> cases r <;> decide

end RuleName

@[simp]
theorem Rule.name_configured (settings : Settings) (r : RuleName) :
    (Rule.configured settings r).name = r := by
  cases r <;> rfl

theorem Preset.nodup_names (p : Preset) : p.names.Nodup := by
  cases p <;> decide

theorem Settings.mem_switchedOn {settings : Settings} {key : String} :
    key ∈ settings.switchedOn ↔
      key ∈ (settings.rules.filter (·.2.enabled = some true)).map Prod.fst :=
  List.mem_mergeSort

theorem Settings.nodup_switchedOn {settings : Settings}
    (hkeys : (settings.rules.map Prod.fst).Nodup) : settings.switchedOn.Nodup := by
  refine (List.mergeSort_perm _ _).nodup_iff.2 ?_
  exact hkeys.sublist (List.filter_sublist.map Prod.fst)

/-! ### The rules that are selected -/

namespace Selection

variable {settings : Settings}

/-- The rules of the preset come first, and after them those that tables add. -/
theorem rules_ofSettings (settings : Settings) :
    (ofSettings settings).rules =
      ((Preset.chosen settings).names ++ (extraNames settings).filterMap RuleName.find?).map
        (Rule.configured settings) := by
  rw [List.map_append, List.map_filterMap]
  rfl

theorem names_ofSettings (settings : Settings) :
    (ofSettings settings).rules.map Rule.name =
      (Preset.chosen settings).names ++ (extraNames settings).filterMap RuleName.find? := by
  rw [rules_ofSettings, List.map_map]
  exact (List.map_congr_left fun r _ => Rule.name_configured settings r).trans (List.map_id _)

theorem mem_extraNames {key : String} :
    key ∈ extraNames settings ↔
      key ∈ settings.switchedOn ∧ ∀ r ∈ (Preset.chosen settings).names, key ≠ r.text := by
  simp only [extraNames, List.mem_filter, Bool.not_eq_true', List.contains_eq_mem,
    decide_eq_false_iff_not, List.mem_map, not_exists, not_and]
  refine and_congr_right fun _ => forall₂_congr fun r _ => ?_
  exact not_congr eq_comm

/-- A rule that the preset has is not added under its name. -/
theorem text_mem_extraNames {r : RuleName} :
    r.text ∈ extraNames settings ↔
      r.text ∈ settings.switchedOn ∧ r ∉ (Preset.chosen settings).names := by
  rw [mem_extraNames]
  refine and_congr_right fun _ => ⟨fun h hr => h r hr rfl, ?_⟩
  intro h r' hr' heq
  rw [RuleName.text_injective heq] at h
  exact h hr'

/-- Codes are never left out. -/
theorem code_mem_extraNames {r : RuleName} :
    r.code ∈ extraNames settings ↔ r.code ∈ settings.switchedOn := by
  rw [mem_extraNames]
  exact and_iff_left fun r' _ => (RuleName.text_ne_code r' r).symm

/-- Keys without repetition find no rule twice exactly if none of them is the name and another
one the code of the same rule. -/
theorem nodup_filterMap_find?_iff {keys : List String} (hkeys : keys.Nodup) :
    (keys.filterMap RuleName.find?).Nodup ↔
      ∀ r : RuleName, r.code ∈ keys → r.text ∉ keys := by
  have hpairwise := List.pairwise_filterMap (R := (· ≠ ·)) (f := RuleName.find?) (l := keys)
  constructor
  · intro h r hcode htext
    have : Std.Symm fun key key' : String =>
        ∀ r, RuleName.find? key = some r → ∀ r', RuleName.find? key' = some r' → r ≠ r' :=
      ⟨fun _ _ h r hr r' hr' => (h r' hr' r hr).symm⟩
    refine (hpairwise.1 h).forall hcode htext (RuleName.text_ne_code r r).symm r ?_ r ?_ rfl
    · exact RuleName.find?_eq_some_iff.2 (Or.inr rfl)
    · exact RuleName.find?_eq_some_iff.2 (Or.inl rfl)
  · intro h
    refine hpairwise.2 (hkeys.pairwise_of_forall_ne ?_)
    rintro key hkey key' hkey' hne r hr _ hr' rfl
    -- Two keys of one rule that are not the same are its name and its code.
    rcases RuleName.find?_eq_some_iff.1 hr with rfl | rfl <;>
      rcases RuleName.find?_eq_some_iff.1 hr' with rfl | rfl
    · exact hne rfl
    · exact h r hkey' hkey
    · exact h r hkey hkey'
    · exact hne rfl

/-- No rule is selected twice exactly if no table has the code of a rule that is selected under
its name too. -/
theorem nodup_names_ofSettings_iff (hkeys : (settings.rules.map Prod.fst).Nodup) :
    ((ofSettings settings).rules.map Rule.name).Nodup ↔
      ∀ r : RuleName, r.code ∈ settings.switchedOn →
        r ∉ (Preset.chosen settings).names ∧ r.text ∉ settings.switchedOn := by
  have hextra : (extraNames settings).Nodup :=
    (Settings.nodup_switchedOn hkeys).sublist List.filter_sublist
  rw [names_ofSettings, List.nodup_append, nodup_filterMap_find?_iff hextra]
  constructor
  · intro h r hcode
    obtain ⟨-, hpair, hdisjoint⟩ := h
    have hcode := code_mem_extraNames.2 hcode
    have hpreset : r ∉ (Preset.chosen settings).names := by
      intro hr
      refine hdisjoint r hr r (List.mem_filterMap.2 ⟨r.code, hcode, ?_⟩) rfl
      exact RuleName.find?_eq_some_iff.2 (Or.inr rfl)
    exact ⟨hpreset, fun htext => hpair r hcode (text_mem_extraNames.2 ⟨htext, hpreset⟩)⟩
  · intro h
    refine ⟨Preset.nodup_names _, ?_, ?_⟩
    · intro r hcode htext
      exact (h r (code_mem_extraNames.1 hcode)).2 (text_mem_extraNames.1 htext).1
    · rintro r hr _ hadded rfl
      obtain ⟨key, hkey, hfind⟩ := List.mem_filterMap.1 hadded
      rcases RuleName.find?_eq_some_iff.1 hfind with rfl | rfl
      · exact (text_mem_extraNames.1 hkey).2 hr
      · exact (h r (code_mem_extraNames.1 hkey)).1 hr

end Selection

/-! ### What a selection reports -/

/-- A rule reports under its own name and with its own severity. -/
theorem Rule.signed_of_mem_check {rule : Rule} {file : SourceFile} {outline : Outline}
    {v : Violation} (h : v ∈ rule.check file outline) :
    v.rule = rule.name.text ∧ v.severity = rule.severity := by
  obtain ⟨options, severity⟩ := rule
  cases options with
  | fileHeader grammar perClause =>
      obtain ⟨issue, -, rfl⟩ := List.mem_map.1 h
      exact ⟨rfl, rfl⟩
  | functionDoc =>
      obtain ⟨f, -, hf⟩ := List.mem_flatMap.1 h
      obtain ⟨issue, -, rfl⟩ := List.mem_map.1 hf
      exact ⟨rfl, rfl⟩
  | forbiddenLogCall wrapper =>
      obtain ⟨call, -, rfl⟩ := List.mem_map.1 h
      exact ⟨rfl, rfl⟩
  | tooManyFunctions max =>
      simp only [Rule.check] at h
      split at h
      · exact absurd h List.not_mem_nil
      · rw [List.mem_singleton.1 h]
        exact ⟨rfl, rfl⟩

namespace Analyzer

variable {settings : Settings} {file : SourceFile} {outline : Outline} {rule : Rule}

/-- Directives change nothing of a violation but its labels. -/
theorem exists_labels_of_underDirectives {content : String} {v v' : Violation}
    (h : underDirectives content rule v = some v') : ∃ labels, v' = { v with labels } := by
  unfold underDirectives at h
  split at h
  · exact ⟨v.labels, (Option.some.inj h).symm⟩
  · split at h
    · cases h
    · exact ⟨_, (Option.some.inj h).symm⟩

theorem rule_of_mem_reported {v : Violation} (h : v ∈ reported settings file outline rule) :
    v.rule = rule.name.text := by
  unfold reported at h
  split at h
  · obtain ⟨v', hv', rfl⟩ := List.mem_map.1 h
    obtain ⟨found, hfound, hunder⟩ := List.mem_filterMap.1 hv'
    obtain ⟨labels, rfl⟩ := exists_labels_of_underDirectives hunder
    exact (Rule.signed_of_mem_check hfound).1
  · exact absurd h List.not_mem_nil

/-- Of what a rule reports, all or nothing stands under a name. -/
theorem filter_reported (r : RuleName) :
    (reported settings file outline rule).filter (·.rule = r.text) =
      if rule.name = r then reported settings file outline rule else [] := by
  split
  · rename_i hname
    refine List.filter_eq_self.2 fun v hv => ?_
    rw [rule_of_mem_reported hv, hname]
    exact decide_eq_true rfl
  · rename_i hname
    refine List.filter_eq_nil_iff.2 fun v hv => ?_
    rw [rule_of_mem_reported hv, decide_eq_true_iff]
    exact fun h => hname (RuleName.text_injective h)

/-- Under the name of a rule stands what one run of it reports, as often as it is selected. -/
theorem filter_flatMap_reported (names : List RuleName) (r : RuleName) :
    ((names.map (Rule.configured settings)).flatMap (reported settings file outline)).filter
        (·.rule = r.text) =
      (List.replicate (names.count r)
        (reported settings file outline (Rule.configured settings r))).flatten := by
  induction names with
  | nil => rfl
  | cons name names ih =>
      rw [List.map_cons, List.flatMap_cons, List.filter_append, ih, filter_reported,
        Rule.name_configured]
      by_cases hname : name = r
      · subst hname
        rw [if_pos rfl, List.count_cons_self, List.replicate_succ, List.flatten_cons]
      · rw [if_neg hname, List.nil_append, List.count_cons_of_ne hname]

end Analyzer

/-! ### Selected once, reported once -/

/-- **No rule runs twice** exactly if no table goes by the code of a rule that is selected under
its name too. Where that is so, a check reports for each rule of the selection what one run of
the rule reports. No key has two tables, as in all settings that are read
(`Settings.nodup_rules_of_parse?`). -/
theorem nodup_selected_iff (settings : Settings)
    (hkeys : (settings.rules.map Prod.fst).Nodup) :
    (((Selection.ofSettings settings).rules.map (·.name.text)).Nodup ↔
      ∀ r : RuleName, r.code ∈ settings.switchedOn →
        r ∉ (Preset.chosen settings).names ∧ r.text ∉ settings.switchedOn) ∧
    (((Selection.ofSettings settings).rules.map (·.name.text)).Nodup →
      ∀ (file : SourceFile) (outline : Outline), ∀ rule ∈ (Selection.ofSettings settings).rules,
        ((Selection.ofSettings settings).rules.flatMap
            (Analyzer.reported settings file outline)).filter (·.rule = rule.name.text) =
          Analyzer.reported settings file outline rule) := by
  have hnames : (Selection.ofSettings settings).rules.map (·.name.text) =
      ((Selection.ofSettings settings).rules.map Rule.name).map RuleName.text := by
    rw [List.map_map]
    rfl
  rw [hnames, List.nodup_map_iff RuleName.text_injective]
  refine ⟨Selection.nodup_names_ofSettings_iff hkeys, ?_⟩
  intro hnodup file outline rule hrule
  rw [Selection.names_ofSettings] at hnodup
  rw [Selection.rules_ofSettings] at hrule ⊢
  obtain ⟨r, hr, rfl⟩ := List.mem_map.1 hrule
  rw [Rule.name_configured, Analyzer.filter_flatMap_reported,
    List.count_eq_one_of_mem hnodup hr]
  exact List.append_nil _

/-- The least preset, with one rule added by its name and one by its code. -/
def addedOnTop : Settings where
  preset := some "minimal"
  rules := [("too-many-functions", { enabled := some true }), ("LOG001", { enabled := some true }),
    ("file-header", { enabled := some true }), ("TOFUB", { enabled := some false })]

theorem nodup_selected_addedOnTop :
    (addedOnTop.rules.map Prod.fst).Nodup ∧
      ((Selection.ofSettings addedOnTop).rules.map (·.name.text)).Nodup := by
  have hkeys : (addedOnTop.rules.map Prod.fst).Nodup := by decide
  refine ⟨hkeys, (nodup_selected_iff addedOnTop hkeys).1.2 ?_⟩
  intro r
  rw [Settings.mem_switchedOn, Settings.mem_switchedOn]
  cases r <;> decide

/-- A table that switches on a rule of the preset by its code. -/
def selectedByCode : Settings where
  rules := [("TOFIB", { enabled := some true })]

/-- The rule is selected twice, and a file without a header is reported twice. -/
theorem selectedByCode_selects_twice :
    (Selection.ofSettings selectedByCode).rules.map (·.name.text) =
        ["file-header", "function-doc", "forbidden-log-call", "file-header"] ∧
      ((Selection.ofSettings selectedByCode).rules.flatMap
        (Analyzer.reported selectedByCode ⟨"Main.kt", "", "."⟩ {})).map (·.code) =
        ["TOFIB001", "TOFIB001"] := by
  have hon : selectedByCode.switchedOn = ["TOFIB"] := List.mergeSort_singleton _
  rw [Selection.rules_ofSettings, Selection.extraNames, hon]
  exact ⟨by decide, by decide +kernel⟩

end DocLint

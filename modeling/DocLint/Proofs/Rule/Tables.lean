import DocLint.Proofs.Rule.Disabled

/-!
# Tables of rules: neither their order nor tables of other keys matter

The settings keep the tables of rules in a list. Rules come to it with three questions: which
table has the name of a rule, which keys switch a rule on, and which rules these keys find. The
first answer does not depend on the order of the tables, because no key has two of them in settings
that are read (`Settings.nodup_rules_of_parse?`); the second one is sorted; and keys that are
neither the name nor the code of a rule find nothing.

`Settings.AlikeForRules` says that two settings give the same answers. Everything that is made of
the settings and the rules (the rules that are selected with their options, and what each of them
reports in the end) is made of these answers alone.
-/

namespace DocLint

/-- The key belongs to no rule, neither as its name nor as its code. -/
def RuleName.IsForeign (key : String) : Prop := ∀ r : RuleName, key ≠ r.text ∧ key ≠ r.code

theorem RuleName.IsForeign.find?_eq_none {key : String} (h : IsForeign key) :
    find? key = none := by
  rw [Option.eq_none_iff_forall_ne_some]
  intro r hr
  rcases find?_eq_some_iff.1 hr with rfl | rfl
  · exact (h r).1 rfl
  · exact (h r).2 rfl

namespace Settings

variable {s s' : Settings} {tables tables' foreign : List (String × RuleSettings)}

/-! ### Looking a table up -/

theorem lookup_eq_head? (tables : List (String × RuleSettings)) (name : String) :
    tables.lookup name = (tables.filter (·.1 = name)).head?.map Prod.snd := by
  induction tables with
  | nil => rfl
  | cons entry tables ih =>
      rw [List.lookup_cons, ih]
      by_cases hname : entry.1 = name
      · simp [hname]
      · have hbeq : (name == entry.1) = false := by simpa using Ne.symm hname
        simp [hname, hbeq]

/-- Where no key has two tables, there is at most one under each name. -/
theorem length_filter_le_one (hkeys : (tables.map Prod.fst).Nodup) (name : String) :
    (tables.filter (·.1 = name)).length ≤ 1 := by
  have hcount := List.nodup_iff_count_le_one.1 hkeys name
  rw [List.count, List.countP_map, List.countP_eq_length_filter] at hcount
  exact hcount

theorem filter_append_foreign (hforeign : ∀ entry ∈ foreign, RuleName.IsForeign entry.1)
    (r : RuleName) :
    (foreign ++ tables).filter (·.1 = r.text) = tables.filter (·.1 = r.text) := by
  have hnil : foreign.filter (·.1 = r.text) = [] := by
    refine List.filter_eq_nil_iff.2 fun entry hentry => ?_
    simpa using (hforeign entry hentry r).1
  rw [List.filter_append, hnil, List.nil_append]

/-- The table of a rule is found wherever it stands, and whatever tables of other keys are
there. -/
theorem lookup_of_perm (hkeys : (tables'.map Prod.fst).Nodup)
    (hforeign : ∀ entry ∈ foreign, RuleName.IsForeign entry.1)
    (h : tables.Perm (foreign ++ tables')) (r : RuleName) :
    tables.lookup r.text = tables'.lookup r.text := by
  have hperm := h.filter (·.1 = r.text)
  rw [filter_append_foreign hforeign] at hperm
  have hsame : tables.filter (·.1 = r.text) = tables'.filter (·.1 = r.text) := by
    rcases Nat.le_one_iff_eq_zero_or_eq_one.1 (length_filter_le_one hkeys r.text) with
      hnone | hone
    · rw [List.length_eq_zero_iff.1 hnone] at hperm ⊢
      exact List.perm_nil.1 hperm
    · obtain ⟨entry, hentry⟩ := List.length_eq_one_iff.1 hone
      rw [hentry] at hperm ⊢
      exact List.perm_singleton.1 hperm
  rw [lookup_eq_head?, hsame, ← lookup_eq_head?]

/-! ### Settings that say the same about rules -/

/-- The settings choose the same preset, have the same table for each rule, and switch the same
rules on, in the same order. -/
structure AlikeForRules (s s' : Settings) : Prop where
  preset : s'.preset = s.preset
  rule : ∀ r : RuleName, s'.rule r.text = s.rule r.text
  switchedOn : s'.switchedOn.filter (fun key => (RuleName.find? key).isSome) =
    s.switchedOn.filter fun key => (RuleName.find? key).isSome

theorem switchedOn_of_perm (h : tables.Perm tables') :
    switchedOn { s with rules := tables } = switchedOn { s with rules := tables' } :=
  mergeSort_eq_of_perm ((h.filter _).map _)

/-- Tables whose keys belong to no rule add no key that finds a rule. -/
theorem filter_switchedOn_append_foreign
    (hforeign : ∀ entry ∈ foreign, RuleName.IsForeign entry.1) :
    (switchedOn { s with rules := foreign ++ s.rules }).filter
        (fun key => (RuleName.find? key).isSome) =
      s.switchedOn.filter fun key => (RuleName.find? key).isSome := by
  have hnil : ((foreign.filter (·.2.enabled = some true)).map Prod.fst).filter
      (fun key => (RuleName.find? key).isSome) = [] := by
    refine List.filter_eq_nil_iff.2 fun key hkey => ?_
    obtain ⟨entry, hentry, rfl⟩ := List.mem_map.1 hkey
    rw [(hforeign entry (List.mem_of_mem_filter hentry)).find?_eq_none]
    simp
  unfold switchedOn
  rw [← mergeSort_filter, ← mergeSort_filter, List.filter_append, List.map_append,
    List.filter_append, hnil, List.nil_append]

theorem alikeForRules_of_perm (hkeys : (s.rules.map Prod.fst).Nodup)
    (hforeign : ∀ entry ∈ foreign, RuleName.IsForeign entry.1)
    (htables : tables.Perm (foreign ++ s.rules)) :
    s.AlikeForRules { s with rules := tables } where
  preset := rfl
  rule r := by
    rw [rule, lookup_of_perm hkeys hforeign htables r, rule]
  switchedOn := by
    rw [switchedOn_of_perm htables, filter_switchedOn_append_foreign hforeign]

end Settings

/-! ### Selecting and running the rules -/

namespace Settings.AlikeForRules

variable {s s' : Settings}

theorem configured (h : s.AlikeForRules s') (r : RuleName) :
    Rule.configured s' r = Rule.configured s r := by
  rw [Rule.configured, h.rule, Rule.configured]

theorem chosen (h : s.AlikeForRules s') : Preset.chosen s' = Preset.chosen s := by
  rw [Preset.chosen, h.preset, Preset.chosen]

/-- The keys on top of the preset find the same rules. -/
theorem filterMap_extraNames (h : s.AlikeForRules s') :
    (Selection.extraNames s').filterMap RuleName.find? =
      (Selection.extraNames s).filterMap RuleName.find? := by
  have hfound (keys : List String) : keys.filterMap RuleName.find? =
      (keys.filter fun key => (RuleName.find? key).isSome).filterMap RuleName.find? := by
    rw [List.filterMap_filter]
    refine List.filterMap_congr fun key _ => ?_
    cases RuleName.find? key <;> rfl
  have hcomm (s : Settings) :
      (Selection.extraNames s).filter (fun key => (RuleName.find? key).isSome) =
        (s.switchedOn.filter fun key => (RuleName.find? key).isSome).filter
          (!((Preset.chosen s).names.map RuleName.text).contains ·) := by
    rw [Selection.extraNames, List.filter_comm]
  rw [hfound, hfound (Selection.extraNames s), hcomm, hcomm, h.chosen, h.switchedOn]

theorem rules_ofSettings (h : s.AlikeForRules s') :
    (Selection.ofSettings s').rules = (Selection.ofSettings s).rules := by
  rw [Selection.rules_ofSettings, Selection.rules_ofSettings, h.chosen, h.filterMap_extraNames]
  exact List.map_congr_left fun r _ => h.configured r

theorem flatMap_reported (h : s.AlikeForRules s') (file : SourceFile) (outline : Outline) :
    (Selection.ofSettings s').rules.flatMap (Analyzer.reported s' file outline) =
      (Selection.ofSettings s).rules.flatMap (Analyzer.reported s file outline) := by
  rw [h.rules_ofSettings]
  exact List.flatMap_congr fun rule _ => Analyzer.reported_congr (h.rule rule.name)

theorem checkSource_under (h : s.AlikeForRules s') (a : Analyzer) (path content : String) :
    (a.under s').checkSource path content = (a.under s).checkSource path content := by
  rw [a.checkSource_under_congr (f := id) h.flatMap_reported path content, Except.map_id, id]

end Settings.AlikeForRules

/-- **Only the tables of rules matter, and not their order.** Let the tables of the settings, of
which no two have one key (`Settings.nodup_rules_of_parse?`), be put into any order, with any
tables among them whose keys are neither the name nor the code of a rule, whatever these tables
say. Then the same rules are selected, in the same order and with the same options, and for every
path and content, whatever the reader of the source finds in it, a check gives the same answer. -/
theorem checkSource_eq_of_tables (request : AnalyzerRequest) (workingDir : String) (s : Settings)
    (hkeys : (s.rules.map Prod.fst).Nodup) (foreign tables : List (String × RuleSettings))
    (hforeign : ∀ entry ∈ foreign, RuleName.IsForeign entry.1)
    (htables : tables.Perm (foreign ++ s.rules)) :
    (Selection.ofSettings { s with rules := tables }).rules = (Selection.ofSettings s).rules ∧
    ∀ path content : String,
      ((request.under { s with rules := tables }).build workingDir).bind
          (·.checkSource path content) =
        ((request.under s).build workingDir).bind (·.checkSource path content) := by
  have halike := Settings.alikeForRules_of_perm hkeys hforeign htables
  refine ⟨halike.rules_ofSettings, fun path content => ?_⟩
  have hanalyzer : ({ s with rules := tables } : Settings).analyzer = s.analyzer := rfl
  rcases request.build_under_congr hanalyzer workingDir with
    ⟨e, hbuild, hbuild'⟩ | ⟨a, hbuild, hbuild'⟩
  · rw [hbuild, hbuild']
  · rw [hbuild, hbuild']
    exact halike.checkSource_under a path content

/-- Tables that belong to no rule: one is switched on, and one has the name of a rule in other
letters and switches it off. -/
def strayTables : List (String × RuleSettings) :=
  [("no-such-rule", { enabled := some true }),
    ("File-Header", { enabled := some false, severity := some .info })]

/-- A request whose sources all look empty. -/
def seeingNothing : AnalyzerRequest where
  readers := [⟨[".kt"], fun _ => .ok {}⟩]

theorem checkSource_eq_of_strayTables :
    (addedOnTop.rules.map Prod.fst).Nodup ∧
    (∀ entry ∈ strayTables, RuleName.IsForeign entry.1) ∧
    (Selection.ofSettings
        { addedOnTop with rules := (strayTables ++ addedOnTop.rules).reverse }).rules =
      (Selection.ofSettings addedOnTop).rules ∧
    ((seeingNothing.under
          { addedOnTop with rules := (strayTables ++ addedOnTop.rules).reverse }).build "/").bind
        (·.checkSource "A.kt" "fun a() {}") =
      ((seeingNothing.under addedOnTop).build "/").bind (·.checkSource "A.kt" "fun a() {}") := by
  have hkeys : (addedOnTop.rules.map Prod.fst).Nodup := by decide
  have hforeign : ∀ entry ∈ strayTables, RuleName.IsForeign entry.1 := by
    intro entry hentry r
    simp only [strayTables, List.mem_cons, List.not_mem_nil, or_false] at hentry
    rcases hentry with rfl | rfl <;> cases r <;> decide
  obtain ⟨hrules, hcheck⟩ := checkSource_eq_of_tables seeingNothing "/" addedOnTop hkeys
    strayTables _ hforeign (List.reverse_perm _)
  exact ⟨hkeys, hforeign, hrules, hcheck "A.kt" "fun a() {}"⟩

end DocLint

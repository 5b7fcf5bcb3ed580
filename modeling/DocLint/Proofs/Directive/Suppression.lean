import DocLint.Analyzer
import Mathlib.Data.List.Basic

/-!
# Suppression: which violations the directives of a file drop

Several directives can apply to one violation: any number of them for the whole file, one on
the line before and one on the line itself. `Directive.find?` looks at one of them only, in a
fixed order, and the reason is asked for afterwards.

`Directive.AppliesAt` says which directives apply, without a search, and `Directive.Precedes`
in which order they are looked at. The search finds the first of them (`find?_eq_some`,
`find?_eq_none`). So a rule that needs no reason is silenced by any directive that applies, but
where a reason is needed one directive without it disables all those after it
(`underDirectives_eq_none_iff`).
-/

namespace DocLint

open Text

namespace Directive

variable {content rule : String} {n k k' : Nat} {d d' : Directive}

/-! ### Directives that apply -/

/-- The directive is the one that is read from line `k`, counted from one. -/
def StandsOn (content : String) (k : Nat) (d : Directive) : Prop :=
  ∃ l, lineNumbered? (lines content.toList) k = some l ∧ ofLine? l = some d

/-- The directive on line `k` covers the rule and reaches line `n`. -/
structure AppliesAt (content rule : String) (n k : Nat) (d : Directive) : Prop where
  standsOn : StandsOn content k d
  covers : d.covers rule = true
  reaches : d.scope = .file ∨ d.scope = .line ∧ (k + 1 = n ∨ k = n)

/-- The directive `d` on line `k` is looked at before `d'` on line `k'`: those for the whole
file come first, and then the upper line. -/
def Precedes (k : Nat) (d : Directive) (k' : Nat) (d' : Directive) : Prop :=
  d.scope = .file ∧ d'.scope = .line ∨ d.scope = d'.scope ∧ k < k'

theorem standsOn_iff :
    StandsOn content k d ↔ (lineNumbered? (lines content.toList) k).bind ofLine? = some d := by
  rw [Option.bind_eq_some_iff]
  rfl

theorem StandsOn.pos (h : StandsOn content k d) : 0 < k := by
  obtain ⟨l, hl, -⟩ := h
  cases k with
  | zero => exact absurd hl (by simp [lineNumbered?])
  | succ k => exact Nat.succ_pos k

/-- A line has one directive at most. -/
theorem StandsOn.unique (h : StandsOn content k d) (h' : StandsOn content k d') : d = d' :=
  Option.some.inj ((standsOn_iff.1 h).symm.trans (standsOn_iff.1 h'))

theorem appliesTo_iff {scope : Scope} :
    appliesTo scope rule d = true ↔ d.scope = scope ∧ d.covers rule = true := by
  simp [appliesTo]

/-- Of two directives that apply one is looked at before the other, unless they are the same. -/
theorem AppliesAt.precedes_or_eq (h : AppliesAt content rule n k d)
    (h' : AppliesAt content rule n k' d') :
    Precedes k d k' d' ∨ d = d' ∨ Precedes k' d' k d := by
  cases hd : d.scope <;> cases hd' : d'.scope
  case file.line => exact Or.inl (Or.inl ⟨hd, hd'⟩)
  case line.file => exact Or.inr (Or.inr (Or.inl ⟨hd', hd⟩))
  all_goals
    have hscope : d.scope = d'.scope := hd.trans hd'.symm
    rcases Nat.lt_trichotomy k k' with hlt | rfl | hlt
    · exact Or.inl (Or.inr ⟨hscope, hlt⟩)
    · exact Or.inr (Or.inl (h.standsOn.unique h'.standsOn))
    · exact Or.inr (Or.inr (Or.inr ⟨hscope.symm, hlt⟩))

/-! ### The search through the file -/

/-- The first directive of a class in the file has none of the class above it. -/
theorem exists_standsOn_of_find? {p : Directive → Bool}
    (h : ((lines content.toList).filterMap ofLine?).find? p = some d) :
    p d = true ∧ ∃ k, StandsOn content k d ∧
      ∀ k' < k, ∀ d', StandsOn content k' d' → p d' = false := by
  rw [List.find?_filterMap, Option.bind_eq_some_iff] at h
  obtain ⟨l, hfind, hd⟩ := h
  obtain ⟨hp, i, hi, rfl, hbefore⟩ := List.find?_eq_some_iff_getElem.1 hfind
  rw [hd, Option.any_some] at hp
  refine ⟨hp, i + 1, ⟨_, List.getElem?_eq_getElem hi, hd⟩, ?_⟩
  intro k' hk' d' hd'
  obtain ⟨j, rfl⟩ := Nat.exists_eq_add_one.2 hd'.pos
  obtain ⟨l', hl', hd'⟩ := hd'
  have hno := hbefore j (by omega)
  obtain ⟨_, rfl⟩ := List.getElem?_eq_some_iff.1 hl'
  simpa [hd'] using hno

/-- Where none of the class is found, there is none on any line. -/
theorem eq_false_of_find?_eq_none {p : Directive → Bool}
    (h : ((lines content.toList).filterMap ofLine?).find? p = none)
    (hd : StandsOn content k d) : p d = false := by
  obtain ⟨i, rfl⟩ := Nat.exists_eq_add_one.2 hd.pos
  obtain ⟨l, hl, hd⟩ := hd
  rw [List.find?_eq_none] at h
  simpa using h d (List.mem_filterMap.2 ⟨l, List.mem_of_getElem? hl, hd⟩)

/-! ### The search on two lines -/

/-- Of two lines the upper one is looked at first. -/
theorem find?_pair (p : Directive → Bool) (upper lower : Option Line) :
    (([upper, lower].filterMap id).filterMap ofLine?).find? p =
      ((upper.bind ofLine?).filter p).or ((lower.bind ofLine?).filter p) := by
  have hcons (first : Option Line) (more : List Line) :
      ((first.toList ++ more).filterMap ofLine?).find? p =
        ((first.bind ofLine?).filter p).or ((more.filterMap ofLine?).find? p) := by
    cases first with
    | none => rfl
    | some l =>
        cases hl : ofLine? l with
        | none => simp [hl]
        | some d => cases hp : p d <;> simp [hl, hp, Option.filter]
  have hpair : [upper, lower].filterMap id = upper.toList ++ (lower.toList ++ []) := by
    cases upper <;> cases lower <;> rfl
  rw [hpair, hcons, hcons]
  simp

/-- The directive on a line, if it is one of a class. -/
theorem filter_lineNumbered?_eq_some_iff {p : Directive → Bool} :
    ((lineNumbered? (lines content.toList) k).bind ofLine?).filter p = some d ↔
      StandsOn content k d ∧ p d = true := by
  rw [Option.filter_eq_some_iff, ← standsOn_iff]

/-! ### The directive that is found -/

/-- Nothing that applies is looked at before the directive on line `k`. -/
def IsFirst (content rule : String) (n k : Nat) (d : Directive) : Prop :=
  AppliesAt content rule n k d ∧
    ∀ k' d', AppliesAt content rule n k' d' → ¬ Precedes k' d' k d

theorem exists_isFirst_of_file
    (h : ((lines content.toList).filterMap ofLine?).find? (appliesTo .file rule) = some d) :
    ∃ k, IsFirst content rule n k d := by
  obtain ⟨hp, k, hd, habove⟩ := exists_standsOn_of_find? h
  obtain ⟨hscope, hcovers⟩ := appliesTo_iff.1 hp
  refine ⟨k, ⟨hd, hcovers, Or.inl hscope⟩, ?_⟩
  intro k' d' h' hprec
  rcases hprec with ⟨-, hline⟩ | ⟨hsame, hlt⟩
  · exact absurd (hscope.symm.trans hline) (by simp)
  · have hno := habove k' hlt d' h'.standsOn
    rw [appliesTo_iff.2 ⟨hsame.trans hscope, h'.covers⟩] at hno
    exact absurd hno (by simp)

/-- Without a directive for the whole file, those that apply are for a line. -/
theorem AppliesAt.scope_eq_line
    (hnone : ((lines content.toList).filterMap ofLine?).find? (appliesTo .file rule) = none)
    (h : AppliesAt content rule n k d) : d.scope = .line ∧ (k + 1 = n ∨ k = n) := by
  rcases h.reaches with hscope | hline
  · have hno := eq_false_of_find?_eq_none hnone h.standsOn
    rw [appliesTo_iff.2 ⟨hscope, h.covers⟩] at hno
    exact absurd hno (by simp)
  · exact hline

theorem exists_isFirst_of_line
    (hnone : ((lines content.toList).filterMap ofLine?).find? (appliesTo .file rule) = none)
    (h : (([lineNumbered? (lines content.toList) (n - 1),
      lineNumbered? (lines content.toList) n].filterMap id).filterMap ofLine?).find?
        (appliesTo .line rule) = some d) :
    ∃ k, IsFirst content rule n k d := by
  rw [find?_pair, Option.or_eq_some_iff, filter_lineNumbered?_eq_some_iff,
    filter_lineNumbered?_eq_some_iff] at h
  rcases h with ⟨hd, hp⟩ | ⟨hupper, hd, hp⟩
  · obtain ⟨hscope, hcovers⟩ := appliesTo_iff.1 hp
    have hpos := hd.pos
    refine ⟨n - 1, ⟨hd, hcovers, Or.inr ⟨hscope, Or.inl (by omega)⟩⟩, ?_⟩
    intro k' d' h' hprec
    obtain ⟨hline, hk'⟩ := h'.scope_eq_line hnone
    rcases hprec with ⟨hfile, -⟩ | ⟨-, hlt⟩
    · exact absurd (hline.symm.trans hfile) (by simp)
    · omega
  · obtain ⟨hscope, hcovers⟩ := appliesTo_iff.1 hp
    refine ⟨n, ⟨hd, hcovers, Or.inr ⟨hscope, Or.inr rfl⟩⟩, ?_⟩
    intro k' d' h' hprec
    obtain ⟨hline, hk'⟩ := h'.scope_eq_line hnone
    rcases hprec with ⟨hfile, -⟩ | ⟨-, hlt⟩
    · exact absurd (hline.symm.trans hfile) (by simp)
    · -- Only the line above is left, and it has no directive that applies.
      obtain rfl : k' = n - 1 := by omega
      have hfound := filter_lineNumbered?_eq_some_iff.2
        ⟨h'.standsOn, appliesTo_iff.2 ⟨hline, h'.covers⟩⟩
      rw [hupper] at hfound
      exact absurd hfound (by simp)

/-- The search finds the first directive that applies. -/
theorem exists_isFirst_of_find? (h : find? content n rule = some d) :
    ∃ k, IsFirst content rule n k d := by
  rcases Option.or_eq_some_iff.1 h with hfile | ⟨hnone, hline⟩
  · exact exists_isFirst_of_file hfile
  · exact exists_isFirst_of_line hnone hline

/-- Where it finds none, none applies. -/
theorem not_appliesAt_of_find?_eq_none (h : find? content n rule = none) :
    ¬ AppliesAt content rule n k d := by
  obtain ⟨hnone, hlines⟩ := Option.or_eq_none_iff.1 h
  intro happ
  obtain ⟨hline, hk⟩ := happ.scope_eq_line hnone
  have hfound := filter_lineNumbered?_eq_some_iff.2
    ⟨happ.standsOn, appliesTo_iff.2 ⟨hline, happ.covers⟩⟩
  rw [find?_pair, Option.or_eq_none_iff] at hlines
  rcases hk with rfl | rfl
  · rw [Nat.add_sub_cancel, hfound] at hlines
    exact absurd hlines.1 (by simp)
  · rw [hfound] at hlines
    exact absurd hlines.2 (by simp)

theorem IsFirst.unique (h : IsFirst content rule n k d) (h' : IsFirst content rule n k' d') :
    d = d' := by
  rcases h.1.precedes_or_eq h'.1 with hprec | heq | hprec
  · exact absurd hprec (h'.2 k d h.1)
  · exact heq
  · exact absurd hprec (h.2 k' d' h'.1)

/-- The search is determined by the directives that apply and by their order. -/
theorem find?_eq_some_iff_isFirst :
    find? content n rule = some d ↔ ∃ k, IsFirst content rule n k d := by
  constructor
  · exact exists_isFirst_of_find?
  · rintro ⟨k, h⟩
    cases hfind : find? content n rule with
    | none => exact absurd h.1 (not_appliesAt_of_find?_eq_none hfind)
    | some found =>
        obtain ⟨k', h'⟩ := exists_isFirst_of_find? hfind
        rw [h'.unique h]

end Directive

/-! ### Violations under directives -/

open Directive

variable {content : String} {rule : Rule} {v : Violation}

theorem underDirectives_of_find? {d : Directive}
    (h : Directive.find? content v.location.span.line rule.name.text = some d) :
    Analyzer.underDirectives content rule v = none ↔
      (rule.requiresReason = true → d.reason.isSome = true) := by
  unfold Analyzer.underDirectives
  rw [h]
  cases hneeds : rule.requiresReason <;> cases hreason : d.reason <;> simp [hreason]

/-- **What silences a violation.** A violation is dropped exactly if a directive applies to it
that will do. Any will do for a rule that needs no reason. If the rule needs one, the directive
has to give it, and so have all directives that are looked at before. -/
theorem underDirectives_eq_none_iff (content : String) (rule : Rule) (v : Violation) :
    Analyzer.underDirectives content rule v = none ↔
      ∃ k d, AppliesAt content rule.name.text v.location.span.line k d ∧
        (rule.requiresReason = true → d.reason.isSome = true ∧
          ∀ k' d', AppliesAt content rule.name.text v.location.span.line k' d' →
            Precedes k' d' k d → d'.reason.isSome = true) := by
  cases hfind : Directive.find? content v.location.span.line rule.name.text with
  | none =>
      refine iff_of_false ?_ ?_
      · unfold Analyzer.underDirectives
        rw [hfind]
        simp
      · intro h
        obtain ⟨k, d, happ, -⟩ := h
        exact not_appliesAt_of_find?_eq_none hfind happ
  | some d =>
      obtain ⟨k, happ, hfirst⟩ := exists_isFirst_of_find? hfind
      rw [underDirectives_of_find? hfind]
      constructor
      · intro hreason
        refine ⟨k, d, happ, fun hneeds => ⟨hreason hneeds, ?_⟩⟩
        intro k' d' happ' hprec
        exact absurd hprec (hfirst k' d' happ')
      · intro h hneeds
        obtain ⟨k', d', happ', hsuffices⟩ := h
        obtain ⟨hreason, hbefore⟩ := hsuffices hneeds
        rcases happ.precedes_or_eq happ' with hprec | rfl | hprec
        · exact hbefore k d happ hprec
        · exact hreason
        · exact absurd hprec (hfirst k' d' happ')

/-- A function that a directive with a reason exempts. -/
def exempted : String :=
  "\nfun a() {} // kdoc-lint: allow(function-doc) reason=\"old\""

/-- The same function with another directive in front of it. -/
def exemptedTwice : String :=
  "// kdoc-lint: allow(function-doc)\nfun a() {} // kdoc-lint: allow(function-doc) reason=\"old\""

/-- The function has no documentation. -/
def undocumented : Violation where
  code := "TOFUB001"
  rule := "function-doc"
  severity := .error
  location := ⟨"A.kt", { line := 2, column := 1 }⟩
  message := "No KDoc block found"

/-- A further directive brings a violation back, although one with a reason still applies. -/
theorem underDirectives_exemptedTwice :
    Analyzer.underDirectives exempted (Rule.default .functionDoc) undocumented = none ∧
      Analyzer.underDirectives exemptedTwice (Rule.default .functionDoc) undocumented ≠ none ∧
      ∃ d, AppliesAt exemptedTwice "function-doc" 2 2 d ∧ d.reason = some "old" := by
  refine ⟨by decide +kernel, by decide +kernel, ⟨.line, ["function-doc"], some "old"⟩,
    ⟨standsOn_iff.2 (by decide +kernel), by decide +kernel, Or.inr ⟨rfl, Or.inr rfl⟩⟩, rfl⟩

end DocLint

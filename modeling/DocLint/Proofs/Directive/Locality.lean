import DocLint.Proofs.Directive.Suppression

/-!
# Directives are local

A directive for a line reaches that line and the next one. So what is allowed elsewhere does not
depend on it: two contents that differ in one line allow the same on all lines but that one and
the one below, unless the line has a directive for the whole file.

The search for a directive goes through the whole content first, and only then to the two lines in
question. What it finds is determined by the directives that apply (`find?_eq_some_iff_isFirst`),
and it is enough to compare those.
-/

namespace DocLint.Directive

open Text

variable {content content' rule : String} {n k j : Nat} {d : Directive}

/-- Where the same directives apply, the same one is found. -/
theorem find?_congr
    (h : ∀ k d, AppliesAt content rule n k d ↔ AppliesAt content' rule n k d) :
    find? content n rule = find? content' n rule := by
  ext d
  rw [find?_eq_some_iff_isFirst, find?_eq_some_iff_isFirst]
  simp only [IsFirst, h]

/-- The contents have the same lines, but for line `k`. -/
def SameButFor (k : Nat) (content content' : String) : Prop :=
  ∀ j, j ≠ k → lineNumbered? (lines content.toList) j = lineNumbered? (lines content'.toList) j

theorem SameButFor.symm (h : SameButFor k content content') : SameButFor k content' content :=
  fun j hj => (h j hj).symm

theorem SameButFor.standsOn (h : SameButFor k content content') (hj : j ≠ k)
    (hd : StandsOn content j d) : StandsOn content' j d := by
  obtain ⟨l, hl, hread⟩ := hd
  exact ⟨l, (h j hj).symm.trans hl, hread⟩

/-- A directive that applies away from line `k` also applies if that line is another one. -/
theorem AppliesAt.of_sameButFor (hsame : SameButFor k content content')
    (hline : ∀ d, StandsOn content k d → d.scope = .line) (hn : n ≠ k) (hnext : n ≠ k + 1)
    (h : AppliesAt content rule n j d) : AppliesAt content' rule n j d := by
  have hj : j ≠ k := by
    rintro rfl
    rcases h.reaches with hfile | ⟨-, hreach⟩
    · exact absurd ((hline d h.standsOn).symm.trans hfile) (by simp)
    · omega
  exact ⟨hsame.standsOn hj h.standsOn, h.covers, h.reaches⟩

/-- **Line directives are local.** If two contents only differ in a line, and in neither of them
that line has a directive for the whole file, then on all other lines but the next the same
directive is found, with the same reason, or none in both. The number of the line may be any,
also zero or one beyond the end. -/
theorem find?_eq_of_sameButFor (content content' : String) (k : Nat)
    (hsame : SameButFor k content content')
    (hline : ∀ d, StandsOn content k d → d.scope = .line)
    (hline' : ∀ d, StandsOn content' k d → d.scope = .line)
    (rule : String) (n : Nat) (hn : n ≠ k) (hnext : n ≠ k + 1) :
    find? content n rule = find? content' n rule := by
  refine find?_congr fun j d => ⟨?_, ?_⟩
  · exact AppliesAt.of_sameButFor hsame hline hn hnext
  · exact AppliesAt.of_sameButFor hsame.symm hline' hn hnext

/-- Two calls that are exempted, the first by the line `exemption`. -/
def exemptedBy (exemption : String) : String :=
  exemption ++ "\na()\n// kdoc-lint: allow(all) reason=\"old\"\nb()"

theorem find?_eq_exemptedBy :
    SameButFor 1 (exemptedBy "// kdoc-lint: allow(all)") (exemptedBy "") ∧
      find? (exemptedBy "// kdoc-lint: allow(all)") 4 "function-doc" =
        find? (exemptedBy "") 4 "function-doc" := by
  have hlines : lines (exemptedBy "// kdoc-lint: allow(all)").toList =
      ["// kdoc-lint: allow(all)".toList, "a()".toList,
        "// kdoc-lint: allow(all) reason=\"old\"".toList, "b()".toList] := by
    decide +kernel
  have hlines' : lines (exemptedBy "").toList =
      [[], "a()".toList, "// kdoc-lint: allow(all) reason=\"old\"".toList, "b()".toList] := by
    decide +kernel
  have hsame : SameButFor 1 (exemptedBy "// kdoc-lint: allow(all)") (exemptedBy "") := by
    intro j hj
    rw [hlines, hlines']
    match j with
    | 0 => rfl
    | 1 => exact absurd rfl hj
    | j + 2 => rfl
  refine ⟨hsame, find?_eq_of_sameButFor _ _ 1 hsame ?_ ?_ _ 4 (by decide) (by decide)⟩
  · rintro d ⟨l, hl, hd⟩
    rw [hlines] at hl
    obtain rfl := Option.some.inj hl
    have hread : ofLine? "// kdoc-lint: allow(all)".toList = some ⟨.line, ["all"], none⟩ := by
      decide +kernel
    rw [← Option.some.inj (hread.symm.trans hd)]
  · rintro d ⟨l, hl, hd⟩
    rw [hlines'] at hl
    obtain rfl := Option.some.inj hl
    cases hd

end DocLint.Directive

import DocLint.DocBlock.Match
import DocLint.Proofs.Text.Cut

/-!
# Documentation lines: the written form of every line

Each line of a documentation block has a form that can be spelled out: white space, a star, a
tag and text. This module names the forms (`StartLine`, `FreeLine`, `ParamLine`, `TagLine`,
`EndLine`) and shows that the tests of the matcher accept exactly them.

A free line is the only one that may be repeated. It has no tag, and it does not close the
block, so that it is told apart from every other line inside the block by itself
(`isFreeLine_of_tag`, `isFreeLine_of_endLine`).
-/

namespace DocLint

open Text

/-! ### Stars -/

/-- A line with a star and the text `t` after it. A slash right after the star would close the
block. -/
def StarLine (t : List Char) (l : Line) : Prop :=
  t.head? ≠ some '/' ∧ ∃ w, isAllBlank w = true ∧ l = w ++ '*' :: t

/-- The text after the star is read exactly from star lines. -/
theorem starText?_eq_some_iff {l : Line} {t : List Char} :
    starText? l = some t ↔ StarLine t l := by
  unfold starText?
  constructor
  · intro h
    split at h
    · exact absurd h (by simp)
    · rename_i rest hslash htrim
      obtain rfl := Option.some.inj h
      obtain ⟨-, w, hw, rfl⟩ := trimStart_eq_cons_iff.1 htrim
      refine ⟨?_, w, hw, rfl⟩
      intro hhead
      obtain ⟨more, rfl⟩ := List.head?_eq_some_iff.1 hhead
      exact hslash more rfl
    · exact absurd h (by simp)
  · intro h
    obtain ⟨hslash, w, hw, rfl⟩ := h
    have htrim : trimStart (w ++ '*' :: t) = '*' :: t :=
      trimStart_eq_cons_iff.2 ⟨by decide, w, hw, rfl⟩
    rw [htrim]
    split
    · rename_i more heq
      obtain rfl := (List.cons.inj heq).2
      exact absurd rfl hslash
    · rename_i rest _ heq
      rw [(List.cons.inj heq).2]
    · rename_i hstar
      exact absurd rfl (hstar t)

/-! ### Markers -/

/-- The opening marker and white space. -/
def StartLine (l : Line) : Prop := ∃ w, isAllBlank w = true ∧ l = "/**".toList ++ w

/-- The closing marker between white space. -/
def EndLine (l : Line) : Prop :=
  ∃ v w, isAllBlank v = true ∧ isAllBlank w = true ∧ l = v ++ "*/".toList ++ w

theorem isDocStart_iff {l : Line} : isDocStart l = true ↔ StartLine l := by
  unfold isDocStart StartLine
  rw [decide_eq_true_iff]
  exact trimEnd_eq_append_iff (s := []) (by decide)

/-- The closing marker is what comes first on its line. -/
theorem endLine_iff_trimStart {l : Line} :
    EndLine l ↔ ∃ w, isAllBlank w = true ∧ trimStart l = '*' :: '/' :: w := by
  constructor
  · intro h
    obtain ⟨v, w, hv, hw, rfl⟩ := h
    refine ⟨w, hw, ?_⟩
    rw [List.append_assoc]
    exact trimStart_eq_cons_iff.2 ⟨by decide, v, hv, rfl⟩
  · intro h
    obtain ⟨w, hw, htrim⟩ := h
    obtain ⟨-, v, hv, rfl⟩ := trimStart_eq_cons_iff.1 htrim
    exact ⟨v, w, hv, hw, by simp⟩

theorem isDocEnd_iff {l : Line} : isDocEnd l = true ↔ EndLine l := by
  unfold isDocEnd trim
  rw [decide_eq_true_iff, endLine_iff_trimStart]
  exact trimEnd_eq_append_iff (s := []) (by decide)

/-! ### Free lines and tags -/

/-- A line with a star and without a tag. -/
def FreeLine (l : Line) : Prop := '@' ∉ l ∧ ∃ t, StarLine t l

/-- The line of the parameter `name`: the name ends where its text ends, and at least ten
characters follow it. -/
def ParamLine (name : String) (l : Line) : Prop :=
  ∃ c t, continuesName c = false ∧ 10 ≤ (c :: t).length ∧
    StarLine (" @param ".toList ++ name.toList ++ c :: t) l

/-- The line of a tag with a fixed word after it: at least ten characters follow the word. -/
def TagLine (tag word : String) (l : Line) : Prop :=
  ∃ t, 10 ≤ t.length ∧ StarLine (tag.toList ++ word.toList ++ t) l

theorem not_mem_of_isAllBlank {w : List Char} (h : isAllBlank w = true) : '@' ∉ w := by
  intro hmem
  exact absurd (isAllBlank_eq_true_iff.1 h _ hmem) (by decide)

/-- In front of the star there is only white space, so a tag stands after it. -/
theorem StarLine.mem_iff {t : List Char} {l : Line} (h : StarLine t l) : '@' ∈ l ↔ '@' ∈ t := by
  obtain ⟨-, w, hw, rfl⟩ := h
  simp [not_mem_of_isAllBlank hw]

theorem isFreeLine_iff {l : Line} : isFreeLine l = true ↔ FreeLine l := by
  unfold isFreeLine
  rw [Option.any_eq_true]
  constructor
  · intro h
    obtain ⟨t, ht, hat⟩ := h
    have hstar := starText?_eq_some_iff.1 ht
    refine ⟨?_, t, hstar⟩
    rw [hstar.mem_iff]
    simpa using hat
  · intro h
    obtain ⟨hat, t, hstar⟩ := h
    refine ⟨t, starText?_eq_some_iff.2 hstar, ?_⟩
    rw [hstar.mem_iff] at hat
    simpa using hat

/-- A line with a tag after its star is not free. -/
theorem isFreeLine_of_tag {t : List Char} {l : Line} (h : StarLine t l) (hat : '@' ∈ t) :
    isFreeLine l = false := by
  rw [← Bool.not_eq_true, isFreeLine_iff]
  intro h
  obtain ⟨hno, -⟩ := h
  exact hno (h.mem_iff.2 hat)

/-- The closing marker is not free. -/
theorem isFreeLine_of_endLine {l : Line} (h : EndLine l) : isFreeLine l = false := by
  obtain ⟨w, -, htrim⟩ := endLine_iff_trimStart.1 h
  unfold isFreeLine starText?
  rw [htrim]
  rfl

theorem afterTag?_eq_some_iff {tag word : String} {l : Line} {t : List Char} :
    afterTag? tag word l = some t ↔ StarLine (tag.toList ++ word.toList ++ t) l := by
  simp only [afterTag?, Option.bind_eq_bind, Option.bind_eq_some_iff, starText?_eq_some_iff,
    after?_eq_some_iff]
  constructor
  · intro h
    obtain ⟨_, hstar, _, rfl, rfl⟩ := h
    rw [List.append_assoc]
    exact hstar
  · intro hstar
    rw [List.append_assoc] at hstar
    exact ⟨_, hstar, _, rfl, rfl⟩

theorem isTagLine_iff {tag word : String} {l : Line} :
    isTagLine tag word l = true ↔ TagLine tag word l := by
  unfold isTagLine TagLine
  rw [Option.any_eq_true]
  constructor
  · intro h
    obtain ⟨t, ht, hlen⟩ := h
    exact ⟨t, of_decide_eq_true hlen, afterTag?_eq_some_iff.1 ht⟩
  · intro h
    obtain ⟨t, hlen, hstar⟩ := h
    exact ⟨t, afterTag?_eq_some_iff.2 hstar, decide_eq_true hlen⟩

theorem isParamLine_iff {name : String} {l : Line} :
    isParamLine name l = true ↔ ParamLine name l := by
  unfold isParamLine ParamLine
  rw [Option.any_eq_true]
  constructor
  · intro h
    obtain ⟨rest, hrest, htext⟩ := h
    rw [Bool.and_eq_true, Option.any_eq_true] at htext
    obtain ⟨⟨c, hhead, hc⟩, hlen⟩ := htext
    obtain ⟨t, rfl⟩ := List.head?_eq_some_iff.1 hhead
    exact ⟨c, t, by simpa using hc, of_decide_eq_true hlen, afterTag?_eq_some_iff.1 hrest⟩
  · intro h
    obtain ⟨c, t, hc, hlen, hstar⟩ := h
    refine ⟨c :: t, afterTag?_eq_some_iff.2 hstar, ?_⟩
    rw [Bool.and_eq_true]
    exact ⟨by simp [hc], decide_eq_true hlen⟩

theorem isFreeLine_of_tagLine {tag word : String} (hat : '@' ∈ tag.toList) {l : Line}
    (h : TagLine tag word l) : isFreeLine l = false := by
  obtain ⟨t, -, hstar⟩ := h
  exact isFreeLine_of_tag hstar (by simp [hat])

theorem isFreeLine_of_paramLine {name : String} {l : Line} (h : ParamLine name l) :
    isFreeLine l = false := by
  obtain ⟨c, t, -, -, hstar⟩ := h
  exact isFreeLine_of_tag hstar (by simp)

end DocLint

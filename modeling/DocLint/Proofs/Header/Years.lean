import DocLint.Proofs.Header.Attribution
import DocLint.Proofs.Header.Values

/-!
# The years of a header: where they are found

A copyright line has a place for its years, behind `, Inc. `, and they are read there when the
line is recognized (`updateLine?`). The record of a header does not keep that reading. It takes
the first span of years on the line, wherever it stands, and the organization stands in front
of the years. An organization may have any characters but a comma, so it may have a year in its
name.

`YearSpan.FirstIn` says what the first span of years in a text is without a search, and
`findYears_eq_some_iff` that the search finds it. The comma behind the organization ends every
span that starts in the organization, so a copyright line is searched in two parts
(`UpdateLine.findYears_written`): the years of the organization if it has some, else those of
the line. `readHeader_years_iff` carries this over to whole headers. It says exactly when the
record has the years of the line, and which years it has otherwise.
-/

namespace DocLint.Header

open Text

variable {s t : List Char} {span : YearSpan}

/-! ### The first span of years -/

/-- Four digits stand at the front of the text. -/
def StartsWithYear (s : List Char) : Prop := ∃ year, IsYear year ∧ year <+: s

/-- The span stands at the front of the text, and takes in a second year if there is one. -/
structure YearSpan.StartsIn (span : YearSpan) (s : List Char) : Prop where
  wellFormed : span.WellFormed
  written : span.written <+: s
  longest : span.updated = none → ∀ more, s = span.created ++ '-' :: more → ¬ StartsWithYear more

/-- The span is the first one of the text: no year starts further to the left. -/
def YearSpan.FirstIn (span : YearSpan) (s : List Char) : Prop :=
  ∃ n, span.StartsIn (s.drop n) ∧ ∀ m < n, ¬ StartsWithYear (s.drop m)

theorem readYear_eq_none_iff : readYear s = none ↔ ¬ StartsWithYear s := by
  rw [Option.eq_none_iff_forall_not_mem]
  constructor
  · rintro h ⟨year, hyear, rest, rfl⟩
    exact h (year, rest) (readYear_eq_some_iff.2 ⟨rfl, hyear⟩)
  · rintro h ⟨year, rest⟩ hread
    obtain ⟨rfl, hyear⟩ := readYear_eq_some_iff.1 hread
    exact h ⟨year, hyear, List.prefix_append ..⟩

theorem readYears_eq_none_iff : readYears s = none ↔ ¬ StartsWithYear s := by
  rw [readYears, Option.map_eq_none_iff, readYear_eq_none_iff]

theorem YearSpan.StartsIn.readYears_eq_some (h : span.StartsIn s) :
    ∃ rest, readYears s = some (span, rest) := by
  obtain ⟨hspan, ⟨rest, rfl⟩, hlongest⟩ := h
  obtain ⟨created, updated⟩ := span
  have hcreated (tail : List Char) : readYear (created ++ tail) = some (created, tail) :=
    readYear_eq_some_iff.2 ⟨rfl, hspan.created⟩
  refine ⟨rest, ?_⟩
  cases updated with
  | none =>
      simp only [YearSpan.written, readYears, hcreated, Option.map_some]
      split
      · rename_i more
        rw [readYear_eq_none_iff.2 (hlongest rfl more rfl)]
      · rfl
  | some year =>
      have hyear : readYear (year ++ rest) = some (year, rest) :=
        readYear_eq_some_iff.2 ⟨rfl, hspan.updated year rfl⟩
      simp only [YearSpan.written, readYears, List.append_assoc, List.cons_append, hcreated,
        Option.map_some, hyear]

/-- Reading years takes the longest span at the front of the text. -/
theorem readYears_map_fst_eq_some_iff :
    (readYears s).map (·.1) = some span ↔ span.StartsIn s := by
  constructor
  · intro h
    obtain ⟨⟨read, rest⟩, hread, rfl⟩ := Option.map_eq_some_iff.1 h
    obtain ⟨hs, hspan⟩ := readYears_sound hread
    refine ⟨hspan, hs ▸ List.prefix_append .., ?_⟩
    -- A second year behind the hyphen would make a longer span, and that is read instead.
    rintro hnone more hmore ⟨year, hyear, tail, rfl⟩
    have hlonger : YearSpan.StartsIn ⟨read.created, some year⟩ s :=
      ⟨⟨hspan.created, by simpa using hyear⟩, ⟨tail, by simp [YearSpan.written, hmore]⟩, by simp⟩
    obtain ⟨rest', hread'⟩ := hlonger.readYears_eq_some
    rw [hread] at hread'
    obtain ⟨heq, -⟩ := Prod.mk.inj (Option.some.inj hread')
    rw [heq] at hnone
    exact absurd hnone (by simp)
  · intro h
    obtain ⟨rest, hread⟩ := h.readYears_eq_some
    rw [hread]
    rfl

/-- The search for years finds the first span. -/
theorem findYears_eq_some_iff : findYears s = some span ↔ span.FirstIn s := by
  simp only [findYears, firstMatch_eq_some_iff, YearSpan.FirstIn, readYears_map_fst_eq_some_iff,
    Option.map_eq_none_iff, readYears_eq_none_iff]

/-- The search finds nothing in texts without four digits in a row. -/
theorem findYears_eq_none_iff : findYears s = none ↔ ∀ year, IsYear year → ¬ year <:+: s := by
  simp only [findYears, firstMatch_eq_none_iff, Option.map_eq_none_iff, readYears_eq_none_iff]
  constructor
  · intro h year hyear hinfix
    obtain ⟨t, hprefix, hsuffix⟩ := List.infix_iff_prefix_suffix.1 hinfix
    exact h t hsuffix ⟨year, hyear, hprefix⟩
  · rintro h t hsuffix ⟨year, hyear, hprefix⟩
    exact h year hyear (List.infix_iff_prefix_suffix.2 ⟨t, hprefix, hsuffix⟩)

/-! ### Searching a copyright line -/

/-- A character outside of the class ends what is read, whatever follows it. -/
theorem readExactly_append_stop {p : Char → Bool} {c : Char} (hc : p c = false) (n : Nat) :
    readExactly p n (s ++ c :: t) =
      (readExactly p n s).map fun (taken, rest) => (taken, rest ++ c :: t) := by
  induction n generalizing s with
  | zero => rfl
  | succ n ih =>
      cases s with
      | nil => simp [readExactly, hc]
      | cons d s =>
          simp only [List.cons_append, readExactly, ih]
          split
          · simp only [Option.map_map, Function.comp_def]
          · rfl

/-- No span of years goes over a comma. -/
theorem readYears_append_comma :
    (readYears (s ++ ',' :: t)).map (·.1) = (readYears s).map (·.1) := by
  have hstop (s : List Char) : readYear (s ++ ',' :: t) =
      (readYear s).map fun (taken, rest) => (taken, rest ++ ',' :: t) :=
    readExactly_append_stop (by decide) 4
  unfold readYears
  rw [hstop]
  cases readYear s with
  | none => rfl
  | some read =>
      obtain ⟨created, rest⟩ := read
      simp only [Option.map_some]
      -- The comma is the next character if the year ends the text, and it is not a hyphen.
      cases rest with
      | nil => rfl
      | cons c rest =>
          by_cases hc : c = '-'
          · subst hc
            simp only [List.cons_append, hstop]
            cases readYear rest with
            | none => rfl
            | some => rfl
          · simp [hc]

/-- Characters that are no digits are passed over. -/
theorem findYears_append_of_not_digit (h : ∀ c ∈ s, c.isDigit = false) :
    findYears (s ++ t) = findYears t := by
  refine firstMatch_append_of_skip (fun c rest hc => ?_) h t
  simp [readYears, readYear, readExactly, hc]

/-- A text with a comma is searched in two parts, the one in front of the comma first. -/
theorem findYears_append_comma (s t : List Char) :
    findYears (s ++ ',' :: t) = (findYears s).or (findYears t) := by
  induction s with
  | nil => exact findYears_append_of_not_digit (s := [',']) (by simp)
  | cons c s ih =>
      have hread := readYears_append_comma (s := c :: s) (t := t)
      unfold findYears at ih ⊢
      rw [List.cons_append] at hread ⊢
      rw [firstMatch, firstMatch, hread, ih, Option.or_assoc]

/-- The years of a copyright line are searched for in the organization first. -/
theorem UpdateLine.findYears_written {line : UpdateLine} (hline : line.WellFormed)
    (w : List Char) :
    findYears (line.written ++ w) = (findYears line.organization).or (some line.years) := by
  have hyears : findYears (line.years.written ++ (". All rights reserved.".toList ++ w)) =
      some line.years := by
    rw [findYears, firstMatch_eq_some_iff]
    refine ⟨0, ?_, by simp⟩
    rw [List.drop_zero, readYears_complete hline.years (by simp)]
    rfl
  rw [UpdateLine.written_append, findYears_append_of_not_digit (by simp)]
  show findYears (line.organization ++ ',' :: (" Inc. ".toList ++ _)) = _
  rw [findYears_append_comma, findYears_append_of_not_digit (by simp), hyears]

/-! ### The years of the record -/

theorem Form.getElem?_lines_one {g : Grammar} (h : Form g) : h.lines[1]? = some h.update := by
  rw [h.lines_eq_body]
  rfl

/-- **The years of a header.** Every text that is accepted has a copyright line with an
organization and years, and a record. The record has the years of the line exactly if the
organization has no four digits in a row, or if its first span of years is the same. If the
organization has years, the record has the first of them. -/
theorem readHeader_years_iff {g : Grammar} {text : String}
    (hvalid : (validate g text).onEmpty.1 = true) :
    ∃ (line : UpdateLine) (w : List Char) (record : HeaderRecord),
      line.WellFormed ∧ isAllBlank w = true ∧
      (lines text.toList)[1]? = some (line.written ++ w) ∧
      (readHeader g text).Yields (some record) [] ∧
      (record.years = line.years ↔
        (∀ year, IsYear year → ¬ year <:+: line.organization) ∨
          line.years.FirstIn line.organization) ∧
      ∀ span : YearSpan, span.FirstIn line.organization → record.years = span := by
  obtain ⟨h, hlines⟩ := validate_eq_true_iff.1 hvalid
  obtain ⟨line, hline, -, w, hw, hupdate⟩ := h.update_ok
  obtain ⟨record, hyears, hrecord⟩ := h.exists_yields_recordOf
  rw [hupdate, line.findYears_written hline w] at hyears
  refine ⟨line, w, record, hline, hw, ?_, h.readHeader_eq hlines ▸ hrecord, ?_, ?_⟩
  · rw [← hlines, h.getElem?_lines_one, hupdate]
  · rw [← findYears_eq_none_iff, ← findYears_eq_some_iff]
    cases hfound : findYears line.organization with
    | none => simpa [hfound, eq_comm] using hyears
    | some span =>
        rw [hfound, Option.some_or, Option.some.injEq] at hyears
        simp [hyears]
  · intro span hspan
    rw [findYears_eq_some_iff.2 hspan, Option.some_or] at hyears
    exact (Option.some.inj hyears).symm

/-- A header of an organization, with the years 2018 to 2020. -/
def ownedBy (organization : String) : List Char :=
  "/**\n * Copyright ".toList ++ organization.toList ++
    ", Inc. 2018-2020. All rights reserved.\n * Main.kt\n".toList ++
    " * Starts the program and waits.\n * @author Ada Byron Feb 2, 2018\n */\n".toList

theorem validate_ofList_of_isOk {g : Grammar} {cs : List Char}
    (h : (Layout.ofLines g (lines cs)).isOk = true) :
    (validate g (String.ofList cs)).onEmpty.1 = true := by
  unfold validate Layout.parse
  rw [String.toList_ofList]
  cases hcut : Layout.ofLines g (lines cs) with
  | ok layout => rfl
  | error stop =>
      rw [hcut] at h
      exact absurd h (by simp [Except.isOk, Except.toBool])

/-- Two digits in the name of the organization do no harm. -/
theorem readHeader_years_studio54 :
    (validate {} (String.ofList (ownedBy "Studio 54"))).onEmpty.1 = true ∧
    ∃ record, (readHeader {} (String.ofList (ownedBy "Studio 54"))).Yields (some record) [] ∧
      record.years = ⟨"2018".toList, some "2020".toList⟩ := by
  have hvalid : (validate {} (String.ofList (ownedBy "Studio 54"))).onEmpty.1 = true :=
    validate_ofList_of_isOk (by decide +kernel)
  have hcopyright : (lines (ownedBy "Studio 54"))[1]?.bind updateLine? =
      some ⟨"Studio 54".toList, "2018".toList, some "2020".toList⟩ := by decide +kernel
  have hnone : findYears "Studio 54".toList = none := by decide +kernel
  obtain ⟨line, w, record, hline, hw, hsecond, hrecord, hiff, -⟩ := readHeader_years_iff hvalid
  rw [String.toList_ofList] at hsecond
  rw [hsecond, Option.bind_some, updateLine?_eq_some_iff.2 ⟨hline, w, hw, rfl⟩] at hcopyright
  obtain rfl := Option.some.inj hcopyright
  exact ⟨hvalid, record, hrecord, hiff.2 (.inl (findYears_eq_none_iff.1 hnone))⟩

/-- Four digits in the name of the organization are taken for the years. -/
theorem readHeader_years_studio1984 :
    (validate {} (String.ofList (ownedBy "Studio 1984"))).onEmpty.1 = true ∧
    (lines (String.ofList (ownedBy "Studio 1984")).toList)[1]? =
      some " * Copyright Studio 1984, Inc. 2018-2020. All rights reserved.".toList ∧
    ∃ record, (readHeader {} (String.ofList (ownedBy "Studio 1984"))).Yields (some record) [] ∧
      record.years = ⟨"1984".toList, none⟩ := by
  have hvalid : (validate {} (String.ofList (ownedBy "Studio 1984"))).onEmpty.1 = true :=
    validate_ofList_of_isOk (by decide +kernel)
  have hsecond : (lines (ownedBy "Studio 1984"))[1]? =
      some " * Copyright Studio 1984, Inc. 2018-2020. All rights reserved.".toList := by
    decide +kernel
  have hfound : (lines (ownedBy "Studio 1984"))[1]?.bind findYears =
      some ⟨"1984".toList, none⟩ := by decide +kernel
  obtain ⟨h, hlines⟩ := validate_eq_true_iff.1 hvalid
  obtain ⟨record, hyears, hrecord⟩ := h.exists_yields_recordOf
  refine ⟨hvalid, (congrArg (fun cs => (lines cs)[1]?) String.toList_ofList).trans hsecond,
    record, h.readHeader_eq hlines ▸ hrecord, ?_⟩
  rw [String.toList_ofList] at hlines
  rw [← hlines, h.getElem?_lines_one, Option.bind_some, hyears] at hfound
  exact Option.some.inj hfound

end DocLint.Header

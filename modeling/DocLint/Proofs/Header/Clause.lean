import DocLint.Header.Clause
import DocLint.Proofs.Text.Cut
import Mathlib.Data.Option.Basic

/-!
# Header clauses: the written form of every line

Each reader of `DocLint.Header.Clause` walks a line from left to right. This module says, for
each of them, which lines it accepts: exactly those that are spelled out from a well-formed
value, with white space after it. The values (`UpdateLine`, `AuthorLine`, `Date`, `YearSpan`)
get their spelling (`written`) and their well-formedness (`WellFormed`) here, and every clause a
predicate that says the form of its line without a reader (`IsBlockStart`, `IsAuthorLine` and
the others).

The readers of words and numbers are greedy. Their equivalences carry the condition that the
text goes on with a character that cannot extend what was read; on a line this always holds,
because a fixed word with such a character follows.

Two facts about the lines are used all over the header: a line with the margin ` * ` never
closes a block (`isBlockEnd_margin`), and white space at the end of a marker, a copyright,
file-name or author line makes no difference (`IsBlockStart.append_blank` and its likes).
-/

namespace DocLint.Header

open Text

/-! ### Words, years and dates -/

/-- A capital letter and one or more small letters. -/
def IsName (t : List Char) : Prop :=
  ∃ c small, t = c :: small ∧ c.isUpper = true ∧ small ≠ [] ∧ ∀ a ∈ small, a.isLower = true

/-- A capital letter and two small letters. -/
def IsMonth (t : List Char) : Prop :=
  ∃ c small, t = c :: small ∧ c.isUpper = true ∧ small.length = 2 ∧ ∀ a ∈ small, a.isLower = true

/-- One or two digits. -/
def IsDay (t : List Char) : Prop :=
  (t.length = 1 ∨ t.length = 2) ∧ ∀ a ∈ t, a.isDigit = true

/-- Four digits. -/
def IsYear (t : List Char) : Prop := t.length = 4 ∧ ∀ a ∈ t, a.isDigit = true

/-- The years are years. -/
structure YearSpan.WellFormed (span : YearSpan) : Prop where
  created : IsYear span.created
  updated : ∀ year ∈ span.updated, IsYear year

/-- The parts of the date have their form. -/
structure Date.WellFormed (date : Date) : Prop where
  month : IsMonth date.month
  day : IsDay date.day
  year : IsYear date.year

/-- Reading `n` characters of a class gives the first `n` characters of the text, if they all
belong to the class. -/
theorem readExactly_eq_some_iff {p : Char → Bool} {n : Nat} {s t rest : List Char} :
    readExactly p n s = some (t, rest) ↔
      s = t ++ rest ∧ t.length = n ∧ ∀ a ∈ t, p a = true := by
  induction n generalizing s t with
  | zero =>
      simp only [readExactly, Option.some.injEq, Prod.mk.injEq, List.length_eq_zero_iff]
      constructor
      · intro h
        obtain ⟨rfl, rfl⟩ := h
        exact ⟨rfl, rfl, by simp⟩
      · intro h
        obtain ⟨rfl, rfl, -⟩ := h
        exact ⟨rfl, rfl⟩
  | succ n ih =>
      cases s with
      | nil => cases t <;> simp [readExactly]
      | cons c s =>
          simp only [readExactly]
          by_cases hc : p c = true
          · rw [if_pos hc, Option.map_eq_some_iff]
            constructor
            · intro h
              obtain ⟨⟨t', rest'⟩, hread, heq⟩ := h
              obtain ⟨rfl, rfl⟩ := Prod.mk.inj heq
              obtain ⟨rfl, hlen, hall⟩ := ih.1 hread
              exact ⟨rfl, by simp [hlen], by simpa [hc] using hall⟩
            · intro h
              obtain ⟨hs, hlen, hall⟩ := h
              cases t with
              | nil => simp at hlen
              | cons d t =>
                  obtain ⟨rfl, rfl⟩ := List.cons.inj hs
                  refine ⟨(t, rest), ih.2 ⟨rfl, by simpa using hlen, ?_⟩, rfl⟩
                  exact fun a ha => hall a (List.mem_cons_of_mem _ ha)
          · rw [if_neg hc]
            constructor
            · intro h
              exact absurd h (by simp)
            · intro h
              obtain ⟨hs, hlen, hall⟩ := h
              cases t with
              | nil => simp at hlen
              | cons d t =>
                  obtain ⟨rfl, -⟩ := List.cons.inj hs
                  exact absurd (hall c (List.mem_cons_self ..)) hc

/-- Reading a year is reading four digits. -/
theorem readYear_eq_some_iff {s t rest : List Char} :
    readYear s = some (t, rest) ↔ s = t ++ rest ∧ IsYear t :=
  readExactly_eq_some_iff

/-- Reading a name takes a name off the front, as long as it goes. -/
theorem readName_eq_some_iff {s t rest : List Char} :
    readName s = some (t, rest) ↔
      s = t ++ rest ∧ IsName t ∧ ∀ a ∈ rest.head?, a.isLower = false := by
  constructor
  · intro h
    cases s with
    | nil => simp [readName] at h
    | cons c s =>
        simp only [readName] at h
        split at h
        · rename_i hc
          obtain ⟨rfl, rfl⟩ := Prod.mk.inj (Option.some.inj h)
          simp only [Bool.and_eq_true, Bool.not_eq_true', List.isEmpty_eq_false_iff] at hc
          refine ⟨by simp [List.takeWhile_append_dropWhile],
            ⟨c, _, rfl, hc.1, hc.2, fun a ha => List.mem_takeWhile_imp ha⟩, ?_⟩
          intro a ha
          have := List.head?_dropWhile_not Char.isLower s
          rw [Option.mem_def.1 ha] at this
          simpa using this
        · exact absurd h (by simp)
  · intro h
    obtain ⟨rfl, ⟨c, small, rfl, hc, hne, hsmall⟩, hrest⟩ := h
    obtain ⟨htake, hdrop⟩ := takeWhile_append_stop hsmall hrest
    simp [readName, htake, hdrop, hc, hne]

/-- Reading the name of a month takes three letters off the front. -/
theorem readMonth_eq_some_iff {s t rest : List Char} :
    readMonth s = some (t, rest) ↔ s = t ++ rest ∧ IsMonth t := by
  constructor
  · intro h
    cases s with
    | nil => simp [readMonth] at h
    | cons c s =>
        simp only [readMonth] at h
        split at h
        · rename_i hc
          obtain ⟨⟨small, rest'⟩, hread, heq⟩ := Option.map_eq_some_iff.1 h
          obtain ⟨rfl, rfl⟩ := Prod.mk.inj heq
          obtain ⟨rfl, hlen, hsmall⟩ := readExactly_eq_some_iff.1 hread
          exact ⟨rfl, c, small, rfl, hc, hlen, hsmall⟩
        · exact absurd h (by simp)
  · intro h
    obtain ⟨rfl, c, small, rfl, hc, hlen, hsmall⟩ := h
    have hread : readExactly Char.isLower 2 (small ++ rest) = some (small, rest) :=
      readExactly_eq_some_iff.2 ⟨rfl, hlen, hsmall⟩
    simp [readMonth, hc, hread]

/-- Reading a day takes two digits off the front if there are two, else one. -/
theorem readDay_eq_some_iff {s t rest : List Char} :
    readDay s = some (t, rest) ↔
      s = t ++ rest ∧ IsDay t ∧ (t.length = 1 → ∀ a ∈ rest.head?, a.isDigit = false) := by
  constructor
  · intro h
    unfold readDay at h
    split at h
    · exact absurd h (by simp)
    · rename_i c s
      split at h
      · rename_i hc
        split at h
        · obtain ⟨rfl, rfl⟩ := Prod.mk.inj (Option.some.inj h)
          exact ⟨rfl, ⟨Or.inl rfl, by simpa using hc⟩, by simp⟩
        · rename_i d more
          split at h
          · rename_i hd
            obtain ⟨rfl, rfl⟩ := Prod.mk.inj (Option.some.inj h)
            exact ⟨rfl, ⟨Or.inr rfl, by simp [hc, hd]⟩, by simp⟩
          · rename_i hd
            obtain ⟨rfl, rfl⟩ := Prod.mk.inj (Option.some.inj h)
            exact ⟨rfl, ⟨Or.inl rfl, by simpa using hc⟩, by simpa using hd⟩
      · exact absurd h (by simp)
  · intro h
    obtain ⟨rfl, ⟨hlen, hall⟩, hrest⟩ := h
    rcases hlen with hlen | hlen
    · obtain ⟨c, rfl⟩ := List.length_eq_one_iff.1 hlen
      have hc : c.isDigit = true := hall c (List.mem_cons_self ..)
      cases rest with
      | nil => simp [readDay, hc]
      | cons d rest => simp [readDay, hc, hrest hlen d rfl]
    · obtain ⟨c, d, rfl⟩ := List.length_eq_two.1 hlen
      have hc : c.isDigit = true := hall c (by simp)
      have hd : d.isDigit = true := hall d (by simp)
      simp [readDay, hc, hd]

/-- What is read as years is written at the front of the text. -/
theorem readYears_sound {s rest : List Char} {span : YearSpan}
    (h : readYears s = some (span, rest)) : s = span.written ++ rest ∧ span.WellFormed := by
  unfold readYears at h
  obtain ⟨⟨created, after⟩, hcreated, heq⟩ := Option.map_eq_some_iff.1 h
  obtain ⟨rfl, hyear⟩ := readYear_eq_some_iff.1 hcreated
  dsimp only at heq
  split at heq
  · rename_i more
    split at heq
    · rename_i updated tail hupdated
      obtain ⟨rfl, rfl⟩ := Prod.mk.inj heq
      obtain ⟨rfl, hyear'⟩ := readYear_eq_some_iff.1 hupdated
      exact ⟨by simp [YearSpan.written], hyear, by simpa using hyear'⟩
    · obtain ⟨rfl, rfl⟩ := Prod.mk.inj heq
      exact ⟨rfl, hyear, by simp⟩
  · obtain ⟨rfl, rfl⟩ := Prod.mk.inj heq
    exact ⟨rfl, hyear, by simp⟩

/-- Years are read as they are written, unless a hyphen follows a single year. -/
theorem readYears_complete {span : YearSpan} (hspan : span.WellFormed) {rest : List Char}
    (hrest : rest.head? ≠ some '-') : readYears (span.written ++ rest) = some (span, rest) := by
  obtain ⟨created, updated⟩ := span
  have hread (tail : List Char) : readYear (created ++ tail) = some (created, tail) :=
    readYear_eq_some_iff.2 ⟨rfl, hspan.created⟩
  cases updated with
  | none =>
      simp only [YearSpan.written, readYears, hread, Option.map_some]
      split
      · exact absurd rfl hrest
      · rfl
  | some year =>
      have hyear : readYear (year ++ rest) = some (year, rest) :=
        readYear_eq_some_iff.2 ⟨rfl, hspan.updated year rfl⟩
      simp only [YearSpan.written, readYears, List.append_assoc, List.cons_append, hread,
        Option.map_some, hyear]

/-- A date is read as it is written, whatever follows. -/
theorem readDate_eq_some_iff {s rest : List Char} {date : Date} :
    readDate s = some (date, rest) ↔ s = date.written ++ rest ∧ date.WellFormed := by
  obtain ⟨month, day, year⟩ := date
  simp only [readDate, Option.bind_eq_bind, Option.bind_eq_some_iff, Prod.exists,
    readMonth_eq_some_iff, readDay_eq_some_iff, readYear_eq_some_iff, after?_eq_some_iff,
    Option.some.injEq, Prod.mk.injEq, Date.mk.injEq]
  constructor
  · intro h
    obtain ⟨_, _, ⟨rfl, hmonth⟩, _, rfl, _, _, ⟨rfl, hday, -⟩, _, rfl, _, _, ⟨rfl, hyear⟩,
      ⟨rfl, rfl, rfl⟩, rfl⟩ := h
    exact ⟨by simp [Date.written], hmonth, hday, hyear⟩
  · intro h
    obtain ⟨rfl, hmonth, hday, hyear⟩ := h
    -- The comma after the day stops the reader of days.
    exact ⟨month, ' ' :: day ++ ", ".toList ++ year ++ rest, ⟨by simp [Date.written], hmonth⟩,
      day ++ ", ".toList ++ year ++ rest, by simp, day, ", ".toList ++ year ++ rest,
      ⟨by simp, hday, fun _ => by simp⟩, year ++ rest, by simp, year, rest, ⟨rfl, hyear⟩,
      ⟨rfl, rfl, rfl⟩, rfl⟩

/-! ### Markers -/

/-- The opening marker stands at the start of its line, and only white space follows it. -/
def IsBlockStart (l : Line) : Prop := ∃ w, isAllBlank w = true ∧ l = "/**".toList ++ w

/-- The closing marker has white space in front of it, and only white space follows it. -/
def IsBlockEnd (l : Line) : Prop :=
  ∃ v w, v ≠ [] ∧ isAllBlank v = true ∧ isAllBlank w = true ∧ l = v ++ "*/".toList ++ w

theorem isBlockStart_iff {l : Line} : isBlockStart l = true ↔ IsBlockStart l := by
  unfold isBlockStart
  constructor
  · intro h
    split at h
    · rename_i w hw
      exact ⟨w, h, after?_eq_some_iff.1 hw⟩
    · exact absurd h (by simp)
  · intro h
    obtain ⟨w, hw, rfl⟩ := h
    rw [after?_append]
    exact hw

theorem IsBlockStart.append_blank {l w : List Char} (hw : isAllBlank w = true)
    (h : IsBlockStart l) : IsBlockStart (l ++ w) := by
  obtain ⟨v, hv, rfl⟩ := h
  exact ⟨v ++ w, by simp [hv, hw], List.append_assoc ..⟩

theorem isBlockEnd_iff {l : Line} : isBlockEnd l = true ↔ IsBlockEnd l := by
  unfold isBlockEnd
  constructor
  · intro h
    split at h
    · rename_i w hw
      rw [Bool.and_eq_true] at h
      have htrim : trimStart l = '*' :: '/' :: w := after?_eq_some_iff.1 hw
      obtain ⟨-, v, hv, rfl⟩ := trimStart_eq_cons_iff.1 htrim
      refine ⟨v, w, ?_, hv, h.2, by simp⟩
      -- Without white space in front, the line would start with the visible star.
      rintro rfl
      simp [isBlank] at h
    · exact absurd h (by simp)
  · intro h
    obtain ⟨v, w, hne, hv, hw, rfl⟩ := h
    obtain ⟨c, v, rfl⟩ := List.exists_cons_of_ne_nil hne
    have hc : isBlank c = true := isAllBlank_eq_true_iff.1 hv c (List.mem_cons_self ..)
    have htrim : trimStart (c :: v ++ "*/".toList ++ w) = "*/".toList ++ w := by
      rw [List.append_assoc, trimStart_append_of_blank hv]
      simp [trimStart, isBlank]
    rw [htrim, after?_append]
    simp [hc, hw]

theorem IsBlockEnd.append_blank {l w : List Char} (hw : isAllBlank w = true)
    (h : IsBlockEnd l) : IsBlockEnd (l ++ w) := by
  obtain ⟨v, v', hne, hv, hv', rfl⟩ := h
  exact ⟨v, v' ++ w, hne, hv, by simp [hv', hw], List.append_assoc ..⟩

/-- A line with the margin of the other lines does not close the block. -/
theorem isBlockEnd_margin (s : List Char) : isBlockEnd (" * ".toList ++ s) = false := by
  simp [isBlockEnd, trimStart, isBlank, after?]

/-- The closing marker is visible. -/
theorem IsBlockEnd.isAllBlank_eq_false {l : Line} (h : IsBlockEnd l) : isAllBlank l = false := by
  obtain ⟨v, w, -, -, -, rfl⟩ := h
  exact isAllBlank_eq_false_of_mem (c := '*') (by simp) (by decide)

/-! ### Copyright lines -/

/-- The line, spelled out. -/
def UpdateLine.written (line : UpdateLine) : Line :=
  " * Copyright ".toList ++ line.organization ++ ", Inc. ".toList ++ line.years.written ++
    ". All rights reserved.".toList

/-- The spelling, grouped in the order in which it is read. -/
theorem UpdateLine.written_append (line : UpdateLine) (w : List Char) :
    line.written ++ w = " * Copyright ".toList ++ (line.organization ++ (", Inc. ".toList ++
      (line.years.written ++ (". All rights reserved.".toList ++ w)))) := by
  show " * Copyright ".toList ++ line.organization ++ ", Inc. ".toList ++ line.years.written ++
    ". All rights reserved.".toList ++ w = _
  simp only [List.append_assoc]

/-- The organization starts with a capital letter and has no comma; the years are years. -/
structure UpdateLine.WellFormed (line : UpdateLine) : Prop where
  capital : line.organization.head?.any Char.isUpper = true
  comma : ',' ∉ line.organization
  years : line.years.WellFormed

/-- A copyright line is read exactly as it is written. -/
theorem updateLine?_eq_some_iff {l : Line} {line : UpdateLine} :
    updateLine? l = some line ↔
      line.WellFormed ∧ ∃ w, isAllBlank w = true ∧ l = line.written ++ w := by
  obtain ⟨organization, years⟩ := line
  simp only [updateLine?, Option.bind_eq_bind, Option.bind_eq_some_iff, Prod.exists,
    Option.guard_eq_some', after?_eq_some_iff, Option.some.injEq, UpdateLine.mk.injEq]
  constructor
  · intro h
    obtain ⟨s, rfl, -, hcapital, tail, htail, years', rest, hyears, w, rfl, -, hw, rfl, rfl⟩ := h
    obtain ⟨rfl, hspan⟩ := readYears_sound hyears
    refine ⟨⟨hcapital, ?_, hspan⟩, w, hw, ?_⟩
    · intro hmem
      simpa using List.mem_takeWhile_imp hmem
    · have hs : s = s.takeWhile (· ≠ ',') ++ (", Inc. ".toList ++ (years'.written ++
          (". All rights reserved.".toList ++ w))) := by
        rw [← htail, List.takeWhile_append_dropWhile]
      rw [UpdateLine.written_append]
      exact congrArg _ hs
  · intro h
    obtain ⟨⟨hcapital, hcomma, hspan⟩, w, hw, rfl⟩ := h
    -- The comma after the organization is the first one of the line.
    have hno : ∀ a ∈ organization, decide (a ≠ ',') = true := by
      intro a ha
      exact decide_eq_true fun heq => hcomma (heq ▸ ha)
    have hstop : ∀ a ∈ (", Inc. ".toList ++ (years.written ++
        (". All rights reserved.".toList ++ w))).head?, decide (a ≠ ',') = false := by
      simp
    have hyears : readYears (years.written ++ (". All rights reserved.".toList ++ w)) =
        some (years, ". All rights reserved.".toList ++ w) :=
      readYears_complete hspan (by simp)
    obtain ⟨htake, hdrop⟩ := takeWhile_append_stop hno hstop
    refine ⟨_, UpdateLine.written_append _ w, (), ?_, _, hdrop, years, _, hyears, w, rfl, (), hw,
      htake, rfl⟩
    dsimp only
    rw [htake]
    exact hcapital

/-- The copyright lines of a project: those of its organization, or of any if it names none. -/
def Grammar.IsUpdateLine (g : Grammar) (l : Line) : Prop :=
  ∃ line : UpdateLine, line.WellFormed ∧
    (∀ organization ∈ g.organization, line.organization = organization.toList) ∧
    ∃ w, isAllBlank w = true ∧ l = line.written ++ w

theorem Grammar.isUpdateLine_iff {g : Grammar} {l : Line} :
    g.isUpdateLine l = true ↔ g.IsUpdateLine l := by
  unfold Grammar.isUpdateLine
  constructor
  · intro h
    split at h
    · exact absurd h (by simp)
    · rename_i line hline
      obtain ⟨hwf, hw⟩ := updateLine?_eq_some_iff.1 hline
      refine ⟨line, hwf, ?_, hw⟩
      intro organization horg
      rw [Option.mem_def] at horg
      simpa [horg] using h
  · intro h
    obtain ⟨line, hwf, horg, hw⟩ := h
    rw [updateLine?_eq_some_iff.2 ⟨hwf, hw⟩]
    cases h : g.organization with
    | none => rfl
    | some organization => simpa using horg organization h

theorem Grammar.IsUpdateLine.append_blank {g : Grammar} {l w : List Char}
    (hw : isAllBlank w = true) (h : g.IsUpdateLine l) : g.IsUpdateLine (l ++ w) := by
  obtain ⟨line, hwf, horg, v, hv, rfl⟩ := h
  exact ⟨line, hwf, horg, v ++ w, by simp [hv, hw], List.append_assoc ..⟩

theorem Grammar.IsUpdateLine.of_append_blank {g : Grammar} {l w : List Char}
    (hw : isAllBlank w = true) (h : g.IsUpdateLine (l ++ w)) : g.IsUpdateLine l := by
  obtain ⟨line, hwf, horg, hwritten⟩ := h
  have hvisible : (". All rights reserved.".toList).getLast?.any (!isBlank ·) = true := by decide
  exact ⟨line, hwf, horg, (exists_append_blank_iff hvisible hw).1 hwritten⟩

/-! ### File-name lines -/

/-- The line names the file: margin, name, extension and white space. -/
def NamesFile (name : String) (l : Line) : Prop :=
  ∃ w, isAllBlank w = true ∧ l = " * ".toList ++ name.toList ++ ".kt".toList ++ w

/-- A line that names some file, with a name that is not empty and stays on the line. -/
def IsFileNameLine (l : Line) : Prop :=
  ∃ name : String, name.toList ≠ [] ∧ '\n' ∉ name.toList ∧ NamesFile name l

/-- The extension ends with a visible character, so trimming a line stops right after it. -/
theorem extension_visible : (".kt".toList).getLast?.any (!isBlank ·) = true := by decide

/-- A file-name line is read exactly as it is written. -/
theorem fileName?_eq_some_iff {l : Line} {name : List Char} :
    fileName? l = some name ↔ (name ≠ [] ∧ '\n' ∉ name) ∧
      ∃ w, isAllBlank w = true ∧ l = " * ".toList ++ name ++ ".kt".toList ++ w := by
  simp only [fileName?, Option.bind_eq_bind, Option.bind_eq_some_iff, Option.guard_eq_some',
    after?_eq_some_iff, before?_eq_some_iff, Option.some.injEq]
  constructor
  · intro h
    obtain ⟨s, rfl, found, hfound, -, hname, rfl⟩ := h
    obtain ⟨w, hw, rfl⟩ := (trimEnd_eq_append_iff extension_visible).1 hfound
    exact ⟨hname, w, hw, by simp only [List.append_assoc]⟩
  · intro h
    obtain ⟨hname, w, hw, rfl⟩ := h
    refine ⟨name ++ ".kt".toList ++ w, by simp only [List.append_assoc], name, ?_, (), hname, rfl⟩
    exact (trimEnd_eq_append_iff extension_visible).2 ⟨w, hw, rfl⟩

theorem isFileName_iff {l : Line} : isFileName l = true ↔ IsFileNameLine l := by
  unfold isFileName
  rw [Option.isSome_iff_exists]
  constructor
  · intro h
    obtain ⟨name, hname⟩ := h
    obtain ⟨⟨hne, hfeed⟩, hnames⟩ := fileName?_eq_some_iff.1 hname
    rw [← String.toList_ofList (l := name)] at hne hfeed hnames
    exact ⟨String.ofList name, hne, hfeed, hnames⟩
  · intro h
    obtain ⟨name, hne, hfeed, hnames⟩ := h
    exact ⟨name.toList, fileName?_eq_some_iff.2 ⟨⟨hne, hfeed⟩, hnames⟩⟩

/-- A line that has the form of a file-name line names just the file it says. -/
theorem isFileNameOf_iff_namesFile {l : Line} (hl : IsFileNameLine l) (name : String) :
    isFileNameOf name l = true ↔ NamesFile name l := by
  unfold isFileNameOf
  rw [decide_eq_true_iff]
  constructor
  · intro h
    exact (fileName?_eq_some_iff.1 h).2
  · intro h
    obtain ⟨w, hw, rfl⟩ := h
    obtain ⟨found, hfound⟩ := Option.isSome_iff_exists.1 (isFileName_iff.2 hl)
    obtain ⟨-, v, hv, heq⟩ := fileName?_eq_some_iff.1 hfound
    -- Both readings are the line without its margin, trimmed, so they are one.
    have hsame : name.toList ++ ".kt".toList = found ++ ".kt".toList := by
      simp only [List.append_assoc, List.append_cancel_left_eq] at heq
      rw [← List.append_assoc, ← List.append_assoc] at heq
      rw [← trimEnd_append_word extension_visible name.toList, ← trimEnd_append_of_blank hw, heq,
        trimEnd_append_of_blank hv, trimEnd_append_word extension_visible]
    rw [hfound, List.append_cancel_right hsame]

/-- White space at the end of a file-name line makes no difference to the name. -/
theorem fileName?_append_blank {l w name : List Char} (hw : isAllBlank w = true)
    (h : fileName? l = some name) : fileName? (l ++ w) = some name := by
  obtain ⟨hname, v, hv, rfl⟩ := fileName?_eq_some_iff.1 h
  exact fileName?_eq_some_iff.2 ⟨hname, v ++ w, by simp [hv, hw], List.append_assoc ..⟩

theorem fileName?_of_append_blank {l w name : List Char} (hw : isAllBlank w = true)
    (h : fileName? (l ++ w) = some name) : fileName? l = some name := by
  obtain ⟨hname, hnames⟩ := fileName?_eq_some_iff.1 h
  exact fileName?_eq_some_iff.2 ⟨hname, (exists_append_blank_iff extension_visible hw).1 hnames⟩

/-! ### Description lines -/

/-- A description line has at least twenty characters after the margin. -/
def IsDescriptionLine (l : Line) : Prop :=
  ∃ t, l = " * ".toList ++ t ∧ 20 ≤ t.length ∧ '\n' ∉ t

theorem isDescription_iff {l : Line} : isDescription l = true ↔ IsDescriptionLine l := by
  unfold isDescription
  constructor
  · intro h
    split at h
    · rename_i t ht
      exact ⟨t, after?_eq_some_iff.1 ht, by simpa using h⟩
    · exact absurd h (by simp)
  · intro h
    obtain ⟨t, rfl, hlen, hfeed⟩ := h
    rw [after?_append]
    simp [hlen, hfeed]

/-- A description line does not close the block. -/
theorem IsDescriptionLine.isBlockEnd_eq_false {l : Line} (h : IsDescriptionLine l) :
    isBlockEnd l = false := by
  obtain ⟨t, rfl, -, -⟩ := h
  exact isBlockEnd_margin t

/-- A carriage return at the end of a description line is one more character of it. -/
theorem IsDescriptionLine.append_return {l : Line} (h : IsDescriptionLine l) :
    IsDescriptionLine (l ++ ['\r']) := by
  obtain ⟨t, rfl, hlen, hfeed⟩ := h
  refine ⟨t ++ ['\r'], List.append_assoc .., ?_, ?_⟩
  · rw [List.length_append]
    omega
  · simpa using hfeed

/-- Without the carriage return, a line may be one character too short for a description. -/
theorem IsDescriptionLine.of_append_return {l : Line} (h : IsDescriptionLine (l ++ ['\r'])) :
    IsDescriptionLine l ∨ ∃ t, t.length = 19 ∧ l = " * ".toList ++ t := by
  obtain ⟨t, heq, hlen, hfeed⟩ := h
  obtain ⟨t, rfl⟩ : ∃ t', t = t' ++ ['\r'] := by
    have hlast : (" * ".toList ++ t).getLast? = some '\r' := by
      rw [← heq, List.getLast?_concat]
    rw [List.getLast?_append_of_ne_nil _ (List.length_pos_iff.1 (by omega))] at hlast
    exact List.getLast?_eq_some_iff.1 hlast
  rw [← List.append_assoc] at heq
  obtain rfl := List.append_cancel_right heq
  rw [List.length_append, List.length_singleton] at hlen
  by_cases hlong : 20 ≤ t.length
  · refine Or.inl ⟨t, rfl, hlong, ?_⟩
    exact fun hmem => hfeed (List.mem_append_left _ hmem)
  · exact Or.inr ⟨t, by omega, rfl⟩

/-! ### Author lines -/

/-- The line, spelled out. -/
def AuthorLine.written (line : AuthorLine) : Line :=
  " * @author ".toList ++ line.first ++ [' '] ++ line.last ++ [' '] ++ line.created.written

/-- The spelling, grouped in the order in which it is read. -/
theorem AuthorLine.written_append (line : AuthorLine) (w : List Char) :
    line.written ++ w = " * @author ".toList ++ (line.first ++ ([' '] ++ (line.last ++ ([' '] ++
      (line.created.written ++ w))))) := by
  show " * @author ".toList ++ line.first ++ [' '] ++ line.last ++ [' '] ++ line.created.written ++
    w = _
  simp only [List.append_assoc]

/-- The names are names and the date is a date. -/
structure AuthorLine.WellFormed (line : AuthorLine) : Prop where
  first : IsName line.first
  last : IsName line.last
  created : line.created.WellFormed

/-- An author line is read exactly as it is written. -/
theorem authorLine?_eq_some_iff {l : Line} {line : AuthorLine} :
    authorLine? l = some line ↔
      line.WellFormed ∧ ∃ w, isAllBlank w = true ∧ l = line.written ++ w := by
  obtain ⟨first, last, created⟩ := line
  simp only [authorLine?, Option.bind_eq_bind, Option.bind_eq_some_iff, Prod.exists,
    Option.guard_eq_some', after?_eq_some_iff, readName_eq_some_iff, readDate_eq_some_iff,
    Option.some.injEq, AuthorLine.mk.injEq]
  constructor
  · intro h
    obtain ⟨_, rfl, _, _, ⟨rfl, hfirst, -⟩, _, rfl, _, _, ⟨rfl, hlast, -⟩, _, rfl, _, w,
      ⟨rfl, hdate⟩, -, hw, rfl, rfl, rfl⟩ := h
    exact ⟨⟨hfirst, hlast, hdate⟩, w, hw, by rw [AuthorLine.written_append]⟩
  · intro h
    obtain ⟨⟨hfirst, hlast, hdate⟩, w, hw, rfl⟩ := h
    -- The spaces after the names stop the reader of names.
    exact ⟨_, AuthorLine.written_append .., first, _, ⟨rfl, hfirst, by simp⟩, _, rfl, last,
      _, ⟨rfl, hlast, by simp⟩, _, rfl, created, w, ⟨rfl, hdate⟩, (), hw, rfl, rfl, rfl⟩

/-- An author line is spelled out from an author and a date. -/
def IsAuthorLine (l : Line) : Prop :=
  ∃ line : AuthorLine, line.WellFormed ∧ ∃ w, isAllBlank w = true ∧ l = line.written ++ w

theorem isAuthor_iff {l : Line} : isAuthor l = true ↔ IsAuthorLine l := by
  unfold isAuthor
  rw [Option.isSome_iff_exists]
  exact exists_congr fun line => authorLine?_eq_some_iff

theorem IsAuthorLine.append_blank {l w : List Char} (hw : isAllBlank w = true)
    (h : IsAuthorLine l) : IsAuthorLine (l ++ w) := by
  obtain ⟨line, hwf, v, hv, rfl⟩ := h
  exact ⟨line, hwf, v ++ w, by simp [hv, hw], List.append_assoc ..⟩

theorem isBlank_eq_false_of_isDigit {c : Char} (h : c.isDigit = true) : isBlank c = false := by
  have hrange : 48 ≤ c.toNat ∧ c.toNat ≤ 57 := by
    simpa [Char.isDigit, UInt32.le_iff_toNat_le] using h
  rw [Bool.eq_false_iff]
  intro hblank
  simp only [isBlank, Bool.or_eq_true, Bool.and_eq_true, decide_eq_true_eq, beq_iff_eq] at hblank
  omega

theorem IsYear.visible {t : List Char} (h : IsYear t) :
    t.getLast?.any (!isBlank ·) = true := by
  obtain ⟨hlen, hdigits⟩ := h
  have hne : t ≠ [] := List.length_pos_iff.1 (by omega)
  rw [List.getLast?_eq_some_getLast hne, Option.any_some,
    isBlank_eq_false_of_isDigit (hdigits _ (List.getLast_mem hne))]
  rfl

/-- The spelling, up to the year at its end. -/
theorem AuthorLine.written_eq_append_year (line : AuthorLine) :
    line.written = (" * @author ".toList ++ line.first ++ [' '] ++ line.last ++ [' '] ++
      (line.created.month ++ ' ' :: line.created.day ++ ", ".toList)) ++ line.created.year := by
  unfold AuthorLine.written Date.written
  exact (List.append_assoc ..).symm

theorem IsAuthorLine.of_append_blank {l w : List Char} (hw : isAllBlank w = true)
    (h : IsAuthorLine (l ++ w)) : IsAuthorLine l := by
  obtain ⟨line, hwf, hwritten⟩ := h
  rw [AuthorLine.written_eq_append_year] at hwritten
  refine ⟨line, hwf, ?_⟩
  rw [AuthorLine.written_eq_append_year]
  exact (exists_append_blank_iff hwf.created.year.visible hw).1 hwritten

/-- An author line does not close the block. -/
theorem IsAuthorLine.isBlockEnd_eq_false {l : Line} (h : IsAuthorLine l) :
    isBlockEnd l = false := by
  obtain ⟨line, -, w, -, rfl⟩ := h
  rw [AuthorLine.written_append]
  exact isBlockEnd_margin _

theorem IsName.two_le_length {t : List Char} (h : IsName t) : 2 ≤ t.length := by
  obtain ⟨c, small, rfl, -, hne, -⟩ := h
  have := List.length_pos_iff.2 hne
  rw [List.length_cons]
  omega

theorem Date.WellFormed.eleven_le_length {date : Date} (h : date.WellFormed) :
    11 ≤ date.written.length := by
  obtain ⟨⟨c, small, hmonth, -, hsmall, -⟩, ⟨hday, -⟩, hyear, -⟩ := h
  have hlen : date.written.length = date.month.length + date.day.length + date.year.length + 3 := by
    simp [Date.written]
    omega
  rw [hlen, hmonth, List.length_cons]
  omega

/-- An author line, as a line of a text, also has the form of a description line. -/
theorem IsAuthorLine.isDescriptionLine {l : Line} (h : IsAuthorLine l) (hfeed : '\n' ∉ l) :
    IsDescriptionLine l := by
  obtain ⟨line, ⟨hfirst, hlast, hdate⟩, w, -, rfl⟩ := h
  have hfirst := hfirst.two_le_length
  have hlast := hlast.two_le_length
  have hdate := hdate.eleven_le_length
  have hmargin : " * @author ".toList = " * ".toList ++ "@author ".toList := by decide
  have htag : "@author ".toList.length = 8 := by decide
  rw [AuthorLine.written_append, hmargin, List.append_assoc] at hfeed ⊢
  refine ⟨_, rfl, ?_, ?_⟩
  · simp only [List.length_append, List.length_singleton]
    omega
  · intro hmem
    exact hfeed (List.mem_append_right _ hmem)

end DocLint.Header

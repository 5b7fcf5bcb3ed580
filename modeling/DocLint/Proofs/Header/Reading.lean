import DocLint.Proofs.Header.Clause

/-!
# Readings: a line of a header can be read in one way only

A reading of a line cuts it at the fixed words of its clause and says what stands between them:
the organization and the years of a copyright line, the name on a file-name line, the names and
the date on an author line, and the white space at the end. The parts of a reading only have to
have their form. Nothing is said about how long they are, and a fixed word may well occur in a
part, as the extension does in the name of the file `Main.kt.kt`.

Still no line has two readings. The readers of `DocLint.Header.Clause` show this: each of them
gives one answer, and any reading of the line makes it give the parts of that reading. So what is
compared with the organization of a project, or with the name of a file, does not depend on where
a search for the fixed words starts or how far it goes.
-/

namespace DocLint.Header

open Text

/-! ### What a reading says -/

/-- One year, or two with a hyphen between them. -/
def IsYears (t : List Char) : Prop :=
  IsYear t ∨ ∃ created updated, IsYear created ∧ IsYear updated ∧ t = created ++ '-' :: updated

/-- The line, read as a copyright line. -/
@[ext]
structure UpdateReading (l : Line) where
  /-- The owner of the copyright. -/
  organization : List Char
  /-- The years, as they are written. -/
  years : List Char
  /-- The end of the line. -/
  blank : List Char
  capital : ∃ c rest, organization = c :: rest ∧ c.isUpper = true
  comma : ',' ∉ organization
  years_ok : IsYears years
  blank_ok : isAllBlank blank = true
  spelled : l = " * Copyright ".toList ++ organization ++ ", Inc. ".toList ++ years ++
    ". All rights reserved.".toList ++ blank

/-- The line, read as a file-name line. -/
@[ext]
structure FileNameReading (l : Line) where
  /-- The name of the file, without its extension. -/
  name : List Char
  /-- The end of the line. -/
  blank : List Char
  name_ne_nil : name ≠ []
  feed : '\n' ∉ name
  blank_ok : isAllBlank blank = true
  spelled : l = " * ".toList ++ name ++ ".kt".toList ++ blank

/-- The line, read as an author line. -/
structure AuthorReading (l : Line) where
  /-- First name of the author. -/
  first : List Char
  /-- Last name of the author. -/
  last : List Char
  /-- The short name of the month. -/
  month : List Char
  /-- The day. -/
  day : List Char
  /-- The year. -/
  year : List Char
  /-- The end of the line. -/
  blank : List Char
  first_ok : IsName first
  last_ok : IsName last
  month_ok : IsMonth month
  day_ok : IsDay day
  year_ok : IsYear year
  blank_ok : isAllBlank blank = true
  spelled : l = " * @author ".toList ++ first ++ " ".toList ++ last ++ " ".toList ++ month ++
    " ".toList ++ day ++ ", ".toList ++ year ++ blank

variable {l : Line}

/-! ### Copyright lines -/

theorem isYears_iff {t : List Char} :
    IsYears t ↔ ∃ span : YearSpan, span.WellFormed ∧ span.written = t := by
  constructor
  · intro h
    rcases h with h | ⟨created, updated, hcreated, hupdated, rfl⟩
    · exact ⟨⟨t, none⟩, ⟨h, by simp⟩, rfl⟩
    · exact ⟨⟨created, some updated⟩, ⟨hcreated, by simpa using hupdated⟩, rfl⟩
  · intro h
    obtain ⟨⟨created, updated⟩, ⟨hcreated, hupdated⟩, rfl⟩ := h
    cases updated with
    | none => exact Or.inl hcreated
    | some updated => exact Or.inr ⟨created, updated, hcreated, hupdated updated rfl, rfl⟩

namespace UpdateReading

/-- The reader finds the parts of a reading. -/
theorem exists_updateLine? (r : UpdateReading l) :
    ∃ line, updateLine? l = some line ∧ line.organization = r.organization ∧
      line.years.written = r.years := by
  obtain ⟨span, hspan, hyears⟩ := isYears_iff.1 r.years_ok
  obtain ⟨c, rest, horganization, hc⟩ := r.capital
  refine ⟨⟨r.organization, span⟩, updateLine?_eq_some_iff.2 ⟨⟨?_, r.comma, hspan⟩, r.blank,
    r.blank_ok, ?_⟩, rfl, hyears⟩
  · simpa [horganization] using hc
  · show l = " * Copyright ".toList ++ r.organization ++ ", Inc. ".toList ++ span.written ++
      ". All rights reserved.".toList ++ r.blank
    rw [hyears]
    exact r.spelled

/-- What the reader finds is a reading. -/
theorem exists_of_updateLine? {line : UpdateLine} (h : updateLine? l = some line) :
    ∃ r : UpdateReading l, r.organization = line.organization := by
  obtain ⟨⟨hcapital, hcomma, hyears⟩, w, hw, hl⟩ := updateLine?_eq_some_iff.1 h
  obtain ⟨c, hhead, hc⟩ := (Option.any_eq_true _ _).1 hcapital
  obtain ⟨rest, horganization⟩ := List.head?_eq_some_iff.1 hhead
  exact ⟨⟨line.organization, line.years.written, w, ⟨c, rest, horganization, hc⟩, hcomma,
    isYears_iff.2 ⟨line.years, hyears, rfl⟩, hw, hl⟩, rfl⟩

theorem subsingleton (l : Line) : Subsingleton (UpdateReading l) := by
  refine ⟨fun r r' => ?_⟩
  obtain ⟨line, hline, horganization, hyears⟩ := r.exists_updateLine?
  obtain ⟨line', hline', horganization', hyears'⟩ := r'.exists_updateLine?
  obtain rfl : line = line' := Option.some.inj (hline.symm.trans hline')
  have horganizations : r.organization = r'.organization := horganization.symm.trans horganization'
  have hyears : r.years = r'.years := hyears.symm.trans hyears'
  refine UpdateReading.ext horganizations hyears ?_
  -- What stands in front of the white space is the same in both readings.
  have hspelled := r.spelled.symm.trans r'.spelled
  rw [horganizations, hyears] at hspelled
  exact List.append_cancel_left hspelled

end UpdateReading

theorem Grammar.isUpdateLine_iff_reading {g : Grammar} :
    g.isUpdateLine l = true ↔ ∃ r : UpdateReading l,
      ∀ organization ∈ g.organization, r.organization = organization.toList := by
  rw [isUpdateLine_iff]
  constructor
  · intro h
    obtain ⟨line, hline, horganization, hwritten⟩ := h
    obtain ⟨r, hr⟩ := UpdateReading.exists_of_updateLine?
      (updateLine?_eq_some_iff.2 ⟨hline, hwritten⟩)
    exact ⟨r, fun organization hmem => hr.trans (horganization organization hmem)⟩
  · intro h
    obtain ⟨r, hr⟩ := h
    obtain ⟨line, hread, horganization, -⟩ := r.exists_updateLine?
    obtain ⟨hline, hwritten⟩ := updateLine?_eq_some_iff.1 hread
    exact ⟨line, hline, fun organization hmem => horganization.trans (hr organization hmem),
      hwritten⟩

/-! ### File-name lines -/

namespace FileNameReading

theorem fileName?_eq (r : FileNameReading l) : fileName? l = some r.name :=
  fileName?_eq_some_iff.2 ⟨⟨r.name_ne_nil, r.feed⟩, r.blank, r.blank_ok, r.spelled⟩

theorem exists_of_fileName? {name : List Char} (h : fileName? l = some name) :
    ∃ r : FileNameReading l, r.name = name := by
  obtain ⟨⟨hne, hfeed⟩, w, hw, hl⟩ := fileName?_eq_some_iff.1 h
  exact ⟨⟨name, w, hne, hfeed, hw, hl⟩, rfl⟩

theorem subsingleton (l : Line) : Subsingleton (FileNameReading l) := by
  refine ⟨fun r r' => ?_⟩
  have hname : r.name = r'.name := Option.some.inj (r.fileName?_eq.symm.trans r'.fileName?_eq)
  refine FileNameReading.ext hname ?_
  have hspelled := r.spelled.symm.trans r'.spelled
  rw [hname] at hspelled
  exact List.append_cancel_left hspelled

end FileNameReading

theorem isFileNameOf_iff_reading {name : String} :
    isFileNameOf name l = true ↔ ∃ r : FileNameReading l, r.name = name.toList := by
  rw [isFileNameOf, decide_eq_true_iff]
  constructor
  · exact FileNameReading.exists_of_fileName?
  · intro h
    obtain ⟨r, hr⟩ := h
    rw [r.fileName?_eq, hr]

/-! ### Author lines -/

namespace AuthorReading

/-- What the line says. -/
def authorLine (r : AuthorReading l) : AuthorLine where
  first := r.first
  last := r.last
  created := ⟨r.month, r.day, r.year⟩

theorem spelled_authorLine (r : AuthorReading l) : l = r.authorLine.written ++ r.blank := by
  rw [AuthorLine.written_append]
  have hspelled := r.spelled
  simpa [Date.written, authorLine] using hspelled

theorem authorLine?_eq (r : AuthorReading l) : authorLine? l = some r.authorLine :=
  authorLine?_eq_some_iff.2 ⟨⟨r.first_ok, r.last_ok, r.month_ok, r.day_ok, r.year_ok⟩, r.blank,
    r.blank_ok, r.spelled_authorLine⟩

theorem nonempty_of_authorLine? {line : AuthorLine} (h : authorLine? l = some line) :
    Nonempty (AuthorReading l) := by
  obtain ⟨⟨hfirst, hlast, hmonth, hday, hyear⟩, w, hw, hl⟩ := authorLine?_eq_some_iff.1 h
  refine ⟨⟨line.first, line.last, line.created.month, line.created.day, line.created.year, w,
    hfirst, hlast, hmonth, hday, hyear, hw, ?_⟩⟩
  rw [hl, AuthorLine.written_append]
  simp [Date.written]

theorem subsingleton (l : Line) : Subsingleton (AuthorReading l) := by
  refine ⟨fun r r' => ?_⟩
  have hline : r.authorLine = r'.authorLine :=
    Option.some.inj (r.authorLine?_eq.symm.trans r'.authorLine?_eq)
  have hblank : r.blank = r'.blank := by
    have hspelled := r.spelled_authorLine.symm.trans r'.spelled_authorLine
    rw [hline] at hspelled
    exact List.append_cancel_left hspelled
  simp only [authorLine, AuthorLine.mk.injEq, Date.mk.injEq] at hline
  obtain ⟨hfirst, hlast, hmonth, hday, hyear⟩ := hline
  cases r
  cases r'
  simp only [mk.injEq]
  exact ⟨hfirst, hlast, hmonth, hday, hyear, hblank⟩

end AuthorReading

theorem isAuthor_iff_reading : isAuthor l = true ↔ Nonempty (AuthorReading l) := by
  rw [isAuthor, Option.isSome_iff_exists]
  constructor
  · intro h
    obtain ⟨line, hline⟩ := h
    exact AuthorReading.nonempty_of_authorLine? hline
  · intro h
    obtain ⟨r⟩ := h
    exact ⟨r.authorLine, r.authorLine?_eq⟩

/-! ### All lines -/

/-- **The lines of a header are recognized by their readings.** A line is a copyright line of a
project exactly if it can be read as one, with the organization of the project if there is one; it
is the line of a file exactly if it can be read with the name of the file; and it is an author line
exactly if it can be read as one. No line has two readings, so the organization and the name that
are found are those of the reading. -/
theorem lines_read_one_way (l : Line) :
    (∀ g : Grammar, g.isUpdateLine l = true ↔ ∃ r : UpdateReading l,
      ∀ organization ∈ g.organization, r.organization = organization.toList) ∧
    (∀ name : String, isFileNameOf name l = true ↔
      ∃ r : FileNameReading l, r.name = name.toList) ∧
    (isAuthor l = true ↔ Nonempty (AuthorReading l)) ∧
    Subsingleton (UpdateReading l) ∧ Subsingleton (FileNameReading l) ∧
    Subsingleton (AuthorReading l) ∧
    (∀ r : UpdateReading l, (updateLine? l).map (·.organization) = some r.organization) ∧
    ∀ r : FileNameReading l, fileName? l = some r.name := by
  refine ⟨fun g => g.isUpdateLine_iff_reading, fun name => isFileNameOf_iff_reading,
    isAuthor_iff_reading, UpdateReading.subsingleton l, FileNameReading.subsingleton l,
    AuthorReading.subsingleton l, fun r => ?_, fun r => r.fileName?_eq⟩
  obtain ⟨line, hline, horganization, -⟩ := r.exists_updateLine?
  rw [hline, Option.map_some, horganization]

example : fileName? " * Main.kt.kt \n".toList = some "Main.kt".toList := by decide

end DocLint.Header

import DocLint.Proofs.Header.Attribution
import DocLint.Proofs.Header.Values

/-!
# The author of a header: names and dates are read back

An author line is recognized by one reader (`authorLine?`) and searched by two others, one for
the first full name behind the tag and one for the first date on the whole line. A name that has
three letters looks like a month, and a search takes what it finds first, so it is not plain that
the searches end where the line was recognized.

They do. A full name starts with a capital letter, and the first one behind the tag is that of
the first name (`AuthorLine.findName_authorPart`). A date starts with a capital letter too, but
after three letters and a space it needs a digit, and behind a name there is always another
capital letter (`IsName.readDate_append`). So both names are passed over, and the date that is
found is the one of the line (`AuthorLine.findDate_written`).
-/

namespace DocLint.Header

open Text

/-! ### Capital letters -/

theorem isUpper_eq_false_of_isLower {c : Char} (h : c.isLower = true) : c.isUpper = false := by
  delta Char.isLower at h
  delta Char.isUpper
  grind

theorem isDigit_eq_false_of_isUpper {c : Char} (h : c.isUpper = true) : c.isDigit = false := by
  delta Char.isUpper at h
  delta Char.isDigit
  grind

theorem readFullName_cons_of_not_isUpper (c : Char) (t : List Char) (hc : c.isUpper = false) :
    readFullName (c :: t) = none := by
  simp [readFullName, readName, hc]

theorem readDate_cons_of_not_isUpper (c : Char) (t : List Char) (hc : c.isUpper = false) :
    (readDate (c :: t)).map (·.1) = none := by
  simp [readDate, readMonth, hc]

/-- Characters that are no capital letters are passed over. -/
theorem findDate_append_of_not_isUpper {s : List Char} (hs : ∀ c ∈ s, c.isUpper = false)
    (t : List Char) : findDate (s ++ t) = findDate t :=
  firstMatch_append_of_skip readDate_cons_of_not_isUpper hs t

/-! ### Names are no dates -/

theorem IsName.space_not_mem {t : List Char} (h : IsName t) : ' ' ∉ t := by
  obtain ⟨c, small, rfl, hc, -, hsmall⟩ := h
  intro hmem
  rcases List.mem_cons.1 hmem with rfl | hmem
  · exact absurd hc (by decide)
  · exact absurd (hsmall _ hmem) (by decide)

theorem IsMonth.isName {t : List Char} (h : IsMonth t) : IsName t := by
  obtain ⟨c, small, rfl, hc, hlen, hsmall⟩ := h
  exact ⟨c, small, rfl, hc, List.length_pos_iff.1 (by omega), hsmall⟩

/-- The first space of a text ends its first word. -/
theorem append_space_inj {s t rest rest' : List Char} (hs : ' ' ∉ s) (ht : ' ' ∉ t)
    (h : s ++ ' ' :: rest = t ++ ' ' :: rest') : s = t ∧ rest = rest' := by
  have hword {s rest : List Char} (hs : ' ' ∉ s) :
      (s ++ ' ' :: rest).takeWhile (· ≠ ' ') = s := by
    refine (takeWhile_append_stop ?_ (by simp)).1
    intro a ha
    exact decide_eq_true fun heq => hs (heq ▸ ha)
  have hst : s = t := by rw [← hword hs, h, hword ht]
  subst hst
  exact ⟨rfl, (List.cons.inj (List.append_cancel_left h)).2⟩

/-- A name is not the month of a date, unless a digit follows it. -/
theorem IsName.readDate_append {name rest : List Char} (hname : IsName name)
    (hrest : ∀ a ∈ rest.head?, a.isDigit = false) : readDate (name ++ ' ' :: rest) = none := by
  rw [Option.eq_none_iff_forall_not_mem]
  rintro ⟨date, tail⟩ hread
  obtain ⟨heq, hdate⟩ := readDate_eq_some_iff.1 hread
  have hwritten : date.written ++ tail =
      date.month ++ ' ' :: (date.day ++ (", ".toList ++ date.year ++ tail)) := by
    simp [Date.written]
  rw [hwritten] at heq
  -- Behind its first space the text would start with the day, which is a digit.
  obtain ⟨-, rfl⟩ := append_space_inj hname.space_not_mem hdate.month.isName.space_not_mem heq
  obtain ⟨hlen, hdigits⟩ := hdate.day
  obtain ⟨d, day, hday⟩ : ∃ d day, date.day = d :: day :=
    List.exists_cons_of_length_pos (by omega)
  have hd : d.isDigit = true := hdigits d (hday ▸ List.mem_cons_self ..)
  rw [hrest d (by simp [hday])] at hd
  exact Bool.false_ne_true hd

/-- No date starts in a name, unless a digit follows it. -/
theorem IsName.findDate_append {name rest : List Char} (hname : IsName name)
    (hrest : ∀ a ∈ rest.head?, a.isDigit = false) :
    findDate (name ++ ' ' :: rest) = findDate rest := by
  have hread := hname.readDate_append hrest
  obtain ⟨c, small, rfl, -, -, hsmall⟩ := hname
  have hskip : ∀ a ∈ small ++ [' '], a.isUpper = false := by
    intro a ha
    rcases List.mem_append.1 ha with ha | ha
    · exact isUpper_eq_false_of_isLower (hsmall a ha)
    · rw [List.mem_singleton.1 ha]
      decide
  calc findDate (c :: small ++ ' ' :: rest)
      = findDate (small ++ [' '] ++ rest) := by
        rw [List.cons_append] at hread ⊢
        rw [findDate, firstMatch, hread, List.append_assoc]
        rfl
    _ = findDate rest := findDate_append_of_not_isUpper hskip rest

/-! ### What is found on an author line -/

/-- The name that is found behind the tag is the one of the line. -/
theorem AuthorLine.findName_authorPart {line : AuthorLine} (hline : line.WellFormed)
    (w : List Char) :
    findName (authorPart (line.written ++ w)) = some (line.first ++ ' ' :: line.last) := by
  rw [authorPart_written, ← List.singleton_append, findName,
    firstMatch_append_of_skip readFullName_cons_of_not_isUpper (by simp)]
  exact firstMatch_of_eq_some (readFullName_append hline.first hline.last (by simp))

/-- The date that is found is the one of the line, even if a name looks like a month. -/
theorem AuthorLine.findDate_written {line : AuthorLine} (hline : line.WellFormed)
    (w : List Char) : findDate (line.written ++ w) = some line.created := by
  have hcapital {name rest : List Char} (hname : IsName name) :
      ∀ a ∈ (name ++ rest).head?, a.isDigit = false := by
    obtain ⟨c, small, rfl, hc, -, -⟩ := hname
    simpa using isDigit_eq_false_of_isUpper hc
  have hdate : findDate (line.created.written ++ w) = some line.created := by
    refine firstMatch_of_eq_some ?_
    rw [readDate_eq_some_iff.2 ⟨rfl, hline.created⟩]
    rfl
  have hmonth : ∀ a ∈ (line.created.written ++ w).head?, a.isDigit = false := by
    rw [Date.written, List.append_assoc, List.append_assoc, List.append_assoc]
    exact hcapital hline.created.month.isName
  -- The tag has no capital letter. Behind each name comes another one, the last being the month.
  rw [AuthorLine.written_append, findDate_append_of_not_isUpper (by simp)]
  show findDate (line.first ++ ' ' :: (line.last ++ ' ' :: (line.created.written ++ w))) = _
  rw [hline.first.findDate_append (hcapital hline.last), hline.last.findDate_append hmonth, hdate]

/-! ### The record -/

/-- Every header has a record, with the author and the date that are spelled out on its author
line. -/
theorem Form.exists_yields_record_of_author {g : Grammar} (h : Form g) :
    ∃ record, (recordOf h.layout).Yields (some record) [] ∧
      ∀ (line : AuthorLine) (w : List Char), line.WellFormed → isAllBlank w = true →
        h.author = line.written ++ w →
        record.author = String.ofList (line.first ++ ' ' :: line.last) ∧
        record.creationDate = String.ofList line.created.written := by
  obtain ⟨years, hyears⟩ := Option.isSome_iff_exists.1 h.update_ok.findYears_isSome
  obtain ⟨author, hauthor⟩ := Option.isSome_iff_exists.1 h.author_ok.findName_isSome
  obtain ⟨date, hdate⟩ := Option.isSome_iff_exists.1 h.author_ok.findDate_isSome
  refine ⟨_, yields_recordOf hyears hauthor hdate, ?_⟩
  intro line w hline _ hwritten
  rw [hwritten, line.findName_authorPart hline, Option.some.injEq] at hauthor
  rw [hwritten, line.findDate_written hline, Option.some.injEq] at hdate
  rw [hauthor, hdate]
  exact ⟨rfl, rfl⟩

/-- **Reading a header.** A text has a record exactly if it passes the gate. The record comes
without an issue, and its author and its creation date are those that are spelled out on the
author line, however the line is cut into names, a date and white space. A text without a record
has the issue of the gate and no other. -/
theorem readHeader_reads_author (g : Grammar) (text : String) :
    ((readHeader g text).onEmpty.1.isSome = (validate g text).onEmpty.1) ∧
    (∀ record, (readHeader g text).onEmpty.1 = some record →
      (readHeader g text).Yields (some record) [] ∧
      ∃ layout, Layout.parse g text = .ok layout ∧ IsAuthorLine layout.author ∧
        ∀ (line : AuthorLine) (w : List Char), line.WellFormed → isAllBlank w = true →
          layout.author = line.written ++ w →
          record.author = String.ofList (line.first ++ ' ' :: line.last) ∧
          record.creationDate = String.ofList line.created.written) ∧
    ((readHeader g text).onEmpty.1 = none →
      ∃ issue, issue.kind = .headerMalformed ∧ (readHeader g text).Yields none [issue] ∧
        (validate g text).Yields false [issue]) := by
  cases hparse : Layout.parse g text with
  | ok layout =>
      obtain ⟨h, hlines, rfl⟩ := ofLines_eq_ok_iff.1 hparse
      obtain ⟨record, hrun, hreads⟩ := h.exists_yields_record_of_author
      rw [← h.readHeader_eq hlines] at hrun
      rw [hrun.onEmpty, validate_eq_true_iff.2 ⟨h, hlines⟩]
      refine ⟨rfl, ?_, by simp⟩
      intro record' hrecord
      obtain rfl : record = record' := Option.some.inj hrecord
      exact ⟨hrun, h.layout, rfl, h.author_ok, hreads⟩
  | error stop =>
      have hread : (readHeader g text).Yields none [stop.issue] := by
        unfold readHeader
        rw [hparse]
        exact (Check.yields_report stop.issue).bind (Check.yields_pure none)
      have hgate : (validate g text).Yields false [stop.issue] := by
        unfold validate
        rw [hparse]
        exact (Check.yields_report stop.issue).bind (Check.yields_pure false)
      rw [hread.onEmpty, hgate.onEmpty]
      exact ⟨rfl, by simp, fun _ => ⟨stop.issue, rfl, hread, hgate⟩⟩

end DocLint.Header

import DocLint.Header.Record
import DocLint.Proofs.Check
import DocLint.Proofs.Header.Form

/-!
# Header values: every header has all of them

The values of a header are not taken from the clauses when these are recognized. They are
searched for afterwards, each by a search for its first occurrence, and a search that finds
nothing reports an issue of its own. This module shows that no search fails on a header: a
search finds something as soon as its reader succeeds at one place (`firstMatch_append_isSome`),
and on a line of the right form that place is where the value was written.

The name of the author is searched for behind the tag only, so the first occurrence of the tag
has to be the one of the clause (`authorPart_written`).
-/

namespace DocLint.Header

open Text

variable {g : Grammar}

/-! ### Searching -/

/-- A search succeeds if the reader succeeds at some place of the text. What it finds may come
from an earlier place. -/
theorem firstMatch_append_isSome {α : Type} {read : List Char → Option α} {t : List Char} {a : α}
    (h : read t = some a) (front : List Char) : (firstMatch read (front ++ t)).isSome = true := by
  induction front with
  | nil =>
      cases t with
      | nil => simp [firstMatch, h]
      | cons c t => simp [firstMatch, h]
  | cons c front ih => simp [firstMatch, ih]

/-- A search finds what is read at the first place where the reader succeeds. -/
theorem firstMatch_eq_some_iff {α : Type} {read : List Char → Option α} {s : List Char} {a : α} :
    firstMatch read s = some a ↔
      ∃ n, read (s.drop n) = some a ∧ ∀ m < n, read (s.drop m) = none := by
  induction s with
  | nil =>
      simp only [firstMatch, List.drop_nil]
      constructor
      · intro h
        exact ⟨0, h, by simp⟩
      · rintro ⟨-, h, -⟩
        exact h
  | cons c s ih =>
      rw [firstMatch, Option.or_eq_some_iff, ih]
      constructor
      · rintro (h | ⟨hnone, n, h, hbefore⟩)
        · exact ⟨0, h, by simp⟩
        · refine ⟨n + 1, h, ?_⟩
          intro m hm
          cases m with
          | zero => exact hnone
          | succ m => exact hbefore m (by omega)
      · rintro ⟨n, h, hbefore⟩
        cases n with
        | zero => exact .inl h
        | succ n =>
            refine .inr ⟨hbefore 0 (by omega), n, h, ?_⟩
            intro m hm
            exact hbefore (m + 1) (by omega)

/-- A search finds nothing if the reader succeeds nowhere. -/
theorem firstMatch_eq_none_iff {α : Type} {read : List Char → Option α} {s : List Char} :
    firstMatch read s = none ↔ ∀ t, t <:+ s → read t = none := by
  induction s with
  | nil => simp [firstMatch]
  | cons c s ih =>
      simp only [firstMatch, Option.or_eq_none_iff, ih, List.suffix_cons_iff, forall_eq_or_imp]

/-- Where the reader succeeds at once, the search goes no further. -/
theorem firstMatch_of_eq_some {α : Type} {read : List Char → Option α} {s : List Char} {a : α}
    (h : read s = some a) : firstMatch read s = some a :=
  firstMatch_eq_some_iff.2 ⟨0, h, by simp⟩

/-- A search passes over characters with which nothing begins that is read. -/
theorem firstMatch_append_of_skip {α : Type} {read : List Char → Option α} {p : Char → Bool}
    (hread : ∀ c t, p c = false → read (c :: t) = none) {s : List Char}
    (hs : ∀ c ∈ s, p c = false) (t : List Char) :
    firstMatch read (s ++ t) = firstMatch read t := by
  induction s with
  | nil => rfl
  | cons c s ih =>
      obtain ⟨hc, hs⟩ := List.forall_mem_cons.1 hs
      rw [List.cons_append, firstMatch, hread c _ hc, Option.none_or, ih hs]

/-! ### The values on their lines -/

/-- A copyright line has a span of years. -/
theorem Grammar.IsUpdateLine.findYears_isSome {l : Line} (h : g.IsUpdateLine l) :
    (findYears l).isSome = true := by
  obtain ⟨line, hwf, -, w, -, rfl⟩ := h
  have hread : (readYears (line.years.written ++ (". All rights reserved.".toList ++ w))).map
      (·.1) = some line.years := by
    rw [readYears_complete hwf.years (by simp)]
    rfl
  have hsplit : line.written ++ w = (" * Copyright ".toList ++ line.organization ++
      ", Inc. ".toList) ++ (line.years.written ++ (". All rights reserved.".toList ++ w)) := by
    rw [UpdateLine.written_append, List.append_assoc, List.append_assoc]
  rw [hsplit]
  exact firstMatch_append_isSome hread _

/-- A first and a last name with a space between them are a full name. -/
theorem readFullName_append {first last rest : List Char} (hfirst : IsName first)
    (hlast : IsName last) (hrest : ∀ a ∈ rest.head?, a.isLower = false) :
    readFullName (first ++ ' ' :: (last ++ rest)) = some (first ++ ' ' :: last) := by
  have hread : readName (first ++ ' ' :: (last ++ rest)) = some (first, ' ' :: (last ++ rest)) :=
    readName_eq_some_iff.2 ⟨rfl, hfirst, by simp⟩
  have hread' : readName (last ++ rest) = some (last, rest) :=
    readName_eq_some_iff.2 ⟨rfl, hlast, hrest⟩
  simp [readFullName, hread, hread']

/-- The part of an author line after its tag starts at the first name. -/
theorem authorPart_written (line : AuthorLine) (w : List Char) :
    authorPart (line.written ++ w) = ' ' :: (line.first ++ ' ' :: (line.last ++ ' ' ::
      (line.created.written ++ w))) := by
  rw [AuthorLine.written_append]
  simp [authorPart, cutAt, after?]

/-- An author line has a full name after its tag. -/
theorem IsAuthorLine.findName_isSome {l : Line} (h : IsAuthorLine l) :
    (findName (authorPart l)).isSome = true := by
  obtain ⟨line, hwf, w, -, rfl⟩ := h
  rw [authorPart_written]
  exact firstMatch_append_isSome (readFullName_append hwf.first hwf.last (by simp)) [' ']

/-- An author line has a date. -/
theorem IsAuthorLine.findDate_isSome {l : Line} (h : IsAuthorLine l) :
    (findDate l).isSome = true := by
  obtain ⟨line, hwf, w, -, rfl⟩ := h
  have hread : (readDate (line.created.written ++ w)).map (·.1) = some line.created := by
    rw [readDate_eq_some_iff.2 ⟨rfl, hwf.created⟩]
    rfl
  have hsplit : line.written ++ w = (" * @author ".toList ++ line.first ++ [' '] ++ line.last ++
      [' ']) ++ (line.created.written ++ w) := List.append_assoc ..
  rw [hsplit]
  exact firstMatch_append_isSome hread _

/-! ### The record of a header -/

theorem yields_readYearRange {l : Line} {years : YearSpan} (h : findYears l = some years) :
    (readYearRange (String.ofList l)).Yields (some years) [] := by
  unfold readYearRange
  rw [String.toList_ofList]
  exact Check.yields_found h _

theorem yields_readAuthorName {l : Line} {author : List Char} (h : findName l = some author) :
    (readAuthorName (String.ofList l)).Yields (some (String.ofList author)) [] := by
  unfold readAuthorName
  rw [String.toList_ofList, h]
  exact Check.yields_found rfl _

theorem yields_readCreationDate {l : Line} {date : Date} (h : findDate l = some date) :
    (readCreationDate (String.ofList l)).Yields (some (String.ofList date.written)) [] := by
  unfold readCreationDate
  rw [String.toList_ofList, h]
  exact Check.yields_found rfl _

/-- A layout on which every search finds something has a record of what is found, and nothing is
reported while it is read. -/
theorem yields_recordOf {layout : Layout} {years : YearSpan} {author : List Char} {date : Date}
    (hyears : findYears layout.update = some years)
    (hauthor : findName (authorPart layout.author) = some author)
    (hdate : findDate layout.author = some date) :
    (recordOf layout).Yields (some
      { years
        fileName := String.ofList (fileNameText layout.fileName)
        description := String.ofList (join [' '] (layout.description.map descriptionText))
        author := String.ofList author
        creationDate := String.ofList date.written }) [] :=
  (yields_readYearRange hyears).bind ((yields_readAuthorName hauthor).bind
    ((yields_readCreationDate hdate).bind (Check.yields_pure _)))

/-- Every header has a record of the years that are found first and of the texts on its lines. -/
theorem Form.exists_yields_texts (h : Form g) :
    ∃ record, findYears h.update = some record.years ∧
      record.fileName = String.ofList (fileNameText h.fileName) ∧
      record.description = String.ofList (join [' '] (h.description.map descriptionText)) ∧
      (recordOf h.layout).Yields (some record) [] := by
  obtain ⟨years, hyears⟩ := Option.isSome_iff_exists.1 h.update_ok.findYears_isSome
  obtain ⟨author, hauthor⟩ := Option.isSome_iff_exists.1 h.author_ok.findName_isSome
  obtain ⟨date, hdate⟩ := Option.isSome_iff_exists.1 h.author_ok.findDate_isSome
  exact ⟨_, hyears, rfl, rfl, yields_recordOf hyears hauthor hdate⟩

/-- Every header has a record, with the years that are found first. -/
theorem Form.exists_yields_recordOf (h : Form g) :
    ∃ record, findYears h.update = some record.years ∧
      (recordOf h.layout).Yields (some record) [] := by
  obtain ⟨record, hyears, -, -, hrecord⟩ := h.exists_yields_texts
  exact ⟨record, hyears, hrecord⟩

/-- The text is cut a second time before the values are read, with the same layout. -/
theorem Form.readHeader_eq (h : Form g) {text : String}
    (hlines : h.lines = Text.lines text.toList) :
    readHeader g text = recordOf h.layout := by
  unfold readHeader
  rw [h.parse_eq_ok hlines]

end DocLint.Header

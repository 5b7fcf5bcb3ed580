import DocLint.Header.Layout
import DocLint.Proofs.Header.Clause
import DocLint.Proofs.Text.Lines

/-!
# The header language: headers written out line by line

A `Form` is a header in full: its lines in order, each with the proof that it has the form of
its clause. `Form.lines` spells it out and `Form.layout` keeps the lines that carry values.

`Layout.ofLines` works the other way. It finds the first closing marker and takes the line
above it for the author line, although an author line is a description line too. The main
result is that nothing is lost by this: the lines that can be cut are exactly the lines of
forms (`ofLines_eq_ok_iff`), and they are the lines of one form only (`Form.lines_injective`).
The reason is that neither descriptions nor authors ever close a block, so that the first
closing marker of a form is its own.
-/

namespace DocLint.Header

open Text

/-- A header of the grammar, line by line. -/
structure Form (g : Grammar) where
  /-- The opening marker. -/
  start : Line
  /-- The copyright line. -/
  update : Line
  /-- The file-name line. -/
  fileName : Line
  /-- The description lines. -/
  description : List Line
  /-- The author line. -/
  author : Line
  /-- The closing marker. -/
  blockEnd : Line
  /-- The lines after the header. -/
  blanks : List Line
  start_ok : IsBlockStart start
  update_ok : g.IsUpdateLine update
  fileName_ok : IsFileNameLine fileName
  description_ne_nil : description ≠ []
  description_ok : ∀ l ∈ description, IsDescriptionLine l
  author_ok : IsAuthorLine author
  blockEnd_ok : IsBlockEnd blockEnd
  blanks_ok : ∀ l ∈ blanks, isAllBlank l = true

namespace Form

variable {g : Grammar}

/-- The lines of the header and those after it. -/
def lines (h : Form g) : List Line :=
  [h.start, h.update, h.fileName] ++ h.description ++ [h.author, h.blockEnd] ++ h.blanks

/-- The lines that carry values. -/
def layout (h : Form g) : Layout where
  update := h.update
  fileName := h.fileName
  description := h.description
  author := h.author

/-- The lines between the file-name line and the closing marker. -/
def body (h : Form g) : List Line := h.description ++ [h.author]

theorem lines_eq_body (h : Form g) :
    h.lines = h.start :: h.update :: h.fileName :: (h.body ++ h.blockEnd :: h.blanks) := by
  simp [lines, body]

/-- Nothing above the closing marker closes the block. -/
theorem isBlockEnd_of_mem_body (h : Form g) {l : Line} (hl : l ∈ h.body) :
    isBlockEnd l = false := by
  rcases List.mem_append.1 hl with hl | hl
  · exact (h.description_ok l hl).isBlockEnd_eq_false
  · rw [List.mem_singleton] at hl
    rw [hl]
    exact h.author_ok.isBlockEnd_eq_false

end Form

/-! ### The steps of the cut -/

theorem bind_eq_ok_iff {ε α β : Type} {x : Except ε α} {f : α → Except ε β} {b : β} :
    (x >>= f) = .ok b ↔ ∃ a, x = .ok a ∧ f a = .ok b := by
  cases x with
  | error e => simp [bind, Except.bind]
  | ok a => simp [bind, Except.bind]

/-- Expecting a line takes it off the front. -/
theorem expect_eq_ok_iff {clause : Clause} {p : Line → Bool} {pos : Nat} {ls rest : List Line}
    {l : Line} : expect clause p pos ls = .ok (l, rest) ↔ ls = l :: rest ∧ p l = true := by
  cases ls with
  | nil => simp [expect]
  | cons l' ls =>
      simp only [expect]
      by_cases hp : p l' = true
      · rw [if_pos hp]
        constructor
        · intro h
          obtain ⟨rfl, rfl⟩ := Prod.mk.inj (Except.ok.inj h)
          exact ⟨rfl, hp⟩
        · intro h
          obtain ⟨h, -⟩ := h
          obtain ⟨rfl, rfl⟩ := List.cons.inj h
          rfl
      · rw [if_neg hp]
        constructor
        · intro h
          exact absurd h (by simp)
        · intro h
          obtain ⟨h, hl⟩ := h
          obtain ⟨rfl, -⟩ := List.cons.inj h
          exact absurd hl hp

/-- The lines above the closing marker can be split if they are description lines, at least
one of them, and an author line. -/
theorem splitBody_eq_ok_iff {body description : List Line} {author : Line} :
    splitBody body = .ok (description, author) ↔ body = description ++ [author] ∧
      description ≠ [] ∧ (∀ l ∈ description, IsDescriptionLine l) ∧ IsAuthorLine author := by
  rcases List.eq_nil_or_concat body with rfl | ⟨front, last, rfl⟩
  · simp [splitBody]
  · simp only [splitBody, List.concat_eq_append, List.getLast?_concat, List.dropLast_concat]
    constructor
    · intro h
      split at h
      · exact absurd h (by simp)
      · rename_i hall
        rw [List.findIdx?_eq_none_iff] at hall
        split at h
        · exact absurd h (by simp)
        · rename_i hauthor
          split at h
          · exact absurd h (by simp)
          · rename_i hne
            obtain ⟨rfl, rfl⟩ := Prod.mk.inj (Except.ok.inj h)
            refine ⟨rfl, by simpa using hne, ?_, isAuthor_iff.1 (by simpa using hauthor)⟩
            intro l hl
            exact isDescription_iff.1 (by simpa using hall l hl)
    · intro h
      obtain ⟨h, hne, hall, hauthor⟩ := h
      obtain ⟨rfl, hlast⟩ := List.append_inj' h rfl
      obtain rfl := List.singleton_inj.1 hlast
      have hnone : front.findIdx? (!isDescription ·) = none := by
        rw [List.findIdx?_eq_none_iff]
        intro l hl
        simp [isDescription_iff.2 (hall l hl)]
      simp [hnone, isAuthor_iff.2 hauthor, hne]

/-- The first element of a class is found behind elements outside of the class. -/
theorem findIdx?_append_cons {α : Type} {p : α → Bool} {front back : List α} {a : α}
    (hfront : ∀ b ∈ front, p b = false) (ha : p a = true) :
    (front ++ a :: back).findIdx? p = some front.length := by
  rw [List.findIdx?_append, List.findIdx?_eq_none_iff.2 hfront]
  simp [List.findIdx?_cons, ha]

/-- Where an element of a class is found, the list is cut in two at it, and nothing in front of it
is in the class. -/
theorem exists_append_of_findIdx? {α : Type} {p : α → Bool} {xs : List α} {i : Nat}
    (h : xs.findIdx? p = some i) :
    ∃ front a back, xs = front ++ a :: back ∧ front.length = i ∧ p a = true ∧
      ∀ b ∈ front, p b = false := by
  obtain ⟨hi, ha, hbefore⟩ := List.findIdx?_eq_some_iff_getElem.1 h
  refine ⟨xs.take i, xs[i], xs.drop (i + 1), ?_, ?_, ha, ?_⟩
  · rw [← List.drop_eq_getElem_cons hi, List.take_append_drop]
  · rw [List.length_take]
    omega
  · intro b hb
    obtain ⟨j, hj, rfl⟩ := List.mem_take_iff_getElem.1 hb
    exact Bool.eq_false_iff.2 (hbefore j (by omega))

theorem drop_length_succ_append_cons {α : Type} (front back : List α) (a : α) :
    (front ++ a :: back).drop (front.length + 1) = back := by
  rw [← List.drop_drop, List.drop_left, List.drop_one, List.tail_cons]

/-! ### The language -/

/-- The lines that can be cut are exactly those of forms, and the cut gives their values. -/
theorem ofLines_eq_ok_iff {g : Grammar} {ls : List Line} {layout : Layout} :
    Layout.ofLines g ls = .ok layout ↔ ∃ h : Form g, h.lines = ls ∧ h.layout = layout := by
  constructor
  · intro h
    obtain ⟨⟨start, rest⟩, hexpect, h⟩ := bind_eq_ok_iff.1 h
    obtain ⟨rfl, hstart⟩ := expect_eq_ok_iff.1 hexpect
    obtain ⟨⟨update, rest⟩, hexpect, h⟩ := bind_eq_ok_iff.1 h
    obtain ⟨rfl, hupdate⟩ := expect_eq_ok_iff.1 hexpect
    obtain ⟨⟨fileName, rest⟩, hexpect, h⟩ := bind_eq_ok_iff.1 h
    obtain ⟨rfl, hfileName⟩ := expect_eq_ok_iff.1 hexpect
    dsimp only at h
    split at h
    · exact absurd h (by simp)
    · rename_i marker hmarker
      obtain ⟨body, blockEnd, blanks, rfl, rfl, hblockEnd, -⟩ := exists_append_of_findIdx? hmarker
      rw [List.take_left, drop_length_succ_append_cons] at h
      obtain ⟨⟨description, author⟩, hsplit, h⟩ := bind_eq_ok_iff.1 h
      obtain ⟨rfl, hne, hdescription, hauthor⟩ := splitBody_eq_ok_iff.1 hsplit
      split at h
      · rename_i hblanks
        obtain rfl := Except.ok.inj h
        exact ⟨⟨start, update, fileName, description, author, blockEnd, blanks,
          isBlockStart_iff.1 hstart, Grammar.isUpdateLine_iff.1 hupdate,
          isFileName_iff.1 hfileName, hne, hdescription, hauthor, isBlockEnd_iff.1 hblockEnd,
          List.all_eq_true.1 hblanks⟩, Form.lines_eq_body _, rfl⟩
      · exact absurd h (by simp)
  · intro h
    obtain ⟨h, rfl, rfl⟩ := h
    have hmarker : (h.body ++ h.blockEnd :: h.blanks).findIdx? isBlockEnd = some h.body.length :=
      findIdx?_append_cons (fun _ hl => h.isBlockEnd_of_mem_body hl)
        (isBlockEnd_iff.2 h.blockEnd_ok)
    have hbody : splitBody h.body = .ok (h.description, h.author) :=
      splitBody_eq_ok_iff.2 ⟨rfl, h.description_ne_nil, h.description_ok, h.author_ok⟩
    have hblanks : h.blanks.all isAllBlank = true := List.all_eq_true.2 h.blanks_ok
    rw [Form.lines_eq_body]
    refine bind_eq_ok_iff.2 ⟨_, expect_eq_ok_iff.2 ⟨rfl, isBlockStart_iff.2 h.start_ok⟩, ?_⟩
    refine bind_eq_ok_iff.2
      ⟨_, expect_eq_ok_iff.2 ⟨rfl, Grammar.isUpdateLine_iff.2 h.update_ok⟩, ?_⟩
    refine bind_eq_ok_iff.2 ⟨_, expect_eq_ok_iff.2 ⟨rfl, isFileName_iff.2 h.fileName_ok⟩, ?_⟩
    dsimp only
    rw [hmarker]
    dsimp only
    rw [List.take_left, drop_length_succ_append_cons]
    exact bind_eq_ok_iff.2 ⟨_, hbody, if_pos hblanks⟩

/-- A text whose lines are those of a form has the layout of the form. -/
theorem Form.parse_eq_ok {g : Grammar} (h : Form g) {text : String}
    (hlines : h.lines = Text.lines text.toList) : Layout.parse g text = .ok h.layout :=
  ofLines_eq_ok_iff.2 ⟨h, hlines, rfl⟩

/-- A text that stops being a header has the lines of no form. -/
theorem not_exists_form_of_stop {g : Grammar} {text : String} {stop : Stop}
    (hparse : Layout.parse g text = .error stop) : ¬ ∃ h : Form g, h.lines = lines text.toList := by
  intro hform
  obtain ⟨h, hlines⟩ := hform
  rw [h.parse_eq_ok hlines] at hparse
  exact absurd hparse (by simp)

/-- A form can be told from its lines: cutting them gives its values back, and the markers and
the blank lines are what is left. -/
theorem Form.lines_injective {g : Grammar} : Function.Injective (Form.lines : Form g → _) := by
  intro h h' heq
  have hcut : Layout.ofLines g h.lines = .ok h.layout := ofLines_eq_ok_iff.2 ⟨h, rfl, rfl⟩
  have hcut' : Layout.ofLines g h.lines = .ok h'.layout := ofLines_eq_ok_iff.2 ⟨h', heq.symm, rfl⟩
  obtain ⟨hupdate, hfileName, hdescription, hauthor⟩ :=
    Layout.mk.inj (Except.ok.inj (hcut.symm.trans hcut'))
  have hbody : h.body = h'.body := by rw [Form.body, Form.body, hdescription, hauthor]
  rw [Form.lines_eq_body, Form.lines_eq_body, hbody, hupdate, hfileName] at heq
  obtain ⟨hstart, htail⟩ := List.cons.inj heq
  obtain ⟨hblockEnd, hblanks⟩ :=
    List.cons.inj (List.append_cancel_left (List.cons.inj (List.cons.inj htail).2).2)
  cases h
  cases h'
  simp_all

/-- **The header language.** A text has a layout exactly if its lines are those of a form,
with that layout; they are the lines of no other form. The author line of a text is a
description line as well, and is told apart by its place only. -/
theorem parse_eq_ok_iff_form (g : Grammar) (text : String) (layout : Layout) :
    (Layout.parse g text = .ok layout ↔
      ∃ h : Form g, h.lines = lines text.toList ∧ h.layout = layout) ∧
    (∀ h h' : Form g, h.lines = lines text.toList → h'.lines = lines text.toList → h = h') ∧
    ∀ l ∈ lines text.toList, IsAuthorLine l → IsDescriptionLine l := by
  refine ⟨ofLines_eq_ok_iff, ?_, ?_⟩
  · intro h h' hlines hlines'
    exact Form.lines_injective (hlines.trans hlines'.symm)
  · intro l hl hauthor
    exact hauthor.isDescriptionLine (not_mem_of_mem_lines hl)

end DocLint.Header

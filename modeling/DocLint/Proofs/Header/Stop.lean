import DocLint.Proofs.Header.Sample
import DocLint.Proofs.Text.Returns

/-!
# Stops: why a text is no header

A text that is no header is answered with a clause and a line. The answer comes from six places
of the cut. Some name the line that was looked at, one the last line of the text; and between a
missing author and a missing description it chooses by a look at the line above the closing
marker.

`StopsAt` lists the ways in which lines stop being a header, each with the answer, and
`stopsAt_of_ofLines` says that there are no others. From these rules everything else is read off:
that the answer is true of the line (`StopsAt.justified`), and that nothing in front of the line is
wrong (`StopsAt.completable`), since these lines begin some header. The one exception is a text
without any closing marker. It is answered with its last line, and what stands in front of that
line has not been looked at.

A project may give its organization a name over several lines. It accepts copyright lines, but none
of them is a line of a text, and so there are no headers that lines could begin.
-/

namespace DocLint.Header

open Text

variable {g : Grammar} {ls : List Line} {stop : Stop}

/-! ### The ways to stop -/

/-- The lines of a header in front of its description. -/
structure Head (g : Grammar) where
  /-- The opening marker. -/
  start : Line
  /-- The copyright line. -/
  update : Line
  /-- The file-name line. -/
  fileName : Line
  start_ok : IsBlockStart start
  update_ok : g.IsUpdateLine update
  fileName_ok : IsFileNameLine fileName

/-- The lines of the head. -/
def Head.lines (head : Head g) : List Line := [head.start, head.update, head.fileName]

/-- The header with this head, and with nothing after it. -/
def Head.form (head : Head g) {description : List Line} {author marker : Line}
    (hne : description ≠ []) (hdescription : ∀ d ∈ description, IsDescriptionLine d)
    (hauthor : IsAuthorLine author) (hmarker : IsBlockEnd marker) : Form g where
  start := head.start
  update := head.update
  fileName := head.fileName
  description := description
  author := author
  blockEnd := marker
  blanks := []
  start_ok := head.start_ok
  update_ok := head.update_ok
  fileName_ok := head.fileName_ok
  description_ne_nil := hne
  description_ok := hdescription
  author_ok := hauthor
  blockEnd_ok := hmarker
  blanks_ok := by simp

theorem Head.lines_form (head : Head g) {description : List Line} {author marker : Line}
    (hne : description ≠ []) (hdescription : ∀ d ∈ description, IsDescriptionLine d)
    (hauthor : IsAuthorLine author) (hmarker : IsBlockEnd marker) :
    (head.form hne hdescription hauthor hmarker).lines =
      head.lines ++ description ++ [author, marker] :=
  List.append_nil _

/-- The ways in which lines stop being a header. -/
inductive StopsAt (g : Grammar) : List Line → Stop → Prop
  /-- There is no opening marker. -/
  | start {ls : List Line} (h : ∀ l ∈ ls.head?, ¬ IsBlockStart l) : StopsAt g ls ⟨.start, 0⟩
  /-- There is no copyright line after it. -/
  | update {start : Line} {rest : List Line} (hstart : IsBlockStart start)
      (h : ∀ l ∈ rest.head?, ¬ g.IsUpdateLine l) : StopsAt g (start :: rest) ⟨.updateLine, 1⟩
  /-- There is no file-name line after them. -/
  | fileName {start update : Line} {rest : List Line} (hstart : IsBlockStart start)
      (hupdate : g.IsUpdateLine update) (h : ∀ l ∈ rest.head?, ¬ IsFileNameLine l) :
      StopsAt g (start :: update :: rest) ⟨.fileName, 2⟩
  /-- Nothing closes the block. -/
  | unclosed (head : Head g) {rest : List Line} (h : ∀ l ∈ rest, isBlockEnd l = false) :
      StopsAt g (head.lines ++ rest) ⟨.blockEnd, (head.lines ++ rest).length - 1⟩
  /-- A line in the place of a description is none. -/
  | description (head : Head g) {front back : List Line} {l : Line}
      (hfront : ∀ d ∈ front, IsDescriptionLine d) (h : ¬ IsDescriptionLine l) :
      StopsAt g (head.lines ++ (front ++ l :: back)) ⟨.description, headLength + front.length⟩
  /-- The only line is the one of the author. -/
  | undescribed (head : Head g) {author marker : Line} {back : List Line}
      (hauthor : IsAuthorLine author) (hmarker : IsBlockEnd marker) :
      StopsAt g (head.lines ++ author :: marker :: back) ⟨.description, headLength⟩
  /-- The line above the closing marker is not the one of an author. -/
  | author (head : Head g) {front back : List Line} {l marker : Line}
      (hfront : ∀ d ∈ front, IsDescriptionLine d) (h : ¬ IsAuthorLine l)
      (hl : isBlockEnd l = false) (hmarker : IsBlockEnd marker) :
      StopsAt g (head.lines ++ (front ++ l :: marker :: back)) ⟨.author, headLength + front.length⟩
  /-- Something visible follows a header. -/
  | trailing (form : Form g) {back : List Line} (h : ∃ l ∈ back, isAllBlank l = false) :
      StopsAt g (form.lines ++ back) ⟨.blockEnd, form.lines.length⟩

theorem bind_eq_error_iff {ε α β : Type} {x : Except ε α} {f : α → Except ε β} {e : ε} :
    (x >>= f) = .error e ↔ x = .error e ∨ ∃ a, x = .ok a ∧ f a = .error e := by
  cases x with
  | error e' => simp [bind, Except.bind]
  | ok a => simp [bind, Except.bind]

theorem expect_eq_error_iff {clause : Clause} {p : Line → Bool} {pos : Nat} :
    expect clause p pos ls = .error stop ↔ ⟨clause, pos⟩ = stop ∧ ∀ l ∈ ls.head?, ¬ p l = true := by
  cases ls with
  | nil => simp [expect]
  | cons l rest =>
      by_cases hp : p l = true
      · simp [expect, hp]
      · simp [expect, hp]

/-- A closing marker does not have the margin of a description. -/
theorem IsBlockEnd.not_isDescriptionLine {l : Line} (h : IsBlockEnd l) :
    ¬ IsDescriptionLine l := by
  intro hdescription
  rw [← isBlockEnd_iff, hdescription.isBlockEnd_eq_false] at h
  exact Bool.false_ne_true h

/-- The ways in which the lines above the closing marker cannot be split. -/
theorem splitBody_eq_error {body : List Line} (h : splitBody body = .error stop) :
    body = [] ∧ stop = ⟨.description, headLength⟩ ∨
    (∃ front l back, body = front ++ l :: back ∧ (∀ d ∈ front, IsDescriptionLine d) ∧
      ¬ IsDescriptionLine l ∧ stop = ⟨.description, headLength + front.length⟩) ∨
    (∃ front l, body = front ++ [l] ∧ (∀ d ∈ front, IsDescriptionLine d) ∧ ¬ IsAuthorLine l ∧
      stop = ⟨.author, headLength + front.length⟩) ∨
    ∃ l, body = [l] ∧ IsAuthorLine l ∧ stop = ⟨.description, headLength⟩ := by
  rcases List.eq_nil_or_concat' body with rfl | ⟨front, last, rfl⟩
  · exact .inl ⟨rfl, by simpa [splitBody, eq_comm] using h⟩
  · simp only [splitBody, List.getLast?_concat, List.dropLast_concat] at h
    split at h
    · rename_i i hi
      obtain ⟨first, l, back, rfl, rfl, hl, hfirst⟩ := exists_append_of_findIdx? hi
      refine .inr (.inl ⟨first, l, back ++ [last], by simp, ?_, ?_, (Except.error.inj h).symm⟩)
      · exact fun d hd => isDescription_iff.1 (by simpa using hfirst d hd)
      · exact mt isDescription_iff.2 (by simpa using hl)
    · rename_i hall
      rw [List.findIdx?_eq_none_iff] at hall
      have hfront : ∀ d ∈ front, IsDescriptionLine d :=
        fun d hd => isDescription_iff.1 (by simpa using hall d hd)
      split at h
      · rename_i hauthor
        exact .inr (.inr (.inl ⟨front, last, rfl, hfront,
          mt isAuthor_iff.2 (by simpa using hauthor), (Except.error.inj h).symm⟩))
      · rename_i hauthor
        split at h
        · rename_i hempty
          rw [List.isEmpty_iff] at hempty
          subst hempty
          exact .inr (.inr (.inr ⟨last, rfl, isAuthor_iff.1 (by simpa using hauthor),
            (Except.error.inj h).symm⟩))
        · exact absurd h (by simp)

/-- Lines that cannot be cut stop being a header in one of the ways. -/
theorem stopsAt_of_ofLines (h : Layout.ofLines g ls = .error stop) : StopsAt g ls stop := by
  rcases bind_eq_error_iff.1 h with h | ⟨⟨start, rest⟩, hexpect, h⟩
  · obtain ⟨rfl, hno⟩ := expect_eq_error_iff.1 h
    exact .start fun l hl => mt isBlockStart_iff.2 (hno l hl)
  obtain ⟨rfl, hstart⟩ := expect_eq_ok_iff.1 hexpect
  rw [isBlockStart_iff] at hstart
  rcases bind_eq_error_iff.1 h with h | ⟨⟨update, rest⟩, hexpect, h⟩
  · obtain ⟨rfl, hno⟩ := expect_eq_error_iff.1 h
    exact .update hstart fun l hl => mt Grammar.isUpdateLine_iff.2 (hno l hl)
  obtain ⟨rfl, hupdate⟩ := expect_eq_ok_iff.1 hexpect
  rw [Grammar.isUpdateLine_iff] at hupdate
  rcases bind_eq_error_iff.1 h with h | ⟨⟨fileName, rest⟩, hexpect, h⟩
  · obtain ⟨rfl, hno⟩ := expect_eq_error_iff.1 h
    exact .fileName hstart hupdate fun l hl => mt isFileName_iff.2 (hno l hl)
  obtain ⟨rfl, hfileName⟩ := expect_eq_ok_iff.1 hexpect
  -- The head stands. The first closing marker after it decides what the other clauses look at.
  let head : Head g := ⟨start, update, fileName, hstart, hupdate, isFileName_iff.1 hfileName⟩
  show StopsAt g (head.lines ++ rest) stop
  dsimp only at h
  split at h
  · rename_i hnone
    cases h
    exact .unclosed head (List.findIdx?_eq_none_iff.1 hnone)
  · rename_i i hi
    obtain ⟨body, marker, back, rfl, rfl, hmarker, hbody⟩ := exists_append_of_findIdx? hi
    rw [isBlockEnd_iff] at hmarker
    rw [List.take_left, drop_length_succ_append_cons] at h
    rcases bind_eq_error_iff.1 h with h | ⟨⟨description, author⟩, hsplit, h⟩
    · rcases splitBody_eq_error h with ⟨rfl, rfl⟩ | ⟨front, l, tail, rfl, hfront, hl, rfl⟩ |
        ⟨front, l, rfl, hfront, hl, rfl⟩ | ⟨l, rfl, hl, rfl⟩
      · exact .description head (List.forall_mem_nil _) hmarker.not_isDescriptionLine
      · rw [List.append_assoc, List.cons_append]
        exact .description head hfront hl
      · rw [List.append_assoc, List.singleton_append]
        exact .author head hfront hl (hbody l (by simp)) hmarker
      · exact .undescribed head hl hmarker
    · obtain ⟨rfl, hne, hdescription, hauthor⟩ := splitBody_eq_ok_iff.1 hsplit
      split at h
      · exact absurd h (by simp)
      · rename_i hback
        cases h
        have hvisible : ∃ l ∈ back, isAllBlank l = false := by simpa using hback
        have hstop := StopsAt.trailing (head.form hne hdescription hauthor hmarker) hvisible
        rw [head.lines_form] at hstop
        have hlines : head.lines ++ (description ++ [author] ++ marker :: back) =
            head.lines ++ description ++ [author, marker] ++ back := by simp
        have hlength : headLength + (description ++ [author]).length + 1 =
            (head.lines ++ description ++ [author, marker]).length := by
          simp [Head.lines, headLength]
          omega
        rw [hlines, hlength]
        exact hstop

/-! ### The answer is true of the line -/

/-- The line with index `i` is the first closing marker after the head. -/
def FirstEndAt (ls : List Line) (i : Nat) : Prop :=
  headLength ≤ i ∧ (∃ l, ls[i]? = some l ∧ IsBlockEnd l) ∧
    ∀ j l, headLength ≤ j → j < i → ls[j]? = some l → ¬ IsBlockEnd l

/-- Nothing closes the block after the head. -/
def Unclosed (ls : List Line) : Prop := ∀ l ∈ ls.drop headLength, ¬ IsBlockEnd l

/-- What an answer says about the lines, clause by clause. -/
def Stop.Justified (g : Grammar) (ls : List Line) (stop : Stop) : Prop :=
  match stop.expected with
  | .start => stop.line = 0 ∧ ∀ l, ls[0]? = some l → ¬ IsBlockStart l
  | .updateLine => stop.line = 1 ∧ ∀ l, ls[1]? = some l → ¬ g.IsUpdateLine l
  | .fileName => stop.line = 2 ∧ ∀ l, ls[2]? = some l → ¬ IsFileNameLine l
  | .description =>
      (∃ l, ls[stop.line]? = some l ∧ ¬ IsDescriptionLine l) ∨
      stop.line = 3 ∧ (∃ l, ls[3]? = some l ∧ IsAuthorLine l) ∧ FirstEndAt ls 4
  | .author =>
      (∃ l, ls[stop.line]? = some l ∧ ¬ IsAuthorLine l) ∧ FirstEndAt ls (stop.line + 1)
  | .blockEnd =>
      Unclosed ls ∧ stop.line = ls.length - 1 ∨
      (∃ layout, Layout.ofLines g (ls.take stop.line) = .ok layout) ∧
        ∃ l ∈ ls.drop stop.line, isAllBlank l = false

theorem Head.getElem?_append (head : Head g) (rest : List Line) (i : Nat) :
    (head.lines ++ rest)[headLength + i]? = rest[i]? := by
  simp [Head.lines, headLength, Nat.add_comm 3]

theorem not_isBlockEnd_of_eq_false {l : Line} (h : isBlockEnd l = false) : ¬ IsBlockEnd l :=
  fun hl => Bool.false_ne_true (h.symm.trans (isBlockEnd_iff.2 hl))

/-- The first closing marker stands after lines that are none. -/
theorem Head.firstEndAt (head : Head g) {front back : List Line} {marker : Line}
    (hfront : ∀ l ∈ front, isBlockEnd l = false) (hmarker : IsBlockEnd marker) :
    FirstEndAt (head.lines ++ (front ++ marker :: back)) (headLength + front.length) := by
  refine ⟨Nat.le_add_right .., ⟨marker, ?_, hmarker⟩, ?_⟩
  · rw [head.getElem?_append]
    simp
  · intro j l hle hlt hl
    obtain ⟨i, rfl⟩ := Nat.exists_eq_add_of_le hle
    rw [head.getElem?_append, List.getElem?_append_left (by omega)] at hl
    exact not_isBlockEnd_of_eq_false (hfront l (List.mem_of_getElem? hl))

theorem StopsAt.justified (h : StopsAt g ls stop) : stop.Justified g ls := by
  cases h with
  | start h => exact ⟨rfl, fun l hl => h l (List.head?_eq_getElem?.trans hl)⟩
  | update _ h => exact ⟨rfl, fun l hl => h l (List.head?_eq_getElem?.trans hl)⟩
  | fileName _ _ h => exact ⟨rfl, fun l hl => h l (List.head?_eq_getElem?.trans hl)⟩
  | unclosed head h => exact .inl ⟨fun l hl => not_isBlockEnd_of_eq_false (h l hl), rfl⟩
  | description head _ h =>
      refine .inl ⟨_, ?_, h⟩
      rw [head.getElem?_append]
      simp
  | @undescribed head author marker back hauthor hmarker =>
      have hnone : ∀ l ∈ [author], isBlockEnd l = false := by
        simpa using hauthor.isBlockEnd_eq_false
      exact .inr ⟨rfl, ⟨author, rfl, hauthor⟩, head.firstEndAt hnone hmarker⟩
  | @author head front back l marker hfront h hl hmarker =>
      have hnone : ∀ d ∈ front ++ [l], isBlockEnd d = false := by
        intro d hd
        rcases List.mem_append.1 hd with hd | hd
        · exact (hfront d hd).isBlockEnd_eq_false
        · rw [List.mem_singleton.1 hd]
          exact hl
      have hend : FirstEndAt (head.lines ++ (front ++ [l] ++ marker :: back)) _ :=
        head.firstEndAt hnone hmarker
      rw [List.append_assoc, List.singleton_append, List.length_append, ← Nat.add_assoc] at hend
      refine ⟨⟨l, ?_, h⟩, hend⟩
      rw [head.getElem?_append]
      simp
  | trailing form h =>
      refine .inr ⟨⟨form.layout, ?_⟩, ?_⟩
      · rw [List.take_left]
        exact ofLines_eq_ok_iff.2 ⟨form, rfl, rfl⟩
      · rw [List.drop_left]
        exact h

theorem StopsAt.line_le (h : StopsAt g ls stop) : stop.line ≤ ls.length := by
  cases h with
  | start => exact Nat.zero_le _
  | update => simp
  | fileName => simp
  | unclosed => exact Nat.sub_le ..
  | description => simp [Head.lines, headLength]; omega
  | undescribed => simp [Head.lines, headLength]
  | author => simp [Head.lines, headLength]; omega
  | trailing => simp

/-! ### The lines in front of it begin a header -/

/-- The lines begin some text that is a header. -/
def Completable (g : Grammar) (ls : List Line) : Prop :=
  ∃ header : String, ls <+: lines header.toList ∧ ∃ layout, Layout.parse g header = .ok layout

theorem Form.completable (form : Form g) (hfeed : ∀ l ∈ form.lines, '\n' ∉ l)
    (hls : ls <+: form.lines) : Completable g ls := by
  obtain ⟨header, hheader⟩ := exists_text_of_lines hfeed
  exact ⟨header, hheader ▸ hls, form.layout, form.parse_eq_ok hheader.symm⟩

/-- After a head and any number of descriptions, one more description, an author and a closing
marker are all that is missing. -/
theorem Head.completable (head : Head g) {front : List Line}
    (hfront : ∀ d ∈ front, IsDescriptionLine d) (hfeed : ∀ l ∈ head.lines ++ front, '\n' ∉ l)
    (hls : ls <+: head.lines ++ front) : Completable g ls := by
  obtain ⟨description, -, hdescription, hdescriptionFeed⟩ := exists_sample_description
  obtain ⟨author, -, hauthor, hauthorFeed⟩ := exists_sample_author
  have hmarker : IsBlockEnd " */".toList := isBlockEnd_iff.1 (by decide)
  have hall : ∀ d ∈ front ++ [description.toList], IsDescriptionLine d := by
    simpa [or_imp, forall_and] using ⟨hfront, isDescription_iff.1 hdescription⟩
  have hlines : (head.form (by simp) hall (isAuthor_iff.1 hauthor) hmarker).lines =
      head.lines ++ front ++ [description.toList, author.toList, " */".toList] := by
    rw [head.lines_form]
    simp
  refine Form.completable _ ?_ (hlines ▸ hls.trans (List.prefix_append ..))
  intro l hl
  rw [hlines] at hl
  rcases List.mem_append.1 hl with hl | hl
  · exact hfeed l hl
  · simp only [List.mem_cons, List.not_mem_nil, or_false] at hl
    rcases hl with rfl | rfl | rfl
    · exact hdescriptionFeed
    · exact hauthorFeed
    · decide

theorem Head.completable_take (head : Head g) {front back : List Line}
    (hfront : ∀ d ∈ front, IsDescriptionLine d)
    (hfeed : ∀ l ∈ head.lines ++ (front ++ back), '\n' ∉ l) :
    Completable g ((head.lines ++ (front ++ back)).take (headLength + front.length)) := by
  have hlength : headLength + front.length = (head.lines ++ front).length := by
    simp [Head.lines, headLength]
    omega
  rw [← List.append_assoc] at hfeed ⊢
  rw [hlength, List.take_left]
  exact head.completable hfront (fun l hl => hfeed l (List.mem_append_left _ hl))
    (List.prefix_refl _)

/-- In front of the answer nothing is wrong, unless the block is not closed. -/
theorem StopsAt.completable (h : StopsAt g ls stop) (hfeed : ∀ l ∈ ls, '\n' ∉ l)
    (hg : ∃ l, '\n' ∉ l ∧ g.IsUpdateLine l) :
    Unclosed ls ∧ stop = ⟨.blockEnd, ls.length - 1⟩ ∨ Completable g (ls.take stop.line) := by
  -- A head that is cut short is completed with fixed lines, and with the copyright line of `hg`:
  -- no fixed one is right for every project.
  obtain ⟨copyright, hcopyrightFeed, hcopyright⟩ := hg
  have hstart : IsBlockStart "/**".toList := isBlockStart_iff.1 (by decide)
  have hfileName : IsFileNameLine " * Main.kt".toList := isFileName_iff.1 (by decide +kernel)
  cases h with
  | start =>
      let head : Head g := ⟨_, copyright, _, hstart, hcopyright, hfileName⟩
      refine .inr (head.completable (List.forall_mem_nil _) ?_ List.nil_prefix)
      simp [head, Head.lines, hcopyrightFeed]
  | @update start rest hfirst h =>
      let head : Head g := ⟨start, copyright, _, hfirst, hcopyright, hfileName⟩
      refine .inr (head.completable (List.forall_mem_nil _) ?_ ⟨_, rfl⟩)
      simp [head, Head.lines, hcopyrightFeed, hfeed start (List.mem_cons_self ..)]
  | @fileName start update rest hfirst hsecond h =>
      let head : Head g := ⟨start, update, _, hfirst, hsecond, hfileName⟩
      refine .inr (head.completable (List.forall_mem_nil _) ?_ ⟨_, rfl⟩)
      simp [head, Head.lines, hfeed start (by simp), hfeed update (by simp)]
  | unclosed head h => exact .inl ⟨fun l hl => not_isBlockEnd_of_eq_false (h l hl), rfl⟩
  | description head hfront => exact .inr (head.completable_take hfront hfeed)
  | undescribed head => exact .inr (head.completable_take (List.forall_mem_nil _) hfeed)
  | author head hfront => exact .inr (head.completable_take hfront hfeed)
  | trailing form =>
      rw [List.take_left]
      exact .inr (form.completable (fun l hl => hfeed l (List.mem_append_left _ hl))
        (List.prefix_refl _))

/-- Where some lines can be completed, the project accepts a copyright line on one line. -/
theorem Completable.exists_updateLine (h : Completable g ls) :
    ∃ l, '\n' ∉ l ∧ g.isUpdateLine l = true := by
  obtain ⟨header, -, layout, hparse⟩ := h
  obtain ⟨form, hlines, -⟩ := ofLines_eq_ok_iff.1 hparse
  have hmem : form.update ∈ lines header.toList := by simp [← hlines, Form.lines]
  exact ⟨form.update, not_mem_of_mem_lines hmem, Grammar.isUpdateLine_iff.2 form.update_ok⟩

/-! ### Texts -/

/-- **Why a text is no header.** If a text is answered with a clause and a line, the line is in the
text or right after it, and the answer is true of it. Unless the block is not closed, the lines in
front of it begin some text that is a header, in every project that accepts a copyright line
without a line feed in it; in other projects no text is a header. -/
theorem parse_error_justified {g : Grammar} {text : String} {stop : Stop}
    (h : Layout.parse g text = .error stop) :
    stop.line ≤ (lines text.toList).length ∧
    stop.Justified g (lines text.toList) ∧
    (Unclosed (lines text.toList) ∧ stop = ⟨.blockEnd, (lines text.toList).length - 1⟩ ∨
      (Completable g ((lines text.toList).take stop.line) ↔
        ∃ l, '\n' ∉ l ∧ g.isUpdateLine l = true)) := by
  have hstop : StopsAt g (lines text.toList) stop := stopsAt_of_ofLines h
  refine ⟨hstop.line_le, hstop.justified, ?_⟩
  by_cases hopen : Unclosed (lines text.toList) ∧
      stop = ⟨.blockEnd, (lines text.toList).length - 1⟩
  · exact .inl hopen
  · refine .inr ⟨Completable.exists_updateLine, fun hg => ?_⟩
    obtain ⟨l, hfeed, hcopyright⟩ := hg
    have hcompletable := hstop.completable (fun _ => not_mem_of_mem_lines)
      ⟨l, hfeed, Grammar.isUpdateLine_iff.1 hcopyright⟩
    exact hcompletable.resolve_left hopen

/-- A header that lost its author line. -/
def withoutAuthor : String :=
  "/**\n * Copyright Acme, Inc. 2018. All rights reserved.\n * Main.kt\n" ++
    " * Starts the program and waits.\n * Then it stops the program.\n */\n"

theorem parse_error_justified_withoutAuthor :
    Layout.parse {} withoutAuthor = .error ⟨.author, 4⟩ ∧
    Stop.Justified {} (lines withoutAuthor.toList) ⟨.author, 4⟩ ∧
    Completable {} ((lines withoutAuthor.toList).take 4) := by
  have hg : ∃ l, '\n' ∉ l ∧ Grammar.isUpdateLine {} l = true :=
    ⟨" * Copyright Acme, Inc. 2018. All rights reserved.".toList, by decide +kernel,
      by decide +kernel⟩
  have hparse : Layout.parse {} withoutAuthor = .error ⟨.author, 4⟩ := by decide +kernel
  obtain ⟨-, hjustified, ⟨-, hunclosed⟩ | hcompletable⟩ := parse_error_justified hparse
  · exact absurd hunclosed (by simp)
  · exact ⟨hparse, hjustified, hcompletable.2 hg⟩

/-- A project whose organization has a name over two lines. -/
def overTwoLines : Grammar where
  organization := some "A\nB"

/-- The project accepts a copyright line, but what stands in front of the answer to the empty text,
which is nothing, begins no header. -/
theorem parse_error_overTwoLines :
    overTwoLines.isUpdateLine " * Copyright A\nB, Inc. 2018. All rights reserved.".toList = true ∧
    Layout.parse overTwoLines "" = .error ⟨.start, 0⟩ ∧
    ¬ (Unclosed (lines "".toList) ∧
      (⟨.start, 0⟩ : Stop) = ⟨.blockEnd, (lines "".toList).length - 1⟩) ∧
    ¬ Completable overTwoLines ((lines "".toList).take 0) := by
  refine ⟨by decide +kernel, by decide +kernel, ?_, ?_⟩
  · simp
  · intro h
    obtain ⟨l, hfeed, hcopyright⟩ := h.exists_updateLine
    obtain ⟨line, -, horganization, w, -, hl⟩ := Grammar.isUpdateLine_iff.1 hcopyright
    have hbreak : '\n' ∈ line.organization := by
      rw [horganization "A\nB" rfl]
      decide
    rw [hl, line.written_append] at hfeed
    exact hfeed (List.mem_append_right _ (List.mem_append_left _ hbreak))

end DocLint.Header

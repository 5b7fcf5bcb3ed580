import DocLint.Proofs.Kotlin.Comment

/-!
# Opening comments: the block comment that a source starts with

In front of the opening comment there may be a byte order mark and any white space, and nothing
else. `Leads` takes a source apart so, in the only possible way. The comment then runs up to the
first end marker behind its start marker. The two markers share no character: `/*/` is not closed.

The place of the comment is counted on what stands in front of it. A byte order mark has three
bytes, which shift the offset and, on the first line, the column, but it is no line.
-/

namespace DocLint.Kotlin

open Text

variable {source mark blank rest mark' blank' rest' front text inner tail : List Char} {c : Comment}

/-! ### What stands in front -/

/-- The source goes on with `rest` behind its byte order mark, if it has one, and all the white
space that follows. -/
structure Leads (source mark blank rest : List Char) : Prop where
  eq_append : source = mark ++ blank ++ rest
  mark_eq : mark = if source.head? = some byteOrderMark then [byteOrderMark] else []
  blank_only : isAllBlank blank = true
  blank_all : ∀ c ∈ rest.head?, isBlank c = false

theorem Leads.leadingBlank_eq (h : Leads source mark blank rest) :
    leadingBlank source = mark ++ blank := by
  have hblank : (blank ++ rest).takeWhile isBlank = blank :=
    (takeWhile_append_stop (isAllBlank_eq_true_iff.1 h.blank_only) h.blank_all).1
  have hsource : source = mark ++ (blank ++ rest) := by rw [h.eq_append, List.append_assoc]
  have hmark := h.mark_eq
  cases source with
  | nil =>
      simp only [List.nil_eq, List.append_eq_nil_iff] at hsource
      simp [hsource, leadingBlank]
  | cons c more =>
      by_cases hc : c = byteOrderMark
      · have hmark : mark = [byteOrderMark] := by simpa [hc] using hmark
        have hmore : more = blank ++ rest := by simpa [hmark, hc] using hsource
        simp [leadingBlank, hc, hmark, hmore, hblank]
      · have hmark : mark = [] := by simpa [hc] using hmark
        rw [hmark, List.nil_append] at hsource
        rw [leadingBlank, if_neg hc, hsource, hblank, hmark, List.nil_append]

theorem Leads.drop_eq (h : Leads source mark blank rest) :
    source.drop (mark ++ blank).length = rest := by
  rw [h.eq_append, List.drop_left]

theorem Leads.unique (h : Leads source mark blank rest) (h' : Leads source mark' blank' rest') :
    mark' = mark ∧ blank' = blank ∧ rest' = rest := by
  have hmark : mark' = mark := h'.mark_eq.trans h.mark_eq.symm
  have hfront : mark' ++ blank' = mark ++ blank := h'.leadingBlank_eq.symm.trans h.leadingBlank_eq
  refine ⟨hmark, ?_, ?_⟩
  · rw [hmark] at hfront
    exact List.append_cancel_left hfront
  · rw [← h.drop_eq, ← h'.drop_eq, hfront]

theorem exists_leads (source : List Char) : ∃ mark blank rest, Leads source mark blank rest := by
  obtain ⟨more, hmore⟩ : ∃ more, source =
      (if source.head? = some byteOrderMark then [byteOrderMark] else []) ++ more := by
    split
    · rename_i hhead
      obtain ⟨more, hmore⟩ := List.head?_eq_some_iff.1 hhead
      exact ⟨more, hmore⟩
    · exact ⟨source, rfl⟩
  refine ⟨_, more.takeWhile isBlank, more.dropWhile isBlank, ?_, rfl, ?_, ?_⟩
  · rw [List.append_assoc, List.takeWhile_append_dropWhile]
    exact hmore
  · exact isAllBlank_eq_true_iff.2 fun c hc => List.mem_takeWhile_imp hc
  · intro c hc
    have hhead := List.head?_dropWhile_not isBlank more
    rw [Option.mem_def.1 hc] at hhead
    simpa using hhead

/-! ### The place of a comment -/

/-- The comment has the given text, and its place is that of a text right behind `front`. -/
structure Follows (c : Comment) (front text : List Char) : Prop where
  text_eq : c.text.toList = text
  offset_eq : c.span.offset = byteLength front
  length_eq : c.span.length = byteLength text
  line_eq : c.span.line = 1 + front.count '\n'
  column_eq : ∃ lead, IsLastLine lead front ∧ c.span.column = 1 + byteLength lead

theorem commentAfter_eq_iff : commentAfter front text = c ↔ Follows c front text := by
  constructor
  · intro h
    subst h
    obtain ⟨lead, hlead⟩ := exists_isLastLine front
    exact ⟨String.toList_ofList, rfl, rfl, Nat.add_comm .., lead, hlead, hlead.spanAfter_column _⟩
  · intro h
    obtain ⟨htext, hoffset, hlength, hline, lead, hlead, hcolumn⟩ := h
    obtain ⟨text', line, column, offset, length⟩ := c
    dsimp only at htext hoffset hlength hline hcolumn
    rw [← hlead.spanAfter_column length] at hcolumn
    rw [Nat.add_comm] at hline
    subst htext hoffset hlength hline hcolumn
    rw [commentAfter, String.ofList_toList]
    rfl

theorem slice_go_skip (here stop : Nat) (front rest : List Char) :
    slice.go (here + byteLength front) stop here (front ++ rest) =
      slice.go (here + byteLength front) stop (here + byteLength front) rest := by
  induction front generalizing here with
  | nil => rfl
  | cons c front ih =>
      have hsize := c.utf8Size_pos
      have hstart : here < here + byteLength (c :: front) := by
        rw [byteLength]
        omega
      rw [List.cons_append, slice.go, if_pos hstart, byteLength, ← Nat.add_assoc, ih]

theorem slice_between (front text rest : List Char) :
    slice (byteLength front) (byteLength front + byteLength text) (front ++ text ++ rest) =
      text := by
  have hskip := slice_go_skip 0 (byteLength front + byteLength text) front (text ++ rest)
  rw [Nat.zero_add] at hskip
  rw [slice, List.append_assoc, hskip, slice_go_append (Nat.le_refl _)]

theorem prefix_slice_zero (stop : Nat) (s : List Char) : slice 0 stop s <+: s := by
  have hgo (here : Nat) : slice.go 0 stop here s <+: s := by
    induction s generalizing here with
    | nil => exact List.prefix_refl []
    | cons c s ih =>
        rw [slice.go, if_neg (Nat.not_lt_zero here)]
        split
        · exact List.cons_prefix_cons.2 ⟨rfl, ih _⟩
        · exact List.nil_prefix
  exact hgo 0

/-! ### Finding the comment -/

/-- The text of the block comment around `inner`. -/
def commentAround (inner : List Char) : List Char := "/*".toList ++ inner ++ "*/".toList

theorem Leads.leadingComment?_eq_some_iff (h : Leads source mark blank rest) :
    leadingComment? source = some c ↔ ∃ inner tail, rest = commentAround inner ++ tail ∧
      ¬ "*/".toList <:+: inner ∧ Follows c (mark ++ blank) (commentAround inner) := by
  have hmarker : Unbordered "*/".toList := by decide
  simp only [leadingComment?, h.leadingBlank_eq, h.drop_eq, Option.bind_eq_bind,
    Option.bind_eq_some_iff, Prod.exists, after?_eq_some_iff, cutAt_eq_some_iff hmarker,
    Option.some.injEq]
  constructor
  · intro h
    obtain ⟨_, hrest, inner, tail, ⟨rfl, hinner⟩, hc⟩ := h
    exact ⟨inner, tail, by simp [hrest, commentAround], hinner, commentAfter_eq_iff.1 hc⟩
  · intro h
    obtain ⟨inner, tail, hrest, hinner, hc⟩ := h
    exact ⟨inner ++ "*/".toList ++ tail, by simp [hrest, commentAround], inner, tail, ⟨rfl, hinner⟩,
      commentAfter_eq_iff.2 hc⟩

/-- What is behind the comment has no part in what is in front of it. -/
theorem Leads.replace_tail (h : Leads source mark blank (commentAround inner ++ tail))
    (tail' : List Char) :
    Leads (mark ++ blank ++ (commentAround inner ++ tail')) mark blank
      (commentAround inner ++ tail') := by
  refine ⟨rfl, ?_, h.blank_only, by simpa [commentAround] using h.blank_all⟩
  have hhead : source.head? = (mark ++ blank ++ (commentAround inner ++ tail')).head? := by
    simp [h.eq_append, commentAround, List.head?_append]
  rw [← hhead]
  exact h.mark_eq

/-- **The opening comment.** Every source is taken apart in one way into a byte order mark, if it
has one, all the white space behind it, and the rest. It has an opening comment exactly if the rest
starts with a block comment, which ends at the first end marker. The text of the comment is then
found in the source at its place, and its line counts the line feeds in the white space. Nothing
behind the comment has a part in this: every source that has the same bytes up to its end has the
same opening comment. -/
theorem leadingComment?_finds_opening (source : List Char) :
    ∃ mark blank rest, Leads source mark blank rest ∧
      (∀ mark' blank' rest', Leads source mark' blank' rest' →
        mark' = mark ∧ blank' = blank ∧ rest' = rest) ∧
      ∀ c : Comment,
        (leadingComment? source = some c ↔ ∃ inner tail, rest = commentAround inner ++ tail ∧
          ¬ "*/".toList <:+: inner ∧ Follows c (mark ++ blank) (commentAround inner)) ∧
        (leadingComment? source = some c → c.span.line = 1 + blank.count '\n' ∧
          slice c.span.offset (c.span.offset + c.span.length) source = c.text.toList ∧
          ∀ source', slice 0 (c.span.offset + c.span.length) source' =
              slice 0 (c.span.offset + c.span.length) source →
            leadingComment? source' = some c) := by
  obtain ⟨mark, blank, rest, h⟩ := exists_leads source
  refine ⟨mark, blank, rest, h, fun _ _ _ h' => h.unique h', fun c => ?_⟩
  refine ⟨h.leadingComment?_eq_some_iff, fun hc => ?_⟩
  obtain ⟨inner, tail, rfl, hinner, hfollows⟩ := h.leadingComment?_eq_some_iff.1 hc
  have hsource : source = mark ++ blank ++ commentAround inner ++ tail := by
    rw [h.eq_append, ← List.append_assoc]
  refine ⟨?_, ?_, ?_⟩
  · have hmark : mark.count '\n' = 0 := by
      rw [h.mark_eq]
      split <;> decide
    rw [hfollows.line_eq, List.count_append, hmark, Nat.zero_add]
  · rw [hfollows.offset_eq, hfollows.length_eq, hfollows.text_eq, hsource, slice_between]
  · intro source' hsame
    -- The bytes up to the end of the comment are all that stands in front and the comment.
    have hprefix : mark ++ blank ++ commentAround inner <+: source' := by
      rw [hfollows.offset_eq, hfollows.length_eq, ← byteLength_append, hsource, slice_append]
        at hsame
      rw [← hsame]
      exact prefix_slice_zero _ _
    obtain ⟨tail', rfl⟩ := hprefix
    rw [List.append_assoc]
    exact (h.replace_tail tail').leadingComment?_eq_some_iff.2
      ⟨inner, tail', rfl, hinner, hfollows⟩

/-- The start marker does not close the comment, and the mark, the line break and the no-break
space count three, two and two bytes. -/
example : leadingComment? "/*/ fun".toList = none ∧
    leadingComment? "\uFEFF\r\n\u00A0/*/*/ fun */".toList =
      some ⟨"/*/*/", { line := 2, column := 3, offset := 7, length := 5 }⟩ := by decide +kernel

end DocLint.Kotlin

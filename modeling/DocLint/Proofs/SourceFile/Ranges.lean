import DocLint.Proofs.SourceFile

/-!
# The ranges of lines: two ways to cut a text stay in step

The lines of a text and the ranges of its lines are found by different walks. The lines lose the
carriage return in front of a line feed, the ranges lose all carriage returns at the end of a
line, and both leave out an empty end of the text. `lineRange?_agrees_with_lines` says that they
count alike, and that the range of a line covers the line.

Both walks go over the pieces between line feeds. A line comes from the piece with its number
(`exists_piece_of_getElem?_linesOfPieces`), and the range of a piece lies behind all the pieces
in front of it and their line feeds (`lineRange?_of_pieces`). So every character that does not
end a line is in the range of its piece, and what is left over are the ends of lines.
-/

namespace DocLint

open Text

/-! ### Carriage returns at the end of a line -/

theorem dropEndWhile_return_of_pieceOf {piece l : Line} (h : PieceOf piece l) :
    dropEndWhile (· == '\r') piece = dropEndWhile (· == '\r') l := by
  rcases h with rfl | rfl
  · rfl
  · rw [dropEndWhile_append, if_pos (by decide)]

/-! ### Bytes and characters -/

/-- Every byte of a text belongs to one of its characters. -/
theorem exists_char_at_byte {s : List Char} {i : Nat} (h : i < byteLength s) :
    ∃ before c after, s = before ++ c :: after ∧ byteLength before ≤ i ∧
      i < byteLength before + c.utf8Size := by
  induction s generalizing i with
  | nil => exact absurd h (Nat.not_lt_zero i)
  | cons c s ih =>
      rw [byteLength] at h
      by_cases hfirst : i < c.utf8Size
      · exact ⟨[], c, s, rfl, Nat.zero_le i, by simpa [byteLength] using hfirst⟩
      · obtain ⟨before, d, after, rfl, hle, hlt⟩ := ih (i := i - c.utf8Size) (by omega)
        refine ⟨c :: before, d, after, rfl, ?_, ?_⟩ <;> rw [byteLength] <;> omega

theorem toList_toByteArray (s : String) :
    s.toByteArray.data.toList = s.toList.flatMap String.utf8EncodeChar := by
  rw [← String.utf8Encode_toList, List.utf8Encode, List.toList_data_toByteArray]

theorem byteLength_eq_length (s : List Char) :
    byteLength s = (s.flatMap String.utf8EncodeChar).length := by
  induction s with
  | nil => rfl
  | cons c s ih =>
      rw [byteLength, List.flatMap_cons, List.length_append, String.length_utf8EncodeChar, ih]

theorem getElem?_toByteArray {s : String} {i : Nat} :
    s.toByteArray[i]? = (s.toList.flatMap String.utf8EncodeChar)[i]? := by
  rw [← toList_toByteArray, Array.getElem?_toList]
  rfl

/-- A character of one byte is found at the number of bytes in front of it. -/
theorem byte_at_char {s : String} {before after : List Char} {c : Char}
    (hs : s.toList = before ++ c :: after) (hc : c.utf8Size = 1) :
    s.toByteArray[byteLength before]? = some c.val.toUInt8 := by
  rw [getElem?_toByteArray, hs, List.flatMap_append, List.flatMap_cons,
    String.utf8EncodeChar_eq_singleton hc, byteLength_eq_length,
    List.getElem?_append_right (Nat.le_refl _), Nat.sub_self]
  rfl

namespace SourceFile

variable {file : SourceFile} {n : Nat} {range : ByteRange}

/-! ### The range of a line -/

/-- The range of a line covers it, less the carriage returns at its end. -/
theorem exists_lineRange? {i : Nat} {l : Line} (h : (lines file.content.toList)[i]? = some l) :
    ∃ range, file.lineRange? (i + 1) = some range ∧
      range.Covers file.content.toList (dropEndWhile (· == '\r') l) := by
  obtain ⟨front, piece, back, hpieces, rfl, hl, hpiece⟩ :=
    exists_piece_of_getElem?_linesOfPieces h
  have hmem : piece ∈ pieces file.content.toList := by simp [hpieces]
  have hfeed : '\n' ∉ piece := not_mem_of_mem_splitAt hmem
  rw [← dropEndWhile_return_of_pieceOf hl, ← dropEndWhile_isLineBreak hfeed]
  exact exists_lineRange?_of_pieces hpieces hpiece

theorem lineRange?_zero : file.lineRange? 0 = none := by
  unfold lineRange?
  cases pieces file.content.toList <;> rfl

theorem lineRange?_eq_none_iff :
    file.lineRange? n = none ↔ n = 0 ∨ (lines file.content.toList).length < n := by
  constructor
  · intro h
    by_contra hn
    rw [not_or, Nat.not_lt] at hn
    obtain ⟨i, rfl⟩ := Nat.exists_eq_add_one_of_ne_zero hn.1
    obtain ⟨range, hrange, -⟩ := exists_lineRange? (List.getElem?_eq_getElem hn.2)
    rw [hrange] at h
    cases h
  · intro h
    rcases h with rfl | h
    · exact lineRange?_zero
    · exact rangeIn_eq_none h

theorem exists_line_of_lineRange? (h : file.lineRange? n = some range) :
    ∃ i l, n = i + 1 ∧ (lines file.content.toList)[i]? = some l := by
  have hsome : ¬ (n = 0 ∨ (lines file.content.toList).length < n) := by
    rw [← lineRange?_eq_none_iff, h]
    exact Option.some_ne_none range
  obtain ⟨hpos, hle⟩ := not_or.1 hsome
  obtain ⟨i, rfl⟩ := Nat.exists_eq_add_one_of_ne_zero hpos
  exact ⟨i, _, rfl, List.getElem?_eq_getElem (by omega)⟩

/-- A range is that of a piece. -/
theorem exists_pieces_of_lineRange? (h : file.lineRange? n = some range) :
    ∃ front piece back, pieces file.content.toList = front ++ piece :: back ∧
      n = front.length + 1 ∧ range.start = byteLength (front.flatMap (· ++ ['\n'])) ∧
      range.stop = range.start + byteLength (dropEndWhile isLineBreak piece) := by
  obtain ⟨i, l, rfl, hl⟩ := exists_line_of_lineRange? h
  obtain ⟨front, piece, back, hpieces, rfl, -, hpiece⟩ :=
    exists_piece_of_getElem?_linesOfPieces hl
  rw [lineRange?_of_pieces hpieces hpiece, Option.some.injEq] at h
  rw [← h]
  exact ⟨front, piece, back, hpieces, rfl, rfl, rfl⟩

/-! ### Between the ranges -/

/-- The range of a line ends before that of a later line starts. -/
theorem stop_lt_start {m : Nat} {range' : ByteRange} (hlt : m < n)
    (h : file.lineRange? m = some range) (h' : file.lineRange? n = some range') :
    range.stop < range'.start := by
  obtain ⟨front, piece, back, hpieces, rfl, hstart, hstop⟩ := exists_pieces_of_lineRange? h
  obtain ⟨front', piece', back', hpieces', rfl, hstart', -⟩ := exists_pieces_of_lineRange? h'
  have hcut : front ++ [piece] <+: pieces file.content.toList := ⟨back, by simp [hpieces]⟩
  have hcut' : front' <+: pieces file.content.toList := ⟨piece' :: back', hpieces'.symm⟩
  obtain ⟨mid, rfl⟩ : front ++ [piece] <+: front' := by
    refine List.prefix_of_prefix_length_le hcut hcut' ?_
    rw [List.length_append, List.length_singleton]
    omega
  obtain ⟨dropped, hdropped⟩ := prefix_dropEndWhile isLineBreak piece
  have hlength : byteLength piece =
      byteLength (dropEndWhile isLineBreak piece) + byteLength dropped := by
    rw [← byteLength_append, hdropped]
  have hfeed : byteLength ['\n'] = 1 := rfl
  rw [hstart', hstop, hstart, List.flatMap_append, List.flatMap_append, List.flatMap_singleton,
    byteLength_append, byteLength_append, byteLength_append, hfeed, hlength]
  omega

/-- A character that does not end a line is in the range of its line. -/
theorem exists_lineRange?_of_char {before after : List Char} {c : Char}
    (hcontent : file.content.toList = before ++ c :: after) (hc : isLineBreak c = false) :
    ∃ n range, file.lineRange? n = some range ∧ range.start ≤ byteLength before ∧
      byteLength before + c.utf8Size ≤ range.stop := by
  have hfeed : c ≠ '\n' := by
    rintro rfl
    exact absurd hc (by decide)
  obtain ⟨front, last, first, back, hbefore, hafter, happend⟩ :=
    exists_splitAt_append '\n' before (c :: after)
  obtain ⟨first, rfl⟩ : ∃ first', first = c :: first' := by
    rw [splitAt, if_neg hfeed] at hafter
    obtain ⟨next, more, hmore⟩ := List.exists_cons_of_ne_nil (splitAt_ne_nil '\n' after)
    rw [hmore] at hafter
    exact ⟨next, (List.cons.inj hafter).1.symm⟩
  have hpieces : pieces file.content.toList = front ++ (last ++ c :: first) :: back := by
    rw [hcontent, pieces, happend]
  -- In front of the character stand the lines before its own, and the start of its own.
  have htext : before = front.flatMap (· ++ ['\n']) ++ last := by
    rw [← join_pieces before, pieces, hbefore, join_append]
    rfl
  refine ⟨_, _, lineRange?_of_pieces hpieces (by simp), ?_, ?_⟩
  · rw [htext, byteLength_append]
    exact Nat.le_add_right _ _
  · show _ ≤ _ + byteLength (dropEndWhile isLineBreak (last ++ c :: first))
    rw [dropEndWhile_append_cons hc, htext, byteLength_append, byteLength_append, byteLength]
    omega

/-- Outside of all ranges there are only the bytes of line ends. -/
theorem byte_of_outside {i : Nat} {byte : UInt8} (hbyte : file.content.toByteArray[i]? = some byte)
    (houtside : ∀ n range, file.lineRange? n = some range → ¬ (range.start ≤ i ∧ i < range.stop)) :
    byte = '\r'.val.toUInt8 ∨ byte = '\n'.val.toUInt8 := by
  have hi : i < byteLength file.content.toList := by
    rw [getElem?_toByteArray] at hbyte
    rw [byteLength_eq_length]
    exact (List.getElem?_eq_some_iff.1 hbyte).1
  obtain ⟨before, c, after, hcontent, hle, hlt⟩ := exists_char_at_byte hi
  have hc : isLineBreak c = true := by
    by_contra hc
    obtain ⟨n, range, hrange, hstart, hstop⟩ :=
      exists_lineRange?_of_char hcontent (Bool.eq_false_iff.2 hc)
    exact houtside n range hrange ⟨by omega, by omega⟩
  have hchar : c = '\n' ∨ c = '\r' := by simpa [isLineBreak] using hc
  have hsize : c.utf8Size = 1 := by
    rcases hchar with rfl | rfl <;> rfl
  obtain rfl : i = byteLength before := by omega
  rw [byte_at_char hcontent hsize, Option.some.injEq] at hbyte
  rw [← hbyte]
  rcases hchar with rfl | rfl
  · exact Or.inr rfl
  · exact Or.inl rfl

/-! ### Labels -/

/-- What becomes of a label. One with an extent, or on a line that does not exist, stays as it is.
One without an extent gets the bytes of its line, and stays as it is otherwise. -/
inductive Located (content : List Char) (label : Label) : Label → Prop
  | kept (h : label.location.span.length ≠ 0 ∨ label.location.span.line = 0 ∨
      (lines content).length < label.location.span.line) : Located content label label
  | filled {i offset length : Nat} {l : Line} (hlength : label.location.span.length = 0)
      (hline : label.location.span.line = i + 1) (hl : (lines content)[i]? = some l)
      (hcovers : Span.Covers { label.location.span with offset, length } content
        (dropEndWhile (· == '\r') l)) :
      Located content label
        { label with location.span.offset := offset, location.span.length := length }

variable {label : Label}

theorem located_locateLabel (file : SourceFile) (label : Label) :
    Located file.content.toList label (file.locateLabel label) := by
  by_cases hlength : label.location.span.length = 0
  · cases hrange : file.lineRange? label.location.span.line with
    | none =>
        rw [locateLabel_of_none (Or.inr hrange)]
        exact .kept (Or.inr (lineRange?_eq_none_iff.1 hrange))
    | some range =>
        obtain ⟨i, l, hline, hl⟩ := exists_line_of_lineRange? hrange
        obtain ⟨range', hrange', hcovers⟩ := exists_lineRange? hl
        obtain rfl : range' = range := by
          rw [hline, hrange', Option.some.injEq] at hrange
          exact hrange
        rw [locateLabel_of_some hlength hrange]
        exact .filled hlength hline hl (hcovers.span rfl rfl)
  · rw [locateLabel_of_none (Or.inl hlength)]
    exact .kept (Or.inl hlength)

/-- A label that was located on an empty line is looked up again, and found at the same place. -/
theorem locateLabel_locateLabel (file : SourceFile) (label : Label) :
    file.locateLabel (file.locateLabel label) = file.locateLabel label := by
  by_cases hlength : label.location.span.length = 0
  · cases hrange : file.lineRange? label.location.span.line with
    | none => rw [locateLabel_of_none (Or.inr hrange), locateLabel_of_none (Or.inr hrange)]
    | some range =>
        by_cases hempty : (file.locateLabel label).location.span.length = 0
        · have hline : file.lineRange? (file.locateLabel label).location.span.line = some range := by
            rw [locateLabel_line, hrange]
          rw [locateLabel_of_some hempty hline, locateLabel_of_some hlength hrange]
        · rw [locateLabel_of_none (Or.inl hempty)]
  · rw [locateLabel_of_none (Or.inl hlength), locateLabel_of_none (Or.inl hlength)]

/-- **Lines and their ranges.** There is a range for every line and for no other number, and it
covers the line without the carriage returns at its end. The range of a line ends before that of a
later one starts, and the bytes in none of them are carriage returns and line feeds. Locating the
labels of a violation only fills in the bytes of labels that have none and whose line exists, and
doing so again changes nothing. -/
theorem lineRange?_agrees_with_lines (file : SourceFile) :
    (∀ n, file.lineRange? n = none ↔ n = 0 ∨ (lines file.content.toList).length < n) ∧
    (∀ i l, (lines file.content.toList)[i]? = some l →
      ∃ range, file.lineRange? (i + 1) = some range ∧
        range.Covers file.content.toList (dropEndWhile (· == '\r') l)) ∧
    (∀ m n range range', m < n → file.lineRange? m = some range →
      file.lineRange? n = some range' → range.stop < range'.start) ∧
    (∀ (i : Nat) (byte : UInt8), file.content.toByteArray[i]? = some byte →
      (∀ n range, file.lineRange? n = some range → ¬ (range.start ≤ i ∧ i < range.stop)) →
      byte = '\r'.val.toUInt8 ∨ byte = '\n'.val.toUInt8) ∧
    ∀ v : Violation,
      (∃ labels, file.locateLabels v = { v with labels } ∧
        List.Forall₂ (Located file.content.toList) v.labels labels) ∧
      file.locateLabels (file.locateLabels v) = file.locateLabels v := by
  refine ⟨fun n => lineRange?_eq_none_iff, fun i l => exists_lineRange?,
    fun m n range range' hlt => stop_lt_start hlt, fun i byte => byte_of_outside, fun v => ⟨?_, ?_⟩⟩
  · refine ⟨v.labels.map file.locateLabel, rfl, ?_⟩
    rw [List.forall₂_map_right_iff]
    exact List.forall₂_same.2 fun label _ => file.located_locateLabel label
  · unfold locateLabels
    rw [List.map_map]
    refine congrArg (fun labels => { v with labels }) (List.map_congr_left fun label _ => ?_)
    exact file.locateLabel_locateLabel label

end SourceFile

end DocLint

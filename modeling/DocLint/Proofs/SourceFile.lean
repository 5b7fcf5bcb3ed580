import DocLint.Proofs.Text.Cut
import DocLint.Proofs.Text.Lines
import DocLint.SourceFile

/-!
# Source files: the bytes that a line number stands for

A label that knows only its line gets the bytes of the line. The search for them walks the
pieces of the text and adds up their lengths. `ByteRange.Covers` says what bytes a range has
without that walk, as a cut of the text into three, so a range that covers a text never starts or
ends inside a character. A span covers what the range of its bytes covers.
-/

namespace DocLint

open Text

/-- The bytes of the range are those of `marked`, which stands in the text `content`. So the range
starts and stops between characters. -/
def ByteRange.Covers (range : ByteRange) (content marked : List Char) : Prop :=
  ∃ before after, content = before ++ marked ++ after ∧
    range.start = byteLength before ∧ range.stop = byteLength (before ++ marked)

/-- The bytes of the span are those of `marked`, which stands in the text `content`. -/
def Span.Covers (span : Span) (content marked : List Char) : Prop :=
  ByteRange.Covers ⟨span.offset, span.offset + span.length⟩ content marked

/-- A span with the bytes of a range covers what the range covers. -/
theorem ByteRange.Covers.span {range : ByteRange} {span : Span} {content marked : List Char}
    (h : range.Covers content marked) (hoffset : span.offset = range.start)
    (hlength : span.length = range.stop - range.start) : span.Covers content marked := by
  have hle : range.start ≤ range.stop := by
    obtain ⟨before, after, -, hstart, hstop⟩ := h
    rw [hstart, hstop, byteLength_append]
    exact Nat.le_add_right _ _
  have hspan : (⟨span.offset, span.offset + span.length⟩ : ByteRange) = range := by
    rw [hoffset, hlength, Nat.add_sub_cancel' hle]
  rw [Span.Covers, hspan]
  exact h

/-- In a line there is no line feed to be dropped. -/
theorem dropEndWhile_isLineBreak {l : Line} (h : '\n' ∉ l) :
    dropEndWhile SourceFile.isLineBreak l = dropEndWhile (· == '\r') l := by
  refine dropEndWhile_congr fun c hc => ?_
  have hne : c ≠ '\n' := fun heq => h (heq ▸ hc)
  simp [SourceFile.isLineBreak, hne]

namespace SourceFile

theorem rangeIn_append (start : Nat) (front : List Line) {piece : Line} {back : List Line}
    (h : ¬ (piece = [] ∧ back = [])) :
    rangeIn start (front.length + 1) (front ++ piece :: back) =
      some ⟨start + byteLength (front.flatMap (· ++ ['\n'])),
        start + byteLength (front.flatMap (· ++ ['\n'])) +
          byteLength (dropEndWhile isLineBreak piece)⟩ := by
  induction front generalizing start with
  | nil => exact rangeIn.eq_4 _ _ _ (by simpa using h)
  | cons first front ih =>
      have hfeed : byteLength ['\n'] = 1 := rfl
      rw [List.length_cons, List.cons_append, rangeIn.eq_5 _ _ _ _ (by simp), ih,
        List.flatMap_cons, byteLength_append, byteLength_append, hfeed]
      simp only [Nat.add_assoc]

/-- There is no line behind the last one. -/
theorem rangeIn_eq_none {start n : Nat} {ps : List Line} (h : (linesOfPieces ps).length < n) :
    rangeIn start n ps = none := by
  fun_induction rangeIn start n ps with
  | case1 => rfl
  | case2 => rfl
  | case3 => rfl
  | case4 start piece more hne =>
      rw [length_linesOfPieces_cons fun h => hne h.1 h.2] at h
      omega
  | case5 start n piece more hne ih =>
      rw [length_linesOfPieces_cons fun h => hne h.1 h.2] at h
      exact ih (by omega)

variable {file : SourceFile} {label : Label} {range : ByteRange}

theorem lineRange?_of_pieces {front back : List Line} {piece : Line}
    (hpieces : pieces file.content.toList = front ++ piece :: back)
    (hpiece : ¬ (piece = [] ∧ back = [])) :
    file.lineRange? (front.length + 1) =
      some ⟨byteLength (front.flatMap (· ++ ['\n'])),
        byteLength (front.flatMap (· ++ ['\n'])) + byteLength (dropEndWhile isLineBreak piece)⟩ := by
  have hrange := rangeIn_append 0 front hpiece
  rwa [← hpieces, Nat.zero_add] at hrange

/-- The range of a line covers its piece, less the carriage returns at its end. -/
theorem exists_lineRange?_of_pieces {front back : List Line} {piece : Line}
    (hpieces : pieces file.content.toList = front ++ piece :: back)
    (hpiece : ¬ (piece = [] ∧ back = [])) :
    ∃ range, file.lineRange? (front.length + 1) = some range ∧
      range.Covers file.content.toList (dropEndWhile isLineBreak piece) := by
  obtain ⟨after, hcontent⟩ := exists_append_of_pieces hpieces
  obtain ⟨dropped, hdropped⟩ := prefix_dropEndWhile isLineBreak piece
  refine ⟨_, lineRange?_of_pieces hpieces hpiece, front.flatMap (· ++ ['\n']), dropped ++ after,
    ?_, rfl, (byteLength_append ..).symm⟩
  rw [hcontent, ← List.append_assoc, List.append_assoc _ _ dropped, hdropped]

theorem locateLabel_of_none (h : label.location.span.length ≠ 0 ∨
    file.lineRange? label.location.span.line = none) : file.locateLabel label = label := by
  unfold locateLabel
  rcases h with h | h
  · rw [if_neg h]
  · rw [h]
    split <;> rfl

theorem locateLabel_of_some (hlength : label.location.span.length = 0)
    (h : file.lineRange? label.location.span.line = some range) :
    file.locateLabel label =
      { label with location.span.offset := range.start
                   location.span.length := range.stop - range.start } := by
  rw [locateLabel, if_pos hlength, h]

@[simp]
theorem locateLabel_line :
    (file.locateLabel label).location.span.line = label.location.span.line := by
  unfold locateLabel
  split
  · split <;> rfl
  · rfl

/-- A label on the line of a piece gets the bytes of the piece, less the carriage returns at
its end. -/
theorem locateLabel_covers {front back : List Line} {piece : Line}
    (hpieces : pieces file.content.toList = front ++ piece :: back)
    (hpiece : ¬ (piece = [] ∧ back = [])) (hline : label.location.span.line = front.length + 1)
    (hlength : label.location.span.length = 0) :
    (file.locateLabel label).location.span.Covers file.content.toList
      (dropEndWhile isLineBreak piece) := by
  obtain ⟨range, hrange, hcovers⟩ := exists_lineRange?_of_pieces hpieces hpiece
  rw [← hline] at hrange
  rw [locateLabel_of_some hlength hrange]
  exact hcovers.span rfl rfl

/-- A label behind the last line stays as it is. -/
theorem locateLabel_of_lt (h : (lines file.content.toList).length < label.location.span.line) :
    file.locateLabel label = label :=
  locateLabel_of_none (Or.inr (rangeIn_eq_none h))

end SourceFile

end DocLint

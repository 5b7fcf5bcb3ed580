import DocLint.Kotlin.Comment
import DocLint.Proofs.SourceFile
import DocLint.Rule.Check
import Mathlib.Data.List.Forall2

/-!
# Labels: where the issues of a header are shown

An issue counts the lines of the header from zero, the header knows the line of the file on which
it starts, and a label is shown at the bytes of a line of the file. `PointsAt` says what a label
has to do with line `i` of a comment, and `headerIssues_labels_pointAt` that the labels of the
header rule do so, whatever stands in front of the comment.

The first and the last line of a comment may be parts of lines of the file: blanks or a byte
order mark stand in front of it, and code may follow it. A label covers the whole line there.
-/

namespace DocLint

open Text

/-! ### The comment in its file -/

namespace Kotlin

theorem prefix_leadingBlank (source : List Char) : leadingBlank source <+: source := by
  unfold leadingBlank
  split
  · split
    · exact List.cons_prefix_cons.2 ⟨rfl, List.takeWhile_prefix _⟩
    · exact List.takeWhile_prefix _
  · exact List.prefix_refl _

/-- The comment that a source starts with has a start and an end marker, and its place is that
of its text in the source. -/
theorem exists_append_of_leadingComment? {source : List Char} {comment : Comment}
    (h : leadingComment? source = some comment) :
    ∃ before inner after,
      source = before ++ ("/*".toList ++ inner ++ "*/".toList) ++ after ∧
        comment = commentAfter before ("/*".toList ++ inner ++ "*/".toList) := by
  simp only [leadingComment?, Option.bind_eq_bind, Option.bind_eq_some_iff] at h
  obtain ⟨rest, hrest, ⟨inner, after⟩, hcut, hcomment⟩ := h
  refine ⟨leadingBlank source, inner, after, ?_, (Option.some.inj hcomment).symm⟩
  rw [after?_eq_some_iff, cutAt_eq_some hcut] at hrest
  calc
    source = leadingBlank source ++ source.drop (leadingBlank source).length :=
      (List.prefix_iff_eq_append.1 (prefix_leadingBlank source)).symm
    _ = leadingBlank source ++ ("/*".toList ++ inner ++ "*/".toList) ++ after := by
      rw [hrest]
      simp only [List.append_assoc]

end Kotlin

/-- The last piece of a text that ends with an end marker is not empty. -/
theorem ne_nil_of_pieces_append_end {s : List Char} {front : List Line} {piece : Line}
    (h : pieces (s ++ "*/".toList) = front ++ [piece]) : piece ≠ [] := by
  obtain ⟨init, last, first, rest, -, hend, happend⟩ := exists_splitAt_append '\n' s "*/".toList
  have hmarker : splitAt '\n' "*/".toList = ["*/".toList] := by decide
  obtain ⟨rfl, rfl⟩ := List.cons.inj (hend.symm.trans hmarker)
  rw [pieces, happend] at h
  obtain ⟨-, hpiece⟩ := List.append_inj' h rfl
  rw [← List.singleton_inj.1 hpiece]
  simp

theorem exists_append_of_getElem? {α : Type} {xs : List α} {i : Nat} {x : α} (h : xs[i]? = some x) :
    ∃ front back, xs = front ++ x :: back ∧ front.length = i := by
  obtain ⟨hi, rfl⟩ := List.getElem?_eq_some_iff.1 h
  exact ⟨xs.take i, xs.drop (i + 1), by simp, by simp; omega⟩

/-- A line of the comment stands on the line of the file with its number. That line has more
only before the first and behind the last line of the comment. -/
theorem exists_pieces_of_leadingComment? {source : List Char} {comment : Comment} {i : Nat}
    {l : Line} (h : Kotlin.leadingComment? source = some comment)
    (hl : (pieces comment.text.toList)[i]? = some l) :
    ∃ front pre post back, pieces source = front ++ (pre ++ l ++ post) :: back ∧
      comment.span.line + i = front.length + 1 ∧ (0 < i → pre = []) ∧
      (i + 1 < (pieces comment.text.toList).length → post = []) ∧
      ¬ (pre ++ l ++ post = [] ∧ back = []) := by
  obtain ⟨before, inner, after, rfl, rfl⟩ := Kotlin.exists_append_of_leadingComment? h
  simp only [Kotlin.commentAfter, String.toList_ofList] at hl ⊢
  obtain ⟨above, below, hcut, rfl⟩ := exists_append_of_getElem? hl
  obtain ⟨post, back, hright, hpost⟩ := exists_pieces_append_right hcut after
  obtain ⟨pre, front, hleft, hlength, hpre⟩ := exists_pieces_append_left hright before
  refine ⟨front, pre, post, back, ?_, ?_, ?_, ?_, ?_⟩
  · rw [List.append_assoc before, hleft, List.append_assoc pre]
  · rw [hlength]
    show before.count '\n' + 1 + above.length = _
    omega
  · intro hpos
    exact hpre (List.ne_nil_of_length_pos hpos)
  · intro hlast
    refine (hpost ?_).1
    rintro rfl
    rw [hcut, List.length_append, List.length_singleton] at hlast
    omega
  · -- The file may end with the comment, but the comment ends with its marker.
    rintro ⟨hnil, hback⟩
    by_cases hbelow : below = []
    · subst hbelow
      obtain ⟨hfront, -⟩ := List.append_eq_nil_iff.1 hnil
      exact ne_nil_of_pieces_append_end hcut (List.append_eq_nil_iff.1 hfront).2
    · exact (hpost hbelow).2 hback

/-! ### Labels -/

/-- The label points at line `i` of the comment, counted from zero. Of a line that the comment
has it covers all but the carriage returns at the end, and nothing else if the line is neither
the first nor the last one. On a line that the file does not have it is empty. -/
structure PointsAt (source : List Char) (comment : Comment) (i : Nat) (label : Label) : Prop where
  line : label.location.span.line = comment.span.line + i
  covers : ∀ l, (pieces comment.text.toList)[i]? = some l →
    ∃ marked, label.location.span.Covers source marked ∧
      dropEndWhile (· == '\r') l <:+: marked ∧
      (0 < i → i + 1 < (pieces comment.text.toList).length →
        marked = dropEndWhile (· == '\r') l)
  absent : (lines source).length < comment.span.line + i → label.location.span.length = 0

theorem locateLabel_pointsAt {file : SourceFile} {comment : Comment} {i : Nat} {label : Label}
    (h : Kotlin.leadingComment? file.content.toList = some comment)
    (hline : label.location.span.line = comment.span.line + i)
    (hlength : label.location.span.length = 0) :
    PointsAt file.content.toList comment i (file.locateLabel label) where
  line := by rw [SourceFile.locateLabel_line, hline]
  covers := by
    intro l hl
    obtain ⟨front, pre, post, back, hpieces, hnumber, hpre, hpost, hne⟩ :=
      exists_pieces_of_leadingComment? h hl
    have hfeed : '\n' ∉ l := not_mem_of_mem_splitAt (List.mem_of_getElem? hl)
    refine ⟨_, SourceFile.locateLabel_covers hpieces hne (hline.trans hnumber) hlength, ?_, ?_⟩
    · rw [← dropEndWhile_isLineBreak hfeed]
      exact infix_dropEndWhile ..
    · intro hfirst hlast
      rw [hpre hfirst, hpost hlast, List.nil_append, List.append_nil,
        dropEndWhile_isLineBreak hfeed]
  absent := by
    intro hlt
    rw [SourceFile.locateLabel_of_lt (hline ▸ hlt), hlength]

/-- **Labels of header issues.** Each violation of the header rule has a label for the line of
its issue, if the issue has one, and the label points at that line of the header. -/
theorem headerIssues_labels_pointAt (grammar : Header.Grammar) (perClause : Bool)
    (severity : Severity) {file : SourceFile} {outline : Outline} {header : Comment}
    (hheader : Kotlin.leadingComment? file.content.toList = some header)
    (houtline : outline.header = some header) :
    List.Forall₂
      (fun issue v =>
        List.Forall₂ (PointsAt file.content.toList header) issue.line.toList v.labels)
      (headerIssues grammar perClause file.stem header.text).onEmpty.2
      (Rule.check ⟨.fileHeader grammar perClause, severity⟩ file outline) := by
  have htext : outline.headerText = header.text := by
    unfold Outline.headerText
    rw [houtline]
  have hspan : (headerLocation file outline).span = header.span := by
    unfold headerLocation
    rw [houtline]
  unfold Rule.check violationsOf
  simp only [htext, List.forall₂_map_right_iff]
  refine List.forall₂_same.2 fun issue _ => ?_
  unfold SourceFile.locateLabels Issue.violation
  simp only [List.map_map, List.forall₂_map_right_iff]
  refine List.forall₂_same.2 fun i _ => locateLabel_pointsAt hheader ?_ rfl
  rw [hspan]
  rfl

/-- A file whose header starts behind a byte order mark, a line break and blanks. -/
def indentedFile : SourceFile where
  path := "src/Main.kt"
  content := "\uFEFF\r\n  /**\n * Jürgen\r\n * Café.kt\r\n * ...\n */ fun f() {}"
  root := "."

/-- Its header. -/
def indentedHeader : Comment where
  text := "/**\n * Jürgen\r\n * Café.kt\r\n * ...\n */"
  span := { line := 2, column := 3, offset := 7, length := 39 }

theorem headerIssues_labels_indentedFile :
    Kotlin.leadingComment? indentedFile.content.toList = some indentedHeader ∧
      List.Forall₂
        (fun issue v =>
          List.Forall₂ (PointsAt indentedFile.content.toList indentedHeader) issue.line.toList
            v.labels)
        (headerIssues {} true indentedFile.stem indentedHeader.text).onEmpty.2
        (Rule.check ⟨.fileHeader {} true, .error⟩ indentedFile { header := some indentedHeader }) ∧
      ((Rule.check ⟨.fileHeader {} true, .error⟩ indentedFile
        { header := some indentedHeader }).flatMap (·.labels)).map
          (fun label => (label.location.span.offset, label.location.span.length)) =
        [(11, 10), (11, 10), (23, 11), (36, 6)] := by
  have hheader : Kotlin.leadingComment? indentedFile.content.toList = some indentedHeader := by
    decide +kernel
  exact ⟨hheader, headerIssues_labels_pointAt {} true .error hheader rfl, by decide +kernel⟩

end DocLint

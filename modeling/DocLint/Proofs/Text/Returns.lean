import DocLint.Proofs.Text.Lines

/-!
# Carriage returns: texts with the same lines

A carriage return in front of a line feed belongs to the line end. So a text without carriage
returns has the same lines with one in front of every line feed (`lines_withReturns`), and any
list of lines, whatever stands at their ends, is that of some text (`exists_text_of_lines`): if
each line is ended by a carriage return and a line feed, no other carriage return is taken off.
-/

namespace DocLint.Text

/-! ### Adding carriage returns -/

/-- The text with a carriage return in front of every line feed. -/
def withReturns (s : List Char) : List Char :=
  s.flatMap fun c => if c = '\n' then ['\r', '\n'] else [c]

/-- The line with a carriage return at its end. -/
def addReturn (l : Line) : Line := l ++ ['\r']

/-- The lines with a carriage return at the end of each but the last. -/
def addReturns : List Line → List Line
  | [] => []
  | [last] => [last]
  | l :: more => addReturn l :: addReturns more

theorem pieces_withReturns (s : List Char) : pieces (withReturns s) = addReturns (pieces s) := by
  unfold pieces withReturns
  induction s with
  | nil => rfl
  | cons c s ih =>
      obtain ⟨first, more, hs⟩ := List.exists_cons_of_ne_nil (splitAt_ne_nil '\n' s)
      rw [hs] at ih
      by_cases hc : c = '\n'
      · simp [splitAt, hc, hs, ih, addReturns, addReturn]
      · cases more with
        | nil => simp [splitAt, hc, hs, ih, addReturns]
        | cons next more => simp [splitAt, hc, hs, ih, addReturns, addReturn]

theorem addReturns_concat (front : List Line) (last : Line) :
    addReturns (front ++ [last]) = front.map addReturn ++ [last] := by
  induction front with
  | nil => rfl
  | cons l front ih =>
      rw [List.cons_append, List.map_cons, List.cons_append, ← ih]
      exact addReturns.eq_3 _ _ (by simp)

theorem linesOfPieces_concat (front : List Line) (last : Line) :
    linesOfPieces (front ++ [last]) = front.map dropReturn ++ linesOfPieces [last] := by
  induction front with
  | nil => rfl
  | cons l front ih =>
      rw [List.cons_append, List.map_cons, List.cons_append, ← ih]
      exact linesOfPieces.eq_3 _ _ (by simp)

theorem dropReturn_addReturn (l : Line) : dropReturn (addReturn l) = l := by
  simp [dropReturn, addReturn]

theorem dropReturn_of_not_mem {l : Line} (h : '\r' ∉ l) : dropReturn l = l := by
  refine if_neg fun hlast => h ?_
  exact List.mem_of_getLast? hlast

theorem not_mem_of_mem_pieces {s : List Char} {c : Char} (hc : c ∉ s) {piece : Line}
    (h : piece ∈ pieces s) : c ∉ piece := by
  obtain ⟨front, back, hpieces⟩ := List.append_of_mem h
  obtain ⟨after, hs⟩ := exists_append_of_pieces hpieces
  intro hmem
  exact hc (by rw [hs]; simp [hmem])

/-- Carriage returns in front of the line feeds change no line. -/
theorem lines_withReturns {s : List Char} (h : '\r' ∉ s) : lines (withReturns s) = lines s := by
  obtain ⟨front, last, hs⟩ := List.eq_nil_or_concat' (pieces s) |>.resolve_left
    (splitAt_ne_nil '\n' s)
  have hfront : front.map (dropReturn ∘ addReturn) = front.map dropReturn := by
    refine List.map_congr_left fun l hl => ?_
    have hl : l ∈ pieces s := by
      rw [hs]
      exact List.mem_append_left _ hl
    rw [Function.comp_apply, dropReturn_addReturn,
      dropReturn_of_not_mem (not_mem_of_mem_pieces h hl)]
  rw [lines, lines, pieces_withReturns, hs, addReturns_concat, linesOfPieces_concat,
    linesOfPieces_concat, List.map_map, hfront]

/-! ### Texts with given lines -/

/-- Lines without line feeds are the lines of some text, with whatever characters they end. -/
theorem exists_text_of_lines {ls : List Line} (hfeed : ∀ l ∈ ls, '\n' ∉ l) :
    ∃ text : String, lines text.toList = ls := by
  have hpieces : ∀ piece ∈ ls.map addReturn ++ [[]], '\n' ∉ piece := by
    intro piece hpiece
    rcases List.mem_append.1 hpiece with hpiece | hpiece
    · obtain ⟨l, hl, rfl⟩ := List.mem_map.1 hpiece
      simpa [addReturn] using hfeed l hl
    · rw [List.mem_singleton.1 hpiece]
      exact List.not_mem_nil
  have hreturns : ls.map (dropReturn ∘ addReturn) = ls :=
    (List.map_congr_left fun l _ => dropReturn_addReturn l).trans (List.map_id ls)
  refine ⟨String.ofList (['\n'].intercalate (ls.map addReturn ++ [[]])), ?_⟩
  rw [String.toList_ofList, lines, pieces, splitAt_eq_splitOn,
    List.splitOn_intercalate _ hpieces (by simp), linesOfPieces_concat, List.map_map, hreturns]
  exact List.append_nil ls

end DocLint.Text

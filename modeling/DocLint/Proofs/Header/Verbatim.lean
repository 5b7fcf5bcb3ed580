import DocLint.Proofs.Header.Attribution
import DocLint.Proofs.Header.Values
import DocLint.Proofs.Text.Word

/-!
# The texts of a header: what the record keeps of them

A file name and a description stand behind the margin ` * ` of their lines, and the clauses of
these lines have the margin once. The record takes it off as often as it can: ` * ` from the
file name, and ` *`, without the space, from the description. A text that itself starts like a
margin loses this start. A description whose lines are the items of a list loses their bullets.

`LeftBehind` says what is left of a line. `readHeader_verbatim_iff` says exactly when a record
has the texts behind the margin as they are written, trimmed, and what it has otherwise. One
line is enough to spoil a description, since what is left of a line is never longer than its
text (`join_map_eq_iff`).
-/

namespace DocLint.Header

open Text

/-! ### The text of a file-name line -/

/-- Behind the margin of a file-name line there is more than another margin. -/
theorem IsFileNameLine.exists_text {l : Line} (h : IsFileNameLine l) :
    ∃ t, l = " * ".toList ++ t ∧ trimEnd l = " * ".toList ++ trimEnd t ∧
      " * ".toList.length ≤ (trimEnd t).length := by
  obtain ⟨name, hne, -, w, hw, rfl⟩ := h
  have htext : trimEnd (name.toList ++ ".kt".toList ++ w) = name.toList ++ ".kt".toList :=
    (trimEnd_eq_append_iff extension_visible).2 ⟨w, hw, rfl⟩
  have hline : trimEnd (" * ".toList ++ name.toList ++ ".kt".toList ++ w) =
      " * ".toList ++ name.toList ++ ".kt".toList :=
    (trimEnd_eq_append_iff extension_visible).2 ⟨w, hw, rfl⟩
  refine ⟨name.toList ++ ".kt".toList ++ w, ?_, ?_, ?_⟩
  · simp only [List.append_assoc]
  · rw [hline, htext, List.append_assoc]
  · have hlength : ".kt".toList.length = " * ".toList.length := by decide
    rw [htext, List.length_append, hlength]
    exact Nat.le_add_left ..

theorem fileNameText_eq_trimEnd_iff {t : List Char}
    (htrim : trimEnd (" * ".toList ++ t) = " * ".toList ++ trimEnd t)
    (hlength : " * ".toList.length ≤ (trimEnd t).length) :
    fileNameText (" * ".toList ++ t) = trimEnd t ↔ ¬ " * ".toList <+: t := by
  rw [fileNameText, htrim, dropRepeated_append, dropRepeated_eq_self_iff (by decide), not_iff_not]
  constructor
  · exact fun h => h.trans (prefix_dropEndWhile isBlank t)
  · exact fun h => List.prefix_of_prefix_length_le h (prefix_dropEndWhile isBlank t) hlength

/-! ### The text of a description line -/

variable {t : List Char}

theorem descriptionText_margin (t : List Char) :
    descriptionText (" * ".toList ++ t) = trim (dropRepeated " *".toList (' ' :: t)) := by
  have hmargin : " * ".toList ++ t = " *".toList ++ ' ' :: t := by simp
  rw [descriptionText, hmargin, dropRepeated_append]

theorem descriptionText_of_no_star (ht : t.head? ≠ some '*') :
    descriptionText (" * ".toList ++ t) = trim t := by
  have hstar : ¬ " *".toList <+: ' ' :: t := by
    rintro ⟨rest, hrest⟩
    obtain rfl : '*' :: rest = t := (List.cons.inj hrest).2
    exact ht rfl
  rw [descriptionText_margin, dropRepeated_of_not_prefix hstar]
  exact trim_append_of_blank (w := [' ']) (by decide) t

/-- A star in front of the text is dropped with the space of the margin. -/
theorem length_descriptionText_star (t : List Char) :
    (descriptionText (" * ".toList ++ '*' :: t)).length < (trim ('*' :: t)).length := by
  have hdrop : dropRepeated " *".toList (' ' :: '*' :: t) = dropRepeated " *".toList t :=
    dropRepeated_append " *".toList t
  have hvisible : isBlank '*' = false := by decide
  have hstart : trimStart ('*' :: t) = '*' :: t := trimStart_eq_cons_iff.2 ⟨hvisible, [], rfl, rfl⟩
  have hstar : trim ('*' :: t) = '*' :: trimEnd t := by
    rw [trim, hstart, trimEnd_cons_of_visible hvisible]
  rw [descriptionText_margin, hdrop, hstar, List.length_cons]
  exact Nat.lt_succ_of_le (trim_infix_trimEnd (dropRepeated_suffix ..)).length_le

theorem length_descriptionText_le (t : List Char) :
    (descriptionText (" * ".toList ++ t)).length ≤ (trim t).length := by
  by_cases ht : t.head? = some '*'
  · obtain ⟨rest, rfl⟩ := List.head?_eq_some_iff.1 ht
    exact Nat.le_of_lt (length_descriptionText_star rest)
  · rw [descriptionText_of_no_star ht]

theorem descriptionText_eq_trim_iff :
    descriptionText (" * ".toList ++ t) = trim t ↔ t.head? ≠ some '*' := by
  refine ⟨?_, descriptionText_of_no_star⟩
  intro heq ht
  obtain ⟨rest, rfl⟩ := List.head?_eq_some_iff.1 ht
  exact absurd (congrArg List.length heq) (Nat.ne_of_lt (length_descriptionText_star rest))

/-! ### The texts of the record -/

theorem Form.exists_texts {g : Grammar} (h : Form g) :
    ∃ texts : List (List Char), h.description = texts.map (" * ".toList ++ ·) := by
  have hmargin (l : Line) (hl : l ∈ h.description) : l = " * ".toList ++ l.drop 3 := by
    obtain ⟨t, rfl, -⟩ := h.description_ok l hl
    rfl
  refine ⟨h.description.map (·.drop 3), ?_⟩
  calc h.description = h.description.map id := (List.map_id _).symm
    _ = h.description.map fun l => " * ".toList ++ l.drop 3 := List.map_congr_left hmargin
    _ = (h.description.map (·.drop 3)).map (" * ".toList ++ ·) := List.map_map.symm

theorem forall₂_leftBehind {word : List Char} (hword : word ≠ []) (ls : List Line) :
    List.Forall₂ (LeftBehind word) ls (ls.map (dropRepeated word)) := by
  rw [List.forall₂_map_right_iff, List.forall₂_same]
  exact fun l _ => leftBehind_dropRepeated hword l

/-- **The texts of a header.** Every text that is accepted has a file name and descriptions behind
the margins of their lines, and a record. The record has the file name as it is written exactly
if no second margin stands in front of it, and the description exactly if no line of it starts
with a star. In any case it has what is left of the lines if their margins are dropped as often as
they stand in front. -/
theorem readHeader_verbatim_iff {g : Grammar} {text : String}
    (hvalid : (validate g text).onEmpty.1 = true) :
    ∃ (h : Form g) (name : List Char) (texts : List (List Char)) (record : HeaderRecord),
      h.lines = lines text.toList ∧
      h.fileName = " * ".toList ++ name ∧
      h.description = texts.map (" * ".toList ++ ·) ∧
      (readHeader g text).Yields (some record) [] ∧
      (record.fileName = String.ofList (trimEnd name) ↔ ¬ " * ".toList <+: name) ∧
      (record.description = String.ofList (join [' '] (texts.map trim)) ↔
        ∀ t ∈ texts, t.head? ≠ some '*') ∧
      (∃ rest, LeftBehind " * ".toList (trimEnd h.fileName) rest ∧
        record.fileName = String.ofList rest) ∧
      ∃ rests, List.Forall₂ (LeftBehind " *".toList) h.description rests ∧
        record.description = String.ofList (join [' '] (rests.map trim)) := by
  obtain ⟨h, hlines⟩ := validate_eq_true_iff.1 hvalid
  obtain ⟨name, hname, htrim, hlength⟩ := h.fileName_ok.exists_text
  obtain ⟨texts, htexts⟩ := h.exists_texts
  obtain ⟨record, -, hfileName, hdescription, hrecord⟩ := h.exists_yields_texts
  refine ⟨h, name, texts, record, hlines, hname, htexts, h.readHeader_eq hlines ▸ hrecord,
    ?_, ?_, ⟨_, leftBehind_dropRepeated (by decide) _, hfileName⟩,
    _, forall₂_leftBehind (by decide) h.description, ?_⟩
  · rw [hname] at htrim
    rw [hfileName, String.ofList_inj, hname, fileNameText_eq_trimEnd_iff htrim hlength]
  · rw [hdescription, String.ofList_inj, htexts, List.map_map, Function.comp_def,
      join_map_eq_iff [' '] fun t _ => length_descriptionText_le t]
    exact forall₂_congr fun t _ => descriptionText_eq_trim_iff
  · rw [hdescription, List.map_map]
    rfl

/-- A header with a file name and a description behind the margins of their lines. -/
def describedBy (fileName description : String) : List Char :=
  "/**\n * Copyright Acme, Inc. 2018-2020. All rights reserved.\n * ".toList ++ fileName.toList ++
    "\n * ".toList ++ description.toList ++ "\n * @author Ada Byron Feb 2, 2018\n */\n".toList

/-- Stars and margins inside of the texts. -/
def starredHeader : List Char :=
  describedBy "Main * Test.kt  " "Starts * and **waits**.\n *   Then it * stops *.  "

/-- A margin in front of the file name, and a bullet in front of the description. -/
def bulletedHeader : List Char :=
  describedBy " * Main.kt" "* Starts the program and waits."

/-- Where a text is cut by computation, the lines of its form are known. -/
theorem exists_form_of_ofLines {g : Grammar} {cs : List Char} {fileName : Line}
    {description : List Line}
    (hcut : (Layout.ofLines g (lines cs)).toOption.map
      (fun layout => (layout.fileName, layout.description)) = some (fileName, description)) :
    ∃ h : Form g, h.lines = lines (String.ofList cs).toList ∧ h.fileName = fileName ∧
      h.description = description := by
  rw [String.toList_ofList]
  cases hlayout : Layout.ofLines g (lines cs) with
  | error stop =>
      rw [hlayout] at hcut
      exact absurd hcut (by simp [Except.toOption])
  | ok layout =>
      rw [hlayout] at hcut
      obtain ⟨h, hlines, rfl⟩ := ofLines_eq_ok_iff.1 hlayout
      exact ⟨h, hlines, Prod.mk.inj (Option.some.inj hcut)⟩

/-- Stars and margins inside of a text are kept. -/
theorem readHeader_verbatim_starred :
    (validate {} (String.ofList starredHeader)).onEmpty.1 = true ∧
    ∃ record, (readHeader {} (String.ofList starredHeader)).Yields (some record) [] ∧
      record.fileName = "Main * Test.kt" ∧
      record.description = "Starts * and **waits**. Then it * stops *." := by
  obtain ⟨h, hlines, hname, htexts⟩ : ∃ h : Form {},
      h.lines = lines (String.ofList starredHeader).toList ∧
      h.fileName = " * ".toList ++ "Main * Test.kt  ".toList ∧
      h.description = ["Starts * and **waits**.".toList, "  Then it * stops *.  ".toList].map
        (" * ".toList ++ ·) :=
    exists_form_of_ofLines (by decide +kernel)
  have hvalid := validate_eq_true_iff.2 ⟨h, hlines⟩
  obtain ⟨h', name, texts, record, hlines', hname', htexts', hrecord, hfileName, hdescription, -⟩ :=
    readHeader_verbatim_iff hvalid
  obtain rfl := Form.lines_injective (hlines'.trans hlines.symm)
  obtain rfl := List.append_cancel_left (hname'.symm.trans hname)
  obtain rfl := List.map_injective_iff.2 (List.append_right_injective _)
    (htexts'.symm.trans htexts)
  exact ⟨hvalid, record, hrecord, (hfileName.2 (by decide)).trans (by decide +kernel),
    (hdescription.2 (by decide)).trans (by decide +kernel)⟩

/-- A second margin in front of the file name is lost, and so is a bullet in the description. -/
theorem readHeader_drops_bullets :
    (validate {} (String.ofList bulletedHeader)).onEmpty.1 = true ∧
    ∃ (h : Form {}) (record : HeaderRecord),
      h.lines = lines (String.ofList bulletedHeader).toList ∧
      h.fileName = " * ".toList ++ " * Main.kt".toList ∧
      h.description = [" * ".toList ++ "* Starts the program and waits.".toList] ∧
      (readHeader {} (String.ofList bulletedHeader)).Yields (some record) [] ∧
      record.fileName = "Main.kt" ∧ record.description = "Starts the program and waits." := by
  obtain ⟨h, hlines, hname, htexts⟩ : ∃ h : Form {},
      h.lines = lines (String.ofList bulletedHeader).toList ∧
      h.fileName = " * ".toList ++ " * Main.kt".toList ∧
      h.description = [" * ".toList ++ "* Starts the program and waits.".toList] :=
    exists_form_of_ofLines (by decide +kernel)
  obtain ⟨record, -, hfileName, hdescription, hrecord⟩ := h.exists_yields_texts
  have hread := h.readHeader_eq hlines ▸ hrecord
  rw [hname] at hfileName
  rw [htexts] at hdescription
  exact ⟨validate_eq_true_iff.2 ⟨h, hlines⟩, h, record, hlines, hname, htexts, hread,
    hfileName.trans (by decide +kernel), hdescription.trans (by decide +kernel)⟩

end DocLint.Header

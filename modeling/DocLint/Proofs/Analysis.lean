import DocLint.Analysis
import DocLint.Proofs.Report

/-!
# Analyses: the answer of a run

A run checks the files of a walk one after the other. What it does at a file that cannot be parsed
is a matter of the settings: it goes on without the file, or it ends there. `RunAnswer` says what
the answer is for a set of files, without a loop and without an order in which they are found.

The loop is followed one file at a time (`checkFiles_cons_of_parses`,
`checkFiles_cons_of_not_parses`). It comes to the end of the list (`checkFiles_eq_report`), or only
to the first file that cannot be parsed (`checkFiles_eq_parse`), which in a sorted list is the
smallest one. And since no two files have the same path, there is one sorted list only, whatever
the order of the walk.
-/

namespace DocLint.Analyzer

variable {a : Analyzer} {text : String → String} {read : String → Except FileError String}
  {walked walked' files front back : List String} {path : String} {cause : ReadError}

/-! ### One file -/

/-- Does the reader of a file make an outline of its text? -/
def parses (a : Analyzer) (text : String → String) (path : String) : Bool :=
  match a.readerFor path with
  | none => false
  | some reader => (reader.read (text path)).isOk

/-- The violations of a file that can be parsed. -/
def violationsIn (a : Analyzer) (text : String → String) (path : String) : List Violation :=
  (a.checkSource path (text path)).toOption.getD []

theorem checkSource_of_parses (h : a.parses text path = true) :
    a.checkSource path (text path) = .ok (a.violationsIn text path) := by
  unfold violationsIn
  cases hcheck : a.checkSource path (text path) with
  | ok violations => rfl
  | error e =>
      exfalso
      unfold parses at h
      unfold checkSource at hcheck
      cases hreader : a.readerFor path with
      | none => simp [hreader] at h
      | some reader =>
          cases hread : reader.read (text path) with
          | error cause => simp [hreader, hread, Except.isOk, Except.toBool] at h
          | ok outline => simp [hreader, hread] at hcheck

theorem checkSource_of_not_parses (hreader : (a.readerFor path).isSome = true)
    (h : a.parses text path = false) :
    ∃ cause, a.checkSource path (text path) = .error (.parse path cause) := by
  obtain ⟨reader, hreader⟩ := Option.isSome_iff_exists.1 hreader
  unfold parses at h
  unfold checkSource
  rw [hreader] at h ⊢
  dsimp only at h ⊢
  cases hread : reader.read (text path) with
  | error cause => exact ⟨cause, rfl⟩
  | ok outline => simp [hread, Except.isOk, Except.toBool] at h

/-! ### One file after the other -/

theorem checkFiles_cons_of_parses (hread : read path = .ok (text path))
    (h : a.parses text path = true) :
    (a.checkFiles read (path :: files)).value =
      (a.checkFiles read files).value.map (Report.withFile (a.violationsIn text path)) := by
  rw [checkFiles.eq_2, hread]
  dsimp only
  rw [checkSource_of_parses h]
  rfl

theorem checkFiles_cons_of_not_parses (hread : read path = .ok (text path))
    (h : a.checkSource path (text path) = .error (.parse path cause)) :
    (a.checkFiles read (path :: files)).value =
      if a.failOnParseError then .error (.parse path cause)
      else (a.checkFiles read files).value := by
  rw [checkFiles.eq_2, hread]
  dsimp only
  rw [h]
  dsimp only
  split <;> rfl

/-- The report on files that can be parsed, in the order in which they were checked. -/
def reportOn (a : Analyzer) (text : String → String) (files : List String) : Report where
  violations := files.flatMap (a.violationsIn text)
  filesChecked := files.length

theorem checkFiles_eq_report (hread : ∀ path ∈ files, read path = .ok (text path))
    (hreader : ∀ path ∈ files, (a.readerFor path).isSome = true)
    (hgo : a.failOnParseError = true → ∀ path ∈ files, a.parses text path = true) :
    (a.checkFiles read files).value = .ok (a.reportOn text (files.filter (a.parses text))) := by
  induction files with
  | nil => rfl
  | cons path files ih =>
      obtain ⟨hread, hreads⟩ := List.forall_mem_cons.1 hread
      obtain ⟨hreader, hreaders⟩ := List.forall_mem_cons.1 hreader
      have ih := ih hreads hreaders fun hfail p hp => hgo hfail p (List.mem_cons_of_mem _ hp)
      by_cases hparses : a.parses text path = true
      · rw [checkFiles_cons_of_parses hread hparses, ih, List.filter_cons_of_pos hparses]
        rfl
      · obtain ⟨cause, hcause⟩ := checkSource_of_not_parses hreader (Bool.eq_false_iff.2 hparses)
        have hgoes : ¬ a.failOnParseError = true := by
          intro hfail
          exact hparses (hgo hfail path (List.mem_cons_self ..))
        rw [checkFiles_cons_of_not_parses hread hcause, if_neg hgoes, ih,
          List.filter_cons_of_neg hparses]

theorem checkFiles_eq_parse (hread : ∀ p ∈ front ++ path :: back, read p = .ok (text p))
    (hfail : a.failOnParseError = true) (hfront : ∀ p ∈ front, a.parses text p = true)
    (hcause : a.checkSource path (text path) = .error (.parse path cause)) :
    (a.checkFiles read (front ++ path :: back)).value = .error (.parse path cause) := by
  induction front with
  | nil =>
      have hread := hread path (List.mem_append_right _ (List.mem_cons_self ..))
      rw [List.nil_append, checkFiles_cons_of_not_parses hread hcause, if_pos hfail]
  | cons first front ih =>
      obtain ⟨hread, hreads⟩ := List.forall_mem_cons.1 hread
      obtain ⟨hparses, hfront⟩ := List.forall_mem_cons.1 hfront
      rw [List.cons_append, checkFiles_cons_of_parses hread hparses, ih hreads hfront]
      rfl

/-! ### The files of a walk -/

/-- What a walk found: every path once, and a text under every path. -/
structure Listing (read : String → Except FileError String) (text : String → String)
    (walked : List String) : Prop where
  distinct : walked.Pairwise fun p q => Path.components p ≠ Path.components q
  readable : ∀ path ∈ walked, read path = .ok (text path)

theorem perm_selected (a : Analyzer) (walked : List String) :
    (a.selected walked).Perm (walked.filter a.isChecked) :=
  List.mergeSort_perm _ _

theorem mem_selected_iff : path ∈ a.selected walked ↔ path ∈ walked ∧ a.isChecked path = true := by
  rw [(perm_selected a walked).mem_iff, List.mem_filter]

theorem isSome_readerFor_of_mem_selected (h : path ∈ a.selected walked) :
    (a.readerFor path).isSome = true := by
  have hchecked := (mem_selected_iff.1 h).2
  unfold isChecked at hchecked
  exact (Bool.and_eq_true_iff.1 hchecked).1

theorem Listing.increasing_selected (h : Listing read text walked) (a : Analyzer) :
    Increasing Path.compare (a.selected walked) := by
  refine increasing_mergeSort ((h.distinct.filter _).imp ?_)
  intro p q hne heq
  exact hne (Path.compare_eq_eq_iff.1 heq)

theorem Listing.of_perm (h : Listing read text walked) (hperm : walked'.Perm walked) :
    Listing read text walked' where
  distinct := (hperm.pairwise_iff Ne.symm).2 h.distinct
  readable path hpath := h.readable path (hperm.mem_iff.1 hpath)

/-- The order of the walk leaves no trace. -/
theorem Listing.selected_eq (h : Listing read text walked) (hperm : walked'.Perm walked)
    (a : Analyzer) : a.selected walked' = a.selected walked := by
  refine eq_of_perm_of_increasing ?_ ((h.of_perm hperm).increasing_selected a)
    (h.increasing_selected a)
  exact (perm_selected a walked').trans
    ((hperm.filter _).trans (perm_selected a walked).symm)

/-! ### The answer -/

/-- The files of a walk that are checked and that can be parsed. -/
def parsedAmong (a : Analyzer) (text : String → String) (walked : List String) : List String :=
  (walked.filter a.isChecked).filter (a.parses text)

/-- What a run answers for the files of a walk. -/
inductive RunAnswer (a : Analyzer) (text : String → String) (walked : List String) :
    Except AnalysisError Report → Prop
  /-- A run that does not end early counts the files that can be parsed, and has their violations,
  file by file in the order of paths, as they stand after a stable sort. -/
  | report (files : List String) (report : Report)
      (goes : a.failOnParseError = true →
        ∀ path ∈ walked, a.isChecked path = true → a.parses text path = true)
      (parsed : files.Perm (a.parsedAmong text walked))
      (increasing : Increasing Path.compare files)
      (counted : report.filesChecked = files.length)
      (sorted : StableSort Violation.compare (files.flatMap (a.violationsIn text))
        report.violations) : RunAnswer a text walked (.ok report)
  /-- A run that ends early has the error of the smallest path that cannot be parsed. -/
  | parse (path : String) (cause : ReadError)
      (fails : a.failOnParseError = true)
      (found : path ∈ walked)
      (checked : a.isChecked path = true)
      (error : a.checkSource path (text path) = .error (.parse path cause))
      (smallest : ∀ other ∈ walked, a.isChecked other = true → a.parses text other = false →
        other = path ∨ Path.compare path other = .lt) :
      RunAnswer a text walked (.error (.parse path cause))

theorem value_analyzeFiles (a : Analyzer) (read : String → Except FileError String)
    (walked : List String) : (a.analyzeFiles read walked).value =
      (a.checkFiles read (a.selected walked)).value.map Report.sorted := rfl

namespace Listing

theorem readable_selected (h : Listing read text walked) (a : Analyzer) :
    ∀ path ∈ a.selected walked, read path = .ok (text path) :=
  fun path hpath => h.readable path (mem_selected_iff.1 hpath).1

/-- A run that does not end early reports on the files that can be parsed. -/
theorem analyzeFiles_eq_report (h : Listing read text walked)
    (hgo : a.failOnParseError = true → ∀ path ∈ a.selected walked, a.parses text path = true) :
    (a.analyzeFiles read walked).value =
      .ok (a.reportOn text ((a.selected walked).filter (a.parses text))).sorted := by
  rw [value_analyzeFiles, checkFiles_eq_report (h.readable_selected a)
    (fun _ hpath => isSome_readerFor_of_mem_selected hpath) hgo]
  rfl

theorem perm_parsed (a : Analyzer) (text : String → String) (walked : List String) :
    ((a.selected walked).filter (a.parses text)).Perm (a.parsedAmong text walked) :=
  (perm_selected a walked).filter _

theorem increasing_parsed (h : Listing read text walked) (a : Analyzer) :
    Increasing Path.compare ((a.selected walked).filter (a.parses text)) :=
  (h.increasing_selected a).filter _

theorem runAnswer (h : Listing read text walked) (a : Analyzer) :
    RunAnswer a text walked (a.analyzeFiles read walked).value := by
  by_cases hgo : a.failOnParseError = true → ∀ path ∈ a.selected walked, a.parses text path = true
  · rw [h.analyzeFiles_eq_report hgo]
    refine .report _ _ ?_ (perm_parsed a text walked) (h.increasing_parsed a) rfl
      (Report.stableSort_sorted (a.reportOn text _))
    intro hfail path hpath hchecked
    exact hgo hfail path (mem_selected_iff.2 ⟨hpath, hchecked⟩)
  · rw [Classical.not_imp] at hgo
    obtain ⟨hfail, hstops⟩ := hgo
    -- The first file that cannot be parsed cuts the sorted list in two.
    obtain ⟨path, hfind⟩ : ∃ path, (a.selected walked).find? (!a.parses text ·) = some path := by
      rw [← Option.isSome_iff_exists, List.find?_isSome]
      simpa using hstops
    obtain ⟨hparses, front, back, hcut, hfront⟩ := List.find?_eq_some_iff_append.1 hfind
    have hpath : path ∈ a.selected walked := List.mem_of_find?_eq_some hfind
    obtain ⟨cause, hcause⟩ := checkSource_of_not_parses (isSome_readerFor_of_mem_selected hpath)
      (by simpa using hparses)
    have hvalue : (a.analyzeFiles read walked).value = .error (.parse path cause) := by
      have hread := h.readable_selected a
      rw [value_analyzeFiles]
      rw [hcut] at hread ⊢
      rw [checkFiles_eq_parse hread hfail (by simpa using hfront) hcause]
      rfl
    obtain ⟨hwalked, hchecked⟩ := mem_selected_iff.1 hpath
    rw [hvalue]
    refine .parse path cause hfail hwalked hchecked hcause ?_
    intro other hother hchecked hnot
    have hmem : other ∈ front ++ path :: back := hcut ▸ mem_selected_iff.2 ⟨hother, hchecked⟩
    rcases List.mem_append.1 hmem with hmem | hmem
    · have hparses := hfront other hmem
      rw [hnot] at hparses
      exact absurd hparses (by simp)
    · rcases List.mem_cons.1 hmem with rfl | hmem
      · exact Or.inl rfl
      · have hinc := h.increasing_selected a
        rw [hcut] at hinc
        exact Or.inr (List.rel_of_pairwise_cons (List.pairwise_append.1 hinc).2.1 hmem)

/-- Of the files that cannot be parsed a run that goes on takes no notice. -/
theorem analyzeFiles_eq_of_parsed {read' : String → Except FileError String}
    (h : Listing read text walked) (h' : Listing read' text walked')
    (hgoes : a.failOnParseError = false)
    (hperm : (a.parsedAmong text walked').Perm (a.parsedAmong text walked)) :
    (a.analyzeFiles read' walked').value = (a.analyzeFiles read walked).value := by
  have hparsed : (a.selected walked').filter (a.parses text) =
      (a.selected walked).filter (a.parses text) := by
    refine eq_of_perm_of_increasing ?_ (h'.increasing_parsed a) (h.increasing_parsed a)
    exact (perm_parsed a text walked').trans (hperm.trans (perm_parsed a text walked).symm)
  have hgo (files : List String) (hfail : a.failOnParseError = true) :
      ∀ path ∈ files, a.parses text path = true := by
    rw [hgoes] at hfail
    cases hfail
  rw [h.analyzeFiles_eq_report (hgo _), h'.analyzeFiles_eq_report (hgo _), hparsed]

end Listing

/-- **The order of a walk does not matter, and a file that cannot be parsed concerns no other.**
Where the walk succeeds and all its files can be read, the analysis has the answer of its set of
files. Any other order of the walk gives this answer too. If the run does not end at files that
cannot be parsed, so does any other set of files with the same ones that can. -/
theorem analyze_runAnswer (a : Analyzer) (fs : FileSystem) (text : String → String)
    (walked : List String) (hwalk : (a.walk fs).filesBelow a.root = .ok walked)
    (h : Listing fs.readText text walked) :
    RunAnswer a text walked (a.analyze fs).value ∧
    (∀ walked' : List String, walked'.Perm walked →
      (a.analyzeFiles fs.readText walked').value = (a.analyze fs).value) ∧
    (a.failOnParseError = false → ∀ read (walked' : List String), Listing read text walked' →
      (a.parsedAmong text walked').Perm (a.parsedAmong text walked) →
        (a.analyzeFiles read walked').value = (a.analyze fs).value) := by
  have hvalue : (a.analyze fs).value = (a.analyzeFiles fs.readText walked).value := by
    unfold analyze
    rw [hwalk]
    rfl
  rw [hvalue]
  refine ⟨h.runAnswer a, ?_, ?_⟩
  · intro walked' hperm
    rw [value_analyzeFiles, value_analyzeFiles, h.selected_eq hperm]
  · intro hgoes read walked' h' hperm
    exact h.analyzeFiles_eq_of_parsed h' hgoes hperm

/-- A reader for which no source with an exclamation mark at its front can be parsed. -/
def markedReader : SourceReader where
  extensions := [".kt"]
  read source := if source.toList.head? = some '!' then .error .noTree else .ok {}

/-- A directory with two sources that cannot be parsed, and a file that is no source. -/
def mixedDirectory : FileSystem where
  root := .directory [("p", .directory
    [("sub", .directory [("B.kt", .file (.text "!"))]), ("b.txt", .file (.text "")),
      ("C.kt", .file (.text "!")), ("A.kt", .file (.text "class A"))])]

/-- The texts in the directory. -/
def mixedText (path : String) : String :=
  if path = "/p/A.kt" then "class A" else if path = "/p/b.txt" then "" else "!"

/-- A run on the directory that ends at a source that cannot be parsed. -/
def strictRun : Analyzer where
  root := "/p"
  rules := [Rule.default .fileHeader]
  readers := [markedReader]
  excludes := []
  settings := {}
  failOnParseError := true

theorem analyze_runAnswer_strictRun :
    (strictRun.walk mixedDirectory).filesBelow strictRun.root =
        .ok ["/p/sub/B.kt", "/p/b.txt", "/p/C.kt", "/p/A.kt"] ∧
      Listing mixedDirectory.readText mixedText
        ["/p/sub/B.kt", "/p/b.txt", "/p/C.kt", "/p/A.kt"] ∧
      RunAnswer strictRun mixedText ["/p/sub/B.kt", "/p/b.txt", "/p/C.kt", "/p/A.kt"]
        (strictRun.analyze mixedDirectory).value := by
  have hwalk : (strictRun.walk mixedDirectory).filesBelow strictRun.root =
      .ok ["/p/sub/B.kt", "/p/b.txt", "/p/C.kt", "/p/A.kt"] := by rfl
  have hlisting : Listing mixedDirectory.readText mixedText
      ["/p/sub/B.kt", "/p/b.txt", "/p/C.kt", "/p/A.kt"] :=
    ⟨by decide +kernel, by simp only [List.forall_mem_cons]; decide +kernel⟩
  exact ⟨hwalk, hlisting, (analyze_runAnswer _ _ _ _ hwalk hlisting).1⟩

end DocLint.Analyzer

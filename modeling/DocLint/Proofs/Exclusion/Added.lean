import DocLint.Proofs.Analysis
import DocLint.Proofs.Exclusion

/-!
# One more pattern: which files it leaves out

Every pattern of an analyzer is asked on its own (`Analyzer.isExcluded_iff`), so a pattern that is
added to others leaves out what it matches and takes nothing back. There is one case in which it is
not added. A request without any patterns, neither its own nor those of its settings, stands for
the default ones, and the first pattern that is given takes their place. It then leaves out what it
matches and nothing else, and files of the build output come in that were left out before.

`Analyzer.isExcluded_excluding` has both cases.
-/

namespace DocLint

/-! ### Each pattern on its own -/

/-- Does a pattern leave out a path of an analyzer with this root? -/
def Glob.leavesOut (g : Glob) (root path : String) : Bool :=
  let relative := (Path.relativeTo? root path).getD path
  g.matches relative || g.matches path ||
    (Analyzer.literalName? g.text).any fun name =>
      (Path.components relative).any (Analyzer.componentText · == name)

theorem Analyzer.isExcluded_iff {a : Analyzer} {path : String} :
    a.isExcluded path = true ↔ ∃ g ∈ a.excludes, g.leavesOut a.root path = true := by
  simp only [isExcluded, Glob.leavesOut, Bool.or_eq_true, List.any_eq_true (l := a.excludes),
    ← exists_or, ← and_or_left]

/-! ### Patterns that can be read -/

/-- The text is read as the pattern. -/
def Glob.Reads (text : String) (g : Glob) : Prop :=
  (Glob.parse text).mapError AnalysisError.glob = .ok g

theorem Glob.reads_of_parse {text : String} {g : Glob} (h : Glob.parse text = .ok g) :
    Reads text g := by
  rw [Reads, h]
  rfl

theorem mapM_eq_ok_iff {α β ε : Type} {f : α → Except ε β} {xs : List α} {ys : List β} :
    xs.mapM f = .ok ys ↔ List.Forall₂ (fun x y => f x = .ok y) xs ys := by
  induction xs generalizing ys with
  | nil => simp [pure, Except.pure, eq_comm]
  | cons x xs ih =>
      rw [List.mapM_cons, List.forall₂_cons_left_iff]
      cases hx : f x with
      | error e => simp [bind, Except.bind]
      | ok y =>
          cases hxs : xs.mapM f with
          | error e => simp [bind, Except.bind, ← ih, hxs]
          | ok zs => simp [bind, Except.bind, pure, Except.pure, ← ih, hxs, eq_comm]

namespace AnalyzerRequest

variable {request : AnalyzerRequest} {workingDir pattern : String} {a b : Analyzer} {g : Glob}

/-- The analyzer of a request, but for its patterns. -/
def analyzerWith (request : AnalyzerRequest) (workingDir : String) (excludes : List Glob) :
    Analyzer where
  root := request.absoluteRoot workingDir
  rules := request.rules
  readers := request.readers
  excludes := excludes
  settings := request.settings.getD {}
  failOnParseError :=
    (request.failOnParseError.or (request.settings.map (·.analyzer.failOnParseError))).getD false
  home := request.home

theorem build_eq_ok_iff :
    request.build workingDir = .ok a ↔
      ∃ gs, List.Forall₂ Glob.Reads request.patterns gs ∧
        a = request.analyzerWith workingDir gs := by
  have hread (gs : List Glob) : List.Forall₂ Glob.Reads request.patterns gs ↔
      request.patterns.mapM (fun p => (Glob.parse p).mapError AnalysisError.glob) = .ok gs :=
    mapM_eq_ok_iff.symm
  simp only [hread, build]
  cases request.patterns.mapM fun p => (Glob.parse p).mapError AnalysisError.glob with
  | error e => simp [bind, Except.bind]
  | ok gs => simp [bind, Except.bind, pure, Except.pure, analyzerWith, eq_comm]

/-! ### Patterns that are given -/

/-- The request with one more pattern. -/
def excluding (request : AnalyzerRequest) (pattern : String) : AnalyzerRequest :=
  { request with exclude := request.exclude ++ [pattern] }

/-- The patterns of the settings. -/
def configured (request : AnalyzerRequest) : List String :=
  (request.settings.map (·.analyzer.exclude)).getD []

/-- The patterns that are given, by the request itself or by its settings. -/
def given (request : AnalyzerRequest) : List String := request.exclude ++ request.configured

theorem patterns_of_given (h : request.given ≠ []) : request.patterns = request.given := by
  unfold patterns
  split
  · exact absurd ‹_› h
  · rfl

theorem patterns_excluding (request : AnalyzerRequest) (pattern : String) :
    (request.excluding pattern).patterns = request.exclude ++ pattern :: request.configured := by
  have hgiven : (request.excluding pattern).given =
      request.exclude ++ pattern :: request.configured := by
    simp [given, excluding, configured]
  rw [patterns_of_given (by simp [hgiven]), hgiven]

/-- A pattern that is added to others can be read if they can, and comes to theirs. -/
theorem exists_build_excluding (ha : request.build workingDir = .ok a)
    (hg : Glob.parse pattern = .ok g) (hgiven : request.given ≠ []) :
    ∃ gs, (request.excluding pattern).build workingDir = .ok { a with excludes := gs } ∧
      ∀ h, h ∈ gs ↔ h ∈ a.excludes ∨ h = g := by
  obtain ⟨hs, hreads, rfl⟩ := build_eq_ok_iff.1 ha
  rw [patterns_of_given hgiven, given] at hreads
  obtain ⟨own, more, rfl, hown, hmore⟩ : ∃ own more, hs = own ++ more ∧
      List.Forall₂ Glob.Reads request.exclude own ∧
      List.Forall₂ Glob.Reads request.configured more := by
    refine ⟨hs.take request.exclude.length, hs.drop request.exclude.length, by simp, ?_, ?_⟩
    · simpa using List.forall₂_take request.exclude.length hreads
    · simpa using List.forall₂_drop request.exclude.length hreads
  refine ⟨own ++ g :: more, build_eq_ok_iff.2 ⟨own ++ g :: more, ?_, rfl⟩, ?_⟩
  · rw [patterns_excluding]
    exact List.rel_append hown (.cons (Glob.reads_of_parse hg) hmore)
  · intro h
    simp only [analyzerWith, List.mem_append, List.mem_cons]
    tauto

/-- The first pattern that is given is the only one. -/
theorem build_excluding_of_given_eq_nil (ha : request.build workingDir = .ok a)
    (hg : Glob.parse pattern = .ok g) (hgiven : request.given = []) :
    (request.excluding pattern).build workingDir = .ok { a with excludes := [g] } := by
  obtain ⟨hs, -, rfl⟩ := build_eq_ok_iff.1 ha
  obtain ⟨hown, hconfigured⟩ := List.append_eq_nil_iff.1 hgiven
  refine build_eq_ok_iff.2 ⟨[g], ?_, rfl⟩
  rw [patterns_excluding, hown, hconfigured]
  exact .cons (Glob.reads_of_parse hg) .nil

end AnalyzerRequest

/-! ### Files that are checked -/

namespace Analyzer

variable {a : Analyzer} {g : Glob} {fs : FileSystem} {path : String}

/-- A run on the file system checks the file at the path. -/
def Checks (a : Analyzer) (fs : FileSystem) (path : String) : Prop :=
  ∃ walked, (a.walk fs).filesBelow a.root = .ok walked ∧ path ∈ a.selected walked

-- Patterns have no part in the walk and in the choice of a reader.
theorem checks_of_excludes {gs : List Glob} {left : Bool}
    (h : ({ a with excludes := gs } : Analyzer).isExcluded path = (a.isExcluded path || left)) :
    ({ a with excludes := gs } : Analyzer).Checks fs path ↔ a.Checks fs path ∧ left = false := by
  have hreader : ({ a with excludes := gs } : Analyzer).readerFor path = a.readerFor path := rfl
  have hwalk : ({ a with excludes := gs } : Analyzer).walk fs = a.walk fs := rfl
  simp only [Checks, mem_selected_iff, isChecked, h, hreader, hwalk, Bool.and_eq_true,
    Bool.not_eq_true', Bool.or_eq_false_iff, ← exists_and_right, and_assoc]

/-- **One more pattern.** Let an analyzer be built from a request, and let a valid pattern be added
to the request. The analyzer that is built then differs in its patterns only. If patterns were given
before, it leaves out what was left out before and what the pattern leaves out, and a run on any
file system checks the same files but for these. If none were given, the pattern takes the place of
the default ones. -/
theorem isExcluded_excluding {request : AnalyzerRequest} {workingDir pattern : String}
    (ha : request.build workingDir = .ok a) (hg : Glob.parse pattern = .ok g) :
    ∃ b, (request.excluding pattern).build workingDir = .ok b ∧
      b = { a with excludes := b.excludes } ∧
      (request.given ≠ [] → ∀ path,
        b.isExcluded path = (a.isExcluded path || g.leavesOut a.root path) ∧
        ∀ fs, b.Checks fs path ↔ a.Checks fs path ∧ g.leavesOut a.root path = false) ∧
      (request.given = [] → ∀ path, b.isExcluded path = g.leavesOut a.root path) := by
  by_cases hgiven : request.given = []
  · refine ⟨_, request.build_excluding_of_given_eq_nil ha hg hgiven, rfl, absurd hgiven, ?_⟩
    intro _ path
    rw [Bool.eq_iff_iff, isExcluded_iff]
    simp
  · obtain ⟨gs, hbuild, hgs⟩ := request.exists_build_excluding ha hg hgiven
    have hexcluded (path : String) : ({ a with excludes := gs } : Analyzer).isExcluded path =
        (a.isExcluded path || g.leavesOut a.root path) := by
      rw [Bool.eq_iff_iff, Bool.or_eq_true, isExcluded_iff, isExcluded_iff]
      simp [hgs, or_and_right, exists_or]
    refine ⟨_, hbuild, rfl, fun _ path => ⟨hexcluded path, fun fs => ?_⟩, fun h => absurd h hgiven⟩
    exact checks_of_excludes (hexcluded path)

theorem isExcluded_excluding_withoutBuild :
    Glob.parse "*.tmp" = .ok ⟨"*.tmp", [.anyText, .char '.', .char 't', .char 'm', .char 'p']⟩ ∧
    ∃ a b, withoutBuild.build "/" = .ok a ∧ (withoutBuild.excluding "*.tmp").build "/" = .ok b ∧
      b.isExcluded "/project/build/A.kt" = true ∧ b.isExcluded "/project/A.kt.tmp" = true := by
  have hg : Glob.parse "*.tmp" =
      .ok ⟨"*.tmp", [.anyText, .char '.', .char 't', .char 'm', .char 'p']⟩ := by rfl
  obtain ⟨a, ha, hroot, hexcludes⟩ :=
    withoutBuild.exists_build isPlainName_build patterns_withoutBuild "/"
  have hroot : a.root = "/project" := hroot
  obtain ⟨b, hb, -, hexcluded, -⟩ := isExcluded_excluding ha hg
  have hexcluded := hexcluded (by decide)
  refine ⟨hg, a, b, ha, hb, ?_, ?_⟩
  · rw [(hexcluded _).1, Bool.or_eq_true]
    refine Or.inl ((isExcluded_iff_mem_below isPlainName_build hexcludes ?_ ?_).2 ?_)
    · rw [hroot]; decide
    · rw [hroot]; decide
    · rw [hroot]; decide
  · rw [(hexcluded _).1, Bool.or_eq_true, hroot]
    exact Or.inr (by decide +kernel)

/-- The first pattern that is given brings in a file of the build output. -/
theorem isExcluded_buildOutput :
    ∃ a b, ({ root := some "/project" } : AnalyzerRequest).build "/" = .ok a ∧
      (({ root := some "/project" } : AnalyzerRequest).excluding "*.tmp").build "/" = .ok b ∧
      a.isExcluded "/project/build/A.kt" = true ∧ b.isExcluded "/project/build/A.kt" = false := by
  refine ⟨_, _, rfl, rfl, ?_, ?_⟩
  · decide +kernel
  · decide +kernel

end Analyzer

end DocLint

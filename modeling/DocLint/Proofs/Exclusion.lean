import DocLint.Analyzer
import DocLint.Proofs.Path.Below
import DocLint.Proofs.Text.Word

/-!
# Excluded files: what the pattern of a directory leaves out

The pattern `build/**` is written for one directory, the one named `build` right below the root. As
a glob it matches what is in that directory and nothing else (`Glob.matches_directory_iff`). But
files are not left out by the glob alone. A second test takes the `**` components off a pattern and
looks for the name that remains among all components of a path. It is made for patterns like
`**/build/**`, which may start anywhere, and does not ask whether the pattern starts with `**`.

So `build/**` leaves out every directory named `build`, at any depth
(`Analyzer.isExcluded_directory_iff`), and the glob decides nothing.
-/

namespace DocLint

open Text

/-! ### The glob of a directory -/

namespace Glob

/-- The character stands for itself in a pattern. -/
def IsLiteral (c : Char) : Prop := c ≠ '?' ∧ c ≠ '[' ∧ c ≠ '*'

instance (c : Char) : Decidable (IsLiteral c) := inferInstanceAs (Decidable (_ ∧ _))

theorem readParts_cons_literal {c : Char} (hc : IsLiteral c) (n pos : Nat) (before : Option Char)
    (acc : List Part) (rest : List Char) :
    readParts (n + 1) pos before acc (c :: rest) =
      readParts n (pos + 1) (some c) (.char c :: acc) rest := by
  obtain ⟨hany, hclass, hstar⟩ := hc
  conv_lhs => unfold readParts
  simp [hany, hclass, hstar]

theorem readParts_literal {text : List Char} (htext : ∀ c ∈ text, IsLiteral c) (n pos : Nat)
    (before : Option Char) (acc : List Part) (rest : List Char) :
    readParts (text.length + n) pos before acc (text ++ rest) =
      readParts n (pos + text.length) (text.getLast?.or before) (text.reverse.map .char ++ acc)
        rest := by
  induction text generalizing pos before acc with
  | nil => simp
  | cons c text ih =>
      obtain ⟨hc, htext⟩ := List.forall_mem_cons.1 htext
      have hlength : (c :: text).length + n = text.length + n + 1 := by
        simp only [List.length_cons]
        omega
      have hlast : text.getLast?.or (some c) = (c :: text).getLast?.or before := by
        rw [List.getLast?_cons]
        cases text.getLast? <;> rfl
      rw [hlength, List.cons_append, readParts_cons_literal hc, ih htext, hlast]
      simp [Nat.add_assoc, Nat.add_comm 1]

/-- The pattern for what is in the directory `name` of the root. -/
def directory (name : String) : Glob where
  text := name ++ "/**"
  parts := (name.toList ++ ['/']).map .char ++ [.anyComponents]

theorem parse_directory {name : String} (hname : ∀ c ∈ name.toList, IsLiteral c) :
    parse (name ++ "/**") = .ok (directory name) := by
  have hfront : ∀ c ∈ name.toList ++ ['/'], IsLiteral c := by
    intro c hc
    rcases List.mem_append.1 hc with hc | hc
    · exact hname c hc
    · rw [List.mem_singleton.1 hc]
      decide
  have htext : (name ++ "/**").toList = (name.toList ++ ['/']) ++ ['*', '*'] := by simp
  have hfuel : ((name.toList ++ ['/']) ++ ['*', '*']).length + 1 =
      (name.toList ++ ['/']).length + 3 := by simp
  rw [parse, htext, hfuel, readParts_literal hfront]
  simp [readParts, pushComponents, directory]

theorem matchParts_literal (text : List Char) (parts : List Part) (s : List Char) :
    matchParts (text.map .char ++ parts) s = true ↔
      ∃ rest, s = text ++ rest ∧ matchParts parts rest = true := by
  induction text generalizing s with
  | nil => simp
  | cons c text ih =>
      cases s with
      | nil => simp [matchParts]
      | cons d s => simp [matchParts, Part.accepts, ih, and_assoc]

theorem matchParts_anyComponents (s : List Char) : matchParts [.anyComponents] s = true := by
  have hend : anyComponentEnd (matchParts []) s = true := by
    induction s with
    | nil => rfl
    | cons c s ih => rw [anyComponentEnd, ih, Bool.or_true]
  rw [matchParts, hend, Bool.or_true]

theorem matches_directory_iff {name s : String} :
    (directory name).matches s = true ↔ ∃ rest, s.toList = name.toList ++ '/' :: rest := by
  rw [Glob.matches, directory, matchParts_literal]
  simp [matchParts_anyComponents]

end Glob

/-! ### The name that a pattern is about -/

/-- A name of a directory in which every character stands for itself. -/
structure IsPlainName (name : String) : Prop where
  ne_empty : name ≠ ""
  ne_here : name ≠ "."
  ne_up : name ≠ ".."
  no_separator : '/' ∉ name.toList
  literal : ∀ c ∈ name.toList, Glob.IsLiteral c

namespace IsPlainName

variable {name : String} (h : IsPlainName name)
include h

theorem literalName?_directory : Analyzer.literalName? (name ++ "/**") = some name := by
  have hstar : '*' ∉ name.toList := fun hmem => (h.literal _ hmem).2.2 rfl
  have hne : name.toList ≠ [] := by simpa using h.ne_empty
  have hfirst : ¬ "**/".toList <:+: name.toList ++ "/**".toList := by
    intro hoccurs
    exact absurd (infix_of_infix_append hstar hoccurs) (by decide)
  have hsecond : cutAt "/**".toList (name.toList ++ "/**".toList) = some (name.toList, []) := by
    refine (cutAt_eq_some_iff (by decide)).2 ⟨by simp, fun hoccurs => ?_⟩
    exact h.no_separator (hoccurs.subset (by decide))
  have hclean : erase "/**".toList (erase "**/".toList (name ++ "/**").toList) = name.toList := by
    rw [String.toList_append, erase_of_not_infix hfirst, erase_of_cutAt (by decide) hsecond,
      erase_of_not_infix (by decide), List.append_nil]
  simp only [Analyzer.literalName?, hclean]
  simp [hne, hstar]

theorem componentText_eq_iff {c : Path.Component} :
    (Analyzer.componentText c == name) = true ↔ c = .name name.toList := by
  rw [beq_iff_eq]
  cases c with
  | root =>
      refine iff_of_false (fun heq => h.no_separator ?_) (by simp)
      rw [← heq]
      decide
  | here => exact iff_of_false (Ne.symm h.ne_here) (by simp)
  | up => exact iff_of_false (Ne.symm h.ne_up) (by simp)
  | name text =>
      rw [Analyzer.componentText, Path.Component.name.injEq, ← String.toList_inj, String.toList_ofList]

theorem componentOf_eq : Path.componentOf name.toList = .name name.toList := by
  have hup : name.toList ≠ ['.', '.'] := fun heq => h.ne_up (String.toList_inj.1 heq)
  rw [Path.componentOf, if_neg hup]

theorem isIdle_eq_false : Path.isIdle name.toList = false := by
  have hne : name.toList ≠ [] := fun heq => h.ne_empty (String.toList_inj.1 heq)
  have hhere : name.toList ≠ ['.'] := fun heq => h.ne_here (String.toList_inj.1 heq)
  simp [Path.isIdle, hhere, hne]

/-- What the glob of a directory matches has the directory as its first component. -/
theorem exists_components_of_matches {path : String}
    (hpath : (Glob.directory name).matches path = true) :
    ∃ more, Path.components path = .name name.toList :: more := by
  obtain ⟨rest, hrest⟩ := Glob.matches_directory_iff.1 hpath
  have hsplit : splitAt '/' path.toList = name.toList :: splitAt '/' rest := by
    rw [hrest, splitAt_append_cons h.no_separator]
  rw [Path.components_of_splitAt hsplit h.isIdle_eq_false, h.componentOf_eq]
  exact ⟨_, rfl⟩

end IsPlainName

/-! ### Files below the root -/

theorem AnalyzerRequest.exists_build {request : AnalyzerRequest} {name : String}
    (hname : IsPlainName name) (hpatterns : request.patterns = [name ++ "/**"])
    (workingDir : String) :
    ∃ a, request.build workingDir = .ok a ∧ a.root = request.absoluteRoot workingDir ∧
      a.excludes = [Glob.directory name] := by
  have hparse : [name ++ "/**"].mapM (fun p => (Glob.parse p).mapError AnalysisError.glob) =
      .ok [Glob.directory name] := by
    simp [Glob.parse_directory hname.literal, Except.mapError]
  rw [build, hpatterns, hparse]
  exact ⟨_, rfl, rfl, rfl⟩

namespace Analyzer

theorem isExcluded_iff_mem_below {a : Analyzer} {name path : String} (hname : IsPlainName name)
    (hexcludes : a.excludes = [Glob.directory name]) (habs : Path.isAbsolute a.root = true)
    (hpath : Path.components a.root <+: Path.components path) :
    a.isExcluded path = true ↔ .name name.toList ∈ Path.below a.root path := by
  obtain ⟨more, hroot⟩ := Path.exists_components_of_isAbsolute habs
  obtain ⟨relative, hrelative, hbelow⟩ := Path.components_relativeTo? (by simp [hroot]) hpath
  have hliteral : literalName? (Glob.directory name).text = some name :=
    hname.literalName?_directory
  simp only [isExcluded, hexcludes, hrelative, Option.getD_some, List.any_cons, List.any_nil,
    Bool.or_false, hliteral, Option.any_some, Bool.or_eq_true, List.any_eq_true,
    hname.componentText_eq_iff, exists_eq_right, hbelow]
  constructor
  · intro h
    rcases h with (h | h) | h
    · obtain ⟨more, hmore⟩ := hname.exists_components_of_matches h
      rw [← hbelow, hmore]
      exact List.mem_cons_self ..
    · -- A path below the root starts at the root, and not with a name.
      obtain ⟨more', hmore⟩ := hname.exists_components_of_matches h
      rw [hroot, hmore] at hpath
      exact absurd (List.cons_prefix_cons.1 hpath).1 (by simp)
    · exact h
  · exact Or.inr

/-- **The pattern of a directory.** Let `name/**` be the only pattern of an analyzer with an
absolute root. A path below the root is left out exactly if `name` is one of its components there,
at any depth. So the pattern stays in its own directory for a path exactly if `name` is no later
component of it, or the first one too. -/
theorem isExcluded_directory_iff {request : AnalyzerRequest} {name workingDir : String}
    (hname : IsPlainName name) (hpatterns : request.patterns = [name ++ "/**"])
    (habs : Path.isAbsolute (request.absoluteRoot workingDir) = true) :
    ∃ a, request.build workingDir = .ok a ∧ a.root = request.absoluteRoot workingDir ∧
      ∀ path, Path.components a.root <+: Path.components path →
        (a.isExcluded path = true ↔ .name name.toList ∈ Path.below a.root path) ∧
        ((a.isExcluded path = true ↔ (Path.below a.root path).head? = some (.name name.toList)) ↔
          (.name name.toList ∈ (Path.below a.root path).tail →
            (Path.below a.root path).head? = some (.name name.toList))) := by
  obtain ⟨a, ha, hroot, hexcludes⟩ := request.exists_build hname hpatterns workingDir
  refine ⟨a, ha, hroot, fun path hpath => ?_⟩
  have hiff := isExcluded_iff_mem_below hname hexcludes (hroot ▸ habs) hpath
  refine ⟨hiff, ?_⟩
  rw [hiff]
  cases Path.below a.root path with
  | nil => simp
  | cons first more =>
      by_cases hfirst : first = .name name.toList
      · simp [hfirst]
      · simp [hfirst, Ne.symm hfirst]

/-- A project whose build output is to be left out. -/
def withoutBuild : AnalyzerRequest where
  root := some "/project"
  exclude := ["build/**"]

theorem isPlainName_build : IsPlainName "build" where
  ne_empty := by decide
  ne_here := by decide
  ne_up := by decide
  no_separator := by decide
  literal := by simp [Glob.IsLiteral]

theorem patterns_withoutBuild : withoutBuild.patterns = ["build" ++ "/**"] := by decide

theorem isExcluded_directory_iff_withoutBuild :
    IsPlainName "build" ∧ withoutBuild.patterns = ["build" ++ "/**"] ∧
    Path.isAbsolute (withoutBuild.absoluteRoot "/") = true ∧
    ∃ a, withoutBuild.build "/" = .ok a ∧ a.isExcluded "/project//build/gen/build/A.kt" = true ∧
      a.isExcluded "/project/src/builder/A.kt" = false := by
  have habs : Path.isAbsolute (withoutBuild.absoluteRoot "/") = true := by decide
  obtain ⟨a, ha, hroot, hiff⟩ :=
    isExcluded_directory_iff isPlainName_build patterns_withoutBuild habs
  have hroot : a.root = "/project" := hroot
  rw [hroot] at hiff
  refine ⟨isPlainName_build, patterns_withoutBuild, habs, a, ha, ?_, ?_⟩
  · exact (hiff _ (by decide)).1.2 (by decide)
  · rw [← Bool.not_eq_true, (hiff _ (by decide)).1]
    decide

/-- The pattern of the directory `build` leaves out another directory of that name. -/
theorem isExcluded_nestedBuild :
    ∃ a, withoutBuild.build "/" = .ok a ∧ a.root = "/project" ∧
      Path.below "/project" "/project/src/build/A.kt" =
        [.name "src".toList, .name "build".toList, .name "A.kt".toList] ∧
      a.isExcluded "/project/src/build/A.kt" = true := by
  obtain ⟨a, ha, hroot, hexcludes⟩ :=
    withoutBuild.exists_build isPlainName_build patterns_withoutBuild "/"
  have hroot : a.root = "/project" := hroot
  have hbelow : Path.below "/project" "/project/src/build/A.kt" =
      [.name "src".toList, .name "build".toList, .name "A.kt".toList] := by decide
  refine ⟨a, ha, hroot, hbelow, ?_⟩
  rw [isExcluded_iff_mem_below isPlainName_build hexcludes (by rw [hroot]; decide)
    (by rw [hroot]; decide), hroot, hbelow]
  decide

end Analyzer

end DocLint

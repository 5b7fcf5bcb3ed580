import DocLint.Proofs.FileTree
import DocLint.SettingsSource

/-!
# Where settings come from: the nearest file inside the project

The settings of a project are searched upward, from the directory of the target on. In each
directory two things can end the search, and they are looked for in a fixed order: a settings file,
which is the answer, and a mark of the root of the project, after which there is none.

`Nearest` says this about a list of directories without a loop: it is cut in two by the directory
of the answer, and the search goes past everything in front of it. `Resolves` has the four answers
of `resolve` as rules. For an absolute target the directories of the search are exactly the one of
the target and all those above it (`map_components_searched`). Above a root of the project nothing
is looked at, so that nothing there makes a difference (`nearest?_congr`).
-/

namespace DocLint.SettingsSource

open DocLint.Path

variable {fs fs' : FileSystem} {globalDir : Option String} {dir root path target : String}
  {dirs before above : List String}

/-! ### One directory -/

/-- The settings file of a directory. The plain name goes before the one with a dot. -/
inductive SettingsFile (fs : FileSystem) (dir : String) : String → Prop
  | plain (h : fs.isFile (joinTo dir "kdoc-lint.toml") = true) :
      SettingsFile fs dir (joinTo dir "kdoc-lint.toml")
  | dotted (hplain : fs.isFile (joinTo dir "kdoc-lint.toml") = false)
      (h : fs.isFile (joinTo dir ".kdoc-lint.toml") = true) :
      SettingsFile fs dir (joinTo dir ".kdoc-lint.toml")

/-- The search goes past a directory: it has no settings file and no mark of a project root. -/
structure GoesPast (fs : FileSystem) (dir : String) : Prop where
  no_plain : fs.isFile (joinTo dir "kdoc-lint.toml") = false
  no_dotted : fs.isFile (joinTo dir ".kdoc-lint.toml") = false
  no_kotlin_build : fs.has (joinTo dir "settings.gradle.kts") = false
  no_groovy_build : fs.has (joinTo dir "settings.gradle") = false
  no_repository : fs.has (joinTo dir ".git") = false

theorem inDirectory?_eq_some_iff : inDirectory? fs dir = some path ↔ SettingsFile fs dir path := by
  have heq : inDirectory? fs dir =
      if fs.isFile (joinTo dir "kdoc-lint.toml") then some (joinTo dir "kdoc-lint.toml")
      else if fs.isFile (joinTo dir ".kdoc-lint.toml") then some (joinTo dir ".kdoc-lint.toml")
      else none := by
    simp only [inDirectory?, fileNames, List.map_cons, List.map_nil, List.find?_cons,
      List.find?_nil]
    cases fs.isFile (joinTo dir "kdoc-lint.toml") <;>
      cases fs.isFile (joinTo dir ".kdoc-lint.toml") <;> rfl
  rw [heq]
  constructor
  · intro h
    split at h
    · obtain rfl := Option.some.inj h
      exact .plain ‹_›
    · split at h
      · obtain rfl := Option.some.inj h
        exact .dotted (Bool.eq_false_iff.2 ‹_›) ‹_›
      · cases h
  · intro h
    cases h with
    | plain h => simp [h]
    | dotted hplain h => simp [hplain, h]

/-- Does a directory end the search? -/
def settles (fs : FileSystem) (dir : String) : Bool :=
  (inDirectory? fs dir).isSome || isProjectRoot fs dir

theorem goesPast_iff : GoesPast fs dir ↔ settles fs dir = false := by
  have hsettles : settles fs dir = false ↔
      (fs.isFile (joinTo dir "kdoc-lint.toml") = false ∧
        fs.isFile (joinTo dir ".kdoc-lint.toml") = false) ∧
      fs.has (joinTo dir "settings.gradle.kts") = false ∧
      fs.has (joinTo dir "settings.gradle") = false ∧ fs.has (joinTo dir ".git") = false := by
    simp [settles, inDirectory?, fileNames, isProjectRoot, projectMarks]
  rw [hsettles]
  constructor
  · intro ⟨hplain, hdotted, hkotlin, hgroovy, hgit⟩
    exact ⟨⟨hplain, hdotted⟩, hkotlin, hgroovy, hgit⟩
  · intro ⟨⟨hplain, hdotted⟩, hkotlin, hgroovy, hgit⟩
    exact ⟨hplain, hdotted, hkotlin, hgroovy, hgit⟩

instance : Decidable (GoesPast fs dir) := decidable_of_iff _ goesPast_iff.symm

/-! ### One directory after the other -/

/-- The path is that of the nearest settings file in some directories. -/
def Nearest (fs : FileSystem) (dirs : List String) (path : String) : Prop :=
  ∃ before dir above, dirs = before ++ dir :: above ∧ (∀ d ∈ before, GoesPast fs d) ∧
    SettingsFile fs dir path

/-- The search looks into the first directory that ends it. -/
theorem nearest?_eq_find? (fs : FileSystem) (dirs : List String) :
    nearest? fs dirs = (dirs.find? (settles fs)).bind (inDirectory? fs) := by
  induction dirs with
  | nil => rfl
  | cons dir above ih =>
      rw [nearest?, ih]
      cases hfile : inDirectory? fs dir with
      | some path => simp [settles, hfile]
      | none => cases hroot : isProjectRoot fs dir <;> simp [settles, hfile, hroot]

theorem nearest?_eq_some_iff : nearest? fs dirs = some path ↔ Nearest fs dirs path := by
  simp only [nearest?_eq_find?, Option.bind_eq_some_iff, List.find?_eq_some_iff_append,
    inDirectory?_eq_some_iff, Bool.not_eq_true', ← goesPast_iff]
  constructor
  · intro ⟨dir, ⟨_, before, above, hdirs, hbefore⟩, hfile⟩
    exact ⟨before, dir, above, hdirs, hbefore, hfile⟩
  · intro ⟨before, dir, above, hdirs, hbefore, hfile⟩
    have hsettles : settles fs dir = true := by
      simp [settles, inDirectory?_eq_some_iff.2 hfile]
    exact ⟨dir, ⟨hsettles, before, above, hdirs, hbefore⟩, hfile⟩

theorem nearest?_eq_none_iff : nearest? fs dirs = none ↔ ∀ path, ¬ Nearest fs dirs path := by
  simp only [Option.eq_none_iff_forall_ne_some, ne_eq, nearest?_eq_some_iff]

/-! ### Two file systems -/

/-- Two file systems have the same settings files and marks in a directory. -/
structure SameIn (fs fs' : FileSystem) (dir : String) : Prop where
  files : ∀ name ∈ fileNames, fs'.isFile (joinTo dir name) = fs.isFile (joinTo dir name)
  marks : ∀ mark ∈ projectMarks, fs'.has (joinTo dir mark) = fs.has (joinTo dir mark)

instance : Decidable (SameIn fs fs' dir) :=
  decidable_of_iff (_ ∧ _) ⟨fun h => ⟨h.1, h.2⟩, fun h => ⟨h.files, h.marks⟩⟩

theorem SameIn.inDirectory?_eq (h : SameIn fs fs' dir) :
    inDirectory? fs' dir = inDirectory? fs dir := by
  have hplain := h.files "kdoc-lint.toml" (by decide)
  have hdotted := h.files ".kdoc-lint.toml" (by decide)
  simp [inDirectory?, fileNames, List.find?_cons, hplain, hdotted]

theorem SameIn.isProjectRoot_eq (h : SameIn fs fs' dir) :
    isProjectRoot fs' dir = isProjectRoot fs dir := by
  rw [Bool.eq_iff_iff, isProjectRoot, isProjectRoot, List.any_eq_true, List.any_eq_true]
  exact exists_congr fun mark => and_congr_right fun hmark => by rw [h.marks mark hmark]

/-- Above a root of the project nothing is looked at. -/
theorem nearest?_congr (hroot : isProjectRoot fs root = true)
    (hsame : ∀ dir ∈ before ++ [root], SameIn fs fs' dir) :
    nearest? fs' (before ++ root :: above) = nearest? fs (before ++ root :: above) := by
  induction before with
  | nil =>
      have hsame := hsame root (by simp)
      simp [nearest?, hsame.inDirectory?_eq, hsame.isProjectRoot_eq, hroot]
  | cons dir before ih =>
      obtain ⟨hdir, hsame⟩ := List.forall_mem_cons.1 hsame
      simp [nearest?, hdir.inDirectory?_eq, hdir.isProjectRoot_eq, ih hsame]

/-! ### The directories of a target -/

/-- The directories that are searched for a target. -/
def searched (fs : FileSystem) (target : String) : List String :=
  ((startOf? fs target).map ancestors).getD []

theorem ofProject?_eq (fs : FileSystem) (target : String) :
    ofProject? fs target = nearest? fs (searched fs target) := by
  unfold ofProject? searched
  cases startOf? fs target <;> rfl

/-- The components of the directory of a target: those of the target, without the name of a
file. -/
def directoryOf (fs : FileSystem) (target : String) : List Component :=
  if fs.isFile target then (components target).dropLast else components target

theorem exists_startOf? (habs : isAbsolute target = true) (fs : FileSystem) :
    ∃ start, startOf? fs target = some start ∧ isAbsolute start = true ∧
      components start = directoryOf fs target := by
  unfold startOf? directoryOf
  by_cases hfile : fs.isFile target = true
  · obtain ⟨steps, last, hcomponents, hlast, -⟩ := FileSystem.exists_components_of_isFile hfile
    obtain ⟨start, hparent, hstart, hstartAbs⟩ := exists_parent? hcomponents hlast
    refine ⟨start, by simp [hfile, hparent], hstartAbs.trans habs, ?_⟩
    simp [hfile, hstart, hcomponents]
  · exact ⟨target, by simp [hfile], habs, by simp [hfile]⟩

/-- The search for an absolute target goes through its directory and all those above it. -/
theorem map_components_searched (habs : isAbsolute target = true) (fs : FileSystem) :
    (searched fs target).map components =
      (List.range (directoryOf fs target).length).map fun i =>
        (directoryOf fs target).take ((directoryOf fs target).length - i) := by
  obtain ⟨start, hstart, hstartAbs, hcomponents⟩ := exists_startOf? habs fs
  rw [searched, hstart, Option.map_some, Option.getD_some, map_components_ancestors,
    height_of_isAbsolute hstartAbs, hcomponents]

/-! ### The answer -/

/-- Where the settings for a target come from. -/
inductive Resolves (fs : FileSystem) (globalDir : Option String) (target : String) :
    Option String → SettingsSource → Prop
  /-- From the file that is named, whether it exists or not. -/
  | explicit (path : String) : Resolves fs globalDir target (some path) (.explicit path)
  /-- From the nearest file of the project. -/
  | project (path : String) (nearest : Nearest fs (searched fs target) path) :
      Resolves fs globalDir target none (.project path)
  /-- From the file of the user, if the project has none. -/
  | global (dir : String) (nowhere : ∀ path, ¬ Nearest fs (searched fs target) path)
      (user : globalDir = some dir) (exists_ : fs.has (joinTo dir "config.toml") = true) :
      Resolves fs globalDir target none (.global (joinTo dir "config.toml"))
  /-- From nowhere. -/
  | defaults (nowhere : ∀ path, ¬ Nearest fs (searched fs target) path)
      (absent : ∀ dir ∈ globalDir, fs.has (joinTo dir "config.toml") = false) :
      Resolves fs globalDir target none .defaults

theorem resolves_resolve (fs : FileSystem) (globalDir : Option String) (target : String)
    (given : Option String) :
    Resolves fs globalDir target given (resolve fs globalDir target given) := by
  cases given with
  | some path => exact .explicit path
  | none =>
      unfold resolve
      rw [ofProject?_eq]
      cases hnearest : nearest? fs (searched fs target) with
      | some path => exact .project path (nearest?_eq_some_iff.1 hnearest)
      | none =>
          have hnowhere := nearest?_eq_none_iff.1 hnearest
          cases globalDir with
          | none => exact .defaults hnowhere (by simp)
          | some dir =>
              cases hhas : fs.has (joinTo dir "config.toml") with
              | true =>
                  have huser : ofUser? fs (some dir) = some (joinTo dir "config.toml") := by
                    simp [ofUser?, globalName, hhas]
                  rw [huser]
                  exact .global dir hnowhere rfl hhas
              | false =>
                  have huser : ofUser? fs (some dir) = none := by
                    simp [ofUser?, globalName, hhas]
                  rw [huser]
                  exact .defaults hnowhere (by simpa using hhas)

theorem Nearest.unique {other : String} (h : Nearest fs dirs path) (h' : Nearest fs dirs other) :
    path = other := by
  rw [← nearest?_eq_some_iff] at h h'
  exact Option.some.inj (h.symm.trans h')

theorem Resolves.unique {given : Option String} {source other : SettingsSource}
    (h : Resolves fs globalDir target given source)
    (h' : Resolves fs globalDir target given other) : source = other := by
  cases h with
  | explicit path => cases h' with | explicit => rfl
  | project path nearest =>
      cases h' with
      | project other nearest' => rw [nearest.unique nearest']
      | global dir nowhere => exact absurd nearest (nowhere path)
      | defaults nowhere => exact absurd nearest (nowhere path)
  | global dir nowhere user exists_ =>
      cases h' with
      | project other nearest => exact absurd nearest (nowhere other)
      | global dir' nowhere' user' =>
          rw [user] at user'
          rw [Option.some.inj user']
      | defaults nowhere' absent =>
          rw [absent dir user] at exists_
          cases exists_
  | defaults nowhere absent =>
      cases h' with
      | project other nearest => exact absurd nearest (nowhere other)
      | global dir nowhere' user exists_ =>
          rw [absent dir user] at exists_
          cases exists_
      | defaults => rfl

theorem resolve_eq_iff {given : Option String} {source : SettingsSource} :
    resolve fs globalDir target given = source ↔ Resolves fs globalDir target given source := by
  constructor
  · rintro rfl
    exact resolves_resolve fs globalDir target given
  · exact (resolves_resolve fs globalDir target given).unique

/-- **The nearest settings inside the project.** For an absolute target the directories that are
searched are the one of the target and all those above it, the nearest first. The settings come from
the file that is named, else from the nearest settings file that the search comes to, else from the
file of the user, else from nowhere. What is above a root of the project has no influence: another
file system with the same settings files and marks up to there gives the same answer. -/
theorem resolve_nearest (habs : isAbsolute target = true) (fs : FileSystem)
    (globalDir : Option String) :
    (searched fs target).map components =
        ((List.range (directoryOf fs target).length).map fun i =>
          (directoryOf fs target).take ((directoryOf fs target).length - i)) ∧
      (∀ given source, resolve fs globalDir target given = source ↔
        Resolves fs globalDir target given source) ∧
      ∀ fs' before root above, searched fs target = before ++ root :: above →
        isProjectRoot fs root = true → (∀ dir ∈ before ++ [root], SameIn fs fs' dir) →
        fs'.isFile target = fs.isFile target →
        (∀ dir ∈ globalDir,
          fs'.has (joinTo dir "config.toml") = fs.has (joinTo dir "config.toml")) →
        ∀ given, resolve fs' globalDir target given = resolve fs globalDir target given := by
  refine ⟨map_components_searched habs fs, fun given source => resolve_eq_iff, ?_⟩
  intro fs' before root above hdirs hroot hsame hfile huser given
  have hsearched : searched fs' target = searched fs target := by
    rw [searched, startOf?, hfile, searched, startOf?]
  have hproject : ofProject? fs' target = ofProject? fs target := by
    rw [ofProject?_eq, ofProject?_eq, hsearched, hdirs, nearest?_congr hroot hsame]
  have hglobal : ofUser? fs' globalDir = ofUser? fs globalDir := by
    cases globalDir with
    | none => rfl
    | some dir => simp [ofUser?, globalName, huser dir rfl, Option.filter_some]
  simp only [resolve, hproject, hglobal]

/-- A build with a module that has settings of its own. -/
def buildTree : FileTree := .directory
  [("settings.gradle", .file (.text "")),
    ("app", .directory [(".kdoc-lint.toml", .file (.text "")),
      ("src", .directory [("Pump.kt", .file (.text ""))])]),
    ("lib", .directory [])]

theorem resolve_nearest_buildTree :
    isAbsolute "/p/app/src/Pump.kt" = true ∧ isAbsolute "/p/lib" = true ∧
    resolve { root := .directory [("p", buildTree)] } none "/p/app/src/Pump.kt" none =
      .project "/p/app/.kdoc-lint.toml" ∧
    resolve { root := .directory [("p", buildTree), ("kdoc-lint.toml", .file (.text ""))] } none
        "/p/lib" none =
      resolve { root := .directory [("p", buildTree)] } none "/p/lib" none := by
  have hpump : isAbsolute "/p/app/src/Pump.kt" = true := by decide
  have hlib : isAbsolute "/p/lib" = true := by decide
  refine ⟨hpump, hlib, ?_, ?_⟩
  · refine ((resolve_nearest hpump _ none).2.1 none _).2 (.project _ ?_)
    exact ⟨["/p/app/src"], "/p/app", ["/p", "/"], by decide +kernel, by decide +kernel,
      .dotted (by decide +kernel) (by decide +kernel)⟩
  · exact (resolve_nearest hlib _ none).2.2 _ ["/p/lib"] "/p" ["/"] (by decide +kernel)
      (by decide +kernel) (by decide +kernel) (by decide +kernel) (by simp) none

end DocLint.SettingsSource

import DocLint.Proofs.SettingsSource

/-!
# Settings of a relative target

A target may be given as a relative path, and then the search goes through the ancestors of what is
written. They end at the working directory: `.` has no other ancestors than itself and the empty
path. The same target as an absolute path has all directories above the working directory, too.

So the two searches run side by side up to the working directory, and only the absolute one goes on
(`exists_searched`). They lead to the same settings exactly if the search ends on the way, or finds
nothing above (`resolve_relative_iff`).
-/

namespace DocLint.SettingsSource

open DocLint.Path FileSystem Text

variable {fs : FileSystem} {globalDir : Option String} {dir dir' target other : String}
  {dirs dirs' : List String}

/-! ### The same place under two names -/

theorem trail_eq_of_seen_eq (habs : isAbsolute fs.workingDir = true)
    (h : fs.seen dir = fs.seen dir') {name : String} (hname : name ∈ fileNames ++ projectMarks) :
    fs.trail (joinTo dir name) = fs.trail (joinTo dir' name) := by
  have hnames : ∀ name ∈ fileNames ++ projectMarks, name ≠ "" ∧ '/' ∉ name.toList := by decide
  exact trail_joinTo_congr habs ⟨(hnames name hname).1, (hnames name hname).2⟩ h

theorem inDirectory?_of_seen_eq (habs : isAbsolute fs.workingDir = true)
    (h : fs.seen dir = fs.seen dir') :
    (inDirectory? fs dir).map fs.trail = (inDirectory? fs dir').map fs.trail := by
  have hplain := trail_eq_of_seen_eq habs h
    (by decide : "kdoc-lint.toml" ∈ fileNames ++ projectMarks)
  have hdotted := trail_eq_of_seen_eq habs h
    (by decide : ".kdoc-lint.toml" ∈ fileNames ++ projectMarks)
  simp only [inDirectory?, fileNames, List.map_cons, List.map_nil, List.find?_cons, List.find?_nil,
    isFile_of_trail_eq hplain, isFile_of_trail_eq hdotted]
  split
  · simp [hplain]
  · split
    · simp [hdotted]
    · rfl

theorem settles_of_seen_eq (habs : isAbsolute fs.workingDir = true)
    (h : fs.seen dir = fs.seen dir') : settles fs dir = settles fs dir' := by
  have hfile : (inDirectory? fs dir).isSome = (inDirectory? fs dir').isSome := by
    simpa using congrArg Option.isSome (inDirectory?_of_seen_eq habs h)
  have hmark : isProjectRoot fs dir = isProjectRoot fs dir' := by
    rw [Bool.eq_iff_iff, isProjectRoot, isProjectRoot, List.any_eq_true, List.any_eq_true]
    refine exists_congr fun mark => and_congr_right fun hmark => ?_
    rw [has_of_trail_eq (trail_eq_of_seen_eq habs h (List.mem_append_right _ hmark))]
  rw [settles, settles, hfile, hmark]

/-- Directory by directory, two lists lead to the same places. -/
abbrev SamePlaces (fs : FileSystem) (dirs dirs' : List String) : Prop :=
  List.Forall₂ (fun dir dir' => fs.seen dir = fs.seen dir') dirs dirs'

theorem samePlaces_iff : SamePlaces fs dirs dirs' ↔ dirs.map fs.seen = dirs'.map fs.seen := by
  rw [← List.forall₂_eq_eq_eq, List.forall₂_map_left_iff, List.forall₂_map_right_iff]

theorem SamePlaces.any_settles (habs : isAbsolute fs.workingDir = true)
    (h : SamePlaces fs dirs dirs') : dirs.any (settles fs) = dirs'.any (settles fs) := by
  induction h with
  | nil => rfl
  | cons hdir _ ih => rw [List.any_cons, List.any_cons, settles_of_seen_eq habs hdir, ih]

/-- Searches through the same places come to the same file. -/
theorem SamePlaces.nearest? (habs : isAbsolute fs.workingDir = true)
    (h : SamePlaces fs dirs dirs') :
    (nearest? fs dirs).map fs.trail = (nearest? fs dirs').map fs.trail := by
  induction h with
  | nil => rfl
  | cons hdir _ ih =>
      rw [nearest?_eq_find?, nearest?_eq_find?] at ih ⊢
      rw [List.find?_cons, List.find?_cons, settles_of_seen_eq habs hdir]
      split
      · exact inDirectory?_of_seen_eq habs hdir
      · exact ih

theorem nearest?_append (fs : FileSystem) (dirs dirs' : List String) :
    nearest? fs (dirs ++ dirs') =
      if dirs.any (settles fs) then nearest? fs dirs else nearest? fs dirs' := by
  simp only [nearest?_eq_find?, List.find?_append]
  cases hfind : dirs.find? (settles fs) with
  | none =>
      have hany : dirs.any (settles fs) = false := by simpa using hfind
      simp [hany]
  | some dir =>
      have hany : dirs.any (settles fs) = true :=
        List.any_eq_true.2 ⟨dir, List.mem_of_find?_eq_some hfind, List.find?_some hfind⟩
      simp [hany]

theorem nearest?_eq_none_of_any (h : dirs.any (settles fs) = false) : nearest? fs dirs = none := by
  rw [nearest?_eq_find?, List.find?_eq_none.2 (by simpa using h), Option.bind_none]

/-! ### The directories of the two searches -/

theorem filter_steps (path : String) : (steps path).filter (· ≠ .here) = steps path := by
  refine List.filter_eq_self.2 fun c hc => ?_
  obtain ⟨piece, -, rfl⟩ := List.mem_map.1 hc
  unfold componentOf
  split <;> simp

theorem steps_eq_filter {path : String} (h : isAbsolute path = false) :
    steps path = (components path).filter (· ≠ .here) := by
  rw [← filter_steps]
  rcases components_of_not_isAbsolute h with hpath | hpath <;> simp [hpath]

theorem seen_of_not_isAbsolute (habs : isAbsolute fs.workingDir = true)
    (hrel : isAbsolute dir = false) :
    fs.seen dir = components fs.workingDir ++ (components dir).filter (· ≠ .here) := by
  rw [seen, components_joinTo habs hrel, steps_eq_filter hrel]

theorem map_seen_ancestors (habs : isAbsolute fs.workingDir = true)
    (hrel : isAbsolute dir = false) :
    (ancestors dir).map fs.seen = (List.range ((components dir).length + 1)).map fun i =>
      components fs.workingDir ++
        ((components dir).take ((components dir).length - i)).filter (· ≠ .here) := by
  have hseen : (ancestors dir).map fs.seen = ((ancestors dir).map components).map fun cs =>
      components fs.workingDir ++ cs.filter (· ≠ .here) := by
    rw [List.map_map]
    refine List.map_congr_left fun d hd => ?_
    exact seen_of_not_isAbsolute habs ((isAbsolute_of_mem_ancestors hd).trans hrel)
  rw [hseen, map_components_ancestors, height_of_not_isAbsolute hrel, List.map_map]
  rfl

theorem map_seen_ancestors_of_isAbsolute (h : isAbsolute dir = true) :
    (ancestors dir).map fs.seen = (ancestors dir).map components := by
  refine List.map_congr_left fun d hd => ?_
  rw [seen, joinTo_of_isAbsolute ((isAbsolute_of_mem_ancestors hd).trans h)]

/-- The places from a directory below the working directory up to this one. -/
def placesUp (fs : FileSystem) (below : List Component) : List (List Component) :=
  (List.range (below.length + 1)).map fun i =>
    components fs.workingDir ++ below.take (below.length - i)

theorem mem_placesUp (fs : FileSystem) (below : List Component) :
    components fs.workingDir ∈ placesUp fs below :=
  List.mem_map.2 ⟨below.length, by simp, by simp⟩

/-- The ancestors of a relative path end at the working directory. If there is a dot in front, they
come to it twice. -/
theorem exists_map_seen_ancestors (habs : isAbsolute fs.workingDir = true)
    (hrel : isAbsolute dir = false) :
    ∃ again, (ancestors dir).map fs.seen = placesUp fs (steps dir) ++ again ∧
      ∀ place ∈ again, place = components fs.workingDir := by
  have hfilter (n : Nat) : ((steps dir).take n).filter (· ≠ .here) = (steps dir).take n := by
    refine List.filter_eq_self.2 fun c hc => ?_
    exact List.filter_eq_self.1 (filter_steps dir) c (List.mem_of_mem_take hc)
  rw [map_seen_ancestors habs hrel]
  rcases components_of_not_isAbsolute hrel with hdir | hdir
  · refine ⟨[], ?_, by simp⟩
    simp only [hdir, hfilter, placesUp, List.append_nil]
  · refine ⟨[components fs.workingDir], ?_, by simp⟩
    rw [hdir, List.length_cons, List.range_succ, List.map_append, placesUp]
    refine congrArg₂ _ ?_ ?_
    · refine List.map_congr_left fun i hi => ?_
      have hi : i ≤ (steps dir).length := Nat.lt_succ_iff.1 (List.mem_range.1 hi)
      rw [Nat.succ_sub hi, List.take_succ_cons]
      simpa using hfilter _
    · simp

/-- The ancestors of an absolute path below the working directory go on above it. -/
theorem map_seen_ancestors_below (habs : isAbsolute fs.workingDir = true)
    (hdir : isAbsolute dir = true) {below : List Component}
    (hbelow : components dir = components fs.workingDir ++ below) :
    (ancestors dir).map fs.seen =
      placesUp fs below ++ (ancestors fs.workingDir).tail.map fs.seen := by
  have hworking : (List.range (components fs.workingDir).length).map (fun i =>
        (components fs.workingDir).take ((components fs.workingDir).length - i)) =
      components fs.workingDir :: (ancestors fs.workingDir).tail.map fs.seen := by
    obtain ⟨above, -, hancestors, -⟩ := exists_ancestors fs.workingDir
    have hmap := map_components_ancestors fs.workingDir
    rw [height_of_isAbsolute habs, ← map_seen_ancestors_of_isAbsolute habs] at hmap
    rw [← hmap, hancestors, List.map_cons, List.tail_cons, seen, joinTo_of_isAbsolute habs]
  rw [map_seen_ancestors_of_isAbsolute hdir, map_components_ancestors, height_of_isAbsolute hdir,
    hbelow, List.length_append, Nat.add_comm, List.range_add, List.map_append, placesUp,
    List.range_succ, List.map_append, List.append_assoc]
  refine congrArg₂ _ ?_ ?_
  · refine List.map_congr_left fun i hi => ?_
    have hi : i < below.length := List.mem_range.1 hi
    have hcut : below.length + (components fs.workingDir).length - i -
        (components fs.workingDir).length = below.length - i := by omega
    rw [List.take_append, List.take_of_length_le (by omega), hcut]
  · rw [List.map_singleton, Nat.sub_self, List.take_zero, List.append_nil, List.singleton_append,
      ← hworking, List.map_map]
    refine List.map_congr_left fun i _ => ?_
    have hcut : below.length + (components fs.workingDir).length - (below.length + i) =
        (components fs.workingDir).length - i := by omega
    rw [Function.comp_apply, hcut, List.take_append_of_le_length (Nat.sub_le ..)]

/-! ### Where the two searches start -/

theorem isFile_joinTo (habs : isAbsolute fs.workingDir = true) (hrel : isAbsolute target = false) :
    fs.isFile (joinTo fs.workingDir target) = fs.isFile target := by
  by_cases hempty : target = ""
  · -- The empty path leads nowhere, and the directory that is meant is no file.
    subst hempty
    have hnowhere : fs.isFile "" = false := rfl
    rw [hnowhere, Bool.eq_false_iff]
    intro hfile
    obtain ⟨init, last, hlast, hstep⟩ := exists_last_of_isFile hfile
    obtain ⟨front, hfront, -⟩ := exists_pieces_joinTo fs.workingDir hrel
    have hpieces : front ++ [[]] = init ++ [last] := (Parts.mk.inj (hfront.symm.trans hlast)).2
    obtain rfl : [] = last := (List.cons.inj (List.append_inj' hpieces rfl).2).1
    exact absurd hstep (by decide)
  · refine isFile_of_trail_eq ?_
    have hfull : joinTo fs.workingDir target ≠ "" := by
      intro hnil
      have habs' : isAbsolute (joinTo fs.workingDir target) = true := isAbsolute_joinTo habs
      rw [hnil] at habs'
      exact absurd habs' (by decide)
    rw [FileSystem.trail, FileSystem.trail, joinTo_of_isAbsolute (isAbsolute_joinTo habs)]
    simp [hempty, hfull]

/-- The directory of a relative target, and that of the same target as an absolute path. -/
theorem exists_startOf?_relative (habs : isAbsolute fs.workingDir = true)
    (hrel : isAbsolute target = false) :
    ∃ start start', startOf? fs target = some start ∧ isAbsolute start = false ∧
      startOf? fs (joinTo fs.workingDir target) = some start' ∧ isAbsolute start' = true ∧
      components start' = components fs.workingDir ++ steps start := by
  have habs' : isAbsolute (joinTo fs.workingDir target) = true := isAbsolute_joinTo habs
  have hjoined := components_joinTo habs hrel
  unfold startOf?
  rw [isFile_joinTo habs hrel]
  by_cases hfile : fs.isFile target = true
  · obtain ⟨front, last, htarget, hroot, hhere⟩ := exists_components_of_isFile hfile
    obtain ⟨start, hparent, hstart, hstartRel⟩ := exists_parent? htarget hroot
    have hsteps : steps target = steps start ++ [last] := by
      rw [steps_eq_filter hrel, steps_eq_filter (hstartRel.trans hrel), htarget, hstart]
      simp [hhere]
    rw [hsteps, ← List.append_assoc] at hjoined
    obtain ⟨start', hparent', hstart', hstartAbs⟩ := exists_parent? hjoined hroot
    exact ⟨start, start', by simp [hfile, hparent], hstartRel.trans hrel,
      by simp [hfile, hparent'], hstartAbs.trans habs', hstart'⟩
  · exact ⟨target, joinTo fs.workingDir target, by simp [hfile], hrel, by simp [hfile], habs',
      hjoined⟩

/-- The two searches go through the same places up to the working directory. Then the relative one
may only come to it again, and the absolute one goes on above it. -/
theorem exists_searched (habs : isAbsolute fs.workingDir = true)
    (hrel : isAbsolute target = false) :
    ∃ dirs again dirs' above, searched fs target = dirs ++ again ∧
      searched fs (joinTo fs.workingDir target) = dirs' ++ above ∧ SamePlaces fs dirs dirs' ∧
      (∀ dir ∈ again, ∃ d ∈ dirs, fs.seen dir = fs.seen d) ∧
      SamePlaces fs above (ancestors fs.workingDir).tail := by
  obtain ⟨start, start', hstart, hstartRel, hstart', hstartAbs, hbelow⟩ :=
    exists_startOf?_relative habs hrel
  obtain ⟨places, hplaces, hagain⟩ := exists_map_seen_ancestors habs hstartRel
  obtain ⟨dirs, again, hdirs, hlower, hrest⟩ := List.map_eq_append_iff.1 hplaces
  obtain ⟨dirs', above, hdirs', hlower', habove⟩ :=
    List.map_eq_append_iff.1 (map_seen_ancestors_below habs hstartAbs hbelow)
  refine ⟨dirs, again, dirs', above, by simp [searched, hstart, hdirs],
    by simp [searched, hstart', hdirs'], samePlaces_iff.2 (hlower.trans hlower'.symm), ?_,
    samePlaces_iff.2 habove⟩
  intro dir hdir
  have hplace : fs.seen dir = components fs.workingDir :=
    hagain _ (hrest ▸ List.mem_map_of_mem hdir)
  have hmem : components fs.workingDir ∈ dirs.map fs.seen := hlower ▸ mem_placesUp fs (steps start)
  obtain ⟨d, hd, hseen⟩ := List.mem_map.1 hmem
  exact ⟨d, hd, hplace.trans hseen.symm⟩

/-! ### The two answers -/

/-- Two sources are of the same kind, and files of a project lead to the same place. -/
def SameSource (fs : FileSystem) : SettingsSource → SettingsSource → Prop
  | explicit _, explicit _ => True
  | project path, project path' => fs.trail path = fs.trail path'
  | global _, global _ => True
  | defaults, defaults => True
  | _, _ => False

theorem sameSource_resolve_iff :
    SameSource fs (resolve fs globalDir target none) (resolve fs globalDir other none) ↔
      (nearest? fs (searched fs target)).map fs.trail =
        (nearest? fs (searched fs other)).map fs.trail := by
  simp only [resolve, ofProject?_eq]
  cases nearest? fs (searched fs target) with
  | some path =>
      cases nearest? fs (searched fs other) with
      | some path' => simp [SameSource]
      | none => cases ofUser? fs globalDir <;> simp [SameSource]
  | none =>
      cases nearest? fs (searched fs other) with
      | some path' => cases ofUser? fs globalDir <;> simp [SameSource]
      | none => cases ofUser? fs globalDir <;> simp [SameSource]

/-- The search for a target ends in a directory on its way. -/
def Settled (fs : FileSystem) (target : String) : Prop :=
  ∃ dir ∈ searched fs target, ¬ GoesPast fs dir

theorem settled_iff : Settled fs target ↔ (searched fs target).any (settles fs) = true := by
  simp [Settled, goesPast_iff]

/-- **A relative target.** Let the working directory be absolute, and the target relative. The
target and its absolute path have the same settings exactly if the search for the target ends on
its way up to the working directory, or if there are no settings to be found above it. If it does
not end on its way, the relative target has no settings of a project, and the absolute path those
that are found above the working directory. -/
theorem resolve_relative_iff (habs : isAbsolute fs.workingDir = true)
    (hrel : isAbsolute target = false) (globalDir : Option String) :
    (SameSource fs (resolve fs globalDir target none)
        (resolve fs globalDir (joinTo fs.workingDir target) none) ↔
      Settled fs target ∨ ∀ path, ¬ Nearest fs (ancestors fs.workingDir).tail path) ∧
    (¬ Settled fs target → ofProject? fs target = none ∧
      (ofProject? fs (joinTo fs.workingDir target)).map fs.trail =
        (nearest? fs (ancestors fs.workingDir).tail).map fs.trail) := by
  obtain ⟨dirs, again, dirs', above, hsearched, hsearched', hsame, hagain, habove⟩ :=
    exists_searched habs hrel
  have hany : dirs.any (settles fs) = dirs'.any (settles fs) := hsame.any_settles habs
  have hnone (h : dirs.any (settles fs) = false) : again.any (settles fs) = false := by
    refine List.any_eq_false.2 fun dir hdir => ?_
    obtain ⟨d, hd, hseen⟩ := hagain dir hdir
    rw [settles_of_seen_eq habs hseen]
    exact List.any_eq_false.1 h d hd
  have hsettled : Settled fs target ↔ dirs.any (settles fs) = true := by
    rw [settled_iff, hsearched, List.any_append]
    cases h : dirs.any (settles fs) with
    | true => simp
    | false => simp [hnone h]
  rw [sameSource_resolve_iff, ofProject?_eq, ofProject?_eq, hsettled, hsearched, hsearched',
    nearest?_append, nearest?_append, ← hany]
  cases h : dirs.any (settles fs) with
  | true => simpa using hsame.nearest? habs
  | false =>
      have hrest : nearest? fs again = none := nearest?_eq_none_of_any (hnone h)
      have hupper := habove.nearest? habs
      have hnowhere : none = (nearest? fs (ancestors fs.workingDir).tail).map fs.trail ↔
          ∀ path, ¬ Nearest fs (ancestors fs.workingDir).tail path := by
        rw [eq_comm, Option.map_eq_none_iff, nearest?_eq_none_iff]
      simp [hrest, hupper, hnowhere]

/-- The build with settings in its module, seen from the module. -/
def insideModule : FileSystem where
  root := .directory [("p", buildTree)]
  workingDir := "/p/app"

theorem resolve_relative_iff_insideModule :
    isAbsolute insideModule.workingDir = true ∧ isAbsolute "./src//Pump.kt" = false ∧
    SameSource insideModule (resolve insideModule none "./src//Pump.kt" none)
      (resolve insideModule none "/p/app/./src//Pump.kt" none) := by
  have habs : isAbsolute insideModule.workingDir = true := by decide
  have hrel : isAbsolute "./src//Pump.kt" = false := by decide
  have hjoined : joinTo insideModule.workingDir "./src//Pump.kt" = "/p/app/./src//Pump.kt" := by
    decide +kernel
  have hsettled : Settled insideModule "./src//Pump.kt" :=
    ⟨".", by decide +kernel, by decide +kernel⟩
  refine ⟨habs, hrel, ?_⟩
  rw [← hjoined, (resolve_relative_iff habs hrel none).1]
  exact Or.inl hsettled

/-- A build with settings at its root only, seen from a module. -/
def belowSettings : FileSystem where
  root := .directory [("p", .directory
    [("settings.gradle.kts", .file (.text "")), ("kdoc-lint.toml", .file (.text "")),
      ("app", .directory [("A.kt", .file (.text ""))])])]
  workingDir := "/p/app"

/-- From inside a module the settings at the root of the build are not found. -/
theorem resolve_here_belowSettings :
    isAbsolute belowSettings.workingDir = true ∧ belowSettings.has "." = true ∧
    Component.up ∉ components "." ∧ joinTo belowSettings.workingDir "." = "/p/app/." ∧
    resolve belowSettings none "." none = .defaults ∧
    resolve belowSettings none "/p/app/." none = .project "/p/kdoc-lint.toml" ∧
    ¬ SameSource belowSettings (resolve belowSettings none "." none)
      (resolve belowSettings none "/p/app/." none) := by
  have hhere : resolve belowSettings none "." none = .defaults := by decide +kernel
  have hthere : resolve belowSettings none "/p/app/." none = .project "/p/kdoc-lint.toml" := by
    decide +kernel
  refine ⟨by decide, by decide +kernel, by decide, by decide +kernel, hhere, hthere, ?_⟩
  rw [hhere, hthere]
  exact id

end DocLint.SettingsSource

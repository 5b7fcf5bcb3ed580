import DocLint.Directive
import DocLint.Proofs.Text.Lines
import DocLint.Proofs.Text.Word
import Mathlib.Data.Option.Basic

/-!
# Directives are read back as they are written

`Directive.written` puts a directive down, and `Directive.ofLine?` looks for one in the comments
of a line. It takes the line apart in many small steps: it goes to a comment, cuts the comment at
its end marker, takes words off the front, cuts at a parenthesis, at commas and at quotes, and trims
what is left after each step.

`Writable` is what a directive has to be like for the steps to find their marks: no mark stands
inside of what it ends. Names and reasons may hold everything else, also what looks like another
comment or directive.
-/

namespace DocLint.Directive

open Text

/-- A name that can be written between commas. -/
structure WritableName (name : List Char) : Prop where
  ne_nil : name ≠ []
  trim_eq : trim name = name
  comma : ',' ∉ name
  parenthesis : ')' ∉ name
  no_end : ¬ "*/".toList <:+: name

/-- A reason that can be written between quotes. -/
structure WritableReason (reason : List Char) : Prop where
  ne_nil : reason ≠ []
  quote : '"' ∉ reason
  no_end : ¬ "*/".toList <:+: reason

/-- A directive that can be written in a comment. -/
structure Writable (d : Directive) : Prop where
  names_ne_nil : d.names ≠ []
  names_ok : ∀ name ∈ d.names, WritableName name.toList
  reason_ok : ∀ reason ∈ d.reason, WritableReason reason.toList

variable {d : Directive}

/-! ### The names -/

/-- A space in front of the names makes no difference. -/
theorem namesOf_space (s : List Char) : namesOf (' ' :: s) = namesOf s := by
  obtain ⟨first, more, hs⟩ := List.exists_cons_of_ne_nil (splitAt_ne_nil ',' s)
  have htrim : trim (' ' :: first) = trim first :=
    trim_append_of_blank (w := [' ']) (by decide) first
  simp only [namesOf, splitAt, hs, List.map_cons, htrim, if_neg (show ' ' ≠ ',' by decide)]

theorem WritableName.namesOf {name : String} (h : WritableName name.toList) :
    namesOf name.toList = [name] := by
  simp [Directive.namesOf, splitAt_of_not_mem h.comma, h.trim_eq, h.ne_nil]

theorem WritableName.namesOf_append {name : String} (h : WritableName name.toList)
    (t : List Char) :
    Directive.namesOf (name.toList ++ ',' :: t) = name :: Directive.namesOf t := by
  simp [Directive.namesOf, splitAt_append_cons h.comma, h.trim_eq, h.ne_nil]

theorem namesOf_join {names : List String} (h : ∀ name ∈ names, WritableName name.toList)
    (hne : names ≠ []) : namesOf (join ", ".toList (names.map String.toList)) = names := by
  induction names with
  | nil => exact absurd rfl hne
  | cons name names ih =>
      obtain ⟨hname, hnames⟩ := List.forall_mem_cons.1 h
      cases names with
      | nil => exact hname.namesOf
      | cons next names =>
          have hjoin : join ", ".toList ((name :: next :: names).map String.toList) = name.toList ++
              ',' :: ' ' :: join ", ".toList ((next :: names).map String.toList) := by
            simp [join_cons_cons]
          rw [hjoin, hname.namesOf_append, namesOf_space, ih hnames (by simp)]

/-- A word without commas and spaces is in none of the texts, so it is not in the row of them. -/
theorem not_infix_join {word : List Char} (hcomma : ',' ∉ word) (hspace : ' ' ∉ word)
    (hne : word ≠ []) {texts : List (List Char)} (h : ∀ t ∈ texts, ¬ word <:+: t) :
    ¬ word <:+: join ", ".toList texts := by
  induction texts with
  | nil => simpa [join] using hne
  | cons t texts ih =>
      obtain ⟨ht, htexts⟩ := List.forall_mem_cons.1 h
      cases texts with
      | nil => exact ht
      | cons next texts =>
          have hjoin : join ", ".toList (t :: next :: texts) =
              t ++ ',' :: ([] ++ ' ' :: join ", ".toList (next :: texts)) := by
            simp [join_cons_cons]
          rw [hjoin, infix_append_cons_iff hcomma, infix_append_cons_iff hspace, List.infix_nil]
          exact not_or.2 ⟨ht, not_or.2 ⟨hne, ih htexts⟩⟩

/-! ### The parts of a written directive -/

/-- What is written behind the names. -/
def ending (d : Directive) : List Char :=
  match d.reason with
  | none => []
  | some reason => " reason=".toList ++ '"' :: (reason.toList ++ ['"'])

/-- What is written behind the word of the scope. -/
def body (d : Directive) : List Char :=
  join ", ".toList (d.names.map String.toList) ++ ')' :: d.ending

theorem written_eq (d : Directive) :
    d.written = "kdoc-lint:".toList ++ ' ' :: (d.scope.word.toList ++ d.body) := by
  unfold written body ending
  cases d.reason <;> simp

theorem visible_body (d : Directive) : d.body.getLast?.any (!isBlank ·) = true := by
  refine visible_append ?_ _
  unfold ending
  cases d.reason with
  | none => decide
  | some reason =>
      have hquote : ['"'].getLast?.any (!isBlank ·) = true := by decide
      have hquotes : ('"' :: (reason.toList ++ ['"'])).getLast?.any (!isBlank ·) = true :=
        visible_append hquote ('"' :: reason.toList)
      exact visible_append hquotes (')' :: " reason=".toList)

/-- Nothing that ends a comment stands inside of a directive. -/
theorem Writable.no_end (hd : d.Writable) : ¬ "*/".toList <:+: d.written := by
  have hnames : ¬ "*/".toList <:+: join ", ".toList (d.names.map String.toList) := by
    refine not_infix_join (by decide) (by decide) (by decide) ?_
    rw [List.forall_mem_map]
    exact fun name hname => (hd.names_ok name hname).no_end
  have hending : ¬ "*/".toList <:+: d.ending := by
    unfold ending
    cases hreason : d.reason with
    | none => exact holds_eq_false_iff.1 (by decide)
    | some reason =>
        have hinside := (hd.reason_ok reason hreason).no_end
        dsimp only
        rw [infix_append_cons_iff (by decide), infix_append_cons_iff (by decide)]
        exact not_or.2 ⟨holds_eq_false_iff.1 (by decide), not_or.2 ⟨hinside, by simp⟩⟩
  -- Spaces, parentheses and quotes divide a directive into the parts above and fixed words.
  have hword : ∃ word, ¬ "*/".toList <:+: word ∧ d.scope.word.toList = word ++ ['('] := by
    cases d.scope with
    | line => exact ⟨"allow".toList, holds_eq_false_iff.1 (by decide), by decide⟩
    | file => exact ⟨"allow-file".toList, holds_eq_false_iff.1 (by decide), by decide⟩
  obtain ⟨word, hword, hscope⟩ := hword
  have hbody : ¬ "*/".toList <:+: d.body := by
    rw [body, infix_append_cons_iff (by decide)]
    exact not_or.2 ⟨hnames, hending⟩
  rw [written_eq, hscope, List.append_assoc, List.singleton_append,
    infix_append_cons_iff (by decide), infix_append_cons_iff (by decide)]
  exact not_or.2 ⟨holds_eq_false_iff.1 (by decide), not_or.2 ⟨hword, hbody⟩⟩

/-! ### Reading the parts -/

theorem scopeOf_word (scope : Scope) (s : List Char) :
    scopeOf (scope.word.toList ++ s) = some (scope, s) := by
  cases scope with
  | file => simp [scopeOf]
  | line =>
      -- The two words part at the sixth character.
      have hother : after? Scope.file.word.toList (Scope.line.word.toList ++ s) = none := by
        simp [Scope.word, after?]
      simp [scopeOf, hother]

theorem Writable.cutAt_body (hd : d.Writable) :
    cutAt [')'] d.body = some (join ", ".toList (d.names.map String.toList), d.ending) := by
  refine cutAt_singleton ?_ _
  rw [← List.singleton_infix_iff]
  refine not_infix_join (by decide) (by decide) (by decide) ?_
  rw [List.forall_mem_map]
  intro name hname
  rw [List.singleton_infix_iff]
  exact (hd.names_ok name hname).parenthesis

theorem Writable.reasonOf_ending (hd : d.Writable) : reasonOf d.ending = d.reason := by
  unfold ending
  cases hreason : d.reason with
  | none => rfl
  | some reason =>
      obtain ⟨hne, hquote, -⟩ := hd.reason_ok reason hreason
      have hvisible (s : List Char) : (s ++ ['"']).getLast?.any (!isBlank ·) = true :=
        visible_append (by decide) s
      have hspace : " reason=".toList = [' '] ++ "reason=".toList := by decide
      have htrim : trim (" reason=".toList ++ '"' :: (reason.toList ++ ['"'])) =
          "reason=".toList ++ '"' :: (reason.toList ++ ['"']) := by
        rw [hspace, List.append_assoc, trim_append_of_blank (by decide)]
        exact trim_of_visible (by simp [isBlank]) (visible_append (hvisible ('"' :: _)) _)
      have htrim' : trim ('"' :: (reason.toList ++ ['"'])) = ['"'] ++ (reason.toList ++ ['"']) :=
        trim_of_visible (by simp [isBlank]) (hvisible ('"' :: _))
      have hcut : cutAt ['"'] (reason.toList ++ ['"']) = some (reason.toList, []) :=
        cutAt_singleton hquote []
      have hguard : (guard (reason.toList ≠ []) : Option Unit) = some () :=
        (Option.guard_eq_some' ()).2 hne
      simp only [reasonOf, htrim, after?_append, htrim', hcut, hguard, Option.bind_eq_bind,
        Option.bind_some, String.ofList_toList]

/-- A directive is read from its text, with white space around it or without. -/
theorem Writable.ofComment?_written (hd : d.Writable) {w v : List Char}
    (hw : isAllBlank w = true) (hv : isAllBlank v = true) :
    ofComment? (w ++ d.written ++ v) = some d := by
  have hlast (s : List Char) : (s ++ d.body).getLast?.any (!isBlank ·) = true :=
    visible_append d.visible_body s
  have htrim : trim (w ++ d.written ++ v) = d.written := by
    refine trim_between_blanks hw hv ?_ ?_
    · rw [written_eq]
      rfl
    · rw [written_eq]
      exact visible_append (hlast (' ' :: d.scope.word.toList)) _
  have htrim' : trim (' ' :: (d.scope.word.toList ++ d.body)) = d.scope.word.toList ++ d.body := by
    rw [← List.singleton_append, trim_append_of_blank (by decide)]
    refine trim_of_visible ?_ (hlast _)
    cases d.scope <;> rfl
  have hnames := namesOf_join hd.names_ok hd.names_ne_nil
  have hafter : after? "kdoc-lint:".toList d.written =
      some (' ' :: (d.scope.word.toList ++ d.body)) := by
    rw [written_eq, after?_append]
  have hguard : (guard (d.names ≠ []) : Option Unit) = some () :=
    (Option.guard_eq_some' ()).2 hd.names_ne_nil
  simp only [ofComment?, htrim, hafter, htrim', scopeOf_word, hd.cutAt_body, hnames, hguard,
    hd.reasonOf_ending, Option.bind_eq_bind, Option.bind_some]

/-! ### Reading a line -/

/-- A line is read from its first slash on. -/
theorem ofLine?_append {front : List Char} (hfront : '/' ∉ front) (s : List Char) :
    ofLine? (front ++ s) = ofLine? s := by
  induction front with
  | nil => rfl
  | cons c front ih =>
      rw [List.mem_cons, not_or] at hfront
      have hstart : startsComment (c :: (front ++ s)) = false := by
        simp [startsComment, Ne.symm hfront.1]
      rw [List.cons_append, ofLine?, hstart, if_neg Bool.false_ne_true, ih hfront.2]

theorem ofLine?_of_startsComment {s : List Char} (hstart : startsComment s = true)
    (hread : ofComment? (commentText s) = some d) : ofLine? s = some d := by
  cases s with
  | nil => exact absurd hstart Bool.false_ne_true
  | cons c s => rw [ofLine?, if_pos hstart, hread, Option.some_or]

theorem no_end_space {s : List Char} (h : ¬ "*/".toList <:+: s) : ¬ "*/".toList <:+: ' ' :: s := by
  rw [← List.nil_append (' ' :: s), infix_append_cons_iff (by decide)]
  exact not_or.2 ⟨holds_eq_false_iff.1 (by decide), h⟩

theorem commentText_line {s : List Char} (h : ¬ "*/".toList <:+: s) :
    commentText ("// ".toList ++ s) = ' ' :: s := by
  have hdrop : ("// ".toList ++ s).dropWhile (fun c => c == '/' || c == '*') = ' ' :: s := by simp
  rw [commentText, hdrop, cutAt_eq_none_iff.2 (no_end_space h)]

/-- A comment between markers ends at the first end marker. -/
theorem commentText_block {s : List Char} (h : ¬ "*/".toList <:+: s) (rest : List Char) :
    commentText ("/* ".toList ++ s ++ " */".toList ++ rest) = [' '] ++ s ++ [' '] := by
  have hinside : ¬ "*/".toList <:+: [' '] ++ s ++ [' '] := by
    rw [infix_append_cons_iff (by decide)]
    exact not_or.2 ⟨no_end_space h, holds_eq_false_iff.1 (by decide)⟩
  have hdrop : ("/* ".toList ++ s ++ " */".toList ++ rest).dropWhile
      (fun c => c == '/' || c == '*') = [' '] ++ s ++ [' '] ++ "*/".toList ++ rest := by simp
  rw [commentText, hdrop, (cutAt_eq_some_iff (by decide)).2 ⟨rfl, hinside⟩]

/-- **Directives are read back.** A directive that can be written is read back with its scope, its
names and its reason, or without one. It may stand in a comment that takes up the rest of the line,
or in one that ends in front of any further text, and any text without a slash may be in front of
the comment. -/
theorem ofLine?_written (d : Directive) (hd : d.Writable) (front : List Char)
    (hfront : '/' ∉ front) (rest : List Char) :
    ofLine? (front ++ "// ".toList ++ d.written) = some d ∧
      ofLine? (front ++ "/* ".toList ++ d.written ++ " */".toList ++ rest) = some d := by
  have hspace : isAllBlank [' '] = true := by decide
  constructor
  · rw [List.append_assoc, ofLine?_append hfront]
    refine ofLine?_of_startsComment rfl ?_
    rw [commentText_line hd.no_end]
    simpa using hd.ofComment?_written hspace isAllBlank_nil
  · rw [List.append_assoc, List.append_assoc, List.append_assoc, ofLine?_append hfront]
    refine ofLine?_of_startsComment rfl ?_
    rw [← List.append_assoc, ← List.append_assoc, commentText_block hd.no_end]
    exact hd.ofComment?_written hspace hspace

/-- A directive with names and a reason that look like comments and directives themselves. -/
def disguised : Directive where
  scope := .file
  names := ["a/*", "allow(b"]
  reason := some " see (c) // kdoc-lint: allow(all)"

theorem ofLine?_written_disguised :
    disguised.Writable ∧
      ofLine? ("val x = 2 * y ".toList ++ "// ".toList ++ disguised.written) = some disguised ∧
      ofLine? ("val x = 2 * y ".toList ++ "/* ".toList ++ disguised.written ++ " */".toList ++
        " / z // kdoc-lint: allow(all) */".toList) = some disguised := by
  have hnames : ∀ name ∈ disguised.names, WritableName name.toList := by
    intro name hname
    rcases List.mem_pair.1 hname with rfl | rfl
    · exact ⟨by decide, by decide, by decide, by decide, holds_eq_false_iff.1 (by decide)⟩
    · exact ⟨by decide, by decide, by decide, by decide, holds_eq_false_iff.1 (by decide)⟩
  have hreason : ∀ reason ∈ disguised.reason, WritableReason reason.toList := by
    intro reason hreason
    obtain rfl := Option.some.inj hreason
    exact ⟨by decide, by decide, holds_eq_false_iff.1 (by decide)⟩
  have hd : disguised.Writable := ⟨by decide, hnames, hreason⟩
  exact ⟨hd, ofLine?_written disguised hd _ (by decide) _⟩

end DocLint.Directive

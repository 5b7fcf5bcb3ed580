import DocLint.Proofs.DocBlock.Line
import Mathlib.Algebra.BigOperators.Group.List.Basic
import Mathlib.Computability.Language

/-!
# The language of a documentation block

What a block may look like is a language over lines: a start, free lines, one line and free
lines for every parameter, then the result, the thrown and the caught exceptions, and an end.
The parts are joined by concatenation, so a block belongs to the language if its lines can be
split into the parts in some way, wherever the cuts are.

The matcher does not search for the cuts. Each clause takes the free lines that follow it as
far as they go. This module proves that it still decides the language
(`matchText_eq_ok_iff`). The argument has three steps:

* a language whose words all start with a line that is not free is met, after some free
  lines, exactly where the free lines end (`mem_freeLines_mul_iff`);
* so a clause takes off the front what its own language takes off
  (`exists_take?_iff_mem_mul`), if what follows is such a language;
* and the clauses after the description are followed by such languages only
  (`tagged_prod_mul_end`).
-/

namespace DocLint

open Text
open scoped Computability

/-! ### Languages of lines -/

/-- The blocks of a single line of the given form. -/
def oneLine (p : Line → Prop) : Language Line := { ls | ∃ l, p l ∧ ls = [l] }

/-- Blocks of free lines, of any length. -/
def freeLines : Language Line := (oneLine FreeLine)∗

theorem mem_oneLine_mul_iff {p : Line → Prop} {L : Language Line} {ls : List Line} :
    ls ∈ oneLine p * L ↔ ∃ l rest, ls = l :: rest ∧ p l ∧ rest ∈ L := by
  rw [Language.mem_mul]
  constructor
  · intro h
    obtain ⟨_, ⟨l, hl, rfl⟩, rest, hrest, rfl⟩ := h
    exact ⟨l, rest, rfl, hl, hrest⟩
  · intro h
    obtain ⟨l, rest, rfl, hl, hrest⟩ := h
    exact ⟨[l], ⟨l, hl, rfl⟩, rest, hrest, rfl⟩

theorem mem_freeLines_iff {ls : List Line} :
    ls ∈ freeLines ↔ ∀ l ∈ ls, isFreeLine l = true := by
  unfold freeLines
  rw [Language.mem_kstar]
  constructor
  · intro h l hl
    obtain ⟨parts, rfl, hparts⟩ := h
    obtain ⟨part, hpart, hl⟩ := List.mem_flatten.1 hl
    obtain ⟨l', hfree, rfl⟩ := hparts part hpart
    rw [List.mem_singleton.1 hl]
    exact isFreeLine_iff.2 hfree
  · intro h
    refine ⟨ls.map ([·]), (List.flatMap_singleton' ls).symm, ?_⟩
    intro part hpart
    obtain ⟨l, hl, rfl⟩ := List.mem_map.1 hpart
    exact ⟨l, isFreeLine_iff.1 (h l hl), rfl⟩

/-- Every block of the language starts with a line that is not free. -/
def Tagged (L : Language Line) : Prop :=
  ∀ ls ∈ L, ∃ l rest, ls = l :: rest ∧ isFreeLine l = false

/-- Taking free lines as far as they go loses no block of a language that starts with a line
that is not free. -/
theorem mem_freeLines_mul_iff {L : Language Line} (hL : Tagged L) {ls : List Line} :
    ls ∈ freeLines * L ↔ ls.dropWhile isFreeLine ∈ L := by
  rw [Language.mem_mul]
  constructor
  · intro h
    obtain ⟨free, hfree, tail, htail, rfl⟩ := h
    obtain ⟨l, rest, rfl, hl⟩ := hL tail htail
    rw [List.dropWhile_append_of_pos (mem_freeLines_iff.1 hfree),
      List.dropWhile_cons_of_neg (by simp [hl])]
    exact htail
  · intro h
    refine ⟨ls.takeWhile isFreeLine, ?_, ls.dropWhile isFreeLine, h,
      List.takeWhile_append_dropWhile⟩
    exact mem_freeLines_iff.2 fun l hl => List.mem_takeWhile_imp hl

/-! ### The clauses -/

/-- The lines of a clause. -/
def DocClause.language : DocClause → Language Line
  | start => oneLine StartLine
  | description => oneLine FreeLine * freeLines
  | param name => oneLine (ParamLine name) * freeLines
  | result type => oneLine (TagLine " @return " type)
  | throws => oneLine (TagLine " @throws" "")
  | catches => oneLine (TagLine " @catch " "")
  | blockEnd => oneLine EndLine

/-- Does the clause go on with free lines? -/
def DocClause.Continues : DocClause → Prop
  | description | param _ => True
  | _ => False

/-- Does the clause start with a tag? -/
def DocClause.IsTag : DocClause → Prop
  | param _ | result _ | throws | catches => True
  | _ => False

/-- A clause that tests its first line, and then takes lines in the way a language `M` is left
by `L`, takes off the front what the language of its first line takes off. -/
theorem exists_take?_iff_of_test {clause : DocClause} {p : Line → Bool} {P : Line → Prop}
    (hp : ∀ l, p l = true ↔ P l) {take : List Line → List Line} {L M : Language Line}
    (hM : ∀ rest, take rest ∈ L ↔ rest ∈ M) (hnil : clause.take? [] = none)
    (hcons : ∀ l rest, clause.take? (l :: rest) = if p l then some (take rest) else none)
    {ls : List Line} :
    (∃ rest, clause.take? ls = some rest ∧ rest ∈ L) ↔ ls ∈ oneLine P * M := by
  rw [mem_oneLine_mul_iff]
  cases ls with
  | nil => simp [hnil]
  | cons l rest => simp [hcons, hp, hM]

/-- What a clause leaves is what its language leaves. The free lines that continue a clause are
all taken, which is why a line that is not free has to follow them. -/
theorem exists_take?_iff_mem_mul {clause : DocClause} (hclause : clause ≠ .blockEnd)
    {L : Language Line} (hL : clause.Continues → Tagged L) {ls : List Line} :
    (∃ rest, clause.take? ls = some rest ∧ rest ∈ L) ↔ ls ∈ clause.language * L := by
  have hsame (rest : List Line) : id rest ∈ L ↔ rest ∈ L := Iff.rfl
  have hfree (htagged : Tagged L) (rest : List Line) :
      rest.dropWhile isFreeLine ∈ L ↔ rest ∈ freeLines * L :=
    (mem_freeLines_mul_iff htagged).symm
  cases clause with
  | start => exact exists_take?_iff_of_test (fun _ => isDocStart_iff) hsame rfl fun _ _ => rfl
  | description =>
      rw [DocClause.language, mul_assoc]
      exact exists_take?_iff_of_test (fun _ => isFreeLine_iff) (hfree (hL trivial)) rfl
        fun _ _ => rfl
  | param name =>
      rw [DocClause.language, mul_assoc]
      exact exists_take?_iff_of_test (fun _ => isParamLine_iff) (hfree (hL trivial)) rfl
        fun _ _ => rfl
  | result type => exact exists_take?_iff_of_test (fun _ => isTagLine_iff) hsame rfl fun _ _ => rfl
  | throws => exact exists_take?_iff_of_test (fun _ => isTagLine_iff) hsame rfl fun _ _ => rfl
  | catches => exact exists_take?_iff_of_test (fun _ => isTagLine_iff) hsame rfl fun _ _ => rfl
  | blockEnd => exact absurd rfl hclause

/-- The end is taken off only if nothing follows it. -/
theorem exists_take?_blockEnd_iff {ls : List Line} :
    (∃ rest, DocClause.blockEnd.take? ls = some rest) ↔ ls ∈ DocClause.blockEnd.language := by
  show _ ↔ ∃ l, EndLine l ∧ ls = [l]
  cases ls with
  | nil => simp [DocClause.take?]
  | cons l rest =>
      cases rest with
      | nil => simp [DocClause.take?, isDocEnd_iff]
      | cons l' rest => simp [DocClause.take?]

theorem tagged_oneLine_mul {p : Line → Prop} (hp : ∀ l, p l → isFreeLine l = false)
    (L : Language Line) : Tagged (oneLine p * L) := by
  intro ls hls
  obtain ⟨l, rest, rfl, hl, -⟩ := mem_oneLine_mul_iff.1 hls
  exact ⟨l, rest, rfl, hp l hl⟩

/-- A clause with a tag starts with a line that is not free. -/
theorem DocClause.IsTag.tagged_mul {clause : DocClause} (h : clause.IsTag) (L : Language Line) :
    Tagged (clause.language * L) := by
  cases clause with
  | param name =>
      rw [DocClause.language, mul_assoc]
      exact tagged_oneLine_mul (fun _ hl => isFreeLine_of_paramLine hl) _
  | result type => exact tagged_oneLine_mul (fun _ hl => isFreeLine_of_tagLine (by decide) hl) L
  | throws => exact tagged_oneLine_mul (fun _ hl => isFreeLine_of_tagLine (by decide) hl) L
  | catches => exact tagged_oneLine_mul (fun _ hl => isFreeLine_of_tagLine (by decide) hl) L
  | start => exact absurd h id
  | description => exact absurd h id
  | blockEnd => exact absurd h id

/-- Tags and an end start with a line that is not free, however many tags there are. -/
theorem tagged_prod_mul_end {tags : List DocClause} (h : ∀ clause ∈ tags, clause.IsTag) :
    Tagged ((tags.map DocClause.language).prod * DocClause.blockEnd.language) := by
  cases tags with
  | nil =>
      rw [List.map_nil, List.prod_nil, one_mul, ← mul_one DocClause.blockEnd.language]
      exact tagged_oneLine_mul (fun _ hl => isFreeLine_of_endLine hl) 1
  | cons clause more =>
      rw [List.map_cons, List.prod_cons, mul_assoc]
      exact (h clause (List.mem_cons_self ..)).tagged_mul _

/-! ### The matcher -/

theorem matchClauses_cons_eq_ok_iff {clause : DocClause} {more : List DocClause} {pos : Nat}
    {ls : List Line} :
    matchClauses (clause :: more) pos ls = .ok () ↔ ∃ rest, clause.take? ls = some rest ∧
      matchClauses more (pos + (ls.length - rest.length)) rest = .ok () := by
  rw [matchClauses]
  cases clause.take? ls with
  | none => simp
  | some rest => simp

/-- One clause more: if the clauses after it decide a language, it puts its own language in
front. -/
theorem matchClauses_cons_iff_mem_mul {clause : DocClause} (hclause : clause ≠ .blockEnd)
    {more : List DocClause} {L : Language Line} (hL : clause.Continues → Tagged L)
    (hmore : ∀ pos ls, matchClauses more pos ls = .ok () ↔ ls ∈ L) (pos : Nat) (ls : List Line) :
    matchClauses (clause :: more) pos ls = .ok () ↔ ls ∈ clause.language * L := by
  rw [matchClauses_cons_eq_ok_iff, ← exists_take?_iff_mem_mul hclause hL]
  exact exists_congr fun rest => and_congr_right fun _ => hmore _ rest

/-- Tags and an end are matched greedily without loss. -/
theorem matchClauses_tags_iff {tags : List DocClause} (h : ∀ clause ∈ tags, clause.IsTag)
    (pos : Nat) (ls : List Line) :
    matchClauses (tags ++ [.blockEnd]) pos ls = .ok () ↔
      ls ∈ (tags.map DocClause.language).prod * DocClause.blockEnd.language := by
  -- The free lines of the first tag end where the next tag, or the end, begins.
  induction tags generalizing pos ls with
  | nil =>
      rw [List.nil_append, List.map_nil, List.prod_nil, one_mul, ← exists_take?_blockEnd_iff,
        matchClauses_cons_eq_ok_iff]
      simp [matchClauses]
  | cons clause more ih =>
      have hmore : ∀ c ∈ more, c.IsTag := fun c hc => h c (List.mem_cons_of_mem _ hc)
      have hne : clause ≠ .blockEnd := by
        rintro rfl
        exact h .blockEnd (List.mem_cons_self ..)
      rw [List.map_cons, List.prod_cons, mul_assoc]
      exact matchClauses_cons_iff_mem_mul hne (fun _ => tagged_prod_mul_end hmore) (ih hmore) pos ls

/-! ### The grammar -/

/-- The blocks that a grammar asks for, as a language. -/
def DocGrammar.language (g : DocGrammar) : Language Line :=
  oneLine StartLine * (oneLine FreeLine * freeLines) *
    (g.params.map fun name => oneLine (ParamLine name) * freeLines).prod *
    g.result.elim 1 (fun type => oneLine (TagLine " @return " type)) *
    oneLine (TagLine " @throws" "") ^ g.throws *
    oneLine (TagLine " @catch " "") ^ g.catches *
    oneLine EndLine

namespace DocGrammar

/-- The clauses between the description and the end. -/
def tags (g : DocGrammar) : List DocClause :=
  g.params.map .param ++ g.result.toList.map .result ++ List.replicate g.throws .throws ++
    List.replicate g.catches .catches

theorem clauses_eq_tags (g : DocGrammar) :
    g.clauses = .start :: .description :: (g.tags ++ [.blockEnd]) := by
  simp [clauses, tags]

theorem isTag_of_mem_tags {g : DocGrammar} {clause : DocClause} (h : clause ∈ g.tags) :
    clause.IsTag := by
  simp only [tags, List.mem_append, List.mem_map, List.mem_replicate] at h
  rcases h with ((⟨_, _, rfl⟩ | ⟨_, _, rfl⟩) | ⟨_, rfl⟩) | ⟨_, rfl⟩ <;> trivial

theorem language_eq_tags (g : DocGrammar) :
    g.language = DocClause.start.language * (DocClause.description.language *
      ((g.tags.map DocClause.language).prod * DocClause.blockEnd.language)) := by
  have hresult : (g.result.toList.map (DocClause.language ∘ DocClause.result)).prod =
      g.result.elim 1 fun type => oneLine (TagLine " @return " type) := by
    cases g.result with
    | none => rfl
    | some type => exact mul_one _
  simp only [tags, List.map_append, List.map_map, List.map_replicate, List.prod_append,
    List.prod_replicate, hresult]
  simp only [language, DocClause.language, mul_assoc]
  rfl

/-- The matcher decides the language of the grammar. -/
theorem matchText_eq_ok_iff (g : DocGrammar) (text : String) :
    g.matchText text = .ok () ↔ lines text.toList ∈ g.language := by
  have htags : ∀ clause ∈ g.tags, clause.IsTag := fun _ h => isTag_of_mem_tags h
  rw [matchText, clauses_eq_tags, language_eq_tags]
  refine matchClauses_cons_iff_mem_mul (by simp) (fun h => absurd h id) ?_ 0 _
  refine matchClauses_cons_iff_mem_mul (by simp) (fun _ => tagged_prod_mul_end htags) ?_
  exact matchClauses_tags_iff htags

/-- **The documentation language.** A block matches the grammar composed of some parameters, a
type and two counts exactly if its lines can be split as the language says: a start; free
lines, at least one; for each parameter in order its line and free lines; the line of the
type, trimmed, if there is one; a line for every thrown and one for every caught exception;
an end, and nothing after it. Taking free lines greedily misses none of these splits. -/
theorem matchText_ofSteps_iff_split (params : List String) (type? : Option String)
    (throws catches : Nat) (text : String) :
    (ofSteps ([.params params] ++ type?.toList.map .result ++
        [.throws throws, .catches catches])).matchText text = .ok () ↔
      lines text.toList ∈ language
        { params := params
          result := type?.map fun type => String.ofList (trim type.toList)
          throws := throws
          catches := catches } := by
  rw [matchText_eq_ok_iff]
  cases type? with
  | none => simp [ofSteps, add]
  | some type => simp [ofSteps, add]

end DocGrammar

end DocLint

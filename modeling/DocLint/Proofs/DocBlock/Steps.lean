import DocLint.Proofs.DocBlock.TagLines
import Mathlib.Algebra.Ring.Nat

/-!
# Requirements in any order

A grammar is composed of requirements one after the other, and each kind of requirement has its
own way to go on from what is there: names of parameters are appended, the type of a result takes
the place of the last one, and numbers of exceptions add up. None of them looks at what the
others have left behind.

So a whole list of requirements can be read off kind by kind (`foldl_add`), and the order between
requirements of different kinds does not matter.
-/

namespace DocLint.DocGrammar

open Text

/-! ### Requirements by kind -/

namespace Step

/-- Is the requirement about parameters? -/
def isParams : Step → Bool
  | params _ => true
  | _ => false

/-- The parameters that the requirement names. -/
def names : Step → List String
  | params names => names
  | _ => []

/-- The type of the result, as the requirement gives it. -/
def type? : Step → Option String
  | result type => some type
  | _ => none

/-- How many thrown exceptions the requirement asks for. -/
def thrown : Step → Nat
  | throws count => count
  | _ => 0

/-- How many caught exceptions the requirement asks for. -/
def caught : Step → Nat
  | catches count => count
  | _ => 0

end Step

/-- All parameters that requirements name, in order. -/
def namesOf (steps : List Step) : List String := steps.flatMap Step.names

/-- The type of the result that the last requirement about it gives. -/
def lastType? (steps : List Step) : Option String := (steps.filterMap Step.type?).getLast?

/-- How many thrown exceptions requirements ask for together. -/
def thrownOf (steps : List Step) : Nat := (steps.map Step.thrown).sum

/-- How many caught exceptions requirements ask for together. -/
def caughtOf (steps : List Step) : Nat := (steps.map Step.caught).sum

/-- The text of a type without the white space around it. -/
def trimmed (type : String) : String := String.ofList (trim type.toList)

variable {steps steps' : List Step}

theorem lastType?_cons (step : Step) (steps : List Step) :
    lastType? (step :: steps) = (lastType? steps).or step.type? := by
  unfold lastType?
  cases h : step.type? with
  | none => rw [List.filterMap_cons_none h, Option.or_none]
  | some type =>
      rw [List.filterMap_cons_some h, List.getLast?_cons]
      cases (steps.filterMap Step.type?).getLast? <;> rfl

/-! ### The grammar of a list of requirements -/

/-- One requirement changes the part of a grammar that it is about. -/
theorem add_eq (g : DocGrammar) (step : Step) :
    g.add step =
      { params := g.params ++ step.names
        result := (step.type?.map trimmed).or g.result
        throws := g.throws + step.thrown
        catches := g.catches + step.caught } := by
  cases step <;> simp [add, Step.names, Step.type?, Step.thrown, Step.caught, trimmed]

/-- Added to a grammar one after the other, requirements change it kind by kind. -/
theorem foldl_add (steps : List Step) (g : DocGrammar) :
    steps.foldl add g =
      { params := g.params ++ namesOf steps
        result := ((lastType? steps).map trimmed).or g.result
        throws := g.throws + thrownOf steps
        catches := g.catches + caughtOf steps } := by
  induction steps generalizing g with
  | nil => simp [namesOf, lastType?, thrownOf, caughtOf]
  | cons step steps ih =>
      have hresult : ((lastType? steps).map trimmed).or ((step.type?.map trimmed).or g.result) =
          ((lastType? (step :: steps)).map trimmed).or g.result := by
        rw [lastType?_cons, Option.map_or, Option.or_assoc]
      rw [List.foldl_cons, ih, add_eq]
      simp only [hresult, namesOf, thrownOf, caughtOf, List.flatMap_cons, List.map_cons,
        List.sum_cons, List.append_assoc, Nat.add_assoc]

theorem ofSteps_eq (steps : List Step) :
    ofSteps steps =
      { params := namesOf steps
        result := (lastType? steps).map trimmed
        throws := thrownOf steps
        catches := caughtOf steps } := by
  rw [ofSteps, foldl_add]
  simp

/-! ### Lists that ask for the same -/

/-- The lists have the same requirements about parameters in the same order, the same last one
about the result, and ask for the same numbers of exceptions. -/
structure SameDemands (steps steps' : List Step) : Prop where
  params : steps.filter Step.isParams = steps'.filter Step.isParams
  result : lastType? steps = lastType? steps'
  throws : thrownOf steps = thrownOf steps'
  catches : caughtOf steps = caughtOf steps'

/-- Only requirements about parameters name any. -/
theorem namesOf_filter (steps : List Step) :
    namesOf (steps.filter Step.isParams) = namesOf steps := by
  induction steps with
  | nil => rfl
  | cons step steps ih =>
      unfold namesOf at ih ⊢
      cases step with
      | params names =>
          rw [List.filter_cons_of_pos rfl, List.flatMap_cons, List.flatMap_cons, ih]
      | _ => simpa [Step.isParams, Step.names] using ih

theorem SameDemands.ofSteps_eq (h : SameDemands steps steps') :
    ofSteps steps = ofSteps steps' := by
  have hnames : namesOf steps = namesOf steps' := by
    rw [← namesOf_filter, h.params, namesOf_filter]
  rw [DocGrammar.ofSteps_eq, DocGrammar.ofSteps_eq, hnames, h.result, h.throws, h.catches]

/-- **The order of independent requirements does not matter.** Whatever the order in which
requirements come, the clauses of their grammar are the start, the description, a clause for each
parameter in the order in which they were named, one for the result if there is one, with the type
that was given last and without the white space around it, one for each exception that is thrown and
one for each that is caught, and the end; and the grammar counts them so. Lists that differ in
nothing but the order of requirements of different kinds, or in results that are replaced later,
or in how the numbers of exceptions are made up, have the same grammar. -/
theorem clauses_ofSteps_any_order (steps steps' : List Step) :
    (ofSteps steps).clauses =
      [.start, .description] ++ (namesOf steps).map .param ++
        (lastType? steps).toList.map (fun type => .result (trimmed type)) ++
        List.replicate (thrownOf steps) .throws ++ List.replicate (caughtOf steps) .catches ++
        [.blockEnd] ∧
    (ofSteps steps).paramCount = (namesOf steps).length ∧
    (ofSteps steps).requiresReturn = (lastType? steps).isSome ∧
    (ofSteps steps).throwsCount = thrownOf steps ∧
    (ofSteps steps).catchCount = caughtOf steps ∧
    (SameDemands steps steps' → ofSteps steps = ofSteps steps') := by
  refine ⟨?_, ?_, ?_, ?_, ?_, SameDemands.ofSteps_eq⟩
  · cases htype : lastType? steps <;> simp [ofSteps_eq, clauses, htype]
  · rw [paramCount_eq, ofSteps_eq]
  · rw [requiresReturn_eq, ofSteps_eq, Option.isSome_map]
  · rw [throwsCount_eq, ofSteps_eq]
  · rw [catchCount_eq, ofSteps_eq]

/-- The requirements of a function with two parameters, some of them changed on the way. -/
def scattered : List Step :=
  [.throws 1, .result "Long", .params ["dividend"], .catches 1, .result " Int ", .throws 1,
    .params [], .params ["divisor"]]

/-- The same requirements in the order of the clauses. -/
def collected : List Step :=
  [.params ["dividend"], .params [], .params ["divisor"], .result " Int ", .throws 2, .catches 1]

theorem clauses_ofSteps_scattered :
    SameDemands scattered collected ∧ ofSteps scattered = ofSteps collected ∧
      (ofSteps collected).clauses =
        [.start, .description, .param "dividend", .param "divisor", .result "Int", .throws, .throws,
          .catches, .blockEnd] := by
  have hsame : SameDemands scattered collected :=
    ⟨by decide, by decide, by decide, by decide⟩
  exact ⟨hsame, (clauses_ofSteps_any_order scattered collected).2.2.2.2.2 hsame, by decide⟩

end DocLint.DocGrammar

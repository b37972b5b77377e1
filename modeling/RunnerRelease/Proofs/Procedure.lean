import RunnerRelease.Procedure

/-!
# What procedures ask and return

`Ensures` says of a procedure that, whatever its calls are answered with, every call is
one that may be made after the answers so far, and the result is one that may follow from
them. `Yields` says to which result the answers lead that the calls of a procedure are given.

## Implementation notes

Promises are about the past, the list of all answers since some beginning, so that they
can be kept while a procedure is carried out: `Ensures` of what is left to do, with the
answers so far as its past, holds at every point of a run.
-/

namespace RunnerRelease

/-- A call and what it was answered with. -/
structure Answered where
  call : Call
  answer : call.Answer

/-- The pod that an answer brings: the one stored by a patch. -/
def Answered.stored? : Answered → Option Pod
  | ⟨.patchPod _ _, .ok stored⟩ => some stored
  | _ => none

theorem Answered.eq_of_stored? {a : Answered} {pod : Pod} (h : a.stored? = some pod) :
    ∃ base updated, a = ⟨.patchPod base updated, .ok pod⟩ := by
  unfold Answered.stored? at h
  split at h
  · cases h
    exact ⟨_, _, rfl⟩
  · cases h

namespace Procedure

variable {α β : Type} {asks : List Answered → Call → Prop}

/-- Every call may be asked and every result returned, given the answers before it. -/
def Ensures (asks : List Answered → Call → Prop) (returns : List Answered → α → Prop)
    (past : List Answered) : Procedure α → Prop
  | .done result => returns past result
  | .log _ next => Ensures asks returns past next
  | .call c resume =>
      asks past c ∧ ∀ answer, Ensures asks returns (past ++ [⟨c, answer⟩]) (resume answer)

/-- A procedure that goes on with another one keeps the promises of both. -/
theorem Ensures.bind {between : List Answered → α → Prop} {returns : List Answered → β → Prop}
    {past : List Answered} {p : Procedure α} {f : α → Procedure β}
    (hp : Ensures asks between past p)
    (hf : ∀ now result, between now result → Ensures asks returns now (f result)) :
    Ensures asks returns past (p.bind f) := by
  induction p generalizing past with
  | done result => exact hf past result hp
  | log entry next ih => exact ih hp
  | call c resume ih => exact ⟨hp.1, fun answer => ih answer (hp.2 answer)⟩

/-- What is promised of the results may be weakened. -/
theorem Ensures.mono {returns weaker : List Answered → α → Prop} {past : List Answered}
    {p : Procedure α} (h : Ensures asks returns past p)
    (hweaker : ∀ now result, returns now result → weaker now result) :
    Ensures asks weaker past p := by
  induction p generalizing past with
  | done result => exact hweaker past result h
  | log entry next ih => exact ih h
  | call c resume ih => exact ⟨h.1, fun answer => ih answer (h.2 answer)⟩

/-- The calls of a procedure are given these answers, in order, and it comes to this result. -/
inductive Yields : Procedure α → List Answered → α → Prop
  | done (result : α) : Yields (.done result) [] result
  | log {entry : LogEntry} {next : Procedure α} {answers : List Answered} {result : α}
      (hnext : Yields next answers result) : Yields (.log entry next) answers result
  | call {c : Call} {resume : c.Answer → Procedure α} {answer : c.Answer}
      {answers : List Answered} {result : α} (hrest : Yields (resume answer) answers result) :
      Yields (.call c resume) (⟨c, answer⟩ :: answers) result

/-- The result that a procedure comes to is one that it may return. -/
theorem Ensures.of_yields {returns : List Answered → α → Prop} {past answers : List Answered}
    {p : Procedure α} {result : α} (h : Ensures asks returns past p)
    (hyields : p.Yields answers result) : returns (past ++ answers) result := by
  induction hyields generalizing past with
  | done result =>
      rw [List.append_nil]
      exact h
  | log _ ih => exact ih h
  | call _ ih =>
      have hrest := ih (h.2 _)
      rwa [List.append_assoc] at hrest

/-- What follows from the answers and the result of every run is ensured. -/
theorem ensures_of_yields {returns : List Answered → α → Prop} {past : List Answered}
    {p : Procedure α}
    (h : ∀ answers result, p.Yields answers result → returns (past ++ answers) result) :
    Ensures (fun _ _ => True) returns past p := by
  induction p generalizing past with
  | done result =>
      have hresult := h [] result (.done result)
      rwa [List.append_nil] at hresult
  | log entry next ih => exact ih fun answers result hnext => h answers result (.log hnext)
  | call c resume ih =>
      refine ⟨trivial, fun answer => ih answer fun answers result hrest => ?_⟩
      rw [List.append_assoc]
      exact h _ result (.call hrest)

/-- A procedure that goes on with another one is given the answers of both. -/
theorem Yields.bind {p : Procedure α} {f : α → Procedure β} {first rest : List Answered}
    {between : α} {result : β} (hp : p.Yields first between)
    (hf : (f between).Yields rest result) : (p.bind f).Yields (first ++ rest) result := by
  induction hp with
  | done _ => exact hf
  | log _ ih => exact .log (ih hf)
  | call _ ih => exact .call (ih hf)

/-- Whatever calls are answered with, a procedure comes to a result. -/
theorem exists_yields {gives : Answered → Prop} (h : ∀ c : Call, ∃ answer, gives ⟨c, answer⟩)
    (p : Procedure α) : ∃ answers result, p.Yields answers result ∧ ∀ a ∈ answers, gives a := by
  induction p with
  | done result => exact ⟨[], result, .done result, by simp⟩
  | log entry next ih =>
      obtain ⟨answers, result, hyields, hgives⟩ := ih
      exact ⟨answers, result, .log hyields, hgives⟩
  | call c resume ih =>
      obtain ⟨answer, hanswer⟩ := h c
      obtain ⟨answers, result, hyields, hgives⟩ := ih answer
      refine ⟨⟨c, answer⟩ :: answers, result, .call hyields, ?_⟩
      exact List.forall_mem_cons.2 ⟨hanswer, hgives⟩

end Procedure

end RunnerRelease

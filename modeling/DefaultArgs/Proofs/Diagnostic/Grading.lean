import DefaultArgs.Diagnostic

/-!
# The severity of problems

What a problem is decides how grave it is. A default that cannot be used and a target that cannot
be generated are errors; a finding about companion defaults is a warning. Builders that are not
finished and options that are malformed are no problems of a target, so they have no severity in
a report.

## Main definitions

* `Problem.severity? p`: the severity with which a problem is reported
* `Diagnostic.ReportsOn target d`: the diagnostic is about the target, as grave as its problem

## Main results

* `hasErrors_eq_false_iff_forall`: a list without errors
* `ReportsOn.isError_iff`, `ReportsOn.isWarning_iff`: which problems are errors, and which are
  warnings
-/

namespace DefaultArgs

/-- The severity with which a problem is reported of a target. -/
def Problem.severity? : Problem → Option Severity
  | literal _ | reference _ | structural _ => some .error
  | companion _ => some .warning
  | builder _ | config _ => none

namespace Diagnostic

/-- The diagnostic is about the target, and it is as grave as its problem. -/
structure ReportsOn (target : String) (d : Diagnostic) : Prop where
  target_eq : d.target = target
  severity_eq : d.problem.severity? = some d.severity

variable {d : Diagnostic} {target : String} {ds ds' : List Diagnostic}

/-- A diagnostic of a target is an error if it holds an error in a literal, in a reference or in the
shape of the target, and only then. -/
theorem ReportsOn.isError_iff (reports : d.ReportsOn target) :
    d.isError ↔ (∃ e, d.problem = .literal e) ∨ (∃ e, d.problem = .reference e) ∨
      ∃ e, d.problem = .structural e := by
  rcases d with ⟨severity, about, parameter, span, problem⟩
  have graded := reports.severity_eq
  cases problem <;> simp_all [Problem.severity?, isError, eq_comm]

/-- It is a warning if it holds a finding about companion defaults, and only then. -/
theorem ReportsOn.isWarning_iff (reports : d.ReportsOn target) :
    d.severity = .warning ↔ ∃ w, d.problem = .companion w := by
  rcases d with ⟨severity, about, parameter, span, problem⟩
  have graded := reports.severity_eq
  cases problem <;> simp_all [Problem.severity?, eq_comm]

theorem hasErrors_append : hasErrors (ds ++ ds') = (hasErrors ds || hasErrors ds') :=
  List.any_append

theorem hasErrors_eq_false_iff_forall : hasErrors ds = false ↔ ∀ d ∈ ds, d.isError = false := by
  simp [hasErrors]

end Diagnostic

end DefaultArgs

import DefaultArgs.Proofs.Generation.Modes
import DefaultArgs.Proofs.Listing
import DefaultArgs.Proofs.Plan.Expansion
import Mathlib.Data.List.Forall2

/-!
# What is reported of a declaration

A declared callable passes three stages, and each stage reports everything that it finds before it
fails. First come the sites with several defaults. If there are none, every default that counts is
resolved. If all of them resolve, the overloads can fail because of a gap. So every problem is
reported once and at its stage, in the order of the parameters, and no stage reports what an earlier
one has caused: a parameter whose default does not resolve is never taken for a gap.

## Main definitions

* `DeclaredDefault.Written source written`: the written form of a default
* `DeclaredParameter.Counts p ownerKind source`: the default that counts
* `DeclaredCallable.SourcedAs c s`: what sorting out the defaults keeps, and which defaults it keeps
* `ReportsSite`, `Generator.ReportsFailure`: what is reported of a site and of a default
* `Generator.Reports g c o`: what is reported of a declaration

## Main results

* `DeclaredCallable.oneForEach_duplicates`: the sites with several defaults
* `Generator.oneForEach_resolutionErrors`: the defaults that do not resolve
* `Generator.isGap_resolved_iff`: the gaps in the resolved parameters are those in the declaration
* `Generator.reports_single`: what is reported of a declaration alone
-/

namespace DefaultArgs

variable {g : Generator} {c : DeclaredCallable} {p : DeclaredParameter} {ownerKind : ScopeKind}
  {source : DeclaredDefault} {problem : Problem} {params : List ResolvedParameter} {i : Nat}

section Sources

/-- **The written form of a default**: what it is, and its text in quotes. -/
inductive DeclaredDefault.Written : DeclaredDefault → String → Prop
  | literal (text : String) : Written (.literal text) ("literal \"" ++ text ++ "\"")
  | field (text : String) : Written (.field text) ("field \"" ++ text ++ "\"")
  | factory (text : String) : Written (.factory text) ("factory \"" ++ text ++ "\"")

theorem DeclaredDefault.written_iff {written : String} :
    source.Written written ↔ source.display = written := by
  constructor
  · intro spelled
    cases spelled <;> rfl
  · rintro rfl
    cases source with
    | literal text => exact .literal text
    | field text => exact .field text
    | factory text => exact .factory text

theorem DeclaredDefault.forall₂_written_iff {sources : List DeclaredDefault}
    {written : List String} :
    List.Forall₂ DeclaredDefault.Written sources written ↔ sources.map display = written := by
  induction sources generalizing written with
  | nil => rw [List.forall₂_nil_left_iff, List.map_nil, eq_comm]
  | cons source rest ih =>
    cases written with
    | nil => simp
    | cons first others => rw [List.forall₂_cons, written_iff, ih, List.map_cons, List.cons.injEq]

/-- The defaults that are declared at a site. -/
def DeclaredParameter.sourcesAt (p : DeclaredParameter) : DeclarationSite → List DeclaredDefault
  | .parameter => p.ownDefaults
  | .owner => p.componentDefaults

/-- **The default that counts**: on a record the one at the component, if there is one; otherwise
the one at the parameter itself. -/
inductive DeclaredParameter.Counts (p : DeclaredParameter) (ownerKind : ScopeKind)
    (source : DeclaredDefault) : Prop
  | component {others : List DeclaredDefault} (record : ownerKind = .record)
      (declared : p.sourcesAt .owner = source :: others)
  | own {others : List DeclaredDefault} (unshadowed : ownerKind = .record → p.sourcesAt .owner = [])
      (declared : p.sourcesAt .parameter = source :: others)

theorem DeclaredParameter.effectiveSource?_eq_some_iff :
    p.effectiveSource? ownerKind = some source ↔ p.Counts ownerKind source := by
  unfold effectiveSource?
  constructor
  · intro counts
    split at counts
    · next record =>
      rcases Option.or_eq_some_iff.1 counts with component | ⟨none, own⟩
      · obtain ⟨others, declared⟩ := List.head?_eq_some_iff.1 component
        exact .component record declared
      · obtain ⟨others, declared⟩ := List.head?_eq_some_iff.1 own
        exact .own (fun _ => List.head?_eq_none_iff.1 none) declared
    · next other =>
      obtain ⟨others, declared⟩ := List.head?_eq_some_iff.1 counts
      exact .own (fun record => absurd record other) declared
  · intro counts
    cases counts with
    | component record declared =>
      have declared : p.componentDefaults = source :: _ := declared
      rw [if_pos record, declared]
      rfl
    | own unshadowed declared =>
      have declared : p.ownDefaults = source :: _ := declared
      split
      · next record =>
        have unshadowed : p.componentDefaults = [] := unshadowed record
        rw [unshadowed, declared]
        rfl
      · rw [declared]
        rfl

/-- The parameter with the default that counts. -/
def DeclaredParameter.sourced (p : DeclaredParameter) (ownerKind : ScopeKind) : SourcedParameter :=
  { p.toParameter with source? := p.effectiveSource? ownerKind, span := p.span }

theorem DeclaredCallable.parameters_effective (c : DeclaredCallable) :
    c.effective.parameters = c.parameters.map (·.sourced c.ownerKind) := rfl

/-- **A callable with its defaults sorted out**: its parameters keep their names, types and spans in
their order, each with the default that counts, and the target is that of the declaration. -/
structure DeclaredCallable.SourcedAs (c : DeclaredCallable) (s : SourcedCallable) : Prop where
  toCallable_eq : s.toCallable = c.toCallable
  parameters : List.Forall₂ (fun p q => q.toParameter = p.toParameter ∧ q.span = p.span ∧
    ∀ source, q.source? = some source ↔ p.Counts c.ownerKind source) c.parameters s.parameters
  toTarget_eq : s.toTarget = c.toTarget

theorem DeclaredCallable.sourcedAs_effective (c : DeclaredCallable) : c.SourcedAs c.effective := by
  refine ⟨rfl, ?_, c.toTarget_effective⟩
  rw [c.parameters_effective, List.forall₂_map_right_iff, List.forall₂_same]
  exact fun p _ => ⟨rfl, rfl, fun source => DeclaredParameter.effectiveSource?_eq_some_iff⟩

/-- **A gap in a declaration**: no default counts for a parameter, and for one before it some
default does. -/
def DeclaredCallable.HasGap (c : DeclaredCallable) (i : Nat) : Prop :=
  (∃ p, c.parameters[i]? = some p ∧ ∀ source, ¬ p.Counts c.ownerKind source) ∧
    ∃ j < i, ∃ q source, c.parameters[j]? = some q ∧ q.Counts c.ownerKind source

end Sources

section Sites

namespace DeclaredCallable

/-- The sites of a declaration in the order of its parameters, the parameter itself before its
component. -/
def sites (c : DeclaredCallable) : List (DeclaredParameter × DeclarationSite) :=
  c.parameters.flatMap fun p => [DeclarationSite.parameter, .owner].map (p, ·)

/-- Some site has several defaults. -/
def IsCrowded (c : DeclaredCallable) : Prop :=
  ∃ site ∈ c.sites, 1 < (site.1.sourcesAt site.2).length

end DeclaredCallable

/-- **What is reported of a site**: an error if it has several defaults, which has the name and the
span of the parameter and lists the written forms of these defaults in their order. -/
inductive ReportsSite (target : String) : DeclaredParameter × DeclarationSite → Diagnostic → Prop
  | several {p : DeclaredParameter} {site : DeclarationSite} {written : List String}
      (several : 1 < (p.sourcesAt site).length)
      (listed : List.Forall₂ DeclaredDefault.Written (p.sourcesAt site) written) :
      ReportsSite target (p, site)
        { severity := .error
          target
          parameter := some p.name
          span := p.span
          problem := .structural (.duplicateDefaultSource p.name site written) }

theorem DeclaredParameter.duplicateAt?_eq (p : DeclaredParameter) (site : DeclarationSite) :
    p.duplicateAt? site =
      if 1 < (p.sourcesAt site).length then
        some (.duplicateDefaultSource p.name site ((p.sourcesAt site).map DeclaredDefault.display))
      else none := by
  cases site <;> rfl

/-- **Every site with several defaults is reported once**, in the order of the sites. -/
theorem DeclaredCallable.oneForEach_duplicates (c : DeclaredCallable) :
    OneForEach (ReportsSite c.toTarget.display) c.sites c.duplicates := by
  refine OneForEach.flatMap fun p _ => ?_
  have reported (site : DeclarationSite) (d : Diagnostic) :
      (p.duplicateAt? site).map (.errorAt c.toTarget.display p.name p.span <| .structural ·) =
        some d ↔ ReportsSite c.toTarget.display (p, site) d := by
    rw [p.duplicateAt?_eq]
    constructor
    · intro found
      split at found
      · next several =>
        cases found
        exact .several several (DeclaredDefault.forall₂_written_iff.2 rfl)
      · cases found
    · intro reported
      cases reported with
      | several several listed =>
        rw [if_pos several, Option.map_some, DeclaredDefault.forall₂_written_iff.1 listed]
        rfl
  rw [DeclaredParameter.duplicates, List.map_filterMap]
  exact OneForEach.map (OneForEach.filterMap fun site _ d => reported site d)

/-- Nothing is reported of the sites if none has several defaults, and only then. -/
theorem DeclaredCallable.duplicates_eq_nil_iff_not_isCrowded :
    c.duplicates = [] ↔ ¬ c.IsCrowded := by
  rw [c.oneForEach_duplicates.eq_nil_iff, IsCrowded]
  push Not
  constructor
  · intro nothing site mem
    by_contra several
    exact nothing site mem _
      (.several (Nat.not_le.1 several) (DeclaredDefault.forall₂_written_iff.2 rfl))
  · intro few site mem d reported
    cases reported with
    | several several _ => exact Nat.not_le.2 several (few _ mem)

end Sites

namespace Generator

section Failures

/-- **A default fails**: its text is not that of a literal of the type, or the reference does not
resolve. -/
inductive SourceFails (g : Generator) (owner : QualifiedName) (ty : ValueType) :
    DeclaredDefault → Problem → Prop
  | literal {text : String} {error : LiteralError} (failed : Literal.read ty text = .error error) :
      SourceFails g owner ty (.literal text) (.literal error)
  | field {text : String} {error : ReferenceError}
      (failed : g.symbols.resolve .field ty owner text = .error error) :
      SourceFails g owner ty (.field text) (.reference error)
  | factory {text : String} {error : ReferenceError}
      (failed : g.symbols.resolve .factory ty owner text = .error error) :
      SourceFails g owner ty (.factory text) (.reference error)

/-- **What is reported of a parameter** whose default fails: the error of this default for this
parameter alone, with the name and the span of the parameter. -/
inductive ReportsFailure (g : Generator) (c : DeclaredCallable) (p : DeclaredParameter) :
    Diagnostic → Prop
  | fails {source : DeclaredDefault} {problem : Problem} (counts : p.Counts c.ownerKind source)
      (fails : g.SourceFails c.owner p.valueType source problem) :
      ReportsFailure g c p
        { severity := .error
          target := c.toTarget.display
          parameter := some p.name
          span := p.span
          problem }

theorem mapError_eq_error_iff {ε ε' α : Type} {f : ε → ε'} {x : Except ε α} {e : ε'} :
    x.mapError f = .error e ↔ ∃ cause, x = .error cause ∧ f cause = e := by
  cases x <;> simp [Except.mapError]

theorem resolveDefault_eq_error_iff {owner : QualifiedName} {ty : ValueType} :
    g.resolveDefault owner ty source = .error problem ↔
      g.SourceFails owner ty source problem := by
  unfold resolveDefault
  constructor
  · intro failed
    cases source with
    | literal text =>
      obtain ⟨error, unread, rfl⟩ := mapError_eq_error_iff.1 failed
      refine .literal ?_
      cases read : Literal.read ty text with
      | ok value => simp [DeclaredDefault.text, read, Except.map] at unread
      | error cause => simpa [DeclaredDefault.text, read, Except.map] using unread
    | field text =>
      obtain ⟨error, unresolved, rfl⟩ := mapError_eq_error_iff.1 failed
      exact .field unresolved
    | factory text =>
      obtain ⟨error, unresolved, rfl⟩ := mapError_eq_error_iff.1 failed
      exact .factory unresolved
  · intro fails
    cases fails with
    | literal failed =>
      refine mapError_eq_error_iff.2 ⟨_, ?_, rfl⟩
      rw [DeclaredDefault.text, failed]
      rfl
    | field failed => exact mapError_eq_error_iff.2 ⟨_, failed, rfl⟩
    | factory failed => exact mapError_eq_error_iff.2 ⟨_, failed, rfl⟩

/-- What is reported of a parameter is at most one failure. It is none if no default counts, or if
the only one that counts resolves. -/
theorem oneForEach_resolveParameter (g : Generator) (c : DeclaredCallable) (p : DeclaredParameter) :
    OneForEach (g.ReportsFailure c) [p]
      (g.resolveParameter c.effective (p.sourced c.ownerKind)).2 := by
  unfold resolveParameter
  cases counted : (p.sourced c.ownerKind).source? with
  | none =>
    refine .skip (fun d reported => ?_) .nil
    cases reported with
    | fails counts =>
      cases counted.symm.trans (DeclaredParameter.effectiveSource?_eq_some_iff.2 counts)
  | some source =>
    rw [Option.map_some]
    cases resolved : g.resolveDefault c.effective.owner (p.sourced c.ownerKind).valueType
        source with
    | ok expression =>
      refine .skip (fun d reported => ?_) .nil
      cases reported with
      | fails counts fails =>
        cases counted.symm.trans (DeclaredParameter.effectiveSource?_eq_some_iff.2 counts)
        cases resolved.symm.trans (resolveDefault_eq_error_iff.2 fails)
    | error problem =>
      rw [c.toTarget_effective]
      exact .take (.fails (DeclaredParameter.effectiveSource?_eq_some_iff.1 counted)
        (resolveDefault_eq_error_iff.1 resolved)) .nil

/-- **Every default that fails is reported once**, in the order of the parameters. -/
theorem oneForEach_resolutionErrors (g : Generator) (c : DeclaredCallable) :
    OneForEach (g.ReportsFailure c) c.parameters (g.resolutionErrors c) := by
  have listed := OneForEach.flatMap fun p (_ : p ∈ c.parameters) =>
    g.oneForEach_resolveParameter c p
  rw [resolutionErrors, c.parameters_effective, List.flatMap_map]
  rwa [List.flatMap_singleton'] at listed

/-- All defaults resolve if nothing is reported of any parameter, and only then. -/
theorem resolvesAll_iff :
    g.ResolvesAll c ↔ ∀ p ∈ c.parameters, ∀ d, ¬ g.ReportsFailure c p d := by
  rw [← resolutionErrors_eq_nil_iff, (g.oneForEach_resolutionErrors c).eq_nil_iff]

end Failures

section Gaps

theorem isGap_iff_exists : IsGap params i ↔ (∃ p, params[i]? = some p ∧ p.default? = none) ∧
    ∃ j < i, ∃ q, params[j]? = some q ∧ q.default?.isSome := by
  constructor
  · rintro ⟨behind, p, at_i, lacks⟩
    obtain ⟨lt, -⟩ := List.getElem?_eq_some_iff.1 at_i
    have inside := Nat.lt_trans behind lt
    exact ⟨⟨p, at_i, lacks⟩, _, behind, _, List.getElem?_eq_getElem inside,
      isSome_default?_firstDefaulted inside⟩
  · rintro ⟨gap, j, before, q, at_j, given⟩
    refine ⟨Nat.lt_of_le_of_lt ?_ before, gap⟩
    obtain ⟨lt, rfl⟩ := List.getElem?_eq_some_iff.1 at_j
    by_contra earlier
    rw [List.not_of_lt_findIdx (Nat.not_le.1 earlier)] at given
    cases given

theorem getElem?_resolved (g : Generator) (c : DeclaredCallable) (i : Nat) :
    (g.resolved c)[i]? = c.parameters[i]?.map fun p =>
      (g.resolveParameter c.effective (p.sourced c.ownerKind)).1 := by
  rw [resolved, c.parameters_effective, List.map_map, List.getElem?_map]
  rfl

theorem isSome_default?_sourced (all : g.ResolvesAll c) (mem : p ∈ c.parameters) :
    (g.resolveParameter c.effective (p.sourced c.ownerKind)).1.default?.isSome ↔
      ∃ source, p.Counts c.ownerKind source := by
  have fine := (g.oneForEach_resolveParameter c p).eq_nil_iff.2
    (List.forall_mem_singleton.2 (resolvesAll_iff.1 all p mem))
  rw [isSome_default?_resolveParameter fine, Option.isSome_iff_exists]
  exact exists_congr fun source => DeclaredParameter.effectiveSource?_eq_some_iff

/-- **The gaps in the resolved parameters** are those in the declaration, if all defaults
resolve. -/
theorem isGap_resolved_iff (all : g.ResolvesAll c) : IsGap (g.resolved c) i ↔ c.HasGap i := by
  rw [isGap_iff_exists, DeclaredCallable.HasGap]
  simp only [getElem?_resolved, Option.map_eq_some_iff, exists_exists_and_eq_and]
  refine and_congr (exists_congr fun p => and_congr_right fun at_i => ?_)
    (exists_congr fun j => and_congr_right fun _ => exists_congr fun q => ?_)
  · have given := isSome_default?_sourced all (List.mem_of_getElem? at_i)
    rw [← Option.not_isSome_iff_eq_none, given, not_exists]
  · rw [exists_and_left]
    exact and_congr_right fun at_j => isSome_default?_sourced all (List.mem_of_getElem? at_j)

end Gaps

section Reports

/-- **What is reported of a declaration**, and what becomes of it. If some site has several
defaults, every such site is reported, and nothing else. Otherwise, if some default fails, every
failure is reported, and nothing else. Otherwise the first gap is reported if there is one and
overloads are wanted. Only if nothing is reported there is a plan. -/
inductive Reports (g : Generator) (c : DeclaredCallable) : Outcome → Prop
  | crowded {reports : List Diagnostic} (crowded : c.IsCrowded)
      (listed : OneForEach (ReportsSite c.toTarget.display) c.sites reports) :
      Reports g c { target := c.toTarget.display, plan := none, diagnostics := reports }
  | failing {reports : List Diagnostic} (uncrowded : ¬ c.IsCrowded)
      (failing : ∃ p ∈ c.parameters, ∃ d, g.ReportsFailure c p d)
      (listed : OneForEach (g.ReportsFailure c) c.parameters reports) :
      Reports g c { target := c.toTarget.display, plan := none, diagnostics := reports }
  | gap {i : Nat} {p : DeclaredParameter} (uncrowded : ¬ c.IsCrowded)
      (resolved : ∀ p ∈ c.parameters, ∀ d, ¬ g.ReportsFailure c p d) (mode : c.mode = .overloaded)
      (least : IsLeast {i | c.HasGap i} i) (at_i : c.parameters[i]? = some p) :
      Reports g c
        { target := c.toTarget.display
          plan := none
          diagnostics :=
            [{ severity := .error
               target := c.toTarget.display
               parameter := none
               span := ⟨0, 0, 0⟩
               problem := .structural (.nonConsecutiveDefault c.toTarget.display i p.name) }] }
  | planned {plan : Plan} (uncrowded : ¬ c.IsCrowded)
      (resolved : ∀ p ∈ c.parameters, ∀ d, ¬ g.ReportsFailure c p d)
      (trailing : c.mode = .overloaded → ∀ i, ¬ c.HasGap i) :
      Reports g c { target := c.toTarget.display, plan := some plan, diagnostics := [] }

theorem reports_of_resolved (uncrowded : ¬ c.IsCrowded)
    (resolved : ∀ p ∈ c.parameters, ∀ d, ¬ g.ReportsFailure c p d) :
    g.Reports c (g.outcomeAlone (.declared c)) := by
  have single := DeclaredCallable.duplicates_eq_nil_iff_not_isCrowded.2 uncrowded
  have all := resolvesAll_iff.2 resolved
  have fine : g.defaultErrors c = [] :=
    defaultErrors_eq_nil_iff.2 ⟨DeclaredCallable.duplicates_eq_nil_iff.1 single, all⟩
  have gaps : IsGap (g.resolved c) = c.HasGap :=
    funext fun i => propext (isGap_resolved_iff all)
  cases mode : c.mode with
  | named =>
    rw [outcomeAlone_named fine mode]
    exact .planned uncrowded resolved fun other => by cases mode.symm.trans other
  | overloaded =>
    rw [outcomeAlone_overloaded fine mode]
    cases made : overloadsOf c.toTarget (g.resolved c) with
    | ok all =>
      have trailing := (overloadsOf_eq_ok_iff.1 made).1
      rw [gaps] at trailing
      exact .planned uncrowded resolved fun _ => trailing
    | error error =>
      obtain ⟨i, p, least, at_i, rfl⟩ := overloadsOf_eq_error_iff.1 made
      rw [gaps] at least
      obtain ⟨declared, found, same⟩ := exists_declared_of_resolved at_i
      rw [← same]
      exact .gap uncrowded resolved mode least found

/-- **What is reported of a declaration alone**, at every stage. -/
theorem reports_outcomeAlone (g : Generator) (c : DeclaredCallable) :
    g.Reports c (g.outcomeAlone (.declared c)) := by
  by_cases crowded : c.IsCrowded
  · have several : c.duplicates ≠ [] := fun none =>
      DeclaredCallable.duplicates_eq_nil_iff_not_isCrowded.1 none crowded
    have errors : g.defaultErrors c = c.duplicates := if_neg several
    rw [outcomeAlone_of_defaultErrors (errors ▸ several), errors]
    exact .crowded crowded c.oneForEach_duplicates
  · have single := DeclaredCallable.duplicates_eq_nil_iff_not_isCrowded.2 crowded
    have errors : g.defaultErrors c = g.resolutionErrors c := if_pos single
    by_cases failing : ∃ p ∈ c.parameters, ∃ d, g.ReportsFailure c p d
    · have wrong : g.resolutionErrors c ≠ [] := by
        rw [ne_eq, (g.oneForEach_resolutionErrors c).eq_nil_iff]
        push Not
        exact failing
      rw [outcomeAlone_of_defaultErrors (errors ▸ wrong), errors]
      exact .failing crowded failing (g.oneForEach_resolutionErrors c)
    · push Not at failing
      exact reports_of_resolved crowded failing

/-- **Every problem of a declaration is reported once, at its stage and in order.** For any
generator and any declared callable run alone, the outcome is what `Reports` says. And unless some
site has several defaults, sorting them out keeps the parameters and the target of the
declaration. -/
theorem reports_single (g : Generator) (c : DeclaredCallable) :
    (∃ o, (g.run (.single (.declared c))).outcomes = [o] ∧ g.Reports c o) ∧
      (¬ c.IsCrowded → ∃ s, c.toSourced = .ok s ∧ c.SourcedAs s) := by
  refine ⟨⟨_, outcomes_single g _, g.reports_outcomeAlone c⟩, fun uncrowded => ?_⟩
  have single := DeclaredCallable.duplicates_eq_nil_iff_not_isCrowded.2 uncrowded
  exact ⟨c.effective, if_pos single, c.sourcedAs_effective⟩

end Reports

end Generator

end DefaultArgs

import DefaultArgs.Callable
import Mathlib.Data.List.Basic
import Mathlib.Logic.Function.Basic

/-!
# Which signatures share an identity

A hash is no name: different methods can share one. This is what the hashes keep apart.

## Main definitions

* `Callable.seed c`: what the identity of a method knows of its owner and its name
* `Xxh64.Separates texts`: different texts of the list have different digests
* `DifferOnce l l'`: the lists differ in one element

## Main results

* `mixFrom_injective`: the same parameters keep different hashes apart
* `hash_target_eq_iff`: methods with the same parameter types share an identity exactly if they
  start alike
* `seed_exchanged`, `seed_selfNamed`: methods that always start alike
* `shared_identity_iff`: when two methods share an identity
* `shared_identity_of_exchanged_names`: an identity does not determine the method
* `differOnce_of_existsUnique`: the same by positions
* `mixFrom_ne_of_differOnce`: mixing keeps such lists apart
* `signatures_apart`: no hash is shared after one change of a signature
-/

namespace DefaultArgs

/-! ## Mixing

A signature's hash starts with the owner and the name, and then every parameter type is mixed in:
the hash is multiplied by an odd factor, and the marked type is added. An odd factor has an inverse
modulo the number of words, so no step loses anything, and after any parameters the hash still tells
what it started with. What is lost is lost at the start: the hash of a method starts with an
exclusive or of its owner and its name, which does not know which of the two is which.
-/

/-- Different texts of the list have different digests. -/
def Xxh64.Separates (texts : List String) : Prop :=
  ∀ a ∈ texts, ∀ b ∈ texts, Xxh64.ofString a = Xxh64.ofString b → a = b

instance (texts : List String) : Decidable (Xxh64.Separates texts) :=
  inferInstanceAs
    (Decidable (∀ a ∈ texts, ∀ b ∈ texts, Xxh64.ofString a = Xxh64.ofString b → a = b))

namespace Identity

/-- The factor that undoes the separator. -/
def separatorInverse : UInt64 := 0xd3f20f0a40208825

theorem separator_mul_inverse : separator * separatorInverse = 1 := by decide

theorem mul_separator_injective : Function.Injective fun hash : UInt64 => hash * separator := by
  intro a b same
  have undone : a * separator * separatorInverse = b * separator * separatorInverse :=
    congrArg (· * separatorInverse) same
  simpa only [UInt64.mul_assoc, separator_mul_inverse, UInt64.mul_one] using undone

/-- **The same parameters keep different hashes apart**, however many there are. The later
parameters keep two sums apart, and the same marked type was added to both. -/
theorem mixFrom_injective (position : Nat) (params : List Identity) :
    Function.Injective fun hash => mixFrom position hash params := by
  induction params generalizing position with
  | nil => exact fun _ _ same => same
  | cons param rest ih =>
    intro a b same
    have sums : a * separator + (positionMarker position ^^^ param.bits) =
        b * separator + (positionMarker position ^^^ param.bits) := ih (position + 1) same
    exact mul_separator_injective ((UInt64.add_left_inj _).1 sums)

theorem ofMethod_eq_iff {owner owner' : Identity} {name name' : String} {params : List Identity} :
    ofMethod owner name params = ofMethod owner' name' params ↔
      owner.bits ^^^ Xxh64.ofString name = owner'.bits ^^^ Xxh64.ofString name' := by
  have bits : ofMethod owner name params = ofMethod owner' name' params ↔
      methodMarker ^^^ owner.bits ^^^ Xxh64.ofString name =
        methodMarker ^^^ owner'.bits ^^^ Xxh64.ofString name' := by
    rw [ofMethod, ofMethod, Identity.mk.injEq]
    exact (mixFrom_injective 0 params).eq_iff
  rw [bits, UInt64.xor_assoc, UInt64.xor_assoc, UInt64.xor_right_inj]

end Identity

/-- What the identity of a method knows of its owner and its name. -/
def Callable.seed (c : Callable) : UInt64 :=
  Xxh64.ofString c.owner.display ^^^ Xxh64.ofString c.name

/-- **Methods with the same parameter types share an identity exactly if they start alike.** -/
theorem Callable.hash_target_eq_iff {c d : Callable} {params params' : List Parameter}
    (method : c.kind = .method) (method' : d.kind = .method)
    (types : params.map Parameter.valueType = params'.map Parameter.valueType) :
    (c.target params).hash = (d.target params').hash ↔ c.seed = d.seed := by
  have identities : params.map (fun p => p.valueType.identity) =
      params'.map fun p => p.valueType.identity := by
    have mapped := congrArg (List.map ValueType.identity) types
    simpa only [List.map_map, Function.comp_def] using mapped
  simp only [Callable.target, Callable.hash, method, method', identities]
  rw [Identity.ofMethod_eq_iff, seed, seed, QualifiedName.identity, QualifiedName.identity,
    Identity.ofName, Identity.ofName, UInt64.xor_assoc, UInt64.xor_assoc, UInt64.xor_right_inj]

/-! ## Methods that share an identity

An identity is meant to tell methods apart: targets of one identity are taken for one target and get
one builder. Suppose that the digest tells the owners and the names apart. If two methods with the
same parameter types have the same owner or the same name, their identities are equal only if they
have both. But the digests of the owner and of the name are joined by an exclusive or, so methods
that differ in both can start alike, and some always do: a method whose owner and name are
exchanged, and any two methods that are named like their owners.
-/

namespace Callable

variable {c d : Callable} {params params' : List Parameter}

/-- Methods whose owners and names are exchanged start alike. -/
theorem seed_exchanged (owner : c.owner.display = d.name) (name : c.name = d.owner.display) :
    c.seed = d.seed := by
  rw [seed, seed, owner, name, UInt64.xor_comm]

/-- Methods that are named like their owners start alike: nothing is left of either name. -/
theorem seed_selfNamed (self : c.owner.display = c.name) (self' : d.owner.display = d.name) :
    c.seed = d.seed := by
  rw [seed, seed, self, self', UInt64.xor_self, UInt64.xor_self]

section Separated

variable (separates : Xxh64.Separates [c.owner.display, d.owner.display, c.name, d.name])

include separates

/-- Methods of one owner that start alike have one name. -/
theorem name_eq_of_seed_eq (alike : c.seed = d.seed) (owner : c.owner.display = d.owner.display) :
    c.name = d.name := by
  rw [seed, seed, owner, UInt64.xor_right_inj] at alike
  exact separates _ (by simp) _ (by simp) alike

/-- Methods of one name that start alike have one owner. -/
theorem owner_eq_of_seed_eq (alike : c.seed = d.seed) (name : c.name = d.name) :
    c.owner.display = d.owner.display := by
  rw [seed, seed, name, UInt64.xor_left_inj] at alike
  exact separates _ (by simp) _ (by simp) alike

/-- **When two methods share an identity.** Two methods with the same parameter types, whose owners
and names the digest tells apart, share an identity exactly if they have the same owner and the same
name, or if they differ in both and start alike. They do start alike if owner and name are
exchanged, and if each method is named like its owner. -/
theorem shared_identity_iff (method : c.kind = .method) (method' : d.kind = .method)
    (types : params.map Parameter.valueType = params'.map Parameter.valueType) :
    ((c.target params).hash = (d.target params').hash ↔
      (c.owner.display = d.owner.display ∧ c.name = d.name) ∨
        (c.owner.display ≠ d.owner.display ∧ c.name ≠ d.name ∧ c.seed = d.seed)) ∧
      (c.owner.display = d.name → c.name = d.owner.display → c.seed = d.seed) ∧
      (c.owner.display = c.name → d.owner.display = d.name → c.seed = d.seed) := by
  refine ⟨?_, seed_exchanged, seed_selfNamed⟩
  rw [hash_target_eq_iff method method' types]
  constructor
  · intro alike
    by_cases owner : c.owner.display = d.owner.display
    · exact .inl ⟨owner, name_eq_of_seed_eq separates alike owner⟩
    · have name : c.name ≠ d.name := fun same => owner (owner_eq_of_seed_eq separates alike same)
      exact .inr ⟨owner, name, alike⟩
  · rintro (⟨owner, name⟩ | ⟨-, -, alike⟩)
    · rw [seed, seed, owner, name]
    · exact alike

end Separated

section Samples

/-- A method that is named after a type twice as long as its own. -/
def pingTwice : Callable :=
  .method (.global "Ping") "PingPing" .void

/-- A method of the longer type, named after the shorter one. -/
def twicePing : Callable :=
  .method (.global "PingPing") "Ping" .void

end Samples

/-- The two methods differ in both, and still they share an identity. -/
theorem shared_identity_pingTwice :
    Xxh64.Separates [pingTwice.owner.display, twicePing.owner.display, pingTwice.name,
        twicePing.name] ∧
      (pingTwice.target []).hash = (twicePing.target []).hash := by
  have separates : Xxh64.Separates [pingTwice.owner.display, twicePing.owner.display,
      pingTwice.name, twicePing.name] := by decide
  obtain ⟨shared, exchanged, -⟩ :=
    @shared_identity_iff pingTwice twicePing [] [] separates rfl rfl rfl
  have alike : pingTwice.seed = twicePing.seed := exchanged (by decide) (by decide)
  exact ⟨separates, shared.2 (.inr ⟨by decide, by decide, alike⟩)⟩

/-- **An identity does not determine the method**, even if the digest tells all names apart: owner
and name can be exchanged. Both methods then get the builder of one name. -/
theorem shared_identity_of_exchanged_names :
    ¬ ∀ (c d : Callable) (params : List Parameter), c.kind = .method → d.kind = .method →
      Xxh64.Separates [c.owner.display, d.owner.display, c.name, d.name] →
      (c.target params).hash = (d.target params).hash →
      c.owner.display = d.owner.display ∧ c.name = d.name := by
  intro determined
  have alike : pingTwice.seed = twicePing.seed := seed_exchanged (by decide) (by decide)
  have shared : (pingTwice.target []).hash = (twicePing.target []).hash :=
    (hash_target_eq_iff rfl rfl rfl).2 alike
  have same := determined pingTwice twicePing [] rfl rfl (by decide) shared
  exact absurd same.2 (by decide)

end Callable

/-! ## Signatures that differ in one place

Two signatures of one owner can share a hash by accident, but not if they differ in a single
parameter. The step at this parameter adds two different numbers to one number, and no later step
brings the two results together again, since the parameters behind it are the same. It does not
matter where the parameter is: a position beyond the markers of the list has a marker as well, and
both signatures have the same one. Likewise different owners are never brought together by the same
parameters.
-/

/-- The lists differ in one element, and are of one length. -/
inductive DifferOnce {α : Type} : List α → List α → Prop
  | here {a b : α} (ne : a ≠ b) (rest : List α) : DifferOnce (a :: rest) (b :: rest)
  | there (same : α) {l l' : List α} (inner : DifferOnce l l') :
      DifferOnce (same :: l) (same :: l')

/-- Lists of one length that differ at exactly one position differ in one element. -/
theorem differOnce_of_existsUnique {α : Type} {l l' : List α} (length : l.length = l'.length)
    (once : ∃! i : ℕ, l[i]? ≠ l'[i]?) : DifferOnce l l' := by
  induction l generalizing l' with
  | nil =>
    obtain ⟨i, differ, -⟩ := once
    rw [List.eq_nil_of_length_eq_zero length.symm] at differ
    exact absurd rfl differ
  | cons a rest ih =>
    obtain ⟨b, rest', rfl⟩ := List.exists_cons_of_length_eq_add_one length.symm
    obtain ⟨i, differ, only⟩ := once
    by_cases same : a = b
    · subst same
      obtain _ | i := i
      · exact absurd rfl differ
      refine .there a (ih (Nat.succ.inj length) ⟨i, differ, fun j differ' => ?_⟩)
      exact Nat.succ.inj (only (j + 1) differ')
    · have first : 0 = i := only 0 fun same' => same (Option.some.inj same')
      have equal : rest = rest' := by
        apply List.ext_getElem?
        intro j
        by_contra differ'
        have second := only (j + 1) differ'
        rw [← first] at second
        cases second
      exact equal ▸ .here same rest

namespace Identity

variable {params params' : List Identity}

/-- **Mixing keeps lists apart that differ in one parameter**, wherever it is. The parameters behind
it keep the two sums apart, so they would have the same marked type in them. -/
theorem mixFrom_ne_of_differOnce (differ : DifferOnce params params') (position : ℕ)
    (hash : UInt64) : mixFrom position hash params ≠ mixFrom position hash params' := by
  induction differ generalizing position hash with
  | @here a b ne rest =>
    intro shared
    have sums : hash * separator + (positionMarker position ^^^ a.bits) =
        hash * separator + (positionMarker position ^^^ b.bits) :=
      mixFrom_injective (position + 1) rest shared
    rw [UInt64.add_right_inj, UInt64.xor_right_inj] at sums
    exact ne (congrArg mk sums)
  | there same inner ih => exact ih _ _

theorem ofConstructor_injective (params : List Identity) :
    Function.Injective fun owner => ofConstructor owner params := by
  intro owner owner' shared
  have seeds := mixFrom_injective 0 params (congrArg bits shared)
  exact congrArg mk ((UInt64.xor_right_inj _).1 seeds)

theorem ofMethod_injective (name : String) (params : List Identity) :
    Function.Injective fun owner => ofMethod owner name params := by
  intro owner owner' shared
  have seeds := ofMethod_eq_iff.1 shared
  exact congrArg mk ((UInt64.xor_left_inj _).1 seeds)

/-- **Signatures that differ in one place share no hash.** For one owner and one name, parameter
lists of one length that differ at exactly one position have different hashes, of constructors and
of methods. For one list of parameters and one name, so have different owners. -/
theorem signatures_apart :
    (∀ owner name params params', params.length = params'.length →
        (∃! i : ℕ, params[i]? ≠ params'[i]?) →
        ofConstructor owner params ≠ ofConstructor owner params' ∧
          ofMethod owner name params ≠ ofMethod owner name params') ∧
      ∀ owner owner' name params, owner ≠ owner' →
        ofConstructor owner params ≠ ofConstructor owner' params ∧
          ofMethod owner name params ≠ ofMethod owner' name params := by
  constructor
  · intro owner name params params' length once
    have differ := differOnce_of_existsUnique length once
    have apart := mixFrom_ne_of_differOnce differ 0
    exact ⟨fun shared => apart _ (congrArg bits shared), fun shared =>
      apart _ (congrArg bits shared)⟩
  · intro owner owner' name params other
    exact ⟨(ofConstructor_injective params).ne other, (ofMethod_injective name params).ne other⟩

section Samples

/-- More parameters than there are markers, all of one type. -/
def wideParameters : List Identity :=
  List.replicate 20 (ofName "int")

end Samples

/-- The eighteenth of twenty parameters is behind the markers of the list, and still it counts. -/
theorem signatures_apart_wideParameters :
    ofConstructor (ofName "Wide") wideParameters ≠
        ofConstructor (ofName "Wide") (wideParameters.set 17 (ofName "long")) ∧
      ofMethod (ofName "Wide") "fill" wideParameters ≠
        ofMethod (ofName "Tall") "fill" wideParameters := by
  have once : ∃! i : ℕ, wideParameters[i]? ≠ (wideParameters.set 17 (ofName "long"))[i]? := by
    refine ⟨17, by decide, fun i differ => ?_⟩
    by_contra other
    exact differ (List.getElem?_set_ne (Ne.symm other)).symm
  have length : wideParameters.length = (wideParameters.set 17 (ofName "long")).length :=
    List.length_set.symm
  obtain ⟨changed, moved⟩ := signatures_apart
  exact ⟨(changed (ofName "Wide") "fill" _ _ length once).1,
    (moved (ofName "Wide") (ofName "Tall") "fill" wideParameters (by decide)).2⟩

end Identity

end DefaultArgs

import DefaultArgs.Config
import DefaultArgs.Proofs.QualifiedName
import Mathlib.Data.List.Induction
import Mathlib.Data.List.Nodup
import Mathlib.Logic.Function.Basic

/-!
# What options say

Options are read pair by pair, and each valid pair replaces one setting. The result can be told
without the reading: it is the error of the first pair with which something is wrong, and without
such a pair, each setting has the last value that is given for it. So only two things can be seen of
a list, its refused pairs in their order and the last values. Pairs for other programs are in
neither, and valid pairs with different keys do not disturb each other.

## Main definitions

* `IsDotted text`, `IsFlag text`: two of the forms
* `Config.Expects option form expected`: what an option expects of its value
* `Config.Valid pair`, `Config.Refused pair e`: the pair has what its option expects, or something
  is wrong with it
* `Config.FirstRefused pairs e`: what is wrong with the first refused pair
* `Config.lastValue? pairs option`, `Config.ofValues value?`: the last values, as settings

## Main results

* `isDottedName_iff`: the parts of a dotted sequence are its identifiers
* `IsDotted.display_parse`: the name that is read displays as it was given
* `Config.set_of_foreign`, `Config.set_of_refused`, `Config.set_of_expects`: what one pair does
* `Config.ofOptions_of_accepted`, `Config.ofOptions_of_firstRefused`: what a list of pairs does
* `Config.ofOptions_congr`: what can be seen of a list of pairs
* `Config.ofOptions_means`: what options say
-/

namespace DefaultArgs

/-! ## The forms of option values

An option expects an identifier, identifiers with full stops between them, or a truth value. Reading
looks at the parts between the full stops, and drops the empty ones when it makes a name of them. An
identifier is not empty and has no full stop in it, so the parts are the identifiers, and none of
them is dropped.
-/

section Forms

variable {text : String}

/-- The text consists of identifiers with full stops between them. -/
def IsDotted (text : String) : Prop :=
  ∃ parts : List String, parts ≠ [] ∧ (∀ part ∈ parts, isIdentifier part) ∧
    text = Text.joinDots parts

/-- The text spells a truth value. -/
def IsFlag (text : String) : Prop :=
  text = "true" ∨ text = "false"

theorem ne_empty_of_isIdentifier (identifier : isIdentifier text) : text ≠ "" := by
  rintro rfl
  cases identifier

theorem isIdentifierPart_of_mem (identifier : isIdentifier text) :
    ∀ c ∈ text.toList, isIdentifierPart c := by
  rw [isIdentifier] at identifier
  split at identifier
  · cases identifier
  · next first rest chars =>
    obtain ⟨start, parts⟩ := Bool.and_eq_true_iff.1 identifier
    have leading : isIdentifierPart first := by rw [isIdentifierPart, start, Bool.true_or]
    rw [chars]
    exact List.forall_mem_cons.2 ⟨leading, List.all_eq_true.1 parts⟩

/-- An identifier has no full stop in it. -/
theorem not_dot_mem_of_isIdentifier (identifier : isIdentifier text) : '.' ∉ text.toList := by
  intro mem
  have part := isIdentifierPart_of_mem identifier '.' mem
  have dot : isIdentifierPart '.' = false := by decide +kernel
  rw [dot] at part
  cases part

/-- Cutting a text at its full stops is enough to see whether it is a dotted sequence. -/
theorem isDottedName_iff : isDottedName text ↔ IsDotted text := by
  rw [isDottedName, List.all_eq_true]
  constructor
  · intro identifiers
    exact ⟨_, Text.splitDots_ne_nil text, identifiers, (Text.joinDots_splitDots text).symm⟩
  · rintro ⟨parts, nonempty, identifiers, rfl⟩
    rwa [Text.splitDots_joinDots nonempty fun part mem =>
      not_dot_mem_of_isIdentifier (identifiers part mem)]

/-- No segment of a dotted sequence is dropped, so the name that is read displays as the text. -/
theorem IsDotted.display_parse (dotted : IsDotted text) :
    (QualifiedName.parse text).display = text := by
  have identifiers := List.all_eq_true.1 (isDottedName_iff.2 dotted)
  have kept : QualifiedName.pathOf text = Text.splitDots text := by
    apply List.filter_eq_self.2
    intro part mem
    exact decide_eq_true (ne_empty_of_isIdentifier (identifiers part mem))
  rw [QualifiedName.display_parse, kept, Text.joinDots_splitDots]

theorem readIdentifier?_of_isIdentifier (identifier : isIdentifier text) :
    readIdentifier? text = some text :=
  if_pos identifier

theorem readDottedName?_of_isDotted (dotted : IsDotted text) :
    readDottedName? text = some (.parse text) :=
  if_pos (isDottedName_iff.2 dotted)

theorem readFlag?_of_isFlag (flag : IsFlag text) :
    readFlag? text = some (decide (text = "true")) := by
  rcases flag with rfl | rfl <;> rfl

theorem readIdentifier?_eq_none (other : ¬isIdentifier text) : readIdentifier? text = none :=
  if_neg other

theorem readDottedName?_eq_none (other : ¬IsDotted text) : readDottedName? text = none :=
  if_neg (mt isDottedName_iff.1 other)

theorem readFlag?_eq_none (other : ¬IsFlag text) : readFlag? text = none := by
  rw [IsFlag, not_or] at other
  rw [readFlag?, if_neg other.1, if_neg other.2]

end Forms

/-! ## Pairs of options -/

namespace Config

variable {config : Config} {pair : String × String} {pairs before after : List (String × String)}
  {text option value expected : String} {form : String → Prop} {e : ConfigError}

section Pairs

/-- What an option expects of its value, and how this is put into words. -/
inductive Expects : String → (String → Prop) → String → Prop
  | entryPoint : Expects "entryPoint" (fun value => isIdentifier value) "an identifier"
  | builderSuffix : Expects "builderSuffix" (fun value => isIdentifier value) "an identifier"
  | utilityNamespace : Expects "utilityNamespace" IsDotted "a dotted name"
  | parallel : Expects "parallel" IsFlag "true or false"
  | warnUnmatched : Expects "warnUnmatched" IsFlag "true or false"

/-- The key of an option. -/
def keyOf (option : String) : String :=
  optionPrefix ++ option

/-- The key is meant for the generator. -/
def IsMeant (key : String) : Prop :=
  ∃ option, key = keyOf option

/-- The pair gives an option a value that it accepts. -/
inductive Valid : String × String → Prop
  | intro {option value expected : String} {form : String → Prop}
      (expects : Expects option form expected) (fits : form (Text.trim value)) :
      Valid (keyOf option, value)

/-- **What is wrong with a pair**: it has a key that is meant for the generator, but no option has
it, or the option expects another value. -/
inductive Refused : String × String → ConfigError → Prop
  | unknown {option value : String} (unlisted : ∀ form expected, ¬Expects option form expected) :
      Refused (keyOf option, value) (.unknownOption (keyOf option))
  | invalid {option value expected : String} {form : String → Prop}
      (expects : Expects option form expected) (wrong : ¬form (Text.trim value)) :
      Refused (keyOf option, value) (.invalidValue (keyOf option) (Text.trim value) expected)

theorem keyOf_injective : Function.Injective keyOf := by
  intro a b same
  have lists := congrArg String.toList same
  rw [keyOf, keyOf, String.toList_append, String.toList_append, List.append_cancel_left_eq] at lists
  exact String.toList_inj.1 lists

/-- Something is wrong with the pair. -/
def IsRefused (pair : String × String) : Prop :=
  ∃ e, Refused pair e

/-- A key is foreign, or its value is accepted, or something is wrong with the pair. -/
theorem foreign_or_valid_or_refused (pair : String × String) :
    ¬IsMeant pair.1 ∨ Valid pair ∨ IsRefused pair := by
  obtain ⟨key, value⟩ := pair
  by_cases meant : IsMeant key
  · obtain ⟨option, rfl⟩ := meant
    by_cases listed : ∃ form expected, Expects option form expected
    · obtain ⟨form, expected, expects⟩ := listed
      by_cases fits : form (Text.trim value)
      · exact .inr (.inl (.intro expects fits))
      · exact .inr (.inr ⟨_, .invalid expects fits⟩)
    · push Not at listed
      exact .inr (.inr ⟨_, .unknown listed⟩)
  · exact .inl meant

end Pairs

section Steps

/-- The settings that the values of the options describe; without a value, the default stays. -/
def ofValues (value? : String → Option String) : Config where
  entryPoint := (value? "entryPoint").getD "create"
  builderSuffix := (value? "builderSuffix").getD "Builder"
  utilityScope := ((value? "utilityNamespace").map .parse).getD (.global "Defaults")
  parallel := ((value? "parallel").map fun value => decide (value = "true")).getD false
  warnUnmatched := ((value? "warnUnmatched").map fun value => decide (value = "true")).getD true

/-- A foreign pair changes nothing. -/
theorem set_of_foreign (foreign : ¬IsMeant pair.1) (config : Config) :
    config.set pair = .ok config := by
  rw [set]
  split
  · rfl
  · next option key =>
    refine absurd ⟨String.ofList option, ?_⟩ foreign
    rw [← String.toList_inj, Text.after?_eq_some_iff.1 key, keyOf, String.toList_append,
      String.toList_ofList]

theorem set_keyOf (config : Config) (option value : String) :
    config.set (keyOf option, value) =
      config.setOption (keyOf option) option (Text.trim value) := by
  have key : Text.after? optionPrefix.toList (keyOf option).toList = some option.toList :=
    Text.after?_eq_some_iff.2 String.toList_append
  rw [set, key]
  simp only [String.ofList_toList]

/-- A refused pair is an error, whatever was read before. -/
theorem set_of_refused (refused : Refused pair e) (config : Config) :
    config.set pair = .error e := by
  cases refused with
  | @unknown option value unlisted =>
    rw [set_keyOf]
    unfold setOption
    split
    · exact absurd .entryPoint (unlisted _ _)
    · exact absurd .builderSuffix (unlisted _ _)
    · exact absurd .utilityNamespace (unlisted _ _)
    · exact absurd .parallel (unlisted _ _)
    · exact absurd .warnUnmatched (unlisted _ _)
    · rfl
  | invalid expects wrong =>
    rw [set_keyOf]
    cases expects with
    | entryPoint | builderSuffix =>
      simp only [setOption, expect, readIdentifier?_eq_none wrong]
      rfl
    | utilityNamespace => simp only [setOption, expect, readDottedName?_eq_none wrong]; rfl
    | parallel | warnUnmatched => simp only [setOption, expect, readFlag?_eq_none wrong]; rfl

/-- A valid pair replaces the value of its option. This holds for any values so far, since the other
settings stay. -/
theorem set_of_expects (expects : Expects option form expected) (fits : form (Text.trim value))
    (value? : String → Option String) : (ofValues value?).set (keyOf option, value) =
      .ok (ofValues (Function.update value? option (some (Text.trim value)))) := by
  rw [set_keyOf]
  cases expects with
  | entryPoint | builderSuffix =>
    simp only [setOption, expect, readIdentifier?_of_isIdentifier fits]
    simp [ofValues, Function.update, Except.map]
  | utilityNamespace =>
    simp only [setOption, expect, readDottedName?_of_isDotted fits]
    simp [ofValues, Function.update, Except.map]
  | parallel | warnUnmatched =>
    simp only [setOption, expect, readFlag?_of_isFlag fits]
    simp [ofValues, Function.update, Except.map]

end Steps

section Runs

/-- The value of the last pair for an option, without white space around it. -/
def lastValue? (pairs : List (String × String)) (option : String) : Option String :=
  (pairs.filter fun p => p.1 = keyOf option).getLast?.map fun p => Text.trim p.2

/-- The first pair with which something is wrong, and what. -/
def FirstRefused (pairs : List (String × String)) (e : ConfigError) : Prop :=
  ∃ before pair after, pairs = before ++ pair :: after ∧ (∀ p ∈ before, ¬IsRefused p) ∧
    Refused pair e

theorem lastValue?_concat_of_foreign (foreign : ¬IsMeant pair.1)
    (pairs : List (String × String)) : lastValue? (pairs ++ [pair]) = lastValue? pairs := by
  funext option
  have other : pair.1 ≠ keyOf option := fun key => foreign ⟨option, key⟩
  simp [lastValue?, other]

theorem lastValue?_concat_keyOf (pairs : List (String × String)) (option value : String) :
    lastValue? (pairs ++ [(keyOf option, value)]) =
      Function.update (lastValue? pairs) option (some (Text.trim value)) := by
  funext asked
  rw [Function.update_apply]
  split
  · next same =>
    subst same
    simp [lastValue?]
  · next other =>
    have differ : keyOf option ≠ keyOf asked := fun key => other (keyOf_injective key).symm
    simp [lastValue?, differ]

theorem exists_mem_of_lastValue? (last : lastValue? pairs option = some text) :
    ∃ value, (keyOf option, value) ∈ pairs ∧ Text.trim value = text := by
  obtain ⟨⟨key, value⟩, found, trimmed⟩ := Option.map_eq_some_iff.1 last
  obtain ⟨mem, same⟩ := List.mem_filter.1 (List.mem_of_getLast? found)
  obtain rfl : key = keyOf option := of_decide_eq_true same
  exact ⟨value, mem, trimmed⟩

theorem ofOptions_append_cons (earlier : ofOptions before = .ok config) (pair : String × String)
    (after : List (String × String)) :
    ofOptions (before ++ pair :: after) = (config.set pair).bind (after.foldlM set) := by
  rw [ofOptions] at earlier ⊢
  rw [List.foldlM_append, earlier]
  rfl

/-- Without a refused pair, the last values are the settings. The induction is on the end of the
list, since the last pair is read last. -/
theorem ofOptions_of_accepted (accepted : ∀ p ∈ pairs, ¬IsRefused p) :
    ofOptions pairs = .ok (ofValues (lastValue? pairs)) := by
  induction pairs using List.reverseRecOn with
  | nil => rfl
  | append_singleton pairs pair ih =>
    have earlier := ih fun p mem => accepted p (List.mem_append_left _ mem)
    rw [ofOptions_append_cons earlier]
    rcases foreign_or_valid_or_refused pair with foreign | ⟨expects, fits⟩ | refused
    · rw [set_of_foreign foreign, lastValue?_concat_of_foreign foreign]
      rfl
    · rw [set_of_expects expects fits, lastValue?_concat_keyOf]
      rfl
    · exact absurd refused (accepted pair List.mem_concat_self)

/-- Behind the first refused pair nothing is read. -/
theorem ofOptions_of_firstRefused (first : FirstRefused pairs e) : ofOptions pairs = .error e := by
  obtain ⟨before, pair, after, rfl, accepted, refused⟩ := first
  rw [ofOptions_append_cons (ofOptions_of_accepted accepted), set_of_refused refused]
  rfl

theorem exists_firstRefused_or (pairs : List (String × String)) :
    (∃ e, FirstRefused pairs e) ∨ ∀ p ∈ pairs, ¬IsRefused p := by
  induction pairs with
  | nil => exact .inr nofun
  | cons pair rest ih =>
    by_cases wrong : IsRefused pair
    · obtain ⟨e, refused⟩ := wrong
      exact .inl ⟨e, [], pair, rest, rfl, nofun, refused⟩
    rcases ih with ⟨e, before, later, after, rfl, accepted, refused⟩ | accepted
    · exact .inl ⟨e, pair :: before, later, after, rfl, List.forall_mem_cons.2 ⟨wrong, accepted⟩,
        refused⟩
    · exact .inr (List.forall_mem_cons.2 ⟨wrong, accepted⟩)

theorem ofOptions_eq_error_iff : ofOptions pairs = .error e ↔ FirstRefused pairs e := by
  refine ⟨fun failed => ?_, ofOptions_of_firstRefused⟩
  rcases exists_firstRefused_or pairs with ⟨e', first⟩ | accepted
  · rw [ofOptions_of_firstRefused first] at failed
    cases failed
    exact first
  · rw [ofOptions_of_accepted accepted] at failed
    cases failed

theorem ofOptions_eq_ok_iff : ofOptions pairs = .ok config ↔
    (∀ p ∈ pairs, ¬IsRefused p) ∧ config = ofValues (lastValue? pairs) := by
  constructor
  · intro read
    rcases exists_firstRefused_or pairs with ⟨e, first⟩ | accepted
    · rw [ofOptions_of_firstRefused first] at read
      cases read
    · rw [ofOptions_of_accepted accepted] at read
      exact ⟨accepted, (Except.ok.inj read).symm⟩
  · rintro ⟨accepted, rfl⟩
    exact ofOptions_of_accepted accepted

/-- The name that was read for the scope of generated code displays as it was given. -/
theorem display_utilityScope (read : ofOptions pairs = .ok config)
    (given : lastValue? pairs "utilityNamespace" = some text) :
    config.utilityScope.display = text := by
  obtain ⟨accepted, rfl⟩ := ofOptions_eq_ok_iff.1 read
  have scope : (ofValues (lastValue? pairs)).utilityScope = .parse text := by
    rw [ofValues, given]
    rfl
  obtain ⟨value, mem, rfl⟩ := exists_mem_of_lastValue? given
  rw [scope]
  apply IsDotted.display_parse
  by_contra wrong
  exact accepted _ mem ⟨_, .invalid .utilityNamespace wrong⟩

end Runs

section Order

variable {pairs' middle middle' : List (String × String)} {key : String}

theorem isMeant_of_isRefused (refused : IsRefused pair) : IsMeant pair.1 := by
  obtain ⟨e, refused⟩ := refused
  cases refused <;> exact ⟨_, rfl⟩

theorem Valid.not_isRefused (valid : Valid pair) : ¬IsRefused pair := by
  rintro ⟨e, refused⟩
  cases valid with
  | intro expects fits =>
    have failed := set_of_refused refused (ofValues fun _ => none)
    rw [set_of_expects expects fits] at failed
    cases failed

/-- What a finer filter keeps is decided by what a coarser one keeps. -/
theorem filter_eq_of_filter_eq {α : Type} {l l' : List α} {p q : α → Bool}
    (finer : ∀ a, p a → q a) (same : l'.filter q = l.filter q) : l'.filter p = l.filter p := by
  have twice (l : List α) : (l.filter q).filter p = l.filter p := by
    rw [List.filter_filter]
    exact List.filter_congr fun a _ => Bool.and_eq_left_iff_imp.2 (finer a)
  rw [← twice l', same, twice l]

/-- If no key is there twice, the order does not show in the pairs of one key. Only a swap could
show, and of two neighbours at most one has the key. -/
theorem filter_key_of_perm (perm : pairs'.Perm pairs) (nodup : (pairs.map Prod.fst).Nodup) :
    (pairs'.filter fun p => p.1 = key) = pairs.filter fun p => p.1 = key := by
  induction perm with
  | nil => rfl
  | cons pair rest ih =>
    rw [List.filter_cons, List.filter_cons, ih (List.nodup_cons.1 nodup).2]
  | swap a b rest =>
    have differ : a.1 ≠ b.1 := fun same => (List.nodup_cons.1 nodup).1 (by simp [same])
    by_cases first : a.1 = key
    · have second : b.1 ≠ key := fun same => differ (first.trans same.symm)
      simp [first, second]
    · simp [List.filter_cons, first]
  | trans inner outer ih ih' =>
    have before := (outer.map Prod.fst).nodup_iff.2 nodup
    exact (ih before).trans (ih' nodup)

open Classical in
theorem firstRefused_iff : FirstRefused pairs e ↔
    ∃ pair, (pairs.filter fun p => IsRefused p).head? = some pair ∧ Refused pair e := by
  simp only [List.head?_filter, List.find?_eq_some_iff_append]
  constructor
  · rintro ⟨before, pair, after, split, accepted, refused⟩
    exact ⟨pair, ⟨decide_eq_true ⟨e, refused⟩, before, after, split, by simpa using accepted⟩,
      refused⟩
  · rintro ⟨pair, ⟨-, before, after, split, accepted⟩, refused⟩
    exact ⟨before, pair, after, split, by simpa using accepted, refused⟩

open Classical in
/-- **What the settings depend on**: the refused pairs in their order, and if there are none, the
last values. -/
theorem ofOptions_congr
    (refused : (pairs'.filter fun p => IsRefused p) = pairs.filter fun p => IsRefused p)
    (values : (∀ p ∈ pairs, ¬IsRefused p) → (∀ p ∈ pairs', ¬IsRefused p) →
      lastValue? pairs' = lastValue? pairs) : ofOptions pairs' = ofOptions pairs := by
  rcases exists_firstRefused_or pairs with ⟨e, first⟩ | accepted
  · have first' : FirstRefused pairs' e := by
      rw [firstRefused_iff, refused]
      exact firstRefused_iff.1 first
    rw [ofOptions_of_firstRefused first, ofOptions_of_firstRefused first']
  · have none : (pairs.filter fun p => IsRefused p) = [] :=
      List.filter_eq_nil_iff.2 (by simpa using accepted)
    have accepted' : ∀ p ∈ pairs', ¬IsRefused p := by
      simpa using List.filter_eq_nil_iff.1 (refused.trans none)
    rw [ofOptions_of_accepted accepted, ofOptions_of_accepted accepted', values accepted accepted']

open Classical in
/-- Pairs with other keys do not matter. -/
theorem ofOptions_eq_of_meant
    (meant : (pairs'.filter fun p => IsMeant p.1) = pairs.filter fun p => IsMeant p.1) :
    ofOptions pairs' = ofOptions pairs := by
  apply ofOptions_congr
  · exact filter_eq_of_filter_eq (by simpa using fun _ _ => isMeant_of_isRefused) meant
  · intro _ _
    funext option
    have keys : ∀ p : String × String, p.1 = keyOf option → IsMeant p.1 := fun _ key => ⟨_, key⟩
    rw [lastValue?, lastValue?, filter_eq_of_filter_eq (by simpa using keys) meant]

/-- Valid pairs that are next to each other and have different keys may change places. None of them
is refused, so their order is not seen in an error. -/
theorem ofOptions_eq_of_perm_middle (valid : ∀ p ∈ middle, Valid p)
    (nodup : (middle.map Prod.fst).Nodup) (perm : middle'.Perm middle) :
    ofOptions (before ++ middle' ++ after) = ofOptions (before ++ middle ++ after) := by
  classical
  have valid' : ∀ p ∈ middle', Valid p := fun p mem => valid p (perm.mem_iff.1 mem)
  apply ofOptions_congr
  · have none {l : List (String × String)} (valid : ∀ p ∈ l, Valid p) :
        (l.filter fun p => IsRefused p) = [] :=
      List.filter_eq_nil_iff.2 (by simpa using fun _ _ mem => (valid _ mem).not_isRefused)
    simp only [List.filter_append, none valid, none valid']
  · intro _ _
    funext option
    simp only [lastValue?, List.filter_append, filter_key_of_perm perm nodup]

open Classical in
/-- Valid pairs may change places anywhere in a list, if no two of them have one key. -/
theorem ofOptions_eq_of_perm_valid
    (refused : (pairs'.filter fun p => IsRefused p) = pairs.filter fun p => IsRefused p)
    (nodup : ((pairs.filter fun p => Valid p).map Prod.fst).Nodup)
    (perm : (pairs'.filter fun p => Valid p).Perm (pairs.filter fun p => Valid p)) :
    ofOptions pairs' = ofOptions pairs := by
  apply ofOptions_congr refused
  intro accepted accepted'
  funext option
  have among {l : List (String × String)} (accepted : ∀ p ∈ l, ¬IsRefused p) :
      (l.filter fun p => p.1 = keyOf option) =
        (l.filter fun p => Valid p).filter fun p => p.1 = keyOf option := by
    rw [List.filter_filter]
    apply List.filter_congr
    intro p mem
    have valid : p.1 = keyOf option → Valid p := fun key =>
      (foreign_or_valid_or_refused p).resolve_left (fun foreign => foreign ⟨option, key⟩)
        |>.resolve_right (accepted p mem)
    simpa using valid
  rw [lastValue?, lastValue?, among accepted, among accepted', filter_key_of_perm perm nodup]

end Order

section Meaning

open Classical in
/-- **What options say.** Reading fails exactly with the error of the first refused pair. If no pair
is refused, every setting has the last value that is given for it, without white space around it,
and the default if there is none; the scope of generated code displays as the text that was given.
Pairs whose keys are meant for others may come and go. Valid pairs with different keys may change
places, if they are next to each other, and anywhere in a list in which no key has two of them. -/
theorem ofOptions_means (pairs : List (String × String)) :
    (∀ e, ofOptions pairs = .error e ↔ FirstRefused pairs e) ∧
      (∀ config, ofOptions pairs = .ok config ↔
        (∀ p ∈ pairs, ¬IsRefused p) ∧ config = ofValues (lastValue? pairs)) ∧
      (∀ config text, ofOptions pairs = .ok config →
        lastValue? pairs "utilityNamespace" = some text → config.utilityScope.display = text) ∧
      (∀ pairs', (pairs'.filter fun p => IsMeant p.1) = (pairs.filter fun p => IsMeant p.1) →
        ofOptions pairs' = ofOptions pairs) ∧
      (∀ before middle middle' after, pairs = before ++ middle ++ after →
        (∀ p ∈ middle, Valid p) → (middle.map Prod.fst).Nodup → middle'.Perm middle →
        ofOptions (before ++ middle' ++ after) = ofOptions pairs) ∧
      ∀ pairs', (pairs'.filter fun p => IsRefused p) = (pairs.filter fun p => IsRefused p) →
        ((pairs.filter fun p => Valid p).map Prod.fst).Nodup →
        (pairs'.filter fun p => Valid p).Perm (pairs.filter fun p => Valid p) →
        ofOptions pairs' = ofOptions pairs := by
  refine ⟨fun e => ofOptions_eq_error_iff, fun config => ofOptions_eq_ok_iff,
    fun config text => display_utilityScope, fun pairs' => ofOptions_eq_of_meant, ?_,
    fun pairs' refused nodup perm => ofOptions_eq_of_perm_valid refused nodup perm⟩
  rintro before middle middle' after rfl valid nodup perm
  exact ofOptions_eq_of_perm_middle valid nodup perm

section Samples

/-- Options of two programs, one of them given twice. -/
def mixedOptions : List (String × String) :=
  [(keyOf "parallel", "true"), ("other.flag", "on"), (keyOf "utilityNamespace", " com.acme "),
    (keyOf "parallel", "false")]

end Samples

/-- The later value counts, the white space does not, and in front of a wrong value everything may
be right. -/
theorem ofOptions_means_mixedOptions :
    (∃ config, ofOptions mixedOptions = .ok config ∧ config.parallel = false ∧
      config.utilityScope.display = "com.acme") ∧
    ofOptions (mixedOptions ++ [(keyOf "parallel", " yes"), (keyOf "mode", "fast")]) =
      .error (.invalidValue (keyOf "parallel") "yes" "true or false") := by
  have valid : ∀ p ∈ mixedOptions, ¬IsRefused p := by
    have flag : Valid (keyOf "parallel", "true") := .intro .parallel (.inl (by decide))
    have flag' : Valid (keyOf "parallel", "false") := .intro .parallel (.inr (by decide))
    have scope : Valid (keyOf "utilityNamespace", " com.acme ") :=
      .intro .utilityNamespace ⟨["com", "acme"], by decide, by decide +kernel, by decide⟩
    have foreign : ¬IsRefused ("other.flag", "on") := by
      intro refused
      obtain ⟨option, key⟩ := isMeant_of_isRefused refused
      have lists := congrArg String.toList key
      simp [keyOf, optionPrefix] at lists
    simp [mixedOptions, flag.not_isRefused, flag'.not_isRefused, scope.not_isRefused, foreign]
  obtain ⟨-, succeeds, displays, -⟩ := ofOptions_means mixedOptions
  have read := (succeeds _).2 ⟨valid, rfl⟩
  refine ⟨⟨_, read, by decide, displays _ _ read (by decide)⟩, ?_⟩
  obtain ⟨fails, -⟩ :=
    ofOptions_means (mixedOptions ++ [(keyOf "parallel", " yes"), (keyOf "mode", "fast")])
  have wrong : ¬IsFlag (Text.trim " yes") := by
    have trimmed : Text.trim " yes" = "yes" := by decide
    simp [IsFlag, trimmed]
  exact (fails _).2 ⟨mixedOptions, _, _, rfl, valid, .invalid .parallel wrong⟩

end Meaning

end Config

end DefaultArgs

import DefaultArgs.Proofs.Spelling.Distance
import DefaultArgs.Spelling

/-!
# What is suggested for a misspelt name

The suggestion is the first candidate at the least distance, if the distance is tolerable. The
distances are cut short for texts of very different lengths, which makes them greater and could both
reject a near candidate and prefer a farther one. It does neither: where a distance is cut short,
the least number of edits is beyond tolerance already, or it is the longer length anyway. The
exceptions are names of one and of three characters, where two edits are tolerable and the longer of
two texts two edits apart has three characters.

## Main definitions

* `Suggests distance bound candidates result`: the suggestion by a distance

## Main results

* `filter_nearest?_eq_iff`: the search finds the suggestion by its distance
* `cappedDistance_eq_or_far`: a distance is cut short only beyond tolerance
* `likelySpelling?_means`: the suggestion is the one by the least number of edits
-/

namespace DefaultArgs

/-- **The suggestion by a distance**: the first candidate at the least distance, if the bound allows
it. Those before it are farther, and those behind it are no nearer. Nothing is suggested if all
candidates are beyond the bound. -/
inductive Suggests (distance : String → Nat) (bound : Nat) (candidates : List String) :
    Option String → Prop
  | nearest {before behind : List String} {candidate : String}
      (split : candidates = before ++ candidate :: behind)
      (farther : ∀ other ∈ before, distance candidate < distance other)
      (noNearer : ∀ other ∈ behind, distance candidate ≤ distance other)
      (tolerable : distance candidate ≤ bound) :
      Suggests distance bound candidates (some candidate)
  | nothing (far : ∀ other ∈ candidates, bound < distance other) :
      Suggests distance bound candidates none

variable {distance distance' : String → Nat} {bound : Nat} {candidates : List String}
  {candidate : String} {result : Option String}

section Search

theorem nearest?_eq_none_iff : nearest? distance candidates = none ↔ candidates = [] := by
  cases candidates with
  | nil => simp [nearest?]
  | cons candidate rest =>
    simp only [nearest?, reduceCtorEq, iff_false]
    split
    · split <;> simp
    · simp

/-- **The search finds the first candidate at the least distance.** The best of the others is nearer
than the first candidate, or the first candidate is no farther than any of them. -/
theorem exists_split_of_nearest? (found : nearest? distance candidates = some candidate) :
    ∃ before behind, candidates = before ++ candidate :: behind ∧
      (∀ other ∈ before, distance candidate < distance other) ∧
      ∀ other ∈ behind, distance candidate ≤ distance other := by
  induction candidates generalizing candidate with
  | nil => cases found
  | cons first rest ih =>
    rw [nearest?] at found
    cases later : nearest? distance rest with
    | none =>
      obtain rfl := nearest?_eq_none_iff.1 later
      obtain rfl : first = candidate := by simpa [later] using found
      exact ⟨[], [], rfl, by simp, by simp⟩
    | some best =>
      obtain ⟨before, behind, rfl, farther, noNearer⟩ := ih later
      simp only [later] at found
      split at found
      · next nearer =>
        obtain rfl := Option.some.inj found
        refine ⟨first :: before, behind, rfl, ?_, noNearer⟩
        intro other mem
        rcases List.mem_cons.1 mem with rfl | mem
        · exact nearer
        · exact farther other mem
      · next noFarther =>
        obtain rfl := Option.some.inj found
        refine ⟨[], before ++ best :: behind, rfl, by simp, ?_⟩
        intro other mem
        apply (not_lt.1 noFarther).trans
        rcases List.mem_append.1 mem with earlier | later
        · exact (farther other earlier).le
        · rcases List.mem_cons.1 later with rfl | later
          · exact le_rfl
          · exact noNearer other later

theorem mem_of_nearest? (found : nearest? distance candidates = some candidate) :
    candidate ∈ candidates := by
  obtain ⟨before, behind, rfl, -, -⟩ := exists_split_of_nearest? found
  simp

/-- The candidate between farther ones and others that are no nearer is found. -/
theorem nearest?_of_split {before behind : List String}
    (farther : ∀ other ∈ before, distance candidate < distance other)
    (noNearer : ∀ other ∈ behind, distance candidate ≤ distance other) :
    nearest? distance (before ++ candidate :: behind) = some candidate := by
  induction before with
  | nil =>
    rw [List.nil_append, nearest?]
    cases later : nearest? distance behind with
    | none => rfl
    | some other => exact if_neg (not_lt.2 (noNearer other (mem_of_nearest? later)))
  | cons first before ih =>
    have later := ih fun other mem => farther other (List.mem_cons_of_mem _ mem)
    rw [List.cons_append, nearest?, later]
    exact if_pos (farther first List.mem_cons_self)

/-- **The search finds the suggestion by its distance.** -/
theorem filter_nearest?_eq_iff :
    (nearest? distance candidates).filter (fun candidate => distance candidate ≤ bound) = result ↔
      Suggests distance bound candidates result := by
  constructor
  · rintro rfl
    cases found : nearest? distance candidates with
    | none =>
      obtain rfl := nearest?_eq_none_iff.1 found
      exact .nothing (by simp)
    | some candidate =>
      obtain ⟨before, behind, split, farther, noNearer⟩ := exists_split_of_nearest? found
      by_cases tolerable : distance candidate ≤ bound
      · rw [Option.filter_some, if_pos (by simpa using tolerable)]
        exact .nearest split farther noNearer tolerable
      · rw [Option.filter_some, if_neg (by simpa using tolerable)]
        refine .nothing fun other mem => (not_le.1 tolerable).trans_le ?_
        rw [split, List.mem_append, List.mem_cons] at mem
        rcases mem with earlier | rfl | later
        · exact (farther other earlier).le
        · exact le_rfl
        · exact noNearer other later
  · intro suggests
    cases suggests with
    | nearest split farther noNearer tolerable =>
      rw [split, nearest?_of_split farther noNearer]
      simpa using tolerable
    | nothing far =>
      rw [Option.filter_eq_none_iff]
      intro candidate found
      simpa using far candidate (mem_of_nearest? found)

/-- The suggestion for any distance of texts is the one by the distance of their lowercase forms. -/
theorem likelySpellingBy?_eq_iff {distance : String → String → Nat} {target : String} :
    likelySpellingBy? distance target candidates = result ↔
      Suggests (fun candidate => distance (Text.lowercase target) (Text.lowercase candidate))
        (max 2 (target.length / 3)) candidates result := by
  rw [max_comm]
  exact filter_nearest?_eq_iff

/-- What is suggested is one of the candidates. -/
theorem mem_of_likelySpelling? {target : String}
    (suggested : likelySpelling? target candidates = some candidate) : candidate ∈ candidates := by
  cases likelySpellingBy?_eq_iff.1 suggested with
  | nearest split =>
    rw [split]
    simp

end Search

section Distances

/-- Two distances give the same suggestion if they differ beyond the bound only. -/
theorem Suggests.congr (suggests : Suggests distance bound candidates result)
    (agree : ∀ candidate, distance candidate = distance' candidate ∨
      bound < distance candidate ∧ bound < distance' candidate) :
    Suggests distance' bound candidates result := by
  cases suggests with
  | @nearest before behind candidate split farther noNearer tolerable =>
    have same : distance candidate = distance' candidate := by
      rcases agree candidate with same | ⟨far, -⟩
      · exact same
      · omega
    refine .nearest split ?_ ?_ (same ▸ tolerable)
    · intro other mem
      have less := farther other mem
      rcases agree other with same' | ⟨-, far⟩ <;> omega
    · intro other mem
      have le := noNearer other mem
      rcases agree other with same' | ⟨-, far⟩ <;> omega
  | nothing far =>
    refine .nothing fun other mem => ?_
    have beyond := far other mem
    rcases agree other with same | ⟨-, far⟩ <;> omega

/-- **A distance is cut short only beyond tolerance**, unless the text has one or three characters:
the lengths alone ask for more edits. From or to the empty text, cutting short changes nothing. -/
theorem cappedDistance_eq_or_far {x : String} (one : x.length ≠ 1) (three : x.length ≠ 3)
    (y : String) :
    cappedDistance x y = levenshtein x.toList y.toList ∨
      max 2 (x.length / 3) < cappedDistance x y ∧
        max 2 (x.length / 3) < levenshtein x.toList y.toList := by
  rcases lt_or_ge (max x.length y.length / 2) (Nat.dist x.length y.length) with far | near
  · have lengths : Nat.dist x.length y.length ≤ levenshtein x.toList y.toList := by
      simpa only [String.length_toList] using dist_length_le_levenshtein x.toList y.toList
    have least := levenshtein_le_cappedDistance x y
    rw [cappedDistance_of_far far] at least ⊢
    unfold Nat.dist at far lengths
    by_cases empty : x.length = 0 ∨ y.length = 0
    · left
      omega
    · right
      omega
  · exact .inl (cappedDistance_of_near near)

/-- **What is suggested.** The distance without the cut is the least number of edits. If the
lowercase form of the name does not have one or three characters, the suggestion is the one by this
distance: the first candidate at the least distance from the name, case not counted, if it is no
more than a third of the length of the name or than two, and otherwise nothing. -/
theorem likelySpelling?_means {target : String} (one : (Text.lowercase target).length ≠ 1)
    (three : (Text.lowercase target).length ≠ 3) (candidates : List String) :
    (∀ a b, IsLeast {n | Edits n a b} (levenshtein a b)) ∧
    likelySpelling? target candidates =
      likelySpellingBy? (fun x y => levenshtein x.toList y.toList) target candidates ∧
    ∀ result, likelySpelling? target candidates = result ↔
      Suggests (fun candidate =>
          levenshtein (Text.lowercase target).toList (Text.lowercase candidate).toList)
        (max 2 (target.length / 3)) candidates result := by
  have agree (candidate : String) :
      cappedDistance (Text.lowercase target) (Text.lowercase candidate) =
          levenshtein (Text.lowercase target).toList (Text.lowercase candidate).toList ∨
        max 2 (target.length / 3) <
            cappedDistance (Text.lowercase target) (Text.lowercase candidate) ∧
          max 2 (target.length / 3) <
            levenshtein (Text.lowercase target).toList (Text.lowercase candidate).toList := by
    -- No character is lost by lowercasing, so what is beyond a third of the lowercase form is
    -- beyond a third of the name.
    have longer := Text.length_le_length_lowercase target
    have far := cappedDistance_eq_or_far one three (Text.lowercase candidate)
    omega
  have cut := likelySpellingBy?_eq_iff.1 (rfl : likelySpelling? target candidates = _)
  have uncut : likelySpelling? target candidates =
      likelySpellingBy? (fun x y => levenshtein x.toList y.toList) target candidates :=
    (likelySpellingBy?_eq_iff.2 (cut.congr agree)).symm
  refine ⟨isLeast_levenshtein, uncut, fun result => ?_⟩
  rw [uncut]
  exact likelySpellingBy?_eq_iff

/-- The first candidate differs from the name in so much of its length that its distance is cut
short. The two others are one edit away, and the earlier one is suggested. -/
theorem likelySpelling?_means_hosts :
    (Text.lowercase "Hosts").length ≠ 1 ∧ (Text.lowercase "Hosts").length ≠ 3 ∧
      Suggests (fun candidate =>
          levenshtein (Text.lowercase "Hosts").toList (Text.lowercase candidate).toList)
        2 ["H", "HOST", "GHOSTS"] (some "HOST") := by
  have one : (Text.lowercase "Hosts").length ≠ 1 := by decide
  have three : (Text.lowercase "Hosts").length ≠ 3 := by decide
  have found : likelySpelling? "Hosts" ["H", "HOST", "GHOSTS"] = some "HOST" := by decide
  exact ⟨one, three, ((likelySpelling?_means one three _).2.2 _).1 found⟩

/-- A name of three characters, and one of one character: the cut rejects a candidate that two edits
lead to. -/
example :
    likelySpelling? "abc" ["a"] = none ∧ likelySpelling? "a" ["abc"] = none ∧
      levenshtein "abc".toList "a".toList = 2 ∧ tolerance "abc" = 2 := by decide

end Distances

end DefaultArgs

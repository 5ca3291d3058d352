import DefaultArgs.Proofs.Reference.Completeness

/-!
# How a reference reads

A text is cut at its last full stop: what stands before it qualifies the member that is named behind
it. A text without full stops names a member, and so does a text whose only full stop is its first
character. No text and no name behind the last full stop are errors.

## Main definitions

* `Reference.Reads text result`: the text reads as a reference, or it is an error

## Main results

* `Reference.exists_reads`: every text reads as something
* `Reference.parse_eq_iff`: a text is read as it reads, and as nothing else
-/

namespace DefaultArgs

/-- A text with a full stop has a last one. -/
theorem exists_last_dot {text : List Char} (dot : '.' ∈ text) :
    ∃ before after, text = before ++ '.' :: after ∧ '.' ∉ after := by
  obtain ⟨after, before, reversed, dotFree⟩ := List.eq_append_cons_of_mem (List.mem_reverse.2 dot)
  refine ⟨before.reverse, after.reverse, ?_, by simpa using dotFree⟩
  rw [← List.reverse_reverse text, reversed]
  simp

namespace Reference

/-- **How a text reads.** The last full stop parts the qualifier from the member. A text without
full stops names a member, and so does a text whose only full stop is its first character. -/
inductive Reads : String → Except ReferenceError Reference → Prop
  | empty : Reads "" (.error .emptyReference)
  | nameless (before : String) : Reads (before ++ ".") (.error (.emptyMemberName (before ++ ".")))
  | bare {member : String} (named : member ≠ "") (dotFree : '.' ∉ member.toList) :
      Reads member (.ok ⟨none, member⟩)
  | leading {member : String} (named : member ≠ "") (dotFree : '.' ∉ member.toList) :
      Reads ("." ++ member) (.ok ⟨none, member⟩)
  | qualified {qualifier member : String} (qualified : qualifier ≠ "") (named : member ≠ "")
      (dotFree : '.' ∉ member.toList) :
      Reads (qualifier ++ "." ++ member) (.ok ⟨some qualifier, member⟩)

theorem parse_nameless (before : String) :
    parse (before ++ ".") = .error (.emptyMemberName (before ++ ".")) := by
  have spelled : (before ++ ".").toList = before.toList ++ '.' :: [] := by simp
  rw [parse, if_neg (ne_empty_of_dot spelled), spelled, splitLastDot_append List.not_mem_nil]

theorem parse_bare {member : String} (named : member ≠ "")
    (dotFree : '.' ∉ member.toList) : parse member = .ok ⟨none, member⟩ := by
  rw [parse, if_neg named, splitLastDot_of_dotFree dotFree]

theorem parse_leading {member : String} (named : member ≠ "")
    (dotFree : '.' ∉ member.toList) : parse ("." ++ member) = .ok ⟨none, member⟩ := by
  have spelled : ("." ++ member).toList = [] ++ '.' :: member.toList := by simp
  obtain ⟨c, rest, front⟩ : ∃ c rest, member.toList = c :: rest :=
    List.exists_cons_of_ne_nil (mt String.toList_eq_nil_iff.1 named)
  have cut : splitLastDot ("." ++ member).toList = (some [], c :: rest) := by
    rw [spelled, splitLastDot_append dotFree, front]
  rw [parse, if_neg (ne_empty_of_dot spelled), cut]
  simp only [← front, String.ofList_toList]

/-- Every text reads as something. -/
theorem exists_reads (text : String) : ∃ result, Reads text result := by
  by_cases dot : '.' ∈ text.toList
  · obtain ⟨before, after, spelled, dotFree⟩ := exists_last_dot dot
    have joined : text = String.ofList before ++ "." ++ String.ofList after := by
      apply String.toList_injective
      simp [spelled]
    have dotFree : '.' ∉ (String.ofList after).toList := by simpa using dotFree
    rw [joined]
    by_cases named : String.ofList after = ""
    · rw [named, String.append_empty]
      exact ⟨_, .nameless _⟩
    · by_cases qualified : String.ofList before = ""
      · rw [qualified, String.empty_append]
        exact ⟨_, .leading named dotFree⟩
      · exact ⟨_, .qualified qualified named dotFree⟩
  · by_cases named : text = ""
    · subst named
      exact ⟨_, .empty⟩
    · exact ⟨_, .bare named dot⟩

/-- **A text is read as it reads.** -/
theorem parse_eq_iff {text : String} {result : Except ReferenceError Reference} :
    parse text = result ↔ Reads text result := by
  have sound {result : Except ReferenceError Reference} (reads : Reads text result) :
      parse text = result := by
    cases reads with
    | empty => rfl
    | nameless before => exact parse_nameless before
    | bare named dotFree => exact parse_bare named dotFree
    | leading named dotFree => exact parse_leading named dotFree
    | qualified qualified named dotFree => exact parse_qualified qualified named dotFree
  refine ⟨?_, sound⟩
  rintro rfl
  obtain ⟨result, reads⟩ := exists_reads text
  rwa [sound reads]

end Reference

end DefaultArgs

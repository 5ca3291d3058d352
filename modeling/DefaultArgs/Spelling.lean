import DefaultArgs.Text.Case

/-!
# Spelling

A misspelt name is compared with the names that could have been meant.

## Main definitions

* `suffixDistances b a`: the distances of `a` to the suffixes of `b`, the longest first
* `levenshtein a b`: the least number of edits
* `cappedDistance a b`: the same, cut short for very different lengths
* `nearest? distance candidates`: the first candidate at the least distance
* `likelySpellingBy? distance target candidates`: the suggestion for a given distance of texts
* `likelySpelling? target candidates`: the suggestion by edit distance
-/

namespace DefaultArgs

/-! ## Edit distance

The distance between two texts is the least number of characters that have to be inserted, deleted
or replaced to turn one into the other. It is computed row by row: a row holds the distances of one
text to every suffix of the other.

Texts whose lengths differ by more than half of the longer one are taken to have nothing in common,
and their distance is not computed.
-/

/-- The row for a text with one more character in front, from the row for the text itself. -/
def extendRow (c : Char) : List Char → List Nat → List Nat
  | d :: ds, here :: below =>
    let rest := extendRow c ds below
    let replaced := below.headD 0 + if c = d then 0 else 1
    min (min (here + 1) (rest.headD 0 + 1)) replaced :: rest
  | _, row => row.map (· + 1)

/-- The distances of the empty text to the suffixes of a text, the longest first. -/
def emptyRow : List Char → List Nat
  | [] => [0]
  | _ :: rest => (rest.length + 1) :: emptyRow rest

/-- The distances of a text to the suffixes of `b`, the longest first. -/
def suffixDistances (b : List Char) : List Char → List Nat
  | [] => emptyRow b
  | c :: cs => extendRow c b (suffixDistances b cs)

/-- The least number of edits that turn one text into the other. -/
def levenshtein (a b : List Char) : Nat :=
  (suffixDistances b a).headD 0

/-- The edit distance of two texts; the longer length if the lengths differ by more than half of
it. -/
def cappedDistance (a b : String) : Nat :=
  let longest := max a.length b.length
  if longest / 2 < longest - min a.length b.length then longest
  else levenshtein a.toList b.toList

/-! ## Suggestions

The candidate that is nearest to a misspelt name is suggested if it is near enough. Case does not
count. Of several candidates at the same distance the first is taken.
-/

/-- The first candidate at the least distance. -/
def nearest? (distance : String → Nat) : List String → Option String
  | [] => none
  | candidate :: rest =>
    match nearest? distance rest with
    | some other => if distance other < distance candidate then some other else some candidate
    | none => some candidate

/-- The greatest distance at which a candidate is suggested: a third of the length of the name, but
never less than two. -/
def tolerance (target : String) : Nat :=
  max (target.length / 3) 2

/-- The first candidate at the least distance from the target, if the distance is tolerable. -/
def likelySpellingBy? (distance : String → String → Nat) (target : String)
    (candidates : List String) : Option String :=
  let fromTarget candidate := distance (Text.lowercase target) (Text.lowercase candidate)
  (nearest? fromTarget candidates).filter fun candidate => fromTarget candidate ≤ tolerance target

/-- The suggestion for a misspelt name. -/
def likelySpelling? (target : String) (candidates : List String) : Option String :=
  likelySpellingBy? cappedDistance target candidates

end DefaultArgs

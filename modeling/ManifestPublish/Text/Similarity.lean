import ManifestPublish.Binary64.Basic

/-!
# How similar two texts are

* `Similarity.jaro` : the Jaro similarity, from 0 for nothing in common to 1 for the same text

Two characters match if they are the same and not too far apart.  The similarity is the mean of
three shares: of the first text that matches, of the second that does, and of the matches that come
in the same order.
-/

set_option autoImplicit false

namespace ManifestPublish.Similarity

/-- A character of the second text, and whether it is matched. -/
abbrev Marked := Char × Bool

/-- Marks the first free character `c` from place `low` up to but without place `high`; the list
starts at the place given last. -/
def mark? (c : Char) (low high : Nat) : Nat → List Marked → Option (List Marked)
  | _, [] => none
  | place, (d, taken) :: rest =>
    if high ≤ place then none
    else if low ≤ place && c = d && !taken then some ((d, true) :: rest)
    else (mark? c low high (place + 1) rest).map ((d, taken) :: ·)

/-- Matches the characters of the first text from left to right: those that match, last one first,
and the second text with its marks. -/
def matchAll (range : Nat) : Nat → List Char → List Marked → List Char → List Char × List Marked
  | _, matched, marked, [] => (matched, marked)
  | place, matched, marked, c :: cs =>
    match mark? c (place - range) (place + range + 1) 0 marked with
    | some marked => matchAll range (place + 1) (c :: matched) marked cs
    | none => matchAll range (place + 1) matched marked cs

/-- A fraction of two counts, rounded. -/
def share (num den : Nat) : Binary64 := (Binary64.ofRatio? num den).getD .zero

/-- The mean of three shares. -/
def mean (x y z : Binary64) : Binary64 :=
  (((x.add? y).bind (·.add? z)).bind (·.div? (share 3 1))).getD .zero

/-- The Jaro similarity. -/
def jaro (a b : String) : Binary64 :=
  let first := a.toList
  let second := b.toList
  let range := max first.length second.length / 2 - 1
  let (matched, marked) := matchAll range 0 [] (second.map (·, false)) first
  let count := matched.length
  if first = [] && second = [] then share 1 1
  else if count = 0 then .zero
  else
    let ordered := (marked.filter (·.2)).map (·.1)
    let displaced := ((matched.reverse.zip ordered).filter fun p => p.1 ≠ p.2).length
    mean (share count first.length) (share count second.length)
      (share (count - displaced / 2) count)

end ManifestPublish.Similarity

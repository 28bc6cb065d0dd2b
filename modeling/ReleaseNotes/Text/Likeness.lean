/-!
# Likeness of texts

How much two texts have in common: the longest run of characters that stands in both, and then what
the parts before it and the parts after it have in common. Two texts are alike if this makes up three
fifths of them.
-/

namespace ReleaseNotes.Text

/-- How many characters two texts begin with alike. -/
def commonStart : List Char → List Char → Nat
  | a :: as, b :: bs => if a == b then commonStart as bs + 1 else 0
  | _, _ => 0

/-- A run of characters that stands in two texts. -/
structure CommonRun where
  /-- Where it begins in the first text. -/
  first : Nat
  /-- Where it begins in the second text. -/
  second : Nat
  /-- How long it is. -/
  size : Nat
  deriving DecidableEq, Repr

/-- The longer of two runs; the first one if they are of the same length. -/
def CommonRun.longer (r s : CommonRun) : CommonRun :=
  if r.size < s.size then s else r

/-- The longest run that stands in two texts, and the earliest of those. -/
def longestRun (as bs : List Char) : CommonRun :=
  let runs := (List.range as.length).flatMap fun i =>
    (List.range bs.length).map fun j => ⟨i, j, commonStart (as.drop i) (bs.drop j)⟩
  runs.foldl CommonRun.longer ⟨0, 0, 0⟩

/-- How many characters two texts have in common, run by run. The first text has at most as many
characters as the first argument says. -/
def commonCountWithin : Nat → List Char → List Char → Nat
  | 0, _, _ => 0
  | bound + 1, as, bs =>
    let run := longestRun as bs
    if run.size == 0 then 0
    else
      commonCountWithin bound (as.take run.first) (bs.take run.second) + run.size +
        commonCountWithin bound (as.drop (run.first + run.size)) (bs.drop (run.second + run.size))

/-- How many characters two texts have in common. -/
def commonCount (s t : String) : Nat :=
  commonCountWithin s.length s.toList t.toList

/-- Whether two texts are alike. -/
def isLike (s t : String) : Bool :=
  3 * (s.length + t.length) ≤ 10 * commonCount s t

end ReleaseNotes.Text

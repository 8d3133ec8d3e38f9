import Knotwork.Text.Order

/-!
Names that resemble a name, for suggestions.

The resemblance of two texts is twice the number of characters they have in common over the sum of
their lengths. Common characters are counted by taking the longest run that stands in both texts, and
then the same on its left and on its right. In a long name, characters that occur too often cannot
start such a run, but may extend one.
-/

namespace Knotwork.Text

/-- Characters that make up more than a hundredth of a name of two hundred characters or more. -/
def isFrequentIn (name : Text) (c : Char) : Bool :=
  200 ≤ name.length && name.length / 100 + 1 < name.count c

/-- Extends runs by one character of the first text: the entry for a place in the second text is the
length of the run that ends there. `above` is the entry for the place before, one character ago. -/
def extendRuns (frequent : Char → Bool) (c : Char) : Nat → List Nat → Text → List Nat
  | above, run :: runs, d :: rest =>
      (if c = d && !frequent d then above + 1 else 0) :: extendRuns frequent c run runs rest
  | _, _, _ => []

structure Run where
  first : Nat
  second : Nat
  length : Nat
deriving DecidableEq

def bestOfRuns (i : Nat) : Nat → List Nat → Run → Run
  | _, [], best => best
  -- `i` and `j` count the characters up to the end of the run.
  | j, run :: runs, best =>
      bestOfRuns i (j + 1) runs
        (if best.length < run then ⟨i - run, j - run, run⟩ else best)

def longestRunFrom (frequent : Char → Bool) (second : Text) :
    Nat → Text → List Nat → Run → Run
  | _, [], _, best => best
  | i, c :: rest, runs, best =>
      let next := extendRuns frequent c 0 runs second
      longestRunFrom frequent second (i + 1) rest next (bestOfRuns (i + 1) 1 next best)

def commonStart : Text → Text → Nat
  | c :: cs, d :: ds => if c = d then commonStart cs ds + 1 else 0
  | _, _ => 0

def longestRun (frequent : Char → Bool) (first second : Text) : Run :=
  let run := longestRunFrom frequent second 0 first (second.map fun _ => 0) ⟨0, 0, 0⟩
  let back := commonStart (first.take run.first).reverse (second.take run.second).reverse
  let front := commonStart (first.drop (run.first + run.length))
    (second.drop (run.second + run.length))
  ⟨run.first - back, run.second - back, back + run.length + front⟩

/-- The number of characters that two texts have in common. The bound is on the length of the first
text, which gets shorter with every run. -/
def commonWithin (frequent : Char → Bool) : Nat → Text → Text → Nat
  | 0, _, _ => 0
  | bound + 1, first, second =>
      let run := longestRun frequent first second
      if run.length = 0 then 0
      else
        commonWithin frequent bound (first.take run.first) (second.take run.second) + run.length +
          commonWithin frequent bound (first.drop (run.first + run.length))
            (second.drop (run.second + run.length))

def common (candidate name : Text) : Nat :=
  commonWithin (isFrequentIn name) candidate.length candidate name

structure Resemblance where
  candidate : Text
  shared : Nat
  total : Nat
deriving DecidableEq

def resemblance (name candidate : Text) : Resemblance :=
  { candidate, shared := common candidate name, total := candidate.length + name.length }

namespace Resemblance

def isClose (r : Resemblance) : Bool := 3 * r.total ≤ 10 * r.shared

def fraction (r : Resemblance) : Nat × Nat :=
  if r.total = 0 then (1, 1) else (2 * r.shared, r.total)

def before (r s : Resemblance) : Bool :=
  let left := r.fraction.1 * s.fraction.2
  let right := s.fraction.1 * r.fraction.2
  -- Of equal resemblances the text that is later in the dictionary comes first.
  if left = right then atMost s.candidate r.candidate else right < left

end Resemblance

def suggestions (name : Text) (candidates : List Text) : List Text :=
  ((sortBy Resemblance.before
    ((candidates.map (resemblance name)).filter Resemblance.isClose)).take 3).map
      Resemblance.candidate

end Knotwork.Text

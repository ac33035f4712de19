/-!
# Runs of a case mapping

A case mapping of single characters is held as runs: characters at a fixed stride whose images
lie at the same stride.
-/
namespace S7Request.Text

/-- The characters `first, first + stride, …, last`, whose images begin at `image` and lie at
the same distances. -/
structure CaseRun where
  first : Nat
  last : Nat
  stride : Nat
  image : Nat
  deriving DecidableEq, Repr

/-- The image of a character number, absent when the run does not hold it. -/
def CaseRun.image? (r : CaseRun) (n : Nat) : Option Nat :=
  if r.first ≤ n ∧ n ≤ r.last ∧ (n - r.first) % r.stride = 0 then
    some (r.image + (n - r.first))
  else
    none

theorem CaseRun.le_of_image? {r : CaseRun} {n m : Nat} (h : r.image? n = some m) :
    r.first ≤ n ∧ r.image ≤ m := by
  unfold image? at h
  split at h
  · simp only [Option.some.injEq] at h
    omega
  · simp at h

/-- The image of a character under a table of runs; a character that no run holds is its own
image. -/
def caseImage (runs : List CaseRun) (c : Char) : Char :=
  ((runs.findSome? (·.image? c.toNat)).map Char.ofNat).getD c

end S7Request.Text

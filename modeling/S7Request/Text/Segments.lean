/-!
# Dotted segments

A text is cut at every dot. There is always a first segment; every dot begins one more.
-/
namespace S7Request.Text

/-- The segments of a dotted text: the first one, and those that follow a dot. -/
structure Segments where
  head : List Char
  tail : List (List Char)
  deriving DecidableEq, Repr

/-- The segments between the dots of a text. -/
def segments : List Char → Segments
  | [] => ⟨[], []⟩
  | c :: cs =>
      let rest := segments cs
      if c = '.' then ⟨[], rest.head :: rest.tail⟩ else ⟨c :: rest.head, rest.tail⟩

@[simp] theorem segments_nil : segments [] = ⟨[], []⟩ := rfl

@[simp] theorem segments_dot (cs : List Char) :
    segments ('.' :: cs) = ⟨[], (segments cs).head :: (segments cs).tail⟩ := rfl

theorem segments_cons {c : Char} (hc : c ≠ '.') (cs : List Char) :
    segments (c :: cs) = ⟨c :: (segments cs).head, (segments cs).tail⟩ := by
  simp [segments, hc]

/-- A text without dots is one segment. -/
theorem segments_append_of_no_dot {s : List Char} (hs : '.' ∉ s) (cs : List Char) :
    segments (s ++ cs) = ⟨s ++ (segments cs).head, (segments cs).tail⟩ := by
  induction s with
  | nil => rfl
  | cons c rest ih =>
      have hc : c ≠ '.' := fun h => hs (by simp [h])
      rw [List.cons_append, segments_cons hc, ih (fun h => hs (List.mem_cons_of_mem _ h))]
      rfl

end S7Request.Text

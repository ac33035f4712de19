import S7Request.Proofs.Text.Uppercase

/-!
# A segment and its surroundings

A segment of a dotted text stands between two dots, or between a dot and an end of the text.
Trimming the text trims the first segment at its beginning and the last one at its end, and it does
not reach past a segment that has something other than blanks. Putting the text into upper case does
so with every segment.
-/
namespace S7Request.Text

section Ends

variable {α : Type} {p : α → Bool} {xs ys : List α}

/-- Removing from the front stops at what does not satisfy the test. -/
theorem dropWhile_append_of_exists (h : ∃ a ∈ xs, p a = false) (ys : List α) :
    (xs ++ ys).dropWhile p = xs.dropWhile p ++ ys := by
  obtain ⟨a, ha, hp⟩ := h
  have hne : xs.dropWhile p ≠ [] := fun he => by simp [List.dropWhile_eq_nil_iff.1 he a ha] at hp
  rw [List.dropWhile_append, if_neg (by simpa using hne)]

theorem dropWhile_append_cons {a : α} (ha : p a = false) (xs ys : List α) :
    (xs ++ a :: ys).dropWhile p = xs.dropWhile p ++ a :: ys := by
  rw [List.dropWhile_append]
  split
  · rename_i he
    rw [List.isEmpty_iff.1 he, List.dropWhile_cons_of_neg (by simp [ha]), List.nil_append]
  · rfl

/-- Removing from the end stops at what does not satisfy the test. -/
theorem trimEnd_append_of_exists (h : ∃ a ∈ ys, p a = false) (xs : List α) :
    trimEnd p (xs ++ ys) = xs ++ trimEnd p ys := by
  obtain ⟨a, ha, hp⟩ := h
  have hne : trimEnd p ys ≠ [] := fun he => by simp [trimEnd_eq_nil_iff.1 he a ha] at hp
  induction xs with
  | nil => rfl
  | cons x xs ih =>
      rw [List.cons_append, trimEnd, ih]
      split
      · rename_i he
        exact absurd (List.append_eq_nil_iff.1 he).2 hne
      · rfl

theorem trimEnd_cons_of_not {a : α} (ha : p a = false) (xs : List α) :
    trimEnd p (a :: xs) = a :: trimEnd p xs := by
  cases hxs : trimEnd p xs <;> simp [trimEnd, hxs, ha]

theorem trimEnd_cons_of_exists {a : α} (h : ∃ b ∈ a :: xs, p b = false) :
    trimEnd p (a :: xs) = a :: trimEnd p xs := by
  obtain ⟨b, hb, hp⟩ := h
  obtain rfl | hb := List.mem_cons.1 hb
  · exact trimEnd_cons_of_not hp xs
  · exact trimEnd_append_of_exists ⟨b, hb, hp⟩ [a]

theorem trimEnd_eq_self (h : ∀ a ∈ xs, p a = false) : trimEnd p xs = xs := by
  rw [trimEnd_eq_rdropWhile, List.rdropWhile_eq_self_iff]
  intro hne
  simp [h _ (List.getLast_mem hne)]

theorem exists_mem_dropWhile (h : ∃ a ∈ xs, p a = false) : ∃ a ∈ xs.dropWhile p, p a = false := by
  obtain ⟨a, ha, hp⟩ := h
  rw [← List.takeWhile_append_dropWhile (p := p) (l := xs), List.mem_append] at ha
  obtain ha | ha := ha
  · simp [List.mem_takeWhile_imp ha] at hp
  · exact ⟨a, ha, hp⟩

end Ends

section Blanks

theorem isBlank_of_isDigit {c : Char} (h : c.isDigit = true) : isBlank c = false :=
  (isPlain_of_isDigit h).isBlank_eq_false

theorem exists_not_blank {cs : List Char} (h : ∃ c ∈ cs, c.isDigit = true) :
    ∃ c ∈ cs, isBlank c = false :=
  h.imp fun _ hc => hc.imp_right isBlank_of_isDigit

theorem digits_eq_nil_of_blanks {cs : List Char} (h : ∀ c ∈ cs, isBlank c = true) :
    digits cs = [] := by
  refine digits_eq_nil fun c hc => ?_
  by_contra hdigit
  simpa [isBlank_of_isDigit (by simpa using hdigit)] using h c hc

theorem digits_dropWhile (cs : List Char) : digits (cs.dropWhile isBlank) = digits cs := by
  have hblank : digits (cs.takeWhile isBlank) = [] :=
    digits_eq_nil_of_blanks fun c hc => List.mem_takeWhile_imp hc
  calc
    digits (cs.dropWhile isBlank) = digits (cs.takeWhile isBlank ++ cs.dropWhile isBlank) := by
      rw [digits_append, hblank, List.nil_append]
    _ = digits cs := by rw [List.takeWhile_append_dropWhile]

theorem digits_trimEnd (cs : List Char) : digits (trimEnd isBlank cs) = digits cs := by
  have hblank : digits (cs.rtakeWhile isBlank) = [] :=
    digits_eq_nil_of_blanks fun c hc => List.mem_rtakeWhile_imp hc
  calc
    digits (trimEnd isBlank cs) = digits (cs.rdropWhile isBlank ++ cs.rtakeWhile isBlank) := by
      rw [digits_append, hblank, List.append_nil, trimEnd_eq_rdropWhile]
    _ = digits cs := by rw [List.rdropWhile_append_rtakeWhile]

theorem trim_append_left {blanks : List Char} (h : ∀ c ∈ blanks, isBlank c = true)
    (cs : List Char) : trim (blanks ++ cs) = trim cs := by
  have hnone : blanks.dropWhile isBlank = [] := List.dropWhile_eq_nil_iff.2 h
  rw [trim, List.dropWhile_append, hnone]
  rfl

theorem trim_append_right {blanks : List Char} (h : ∀ c ∈ blanks, isBlank c = true)
    (cs : List Char) : trim (cs ++ blanks) = trim cs := by
  have hnone : blanks.dropWhile isBlank = [] := List.dropWhile_eq_nil_iff.2 h
  rw [trim, trim, List.dropWhile_append, hnone]
  split
  · rename_i he
    rw [List.isEmpty_iff.1 he]
  · exact trimEnd_append_of_all _ h

/-- A text whose end has no blanks is trimmed at its beginning only. -/
theorem trim_append_cons {c : Char} (hc : isBlank c = false) {ys : List Char}
    (hys : ∀ d ∈ ys, isBlank d = false) (xs : List Char) :
    trim (xs ++ c :: ys) = xs.dropWhile isBlank ++ c :: ys := by
  rw [trim, dropWhile_append_cons hc,
    trimEnd_append_of_exists ⟨c, List.mem_cons_self, hc⟩, trimEnd_eq_self]
  exact List.forall_mem_cons.2 ⟨hc, hys⟩

end Blanks

theorem splitOn_append_dot (xs ys : List Char) :
    (xs ++ '.' :: ys).splitOn '.' = xs.splitOn '.' ++ ys.splitOn '.' := by
  simp only [List.splitOn_eq_splitOnP]
  exact List.splitOnP_append_cons xs ys (by decide)

theorem splitOn_replicate_dot (n : ℕ) :
    (List.replicate n '.').splitOn '.' = List.replicate (n + 1) [] := by
  induction n with
  | zero => rfl
  | succ n ih =>
      have hsplit := splitOn_append_dot [] (List.replicate n '.')
      rw [ih] at hsplit
      exact hsplit

theorem splitOn_append_replicate_dot (cs : List Char) (n : ℕ) :
    (cs ++ List.replicate n '.').splitOn '.' = cs.splitOn '.' ++ List.replicate n [] := by
  cases n with
  | zero => simp
  | succ n => rw [List.replicate_succ, splitOn_append_dot, splitOn_replicate_dot]

/-- A text without dots stands between two dots of a text, or between a dot and an end. -/
structure IsSegment (before s after : List Char) : Prop where
  no_dot : '.' ∉ s
  before_eq : before = [] ∨ ∃ rest, before = rest ++ ['.']
  after_eq : after = [] ∨ ∃ rest, after = '.' :: rest

/-- What is left of a segment when the front of the whole text is trimmed. -/
def trimFront (before s : List Char) : List Char :=
  if before = [] then s.dropWhile isBlank else s

/-- What is left of a segment when the whole text is trimmed. -/
def trimSegment (before s after : List Char) : List Char :=
  if after = [] then trimEnd isBlank (trimFront before s) else trimFront before s

theorem digits_trimSegment (before s after : List Char) :
    digits (trimSegment before s after) = digits s := by
  unfold trimSegment trimFront
  split <;> split <;> simp only [digits_trimEnd, digits_dropWhile]

theorem mem_of_mem_trimSegment {before s after : List Char} {c : Char}
    (h : c ∈ trimSegment before s after) : c ∈ s := by
  have hfront : c ∈ trimFront before s := by
    unfold trimSegment at h
    split at h
    · rw [trimEnd_eq_rdropWhile] at h
      exact (List.rdropWhile_prefix isBlank _).subset h
    · exact h
  unfold trimFront at hfront
  split at hfront
  · exact (List.dropWhile_sublist isBlank).subset hfront
  · exact hfront

namespace IsSegment

variable {before s after : List Char}

theorem splitOn_eq (h : IsSegment before s after) :
    (before ++ s ++ after).splitOn '.' =
      (before.splitOn '.').dropLast ++ s :: (after.splitOn '.').tail := by
  have hafter : (s ++ after).splitOn '.' = s :: (after.splitOn '.').tail := by
    rw [splitOn_dot, segments_append_of_no_dot h.no_dot, splitOn_dot]
    obtain rfl | ⟨rest, rfl⟩ := h.after_eq <;> simp
  rw [List.append_assoc]
  obtain rfl | ⟨rest, rfl⟩ := h.before_eq
  · simpa using hafter
  · rw [List.append_assoc, List.singleton_append, splitOn_append_dot, hafter, splitOn_append_dot]
    simp

/-- Blanks are removed from the surroundings and from the segment, but not past either of them. -/
theorem trim_eq (h : IsSegment before s after) (hs : ∃ c ∈ s, isBlank c = false) :
    trim (before ++ s ++ after) =
      before.dropWhile isBlank ++ trimSegment before s after ++ trimEnd isBlank after := by
  have hfront : (before ++ s ++ after).dropWhile isBlank =
      before.dropWhile isBlank ++ trimFront before s ++ after := by
    obtain rfl | ⟨rest, rfl⟩ := h.before_eq
    · simpa [trimFront] using dropWhile_append_of_exists hs after
    · rw [List.append_assoc, dropWhile_append_of_exists ⟨'.', by simp, by decide⟩, trimFront,
        if_neg (by simp), List.append_assoc]
  have hkept : ∃ c ∈ trimFront before s, isBlank c = false := by
    unfold trimFront
    split
    · exact exists_mem_dropWhile hs
    · exact hs
  rw [trim, hfront, trimSegment]
  obtain rfl | ⟨rest, rfl⟩ := h.after_eq
  · simpa using trimEnd_append_of_exists hkept _
  · rw [trimEnd_append_of_exists ⟨'.', by simp, by decide⟩, if_neg (by simp)]

/-- A segment stays one when something without a dot is put into it. -/
theorem insert {left right : List Char} (h : IsSegment before (left ++ right) after)
    {inserted : List Char} (hdot : '.' ∉ inserted) :
    IsSegment before (left ++ inserted ++ right) after := by
  have hno := h.no_dot
  simp only [List.mem_append, not_or] at hno
  exact ⟨by simp [hno, hdot], h.before_eq, h.after_eq⟩

theorem trimmed (h : IsSegment before s after) :
    IsSegment (before.dropWhile isBlank) (trimSegment before s after)
      (trimEnd isBlank after) := by
  refine ⟨fun hdot => h.no_dot (mem_of_mem_trimSegment hdot), ?_, ?_⟩
  · obtain rfl | ⟨rest, rfl⟩ := h.before_eq
    · exact .inl rfl
    · exact .inr ⟨_, dropWhile_append_cons (by decide) rest []⟩
  · obtain rfl | ⟨rest, rfl⟩ := h.after_eq
    · exact .inl rfl
    · exact .inr ⟨_, trimEnd_cons_of_not (by decide) rest⟩

theorem uppercase (h : IsSegment before s after) :
    IsSegment (uppercase before) (uppercase s) (uppercase after) := by
  refine ⟨fun hdot => h.no_dot (dot_mem_uppercase hdot), ?_, ?_⟩
  · obtain rfl | ⟨rest, rfl⟩ := h.before_eq
    · exact .inl rfl
    · exact .inr ⟨Text.uppercase rest, by rw [uppercase_append]; rfl⟩
  · obtain rfl | ⟨rest, rfl⟩ := h.after_eq
    · exact .inl rfl
    · exact .inr ⟨Text.uppercase rest, rfl⟩

end IsSegment

end S7Request.Text

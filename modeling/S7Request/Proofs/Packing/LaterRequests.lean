import S7Request.Proofs.Packing.Partition

/-!
# Later requests

Packing only ever adds: a closed group stays as it is, and the open group gets more chunks behind
those that it has, be it closed afterwards or not. So when more requests come, the groups of the
earlier ones stay in their places, and only the last of them may grow.
-/
namespace S7Request

namespace Packer

variable {l : Limits} {p q : Packer}

/-- All groups, the open one at the end even if it is empty. -/
def all (p : Packer) : List Group :=
  p.closed.toList.map (·.group) ++ [p.opened]

@[simp] theorem all_close (full : Bool) (p : Packer) : (p.close full).all = p.all ++ [⟨[]⟩] := by
  simp [all, close, opened]

@[simp] theorem all_put (c : Chunk) (p : Packer) :
    (p.put c).all = p.closed.toList.map (·.group) ++ [⟨p.opened.chunks ++ [c]⟩] := by
  simp [all, put, opened]

/-- The second packer has the closed groups of the first one, and then a group that begins with the
chunks of the open one. -/
def ExtendedBy (p q : Packer) : Prop :=
  ∃ g later, q.all = p.closed.toList.map (·.group) ++ g :: later ∧ p.opened.chunks <+: g.chunks

theorem ExtendedBy.refl (p : Packer) : p.ExtendedBy p :=
  ⟨p.opened, [], rfl, List.prefix_refl _⟩

theorem ExtendedBy.close (h : p.ExtendedBy q) (full : Bool) : p.ExtendedBy (q.close full) := by
  obtain ⟨g, later, hall, hbegin⟩ := h
  exact ⟨g, later ++ [⟨[]⟩], by rw [all_close, hall]; simp, hbegin⟩

/-- A chunk goes behind the group that was open, or into a group after it. -/
theorem ExtendedBy.put (h : p.ExtendedBy q) (c : Chunk) : p.ExtendedBy (q.put c) := by
  obtain ⟨g, later, hall, hbegin⟩ := h
  rcases List.eq_nil_or_concat later with rfl | ⟨between, g', rfl⟩
  · obtain ⟨hclosed, hopened⟩ := List.append_inj' hall rfl
    obtain rfl : q.opened = g := List.singleton_inj.1 hopened
    refine ⟨⟨q.opened.chunks ++ [c]⟩, [], ?_, hbegin.trans (List.prefix_append _ _)⟩
    rw [all_put, hclosed]
  · rw [List.concat_eq_append, ← List.cons_append, ← List.append_assoc] at hall
    obtain ⟨hclosed, -⟩ := List.append_inj' hall rfl
    refine ⟨g, between ++ [⟨q.opened.chunks ++ [c]⟩], ?_, hbegin⟩
    rw [all_put, hclosed]
    simp

theorem ExtendedBy.makeRoom (h : p.ExtendedBy q) : p.ExtendedBy (q.makeRoom l) := by
  unfold Packer.makeRoom
  split
  · exact h.close true
  · exact h

theorem ExtendedBy.settle (h : p.ExtendedBy q) : p.ExtendedBy (q.settle l) := by
  unfold Packer.settle
  split
  · exact h.close false
  · exact h

theorem ExtendedBy.round (h : p.ExtendedBy q) (tag : ℕ) (size offset remaining : UInt64) :
    p.ExtendedBy (q.round l tag size offset remaining) :=
  (h.makeRoom.put _).settle

theorem ExtendedBy.addAll (h : p.ExtendedBy q) (tag : ℕ) (sizes : List UInt64) :
    p.ExtendedBy (q.addAll l tag sizes) :=
  addAll_induction l (fun tag size offset remaining _ _ _ hq => hq.round tag size offset remaining)
    tag sizes h

end Packer

/-- Groups that others continue: all but the last are as they were, and the last one's chunks are
the first ones of the group in its place. -/
structure Continued (gs hs : List Group) : Prop where
  length_le : gs.length ≤ hs.length
  getElem?_eq : ∀ i, i + 1 < gs.length → hs[i]? = gs[i]?
  last_isPrefix : ∀ g, gs.getLast? = some g →
    ∃ h, hs[gs.length - 1]? = some h ∧ g.chunks <+: h.chunks

theorem Continued.of_concat {gs later : List Group} {g h : Group} (hbegin : g.chunks <+: h.chunks) :
    Continued (gs ++ [g]) (gs ++ h :: later) where
  length_le := by simp
  getElem?_eq i hi := by
    rw [List.length_append, List.length_singleton, Nat.add_lt_add_iff_right] at hi
    rw [List.getElem?_append_left hi, List.getElem?_append_left hi]
  last_isPrefix g' hg' := by
    obtain rfl : g = g' := by simpa using hg'
    exact ⟨h, by simp, hbegin⟩

theorem Continued.of_isPrefix {gs hs : List Group} (h : gs <+: hs) : Continued gs hs := by
  obtain ⟨later, rfl⟩ := h
  rcases List.eq_nil_or_concat gs with rfl | ⟨init, g, rfl⟩
  · exact ⟨by simp, by simp, by simp⟩
  · rw [List.concat_eq_append, List.append_assoc, List.singleton_append]
    exact .of_concat (List.prefix_refl g.chunks)

namespace Packer

variable {l : Limits} {p q : Packer}

theorem groups_eq_all (h : p.chunks ≠ #[]) : p.groups = p.all :=
  groups_of_ne h

/-- An open group that is empty is not counted. -/
theorem groups_eq_dropLast (h : p.chunks = #[]) : p.groups = p.all.dropLast := by
  simp [groups, all, h]

theorem ExtendedBy.continued (h : p.ExtendedBy q) : Continued p.groups q.groups := by
  obtain ⟨g, later, hall, hbegin⟩ := h
  by_cases hp : p.chunks = #[]
  · -- All groups of the first packer are closed, and the second one has them.
    apply Continued.of_isPrefix
    rw [groups_eq_dropLast hp, all, List.dropLast_concat]
    by_cases hq : q.chunks = #[]
    · rw [groups_eq_dropLast hq, hall, List.dropLast_append_of_ne_nil (List.cons_ne_nil g later)]
      exact List.prefix_append _ _
    · rw [groups_eq_all hq, hall]
      exact List.prefix_append _ _
  · rw [groups_of_ne hp]
    by_cases hq : q.chunks = #[]
    · rcases List.eq_nil_or_concat later with rfl | ⟨between, g', rfl⟩
      · -- The group that begins with chunks would be the open one, which is empty.
        obtain ⟨-, hopened⟩ := List.append_inj' hall rfl
        obtain rfl : q.opened = g := List.singleton_inj.1 hopened
        rw [show q.opened.chunks = [] by simp [opened, hq], List.prefix_nil] at hbegin
        exact absurd (Array.toList_eq_nil_iff.1 hbegin) hp
      · rw [List.concat_eq_append, ← List.cons_append, ← List.append_assoc] at hall
        rw [groups_eq_dropLast hq, hall, List.dropLast_concat]
        exact .of_concat hbegin
    · rw [groups_eq_all hq, hall]
      exact .of_concat hbegin

end Packer

/-- Packing requests and others after them, under an accepted budget, continues the groups of the
requests alone. The chunks of the requests are the same ones. -/
theorem pack_append_continues (d : Direction) (xs ys : List UInt64) (b : Budget)
    (h : b.Accepted d) :
    ∃ first whole, pack d xs b = .ok first ∧ pack d (xs ++ ys) b = .ok whole ∧
      Continued first.groups whole.groups ∧
      (whole.groups.flatMap (·.chunks)).filter (·.tagIndex < xs.length) =
        first.groups.flatMap (·.chunks) := by
  have hfirst := pack_of_accepted h xs
  refine ⟨_, _, hfirst, pack_of_accepted h (xs ++ ys), ?_, ?_⟩
  · have hextended := (Packer.ExtendedBy.refl (Packer.empty.addAll (b.limits d h) 0 xs)).addAll
      (l := b.limits d h) (0 + xs.length) ys
    rw [← Packer.addAll_append] at hextended
    exact hextended.continued
  · obtain ⟨new, hplaced, -, hnew⟩ := Packer.placed_addAll (b.limits d h) (0 + xs.length) ys
      (Packer.empty.addAll (b.limits d h) 0 xs)
    rw [← Packer.addAll_append] at hplaced
    have hwhole : (Packer.empty.addAll (b.limits d h) 0 (xs ++ ys)).groups.flatMap (·.chunks) =
        (Packer.empty.addAll (b.limits d h) 0 xs).groups.flatMap (·.chunks) ++ new := by
      rw [Packer.flatMap_groups, Packer.flatMap_groups, hplaced]
    have hearlier : ∀ c ∈ (Packer.empty.addAll (b.limits d h) 0 xs).groups.flatMap (·.chunks),
        decide (c.tagIndex < xs.length) = true := by
      intro c hc
      obtain ⟨g, hg, hmem⟩ := List.mem_flatMap.1 hc
      have hsize := (marks_of_pack hfirst hg hmem).1
      exact decide_eq_true (List.getElem?_eq_some_iff.1 hsize).1
    have hlater : ∀ c ∈ new, ¬decide (c.tagIndex < xs.length) = true := by
      intro c hc
      have hle := (hnew c hc).1
      rw [decide_eq_true_eq]
      omega
    rw [Packing.groups, Packing.groups, hwhole, List.filter_append,
      List.filter_eq_self.2 hearlier, List.filter_eq_nil_iff.2 hlater, List.append_nil]

/-- The requests end with a group that is open, and the next one fills it. -/
theorem pack_append_continues_open :
    (⟨226, 5, 12⟩ : Budget).Accepted .read ∧
      ∃ first whole, pack .read [300, 0, 4] ⟨226, 5, 12⟩ = .ok first ∧
        pack .read ([300, 0, 4] ++ [0, 200]) ⟨226, 5, 12⟩ = .ok whole ∧
        first.groups.map (fun g => g.chunks.map (·.chunkSize)) = [[221], [79, 4]] ∧
        whole.groups.map (fun g => g.chunks.map (·.chunkSize)) = [[221], [79, 4, 128], [72]] ∧
        Continued first.groups whole.groups ∧
        (whole.groups.flatMap (·.chunks)).filter (·.tagIndex < 3) =
          first.groups.flatMap (·.chunks) := by
  have h : (⟨226, 5, 12⟩ : Budget).Accepted .read := by decide
  obtain ⟨first, whole, hfirst, hwhole, hcontinued, hsame⟩ :=
    pack_append_continues .read [300, 0, 4] [0, 200] ⟨226, 5, 12⟩ h
  have hsizes : (pack .read [300, 0, 4] ⟨226, 5, 12⟩).map
      (fun p => p.groups.map fun g => g.chunks.map (·.chunkSize)) = .ok [[221], [79, 4]] := by cbv
  have hsizes' : (pack .read ([300, 0, 4] ++ [0, 200]) ⟨226, 5, 12⟩).map
      (fun p => p.groups.map fun g => g.chunks.map (·.chunkSize)) =
      .ok [[221], [79, 4, 128], [72]] := by cbv
  rw [hfirst] at hsizes
  rw [hwhole] at hsizes'
  exact ⟨h, first, whole, hfirst, hwhole, Except.ok.inj hsizes, Except.ok.inj hsizes', hcontinued,
    hsame⟩

end S7Request

import Mathlib.Data.List.Forall2
import Mathlib.Data.Nat.Notation

/-!
# Lists

Lists that are related element by element, and computations that may fail, alone or over a list.
-/
namespace S7Request

variable {α β γ ε : Type}

section Forall₂

variable {R : α → β → Prop} {xs xs' : List α} {ys : List β}

/-- What is related to two lists one after the other falls into two such lists. -/
theorem forall₂_append_left (h : List.Forall₂ R (xs ++ xs') ys) :
    ∃ zs zs', ys = zs ++ zs' ∧ List.Forall₂ R xs zs ∧ List.Forall₂ R xs' zs' := by
  refine ⟨ys.take xs.length, ys.drop xs.length, (List.take_append_drop _ _).symm, ?_, ?_⟩
  · simpa using List.forall₂_take xs.length h
  · simpa using List.forall₂_drop xs.length h

theorem exists_getElem?_of_forall₂ (h : List.Forall₂ R xs ys) {i : ℕ} {x : α}
    (hx : xs[i]? = some x) : ∃ y, ys[i]? = some y ∧ R x y := by
  induction h generalizing i with
  | nil => simp at hx
  | cons hhead _ ih =>
      cases i with
      | zero =>
          obtain rfl := Option.some.inj hx
          exact ⟨_, rfl, hhead⟩
      | succ i => exact ih hx

/-- Lists of lists are related list by list when they have the same shape and all that they hold is
related in order. -/
theorem forall₂_of_flatten {xss : List (List α)} {yss : List (List β)}
    (h : List.Forall₂ R xss.flatten yss.flatten)
    (hshape : xss.map List.length = yss.map List.length) :
    List.Forall₂ (List.Forall₂ R) xss yss := by
  induction xss generalizing yss with
  | nil =>
      obtain rfl : yss = [] := by simpa using hshape
      exact .nil
  | cons xs xss ih =>
      obtain ⟨ys, yss, rfl, hlength, hrest⟩ := List.map_eq_cons_iff.1 hshape.symm
      rw [List.flatten_cons, List.flatten_cons] at h
      have hhead := List.forall₂_take_append _ _ _ h
      have htail := List.forall₂_drop_append _ _ _ h
      rw [List.take_left' hlength.symm] at hhead
      rw [List.drop_left' hlength.symm] at htail
      exact .cons hhead (ih htail hrest.symm)

theorem map_eq_map_of_forall₂ {f : α → γ} {g : β → γ}
    (h : List.Forall₂ (fun x y => f x = g y) xs ys) : xs.map f = ys.map g := by
  induction h with
  | nil => rfl
  | cons hhead _ ih => rw [List.map_cons, List.map_cons, hhead, ih]

theorem forall₂_of_map_eq_map {f : α → γ} {g : β → γ} (h : xs.map f = ys.map g) :
    List.Forall₂ (fun x y => f x = g y) xs ys := by
  rw [← List.forall₂_eq_eq_eq] at h
  exact List.forall₂_map_left_iff.1 (List.forall₂_map_right_iff.1 h)

/-- What holds of all elements of a list, in other words holds of all that they are related to. -/
theorem forall_mem_iff_of_forall₂ {p : α → Prop} {q : β → Prop} (h : List.Forall₂ R xs ys)
    (hiff : ∀ x y, R x y → (p x ↔ q y)) : (∀ x ∈ xs, p x) ↔ ∀ y ∈ ys, q y := by
  induction h with
  | nil => simp
  | cons hhead _ ih => rw [List.forall_mem_cons, List.forall_mem_cons, hiff _ _ hhead, ih]

/-- Of two related lists, those elements are related whose left one is kept by a filter. -/
theorem forall₂_filter_zip (h : List.Forall₂ R xs ys) (keep : α → Bool) :
    List.Forall₂ R (xs.filter keep) (((xs.zip ys).filter fun z => keep z.1).map (·.2)) := by
  induction h with
  | nil => exact .nil
  | @cons x y xs ys hhead _ ih =>
      rw [List.zip_cons_cons, List.filter_cons, List.filter_cons]
      split
      · exact .cons hhead ih
      · exact ih

end Forall₂

theorem map_eq_ok_iff {f : α → β} {x : Except ε α} {b : β} :
    x.map f = .ok b ↔ ∃ a, x = .ok a ∧ f a = b := by
  cases x <;> simp [Except.map]

theorem bind_eq_ok_iff {f : α → Except ε β} {x : Except ε α} {b : β} :
    x >>= f = .ok b ↔ ∃ a, x = .ok a ∧ f a = .ok b := by
  cases x <;> simp [bind, Except.bind]

theorem bind_eq_error_iff {f : α → Except ε β} {x : Except ε α} {e : ε} :
    x >>= f = .error e ↔ x = .error e ∨ ∃ a, x = .ok a ∧ f a = .error e := by
  cases x <;> simp [bind, Except.bind]

theorem mapError_bind {f : α → Except ε β} {g : ε → ε} {x : Except ε α} :
    (x >>= f).mapError g = x.mapError g >>= fun a => (f a).mapError g := by
  cases x <;> rfl

/-- A list is traversed without an error when each of its elements is. -/
theorem mapM_eq_ok_iff {f : α → Except ε β} {xs : List α} {ys : List β} :
    xs.mapM f = .ok ys ↔ List.Forall₂ (fun x y => f x = .ok y) xs ys := by
  induction xs generalizing ys with
  | nil =>
      rw [List.mapM_nil, List.forall₂_nil_left_iff]
      exact Except.ok.injEq [] ys ▸ eq_comm
  | cons x xs ih =>
      rw [List.mapM_cons, List.forall₂_cons_left_iff]
      cases hx : f x with
      | error e => simp [bind, Except.bind]
      | ok y =>
          cases hxs : xs.mapM f with
          | error e => simp [bind, Except.bind, ← ih, hxs]
          | ok zs => simp [bind, Except.bind, pure, Except.pure, ← ih, hxs, eq_comm]

/-- The error of a traversal is the error of one of the elements. -/
theorem exists_of_mapM_eq_error {f : α → Except ε β} {xs : List α} {e : ε}
    (h : xs.mapM f = .error e) : ∃ x ∈ xs, f x = .error e := by
  induction xs with
  | nil => contradiction
  | cons x xs ih =>
      rw [List.mapM_cons] at h
      cases hx : f x with
      | error e' =>
          rw [hx] at h
          obtain rfl : e' = e := Except.error.inj h
          exact ⟨x, by simp, hx⟩
      | ok y =>
          rw [hx] at h
          cases hxs : xs.mapM f with
          | error e' =>
              rw [hxs] at h
              obtain rfl : e' = e := Except.error.inj h
              obtain ⟨x', hmem, hx'⟩ := ih hxs
              exact ⟨x', by simp [hmem], hx'⟩
          | ok zs =>
              rw [hxs] at h
              contradiction

theorem foldlM_flatMap (f : γ → β → Except ε γ) (g : α → List β) (xs : List α) (s : γ) :
    (xs.flatMap g).foldlM f s = xs.foldlM (fun s x => (g x).foldlM f s) s := by
  induction xs generalizing s with
  | nil => rfl
  | cons x xs ih =>
      rw [List.flatMap_cons, List.foldlM_append, List.foldlM_cons]
      exact congrArg _ (funext ih)

/-- A fold over paired lists is a fold over one of them when each step depends on it alone. -/
theorem foldlM_zip_of_forall₂ {f : γ → α × β → Except ε γ} {g : γ → α → Except ε γ} {xs : List α}
    {ys : List β} (h : List.Forall₂ (fun x y => ∀ s, f s (x, y) = g s x) xs ys) (s : γ) :
    (xs.zip ys).foldlM f s = xs.foldlM g s := by
  induction h generalizing s with
  | nil => rfl
  | cons hhead _ ih =>
      rw [List.zip_cons_cons, List.foldlM_cons, List.foldlM_cons, hhead]
      exact congrArg _ (funext ih)

/-- The first element of a list that does not have a property. -/
def FirstWithout (p : α → Prop) (xs : List α) (x : α) : Prop :=
  ∃ before after, xs = before ++ x :: after ∧ (∀ y ∈ before, p y) ∧ ¬p x

/-- When not all elements have a property there is a first one that does not. -/
theorem exists_firstWithout {p : α → Prop} {xs : List α} (h : ¬∀ x ∈ xs, p x) :
    ∃ x, FirstWithout p xs x := by
  induction xs with
  | nil => exact absurd (by simp) h
  | cons x xs ih =>
      by_cases hx : p x
      · have hxs : ¬∀ y ∈ xs, p y := by
          intro hall
          exact h (List.forall_mem_cons.2 ⟨hx, hall⟩)
        obtain ⟨y, before, after, rfl, hbefore, hy⟩ := ih hxs
        exact ⟨y, x :: before, after, rfl, List.forall_mem_cons.2 ⟨hx, hbefore⟩, hy⟩
      · exact ⟨x, [], xs, rfl, by simp, hx⟩

/-- Lists of one length that are not related have a first pair that is not. -/
theorem exists_firstWithout_zip {R : α → β → Prop} {xs : List α} {ys : List β}
    (hlength : xs.length = ys.length) (h : ¬List.Forall₂ R xs ys) :
    ∃ x y, FirstWithout (fun z : α × β => R z.1 z.2) (xs.zip ys) (x, y) := by
  have hpairs : ¬∀ z ∈ xs.zip ys, R z.1 z.2 := by
    intro hall
    exact h (List.forall₂_iff_zip.2 ⟨hlength, fun {x y} hmem => hall (x, y) hmem⟩)
  obtain ⟨⟨x, y⟩, hfirst⟩ := exists_firstWithout hpairs
  exact ⟨x, y, hfirst⟩

theorem FirstWithout.mem {p : α → Prop} {xs : List α} {x : α} (h : FirstWithout p xs x) :
    x ∈ xs := by
  obtain ⟨before, after, rfl, -, -⟩ := h
  simp

theorem FirstWithout.not_prop {p : α → Prop} {xs : List α} {x : α} (h : FirstWithout p xs x) :
    ¬p x := by
  obtain ⟨before, after, -, -, hx⟩ := h
  exact hx

section Invariant

variable {P : γ → Prop} {f : γ → α → Except ε γ} {xs : List α} {s : γ}

/-- A fold succeeds when every step succeeds on what keeps an invariant, and keeps it. -/
theorem exists_foldlM_ok (step : ∀ x ∈ xs, ∀ s, P s → ∃ s', f s x = .ok s' ∧ P s') (hs : P s) :
    ∃ s', xs.foldlM f s = .ok s' ∧ P s' := by
  induction xs generalizing s with
  | nil => exact ⟨s, rfl, hs⟩
  | cons x xs ih =>
      obtain ⟨s', hx, hs'⟩ := step x (by simp) s hs
      obtain ⟨s'', hxs, hs''⟩ := ih (fun y hy => step y (by simp [hy])) hs'
      refine ⟨s'', ?_, hs''⟩
      rw [List.foldlM_cons, hx]
      exact hxs

/-- A fold ends at the first element without a property when the steps before it succeed, and with
the error of that element's step. -/
theorem FirstWithout.foldlM_eq_error {p : α → Prop} {x : α} {e : ε} (h : FirstWithout p xs x)
    (step : ∀ y ∈ xs, p y → ∀ s, P s → ∃ s', f s y = .ok s' ∧ P s')
    (hx : ∀ s, P s → f s x = .error e) (hs : P s) : xs.foldlM f s = .error e := by
  obtain ⟨before, after, rfl, hbefore, -⟩ := h
  obtain ⟨s', hrun, hs'⟩ :=
    exists_foldlM_ok (fun y hy => step y (List.mem_append_left _ hy) (hbefore y hy)) hs
  rw [List.foldlM_append, hrun]
  change (x :: after).foldlM f s' = _
  rw [List.foldlM_cons, hx s' hs']
  rfl

/-- A fold whose steps may be absent is the fold without absence, as long as no step is absent on
what keeps an invariant. -/
theorem foldlM_mk_eq_some {f? : γ → α → Option (Except ε γ)}
    (step : ∀ x ∈ xs, ∀ s, P s → f? s x = some (f s x) ∧ ∀ s', f s x = .ok s' → P s') (hs : P s) :
    (xs.foldlM (fun s x => ExceptT.mk (f? s x)) s).run = some (xs.foldlM f s) ∧
      ∀ s', xs.foldlM f s = .ok s' → P s' := by
  induction xs generalizing s with
  | nil => exact ⟨rfl, fun s' h => Except.ok.inj h ▸ hs⟩
  | cons x xs ih =>
      obtain ⟨hpresent, hkeeps⟩ := step x (by simp) s hs
      rw [List.foldlM_cons, List.foldlM_cons, ExceptT.run_bind, ExceptT.run_mk, hpresent]
      cases hx : f s x with
      | error e => exact ⟨rfl, fun s' h => by contradiction⟩
      | ok s' => exact ih (fun y hy => step y (by simp [hy])) (hkeeps s' hx)

end Invariant

/-- A list is traversed with a result when each of its elements has one. -/
theorem mapM_eq_some_iff {f : α → Option β} {xs : List α} {ys : List β} :
    xs.mapM f = some ys ↔ List.Forall₂ (fun x y => f x = some y) xs ys := by
  induction xs generalizing ys with
  | nil => simp [eq_comm]
  | cons x xs ih =>
      rw [List.mapM_cons, List.forall₂_cons_left_iff]
      simp only [Option.bind_eq_bind, Option.bind_eq_some_iff, ih]
      constructor
      · rintro ⟨y, hy, zs, hzs, h⟩
        exact ⟨y, zs, hy, hzs, (Option.some.inj h).symm⟩
      · rintro ⟨y, zs, hy, hzs, rfl⟩
        exact ⟨y, hy, zs, hzs, rfl⟩

/-- A list is not traversed when one of its elements has no result. -/
theorem mapM_eq_none {f : α → Option β} {xs : List α} {x : α} (hx : x ∈ xs) (h : f x = none) :
    xs.mapM f = none := by
  cases hys : xs.mapM f with
  | none => rfl
  | some ys =>
      obtain ⟨i, hi⟩ := List.mem_iff_getElem?.1 hx
      obtain ⟨y, -, hy⟩ := exists_getElem?_of_forall₂ (mapM_eq_some_iff.1 hys) hi
      rw [h] at hy
      contradiction

theorem mapM_eq_some {f : α → Option β} {g : α → β} {xs : List α}
    (h : ∀ x ∈ xs, f x = some (g x)) : xs.mapM f = some (xs.map g) := by
  induction xs with
  | nil => rfl
  | cons x xs ih =>
      rw [List.mapM_cons, h x (by simp), ih fun y hy => h y (by simp [hy])]
      rfl

end S7Request

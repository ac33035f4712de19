import S7Request.Proofs.Settings.Environment

/-!
# The rules of the standard settings library

The standard library keeps all the rules that the loading of settings relies on.
-/
namespace S7Request.Settings

section Paths

variable {name : String} {names : List String}

/-- A path begins with a name. -/
theorem exists_pathOf (name : String) : ∃ first steps, pathOf name = .name first :: steps := by
  rw [pathOf]
  by_cases hnone : name.toList.takeWhile isNameChar = []
  · have hsteps : steps? name.toList = none := if_pos hnone
    exact ⟨name, [], by rw [hsteps, Option.getD_none]⟩
  · have hsteps : steps? name.toList =
        (scanSteps name.toList.length (name.toList.dropWhile isNameChar)).map
          (.name (.ofList (name.toList.takeWhile isNameChar)) :: ·) := if_neg hnone
    rw [hsteps]
    cases scanSteps name.toList.length (name.toList.dropWhile isNameChar) with
    | none => exact ⟨name, [], rfl⟩
    | some steps => exact ⟨_, steps, rfl⟩

def behindDots (names : List String) : List Char :=
  names.flatMap fun name => '.' :: name.toList

theorem toList_intercalate_dots (name : String) (names : List String) :
    (".".intercalate (name :: names)).toList = name.toList ++ behindDots names := by
  induction names generalizing name with
  | nil => simp [behindDots]
  | cons next names ih =>
      rw [String.intercalate_cons_cons, String.toList_append, String.toList_append, ih]
      simp [behindDots]

theorem isNameChar_of_isName (h : isName name = true) :
    name.toList ≠ [] ∧ ∀ c ∈ name.toList, isNameChar c = true := by
  obtain ⟨hne, hall⟩ := Bool.and_eq_true_iff.1 h
  refine ⟨by simpa using hne, fun c hc => ?_⟩
  have hc := List.all_eq_true.1 hall c hc
  simp only [Bool.or_eq_true, decide_eq_true_eq] at hc
  simp only [isNameChar, Bool.or_eq_true, decide_eq_true_eq]
  exact .inl hc

/-- A name ends where the next one is announced. -/
theorem span_append_behindDots (names : List String) (h : ∀ c ∈ name.toList, isNameChar c = true) :
    (name.toList ++ behindDots names).takeWhile isNameChar = name.toList ∧
      (name.toList ++ behindDots names).dropWhile isNameChar = behindDots names := by
  rw [List.takeWhile_append_of_pos h, List.dropWhile_append_of_pos h]
  cases names with
  | nil => simp [behindDots]
  | cons next names =>
      have hdot : isNameChar '.' = false := by decide
      simp [behindDots, hdot]

/-- Each name takes at least its dot. -/
theorem length_le_length_behindDots (names : List String) :
    names.length ≤ (behindDots names).length := by
  induction names with
  | nil => exact Nat.le_refl 0
  | cons name names ih =>
      simp only [behindDots, List.flatMap_cons, List.length_append, List.length_cons] at ih ⊢
      omega

theorem scanSteps_behindDots {fuel : ℕ} (hfuel : names.length ≤ fuel)
    (h : ∀ s ∈ names, isName s = true) :
    scanSteps fuel (behindDots names) = some (names.map .name) := by
  induction names generalizing fuel with
  | nil => cases fuel <;> rfl
  | cons name names ih =>
      obtain ⟨hname, hnames⟩ := List.forall_mem_cons.1 h
      obtain ⟨hne, hchars⟩ := isNameChar_of_isName hname
      obtain ⟨htake, hdrop⟩ := span_append_behindDots names hchars
      cases fuel with
      | zero => simp at hfuel
      | succ fuel =>
          have hrest := ih (Nat.le_of_succ_le_succ hfuel) hnames
          change scanSteps (fuel + 1) ('.' :: (name.toList ++ behindDots names)) = _
          simp only [scanSteps, htake, hdrop, hne, if_false, hrest, String.ofList_toList,
            Option.map_some, List.map_cons]

theorem pathOf_intercalate (hne : names ≠ []) (h : ∀ s ∈ names, isName s = true) :
    pathOf (".".intercalate names) = names.map .name := by
  obtain ⟨name, rest, rfl⟩ := List.exists_cons_of_ne_nil hne
  obtain ⟨hname, hrest⟩ := List.forall_mem_cons.1 h
  obtain ⟨hchars, hall⟩ := isNameChar_of_isName hname
  obtain ⟨htake, hdrop⟩ := span_append_behindDots rest hall
  have hfuel : rest.length ≤ (name.toList ++ behindDots rest).length := by
    rw [List.length_append]
    exact Nat.le_trans (length_le_length_behindDots rest) (Nat.le_add_left _ _)
  have hsteps := scanSteps_behindDots hfuel hrest
  simp only [pathOf, toList_intercalate_dots, steps?, htake, hdrop, hchars, if_false, hsteps,
    String.ofList_toList, Option.map_some, Option.getD_some, List.map_cons]

end Paths

namespace Tree

theorem layAll_eq_foldl (inner : List (String × Tree)) (t : Tree) :
    layAll inner t = inner.foldl (fun sub e => lay e.1 e.2 sub) t := by
  induction inner generalizing t with
  | nil => rw [layAll, List.foldl_nil]
  | cons e rest ih => rw [layAll, ih, List.foldl_cons]

theorem position_natCast (size i : ℕ) : position size i = i :=
  (if_pos (Int.natCast_nonneg i)).trans (Int.toNat_natCast i)

theorem set_index (value : Tree) {i : ℕ} (steps : List Step) (t : Tree) (h : i < capacity) :
    set value (.index i :: steps) t =
      (set value steps ((t.elements[i]?).getD nothing)).map (t.putElement i) := by
  change (if position t.elements.length i < capacity then
    (set value steps ((t.elements[position t.elements.length i]?).getD nothing)).map
      (t.putElement (position t.elements.length i)) else .error .noRoom) = _
  rw [position_natCast, if_pos h]

end Tree

theorem readsVariables_standard : Library.standard.ReadsVariables where
  variables_single text hne hparts := by
    simp only [Library.standard, environmentSource, List.filterMap_cons, List.filterMap_nil,
      variablePath?_intercalate hne hparts, Option.map_some]
  scalar_digits h hlt := h.scalarOf_eq hlt
  scalar_word h hword := scalarOf_word h hword

theorem laysSources_standard : Library.standard.LaysSources where
  exists_path := exists_pathOf
  path_names := pathOf_intercalate
  lay_leaf _ _ _ _ := by simp only [Library.standard, Tree.lay]
  lay_array _ _ _ _ := by simp only [Library.standard, Tree.lay]
  lay_table _ _ _ _ := by simp only [Library.standard, Tree.lay, Tree.layAll_eq_foldl]
  set_last_name _ _ _ := rfl
  set_name _ _ _ _ _ := rfl
  set_last_index value t hlt := Tree.set_index value [] t hlt
  set_index value step steps t hlt := Tree.set_index value (step :: steps) t hlt
  build_eq _ := rfl

theorem takesRecords_standard : Library.standard.TakesRecords where
  field_table _ _ _ _ _ _ := rfl
  word16_integer key origin n := by
    have hlt := n.toNat_lt
    have hnat : (UInt64.ofNat n.toNat).toNat = n.toNat :=
      UInt64.toNat_ofNat_of_lt' (Nat.lt_trans hlt (by decide))
    have hword : wordOf key (.leaf origin (.integer n.toNat)) = .ok (.ofNat n.toNat) := by
      rw [wordOf, if_neg (by omega), Int.toNat_natCast]
    have hhalf : Word.ofNat16? n.toNat = some n := Word.ofNat16?_eq_some_iff.2 rfl
    change word16Of key (.leaf origin (.integer n.toNat)) = .ok n
    rw [word16Of, hword]
    simp only [bind, Except.bind, hnat, hhalf]
    rfl
  tagged_table expected origin' htag hvariant := by
    simp only [Library.standard, taggedOf, htag, variantOf, if_pos hvariant]
    rfl
  bare_table _ _ := rfl

theorem lawful_standard : Library.standard.Lawful :=
  ⟨readsVariables_standard, laysSources_standard, takesRecords_standard⟩

end S7Request.Settings

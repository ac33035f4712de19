import S7Request.Proofs.Lists
import S7Request.Proofs.Settings.Library

/-!
# Sections of settings

A section is an outermost entry of the tree. An entry of a source is laid over the section that the
first name of its path names, in lower case, and leaves every other section as it is. So a section
is what the entries for it make of it, and all the others in the source could as well be missing.
-/
namespace S7Request.Settings

/-- The section that a path leads into. -/
def outermost : List Step → Option String
  | .name name :: _ => some (Text.lowercase name)
  | _ => none

namespace Tree

variable {t u : Tree} {key other : String}

def IsTable (t : Tree) : Prop :=
  ∃ origin es, t = table origin es

theorem isTable_putEntry (t : Tree) (key : String) (value : Tree) :
    (t.putEntry key value).IsTable := by
  cases t with
  | table origin es => exact ⟨origin, _, rfl⟩
  | leaf | array => exact ⟨none, _, rfl⟩

@[simp] theorem get?_putEntry_self (t : Tree) (key : String) (value : Tree) :
    (t.putEntry key value).entries.get? key = some value := by
  cases t with
  | table origin es => exact Entries.get?_put_self es key value
  | leaf | array => exact if_pos rfl

theorem get?_putEntry_of_ne (t : Tree) (value : Tree) (h : other ≠ key) :
    (t.putEntry key value).entries.get? other = t.entries.get? other := by
  cases t with
  | table origin es => exact Entries.get?_put_of_ne es value h
  | leaf | array => exact if_neg (Ne.symm h)

/-- Tables that have a section in common. -/
structure Agree (key : String) (t u : Tree) : Prop where
  isTable_left : t.IsTable
  isTable_right : u.IsTable
  get?_eq : t.entries.get? key = u.entries.get? key

theorem Agree.refl (h : t.IsTable) (key : String) : Agree key t t :=
  ⟨h, h, rfl⟩

/-- An entry that depends on the common section keeps it common. -/
theorem Agree.putEntry (h : Agree key t u) (laid : Option Tree → Tree) :
    Agree key (t.putEntry key (laid (t.entries.get? key)))
      (u.putEntry key (laid (u.entries.get? key))) := by
  refine ⟨isTable_putEntry .., isTable_putEntry .., ?_⟩
  rw [get?_putEntry_self, get?_putEntry_self, h.get?_eq]

theorem Agree.putEntry_left (h : Agree key t u) (value : Tree) (hne : other ≠ key) :
    Agree key (t.putEntry other value) u := by
  refine ⟨isTable_putEntry .., h.isTable_right, ?_⟩
  rw [get?_putEntry_of_ne t value hne.symm, h.get?_eq]

end Tree

namespace Library

variable {lib : Library} {source : Source} {name key other : String} {t u : Tree}

/-- The part of a source that is for one section. -/
def part (lib : Library) (key : String) (source : Source) : Source :=
  source.filter fun e => outermost (lib.path e.1) = some key

/-- Whether there is room for all that the paths of a source ask for. No path counts from the end
of an array. -/
def fits (lib : Library) (source : Source) : Bool :=
  source.all fun e => (lib.path e.1).all (·.fits lib.capacity)

/-- The tree with an entry of a source laid over it. -/
def layEntry (lib : Library) (t : Tree) (e : String × Tree) : Except Fault Tree :=
  lib.set e.2 (lib.path e.1) t

theorem part_part_of_ne (h : other ≠ key) (source : Source) :
    lib.part other (lib.part key source) = [] := by
  rw [part, List.filter_eq_nil_iff]
  intro e he hother
  have hkey := (List.mem_filter.1 he).2
  simp only [decide_eq_true_eq] at hkey hother
  rw [hkey] at hother
  exact h (Option.some.inj hother).symm

theorem fits_part (h : lib.fits source) (key : String) : lib.fits (lib.part key source) :=
  List.all_eq_true.2 fun e he => List.all_eq_true.1 h e (List.mem_of_mem_filter he)

namespace LaysSources

/-- A tree is laid over the entry of a name, and what it makes of the entry depends on the entry
alone. -/
theorem exists_lay (hlib : lib.LaysSources) (name : String) (value : Tree) :
    ∃ laid : Option Tree → Tree, ∀ t, lib.lay name value t =
      t.putEntry (Text.lowercase name) (laid (t.entries.get? (Text.lowercase name))) := by
  cases value with
  | leaf origin value => exact ⟨fun _ => .leaf origin value, hlib.lay_leaf name origin value⟩
  | table origin es =>
      exact ⟨fun old => es.foldl (fun sub e => lib.lay e.1 e.2 sub) (old.getD .emptyTable),
        hlib.lay_table name origin es⟩
  | array origin es => exact ⟨fun _ => .array origin es, hlib.lay_array name origin es⟩

/-- There is always something at the end of a path that fits. -/
theorem exists_set (hlib : lib.LaysSources) (value : Tree) {steps : List Step} (hne : steps ≠ [])
    (hfits : steps.all (·.fits lib.capacity)) :
    ∃ laid : Tree → Tree, ∀ t, lib.set value steps t = .ok (laid t) := by
  induction steps with
  | nil => contradiction
  | cons step steps ih =>
      rw [List.all_cons, Bool.and_eq_true] at hfits
      obtain ⟨hstep, hsteps⟩ := hfits
      cases step with
      | name name =>
          cases steps with
          | nil => exact ⟨_, hlib.set_last_name value name⟩
          | cons next steps =>
              obtain ⟨laid, hlaid⟩ := ih (by simp) hsteps
              refine ⟨fun t => t.putEntry (Text.lowercase name)
                (laid ((t.entries.get? (Text.lowercase name)).getD .nothing)), fun t => ?_⟩
              rw [hlib.set_name, hlaid]
              rfl
      | index i =>
          simp only [Step.fits, Bool.and_eq_true, decide_eq_true_eq] at hstep
          obtain ⟨i, rfl⟩ := Int.eq_ofNat_of_zero_le hstep.1
          have hroom : i < lib.capacity := Int.ofNat_lt.1 hstep.2
          cases steps with
          | nil => exact ⟨_, fun t => hlib.set_last_index value t hroom⟩
          | cons next steps =>
              obtain ⟨laid, hlaid⟩ := ih (by simp) hsteps
              refine ⟨fun t => t.putElement i (laid ((t.elements[i]?).getD .nothing)), fun t => ?_⟩
              rw [hlib.set_index value next steps t hroom, hlaid]
              rfl

/-- An entry is laid over the section that its path leads into. -/
theorem exists_layEntry (hlib : lib.LaysSources) (e : String × Tree)
    (hfits : (lib.path e.1).all (·.fits lib.capacity)) :
    ∃ (key : String) (laid : Option Tree → Tree), outermost (lib.path e.1) = some key ∧
      ∀ t, lib.layEntry t e = .ok (t.putEntry key (laid (t.entries.get? key))) := by
  obtain ⟨first, steps, hpath⟩ := hlib.exists_path e.1
  rw [hpath, List.all_cons, Bool.and_eq_true] at hfits
  simp only [layEntry, hpath]
  refine ⟨Text.lowercase first, ?_⟩
  cases steps with
  | nil =>
      obtain ⟨laid, hlaid⟩ := hlib.exists_lay first e.2
      exact ⟨laid, rfl, fun t => (hlib.set_last_name e.2 first t).trans (congrArg _ (hlaid t))⟩
  | cons step steps =>
      obtain ⟨laid, hlaid⟩ := hlib.exists_set e.2 (by simp) hfits.2
      refine ⟨fun old => laid (old.getD .nothing), rfl, fun t => ?_⟩
      rw [hlib.set_name, hlaid]
      rfl

/-- A section is made by the part of the source that is for it. -/
theorem exists_agree (hlib : lib.LaysSources) (hfits : lib.fits source) (h : t.Agree key u) :
    ∃ t' u', source.foldlM lib.layEntry t = .ok t' ∧
      (lib.part key source).foldlM lib.layEntry u = .ok u' ∧ t'.Agree key u' := by
  -- The trees agree on the one section only; elsewhere they may differ from the start.
  induction source generalizing t u with
  | nil => exact ⟨t, u, rfl, rfl, h⟩
  | cons e source ih =>
      rw [fits, List.all_cons, Bool.and_eq_true] at hfits
      obtain ⟨other, laid, hother, hlay⟩ := hlib.exists_layEntry e hfits.1
      rw [List.foldlM_cons, hlay]
      by_cases hkey : other = key
      · subst hkey
        have hpart : lib.part other (e :: source) = e :: lib.part other source :=
          List.filter_cons_of_pos (by simpa using hother)
        rw [hpart, List.foldlM_cons, hlay]
        exact ih hfits.2 (h.putEntry laid)
      · have hpart : lib.part key (e :: source) = lib.part key source :=
          List.filter_cons_of_neg (by simpa [hother] using hkey)
        rw [hpart]
        exact ih hfits.2 (h.putEntry_left _ hkey)

theorem build_single (hlib : lib.LaysSources) (source : Source) :
    lib.build [source] = source.foldlM lib.layEntry .emptyTable := by
  rw [hlib.build_eq, List.flatten_singleton]
  rfl

/-- The sources after the first one are laid over what the first one is. -/
theorem build_cons (hlib : lib.LaysSources) (source next : Source) :
    lib.build [source, next] = lib.build [source] >>= fun t => next.foldlM lib.layEntry t := by
  rw [hlib.build_eq, hlib.build_single, List.flatten_cons, List.flatten_singleton,
    List.foldlM_append]
  rfl

/-- A source is a table, which has a section in common with the part of the source for it. That
part has no other section. -/
theorem exists_build (hlib : lib.LaysSources) (hfits : lib.fits source) (key : String) :
    ∃ t u, lib.build [source] = .ok t ∧ lib.build [lib.part key source] = .ok u ∧ t.Agree key u ∧
      ∀ other ≠ key, u.entries.get? other = none := by
  have hempty : Tree.emptyTable.IsTable := ⟨none, [], rfl⟩
  obtain ⟨t, u, ht, hu, hagree⟩ := hlib.exists_agree hfits (.refl hempty key)
  rw [hlib.build_single, hlib.build_single]
  refine ⟨t, u, ht, hu, hagree, fun other hother => ?_⟩
  obtain ⟨u', v, hu', hv, hagree'⟩ :=
    hlib.exists_agree (fits_part hfits key) (.refl hempty other)
  obtain rfl := Except.ok.inj (hu.symm.trans hu')
  rw [part_part_of_ne hother] at hv
  obtain rfl := Except.ok.inj hv
  exact hagree'.get?_eq

end LaysSources

end Library

end S7Request.Settings

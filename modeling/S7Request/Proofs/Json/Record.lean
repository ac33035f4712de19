import S7Request.Json.Record
import S7Request.Proofs.Lists
import Mathlib.Data.List.Nodup
import Mathlib.Data.Option.Basic

/-!
# Records in another spelling

The members of an object may stand in another order and among members with other names, in the
object itself and in all that its fields hold. The fields of a record are found in every such
spelling of its object, themselves spelt in another way at most. They are not found where one of
them is missing or repeated.
-/
namespace S7Request.Json

mutual

/-- A value in another spelling: the fields of an object in any order, each in any spelling, and
among them members with other names. -/
inductive Respells : Json → Json → Prop
  | refl (j : Json) : Respells j j
  | array {es es' : List Json} : List.Forall₂ Respells es es' → Respells (array es) (array es')
  | object {ms ms' others members : List (Option String × Json)} :
      List.Forall₂ MemberRespells ms ms' →
      (∀ m ∈ others, m.1 ∉ ms.map Prod.fst) →
      members.Perm (ms' ++ others) →
      Respells (object ms) (object members)

/-- A member of the same name with its value in another spelling. -/
inductive MemberRespells : Option String × Json → Option String × Json → Prop
  | mk {name : Option String} {value value' : Json} : Respells value value' →
      MemberRespells (name, value) (name, value')

end

/-- An object of a record with one field less, or with a field for the second time. -/
inductive Spoils (names : List String) : Json → Json → Prop
  | missing {before after : List (Option String × Json)} {name : String} {value : Json} :
      name ∈ names → Spoils names (object (before ++ (some name, value) :: after))
        (object (before ++ after))
  | repeated {before after : List (Option String × Json)} {name : String} {value : Json} :
      name ∈ names → Spoils names (object (before ++ after))
        (object (before ++ (some name, value) :: after))

variable {ms ms' members : List (Option String × Json)} {name : String} {names : List String}
  {fields : List (String × Json)} {value j j' : Json}

theorem Respells.eq_of_number {n : Number} (h : Respells (number n) j) : j = number n := by
  cases h
  rfl

theorem Respells.eq_of_string {s : Option String} (h : Respells (string s) j) : j = string s := by
  cases h
  rfl

theorem Respells.exists_array {es : List Json} (h : Respells (.array es) j) :
    ∃ es', j = .array es' ∧ List.Forall₂ Respells es es' := by
  cases h with
  | refl => exact ⟨es, rfl, List.forall₂_same.2 fun e _ => .refl e⟩
  | array hes => exact ⟨_, rfl, hes⟩

section Member

theorem member?_eq_some_iff :
    member? ms name = some value ↔ ms.filter (·.1 = some name) = [(some name, value)] := by
  have hmem : ∀ {m ms'}, ms.filter (·.1 = some name) = m :: ms' → m.1 = some name := by
    intro m ms' h
    have hm : m ∈ ms.filter (·.1 = some name) := by simp [h]
    simpa using (List.mem_filter.1 hm).2
  unfold member?
  split
  · rename_i first value' hfilter
    obtain rfl : first = some name := hmem hfilter
    simp [hfilter]
  · rename_i hother
    constructor
    · simp
    · intro hfilter
      exact absurd hfilter (hother _ _)

theorem member?_perm (h : members.Perm ms) : member? members name = member? ms name := by
  ext value
  have hfilter := h.filter (·.1 = some name)
  rw [member?_eq_some_iff, member?_eq_some_iff]
  constructor
  · intro hmembers
    rw [hmembers] at hfilter
    exact List.singleton_perm.1 hfilter |>.symm
  · intro hms
    rw [hms] at hfilter
    exact List.perm_singleton.1 hfilter

/-- Members with other names do not matter. -/
theorem member?_append {others : List (Option String × Json)}
    (h : ∀ m ∈ others, m.1 ≠ some name) : member? (ms ++ others) name = member? ms name := by
  have hothers : others.filter (·.1 = some name) = [] := by simpa using h
  rw [member?, member?, List.filter_append, hothers, List.append_nil]

theorem countP_of_member? (h : member? ms name = some value) :
    ms.countP (·.1 = some name) = 1 := by
  rw [member?_eq_some_iff] at h
  rw [List.countP_eq_length_filter, h]
  rfl

theorem eq_of_member? {first : Json} (h : member? ms name = some value)
    (hfirst : (some name, first) ∈ ms) : first = value := by
  rw [member?_eq_some_iff] at h
  have hmem : (some name, first) ∈ ms.filter (·.1 = some name) := by simp [hfirst]
  rw [h, List.mem_singleton] at hmem
  exact (Prod.mk.inj hmem).2

/-- Where names occur once, the name of a member is not among those of the others. -/
theorem ne_of_nodup {before after : List (Option String × Json)} {field : Option String × Json}
    (h : ((before ++ field :: after).map Prod.fst).Nodup) :
    ∀ m ∈ before ++ after, m.1 ≠ field.1 := by
  have hperm : (before ++ field :: after).Perm (field :: (before ++ after)) := List.perm_middle
  rw [(hperm.map Prod.fst).nodup_iff, List.map_cons, List.nodup_cons] at h
  intro m hm hname
  exact h.1 (hname ▸ List.mem_map_of_mem hm)

theorem member?_of_mem {field : Option String × Json} (hnodup : (ms.map Prod.fst).Nodup)
    (hfield : field ∈ ms) (hname : field.1 = some name) : member? ms name = some field.2 := by
  obtain ⟨before, after, rfl⟩ := List.append_of_mem hfield
  obtain ⟨first, value⟩ := field
  obtain rfl : first = some name := hname
  have hnone : (before ++ after).filter (·.1 = some name) = [] := by
    rw [List.filter_eq_nil_iff]
    intro m hm
    simpa using ne_of_nodup hnodup m hm
  rw [List.filter_append, List.append_eq_nil_iff] at hnone
  rw [member?_eq_some_iff, List.filter_append, List.filter_cons, hnone.1, hnone.2]
  simp

/-- A field is found among respelt members and others with other names. -/
theorem exists_member?_of_respelt {others : List (Option String × Json)}
    (hms : List.Forall₂ MemberRespells ms ms')
    (hothers : ∀ m ∈ others, m.1 ∉ ms.map Prod.fst)
    (hperm : members.Perm (ms' ++ others)) (hvalue : member? ms name = some value) :
    ∃ value', member? members name = some value' ∧ Respells value value' := by
  rw [member?_eq_some_iff] at hvalue
  have hfilter : List.Forall₂ MemberRespells (ms.filter (·.1 = some name))
      (ms'.filter (·.1 = some name)) := by
    refine List.rel_filter ?_ hms
    rintro _ _ ⟨-⟩
    rfl
  rw [hvalue, List.forall₂_cons_left_iff] at hfilter
  obtain ⟨_, _, ⟨hrespelt⟩, hnone, hfilter'⟩ := hfilter
  obtain rfl := List.forall₂_nil_left_iff.1 hnone
  have hfield : (some name, value) ∈ ms := by
    have hmem : (some name, value) ∈ ms.filter (·.1 = some name) := by simp [hvalue]
    exact List.mem_of_mem_filter hmem
  have hfresh : ∀ m ∈ others, m.1 ≠ some name := by
    intro m hm hname
    exact hothers m hm (hname ▸ List.mem_map_of_mem (f := Prod.fst) hfield)
  refine ⟨_, ?_, hrespelt⟩
  rw [member?_perm hperm, member?_append hfresh, member?_eq_some_iff, hfilter']

/-- An object in another spelling is an object with the same fields. -/
theorem Respells.exists_object (h : Respells (.object ms) j) :
    ∃ members, j = .object members ∧ ∀ name value, member? ms name = some value →
      ∃ value', member? members name = some value' ∧ Respells value value' := by
  cases h with
  | refl => exact ⟨ms, rfl, fun _ value hvalue => ⟨value, hvalue, .refl value⟩⟩
  | object hms hothers hperm =>
      exact ⟨_, rfl, fun _ _ => exists_member?_of_respelt hms hothers hperm⟩

/-- A member is found among those without a name that is not its own. -/
theorem member?_filter {tag : String} (h : name ≠ tag) :
    member? (ms.filter (·.1 ≠ some tag)) name = member? ms name := by
  have hfilter : (ms.filter (·.1 ≠ some tag)).filter (·.1 = some name) =
      ms.filter (·.1 = some name) := by
    rw [List.filter_filter]
    refine List.filter_congr fun m _ => ?_
    by_cases hname : m.1 = some name <;> simp [hname, h]
  rw [member?, member?, hfilter]

end Member

section Fields

variable {values : List Json}

theorem nodup_names (hnodup : (fields.map Prod.fst).Nodup) :
    ((fields.map fun f => (some f.1, f.2)).map Prod.fst).Nodup := by
  simpa [Function.comp_def] using hnodup.map (Option.some_injective String)

/-- The fields of a record are found in every spelling of its object. -/
theorem Respells.exists_fields (h : Respells (.object ms) j)
    (hvalues : names.mapM (member? ms) = some values) :
    ∃ members values', j = .object members ∧ names.mapM (member? members) = some values' ∧
      List.Forall₂ Respells values values' := by
  obtain ⟨members, rfl, hfields⟩ := h.exists_object
  rw [mapM_eq_some_iff] at hvalues
  suffices h : ∃ values', List.Forall₂ (fun name value => member? members name = some value) names
      values' ∧ List.Forall₂ Respells values values' by
    obtain ⟨values', hvalues', hrespelt⟩ := h
    exact ⟨members, values', rfl, mapM_eq_some_iff.2 hvalues', hrespelt⟩
  induction hvalues with
  | nil => exact ⟨[], .nil, .nil⟩
  | cons hvalue _ ih =>
      obtain ⟨values', hvalues', hrespelt⟩ := ih
      obtain ⟨value', hvalue', hhead⟩ := hfields _ _ hvalue
      exact ⟨value' :: values', .cons hvalue' hvalues', .cons hhead hrespelt⟩

/-- The fields of an object that has just them. -/
theorem mapM_member?_fields (hnodup : (fields.map Prod.fst).Nodup) :
    (fields.map Prod.fst).mapM (member? (fields.map fun f => (some f.1, f.2))) =
      some (fields.map Prod.snd) := by
  rw [mapM_eq_some_iff, List.forall₂_map_left_iff, List.forall₂_map_right_iff, List.forall₂_same]
  intro field hfield
  exact member?_of_mem (nodup_names hnodup) (List.mem_map_of_mem hfield) rfl

/-- A record has each of its fields once. -/
theorem countP_of_mapM_member? (hvalues : names.mapM (member? members) = some values)
    (hname : name ∈ names) : members.countP (·.1 = some name) = 1 := by
  rw [mapM_eq_some_iff] at hvalues
  obtain ⟨i, hi⟩ := List.mem_iff_getElem?.1 hname
  obtain ⟨value, -, hvalue⟩ := exists_getElem?_of_forall₂ hvalues hi
  exact countP_of_member? hvalue

/-- Fields are not found when one of them is left out or comes in again. -/
theorem Spoils.exists_members (h : Spoils names j j') :
    ∃ ms ms', j = .object ms ∧ j' = .object ms' ∧
      ∀ values, names.mapM (member? ms) = some values → names.mapM (member? ms') = none := by
  have hmore : ∀ (before after : List (Option String × Json)) (name : String) (value : Json),
      (before ++ (some name, value) :: after).countP (·.1 = some name) =
        (before ++ after).countP (·.1 = some name) + 1 := by
    intro before after name value
    rw [List.perm_middle.countP_eq, List.countP_cons_of_pos (by simp)]
  cases h with
  | @missing before after name value hname | @repeated before after name value hname =>
      refine ⟨_, _, rfl, rfl, fun values hvalues => ?_⟩
      rw [Option.eq_none_iff_forall_ne_some]
      intro values' hvalues'
      have hone := countP_of_mapM_member? hvalues hname
      have hone' := countP_of_mapM_member? hvalues' hname
      have hcount := hmore before after name value
      omega

end Fields

end S7Request.Json

import S7Request.Interchange
import S7Request.Proofs.Json.Standard

/-!
# Interchange of plan data

With any JSON library, a group, a budget and a policy are decoded from the text they are written as.
Every other spelling of their objects decodes to them as well, with two exceptions: the names in the
objects of a group and a budget have to be texts, and a policy is held in memory until its kind is
known, so that all of its object has to be plain. A group is refused when a field of one of its
chunks is missing or repeated.
-/
namespace S7Request

namespace Json

variable {α : Type} {lib : Library} {ofJson : Library → Json → Option α} {j : Json}
  {result : Option α}

/-- Every text of a value is decoded to the same result. -/
def ReadAs (lib : Library) (ofJson : Library → Json → Option α) (j : Json) (result : Option α) :
    Prop :=
  ∀ text, lib.read text = some j → lib.decode? ofJson text = result

theorem readAs_of_eq (h : ofJson lib j = result) : ReadAs lib ofJson j result := by
  intro text htext
  rw [Library.decode?, htext, Option.bind_some, h]

theorem decode?_write (hlib : lib.Lawful) (hdata : j.IsData) (h : ofJson lib j = result) :
    lib.decode? ofJson (lib.write j) = result :=
  readAs_of_eq h _ (hlib.read_write hdata)

/-- An object of numbers under the names of a record. -/
def ofNumbers (names : List String) (numbers : List ℕ) : Json :=
  ofFields (names.zip (numbers.map ofNat))

section Numbers

variable {names : List String} {numbers : List ℕ}

theorem isData_ofNumbers (h : ∀ n ∈ numbers, n < UInt64.size) :
    (ofNumbers names numbers).IsData := by
  refine .fields fun f hf => ?_
  obtain ⟨n, hn, hf⟩ := List.mem_map.1 (List.of_mem_zip hf).2
  rw [← hf]
  exact .word (h n hn)

theorem mapM_member?_numbers (hnodup : names.Nodup) (hlength : numbers.length = names.length) :
    names.mapM (member? ((names.zip (numbers.map ofNat)).map fun f => (some f.1, f.2))) =
      some (numbers.map ofNat) := by
  have hfst : (names.zip (numbers.map ofNat)).map Prod.fst = names :=
    List.map_fst_zip (by simp [hlength])
  have hsnd : (names.zip (numbers.map ofNat)).map Prod.snd = numbers.map ofNat :=
    List.map_snd_zip (by simp [hlength])
  have hfields := mapM_member?_fields (hfst.symm ▸ hnodup)
  rwa [hfst, hsnd] at hfields

/-- The numbers of a record are found in every spelling of its object. -/
theorem record_of_respells_numbers (hlib : lib.Lawful) (hnodup : names.Nodup)
    (hlength : numbers.length = names.length) (h : (ofNumbers names numbers).Respells j) :
    lib.record names j = if j.isNamed then some (numbers.map ofNat) else none := by
  have hfields := mapM_member?_numbers hnodup hlength
  obtain ⟨values, hvalues, hrespelt⟩ := hlib.exists_record hnodup h hfields
  rw [List.forall₂_map_left_iff] at hrespelt
  have hequal := map_eq_map_of_forall₂ (f := ofNat) (g := id)
    (hrespelt.imp fun _ _ h => h.eq_of_number.symm)
  rw [List.map_id] at hequal
  rw [hvalues, hequal]

end Numbers

end Json

open Json

variable {lib : Json.Library}

namespace Chunk

variable {c : Chunk} {j j' : Json}

/-- The values of the fields of a chunk, in order. -/
def numbers (c : Chunk) : List ℕ :=
  [c.tagIndex, c.requestSize.toNat, c.offset.toNat, c.chunkSize.toNat, c.overheadSize.toNat,
    c.margin.toNat]

theorem toJson_eq (c : Chunk) : c.toJson = ofNumbers fieldNames c.numbers := rfl

theorem isData_toJson (hc : c.tagIndex < UInt64.size) : c.toJson.IsData := by
  have hword : ∀ w : UInt64, w.toNat < UInt64.size := UInt64.toNat_lt
  rw [toJson_eq]
  refine isData_ofNumbers ?_
  simp only [numbers, List.forall_mem_cons]
  exact ⟨hc, hword _, hword _, hword _, hword _, hword _, by simp⟩

theorem ofJson_of_respells (hlib : lib.Lawful) (hc : c.tagIndex < UInt64.size)
    (h : c.toJson.Respells j) : ofJson lib j = if j.isNamed then some c else none := by
  have hrecord := record_of_respells_numbers hlib (by decide) rfl (c.toJson_eq ▸ h)
  have hindex : lib.word64 (ofNat c.tagIndex) = some (UInt64.ofNat c.tagIndex) := by
    have hword := hlib.word64_ofNat (UInt64.ofNat c.tagIndex)
    rwa [UInt64.toNat_ofNat', Nat.mod_eq_of_lt hc] at hword
  rw [ofJson, hrecord]
  by_cases hnamed : j.isNamed
  · simp [hnamed, numbers, hindex, hlib.word64_ofNat, Nat.mod_eq_of_lt hc]
  · simp [hnamed]

/-- In no spelling of a chunk can a field be left out or come in again. -/
theorem ofJson_of_spoils (hlib : lib.Lawful) (h : c.toJson.Respells j)
    (hspoils : Json.Spoils fieldNames j j') : ofJson lib j' = none := by
  have hfields : fieldNames.mapM (member? _) = some (c.numbers.map ofNat) :=
    mapM_member?_numbers (by decide) rfl
  obtain ⟨members, values, rfl, hvalues, -⟩ := Respells.exists_fields h hfields
  rw [ofJson, hlib.record_of_spoils (by decide) hvalues hspoils]
  rfl

theorem tagIndex_lt_of_ofJson (h : ofJson lib j = some c) : c.tagIndex < UInt64.size := by
  simp only [ofJson, Option.bind_eq_bind, Option.bind_eq_some_iff] at h
  obtain ⟨fields, -, words, -, h⟩ := h
  split at h
  · obtain rfl := Option.some.inj h
    exact UInt64.toNat_lt _
  · contradiction

end Chunk

namespace Budget

variable {b : Budget} {j : Json}

/-- The values of the fields of a budget, in order. -/
def numbers (b : Budget) : List ℕ :=
  [b.target.toNat, b.overhead.toNat, b.margin.toNat]

theorem toJson_eq (b : Budget) : b.toJson = ofNumbers fieldNames b.numbers := rfl

theorem isData_toJson (b : Budget) : b.toJson.IsData := by
  have hword : ∀ w : UInt64, w.toNat < UInt64.size := UInt64.toNat_lt
  rw [toJson_eq]
  refine isData_ofNumbers ?_
  simp only [numbers, List.forall_mem_cons]
  exact ⟨hword _, hword _, hword _, by simp⟩

theorem ofJson_of_respells (hlib : lib.Lawful) (h : b.toJson.Respells j) :
    ofJson lib j = if j.isNamed then some b else none := by
  have hrecord := record_of_respells_numbers hlib (by decide) rfl (b.toJson_eq ▸ h)
  rw [ofJson, hrecord]
  by_cases hnamed : j.isNamed
  · simp [hnamed, numbers, hlib.word64_ofNat]
  · simp [hnamed]

end Budget

namespace Group

variable {g : Group} {j j' : Json}

/-- The tag indexes of a group are machine words. -/
def IsIndexed (g : Group) : Prop :=
  ∀ c ∈ g.chunks, c.tagIndex < UInt64.size

/-- Whether the names are texts in the object of a group and in those of its chunks. -/
def isNamed : Json → Bool
  | .object members =>
      (Json.object members).isNamed &&
        match member? members "chunks" with
        | some (.array es) => es.all Json.isNamed
        | _ => true
  | _ => true

/-- The object of a group in which one chunk has a field less, or a field for the second time. -/
inductive Spoils : Json → Json → Prop
  | chunk {front back : List (Option String × Json)} {before after : List Json} {j j' : Json} :
      Json.Spoils Chunk.fieldNames j j' →
      Spoils (.object (front ++ (some "chunks", .array (before ++ j :: after)) :: back))
        (.object (front ++ (some "chunks", .array (before ++ j' :: after)) :: back))

theorem isData_toJson (hg : g.IsIndexed) : g.toJson.IsData := by
  refine .fields fun f hf => ?_
  obtain rfl := List.mem_singleton.1 hf
  refine .array fun e he => ?_
  obtain ⟨c, hc, rfl⟩ := List.mem_map.1 he
  exact Chunk.isData_toJson (hg c hc)

theorem mapM_ofJson_of_respells (hlib : lib.Lawful) {chunks : List Chunk} {es : List Json}
    (hchunks : ∀ c ∈ chunks, c.tagIndex < UInt64.size)
    (h : List.Forall₂ (fun c e => c.toJson.Respells e) chunks es) :
    es.mapM (Chunk.ofJson lib) = if es.all Json.isNamed then some chunks else none := by
  by_cases hnamed : es.all Json.isNamed
  · rw [if_pos hnamed, mapM_eq_some_iff]
    induction h with
    | nil => exact .nil
    | cons hhead _ ih =>
        rw [List.forall_mem_cons] at hchunks
        rw [List.all_cons, Bool.and_eq_true] at hnamed
        have hc := Chunk.ofJson_of_respells hlib hchunks.1 hhead
        exact .cons (hc.trans (if_pos hnamed.1)) (ih hchunks.2 hnamed.2)
  · rw [if_neg hnamed]
    obtain ⟨e, he, hunnamed⟩ : ∃ e ∈ es, ¬e.isNamed := by simpa using hnamed
    obtain ⟨i, hi⟩ := List.mem_iff_getElem?.1 he
    obtain ⟨c, hc, hce⟩ := exists_getElem?_of_forall₂ h.flip hi
    have hnone := Chunk.ofJson_of_respells hlib (hchunks c (List.mem_of_getElem? hc)) hce
    exact mapM_eq_none he (hnone.trans (if_neg hunnamed))

/-- The chunks of a group are found in every spelling of its object. -/
theorem exists_elements_of_respells (h : g.toJson.Respells j) :
    ∃ members es, j = .object members ∧ member? members "chunks" = some (.array es) ∧
      List.Forall₂ (fun c e => c.toJson.Respells e) g.chunks es := by
  obtain ⟨members, rfl, hfields⟩ := Respells.exists_object h
  obtain ⟨value, hvalue, hrespelt⟩ := hfields "chunks" (.array (g.chunks.map Chunk.toJson)) rfl
  obtain ⟨es, rfl, hes⟩ := hrespelt.exists_array
  exact ⟨members, es, rfl, hvalue, List.forall₂_map_left_iff.1 hes⟩

theorem ofJson_of_respells (hlib : lib.Lawful) (hg : g.IsIndexed) (h : g.toJson.Respells j) :
    ofJson lib j = if isNamed j then some g else none := by
  obtain ⟨members, es, rfl, hmember, hes⟩ := exists_elements_of_respells h
  have hrecord : lib.record ["chunks"] (.object members) = _ :=
    hlib.record_eq (List.nodup_singleton "chunks")
  have hchunks := mapM_ofJson_of_respells hlib hg hes
  rw [ofJson, hrecord, isNamed, hmember]
  by_cases hnamed : (Json.object members).isNamed
  · simp only [hnamed, if_true, Bool.true_and, List.mapM_cons, List.mapM_nil, hmember,
      Option.bind_eq_bind, Option.bind_some, Option.pure_def, hlib.sequence_array, hchunks]
    by_cases hall : es.all Json.isNamed <;> simp [hall]
  · simp [hnamed]

theorem isNamed_toJson (g : Group) : isNamed g.toJson = true := by
  have hchunks : (g.chunks.map Chunk.toJson).all Json.isNamed = true := by
    rw [List.all_map]
    exact List.all_eq_true.2 fun c _ => rfl
  exact hchunks

theorem exists_elements_of_ofJson (h : ofJson lib j = some g) :
    ∃ chunks es, lib.record ["chunks"] j = some [chunks] ∧ lib.sequence chunks = some es ∧
      es.mapM (Chunk.ofJson lib) = some g.chunks := by
  simp only [ofJson, Option.bind_eq_bind, Option.bind_eq_some_iff] at h
  obtain ⟨values, hvalues, h⟩ := h
  split at h
  · obtain ⟨es, hes, h⟩ := Option.bind_eq_some_iff.1 h
    obtain ⟨chunks, hchunks, rfl⟩ := Option.map_eq_some_iff.1 h
    exact ⟨_, es, hvalues, hes, hchunks⟩
  · contradiction

theorem exists_chunk_of_ofJson (hlib : lib.Lawful) {members : List (Option String × Json)}
    {es : List Json} {e : Json} (h : ofJson lib (.object members) = some g)
    (hes : (some "chunks", .array es) ∈ members) (he : e ∈ es) :
    ∃ c, Chunk.ofJson lib e = some c := by
  obtain ⟨chunks, es', hrecord, helements, hchunks⟩ := exists_elements_of_ofJson h
  rw [hlib.record_eq (List.nodup_singleton "chunks")] at hrecord
  split at hrecord
  · have hmember : member? members "chunks" = some chunks :=
      (List.forall₂_cons.1 (mapM_eq_some_iff.1 hrecord)).1
    obtain rfl := eq_of_member? hmember hes
    rw [hlib.sequence_array] at helements
    obtain rfl := Option.some.inj helements
    rw [← Option.ne_none_iff_exists']
    intro hnone
    rw [mapM_eq_none he hnone] at hchunks
    contradiction
  · contradiction

/-- In no spelling of a group can a field of a chunk be left out or come in again. -/
theorem ofJson_of_spoils (hlib : lib.Lawful) (h : g.toJson.Respells j) (hspoils : Spoils j j') :
    ofJson lib j' = none := by
  obtain @⟨front, back, before, after, e, e', hchunk⟩ := hspoils
  have hmem : ∀ es, (some "chunks", .array es) ∈ front ++ (some "chunks", .array es) :: back := by
    simp
  obtain ⟨members, es, hobject, hmember, hes⟩ := exists_elements_of_respells h
  obtain rfl := Json.object.inj hobject
  obtain rfl := Json.array.inj (eq_of_member? hmember (hmem _))
  obtain ⟨i, hi⟩ := List.mem_iff_getElem?.1 (List.mem_append_cons_self (a := e))
  obtain ⟨c, -, hc⟩ := exists_getElem?_of_forall₂ hes.flip hi
  have hrefused := Chunk.ofJson_of_spoils hlib hc hchunk
  rw [Option.eq_none_iff_forall_ne_some]
  intro g' hg'
  obtain ⟨c', hc'⟩ :=
    exists_chunk_of_ofJson hlib hg' (hmem _) (List.mem_append_cons_self (a := e'))
  rw [hrefused] at hc'
  contradiction

theorem isIndexed_of_ofJson (h : ofJson lib j = some g) : g.IsIndexed := by
  obtain ⟨_, es, -, -, hchunks⟩ := exists_elements_of_ofJson h
  rw [mapM_eq_some_iff] at hchunks
  intro c hc
  obtain ⟨i, hi⟩ := List.mem_iff_getElem?.1 hc
  obtain ⟨e, -, he⟩ := exists_getElem?_of_forall₂ hchunks.flip hi
  exact Chunk.tagIndex_lt_of_ofJson he

end Group

namespace VPolicy

variable {p : VPolicy} {j : Json}

theorem isData_toJson (p : VPolicy) : p.toJson.IsData := by
  cases p with
  | reject => exact .fields (by simpa using .string _)
  | block dbNumber =>
      have hword : dbNumber.toNat < UInt64.size := dbNumber.toNat_lt.trans (by decide)
      exact .fields (by simpa using ⟨.string _, .word hword⟩)

theorem isPlain_toJson (hlib : lib.Lawful) (p : VPolicy) :
    p.toJson.isPlain lib.holds maxDepth = true := by
  cases p with
  | reject => rfl
  | block dbNumber =>
      have hword : dbNumber.toNat < UInt64.size := dbNumber.toNat_lt.trans (by decide)
      have hholds := hlib.holds_word dbNumber.toNat hword
      change membersPlain lib.holds 126 [(some "kind", ofString "alias"),
        (some "db_number", .number (.integer (.ofNat dbNumber.toNat)))] = true
      simp only [membersPlain, ofString, isPlain, hholds]
      rfl

/-- In every plain spelling of a policy the kind is found, and the fields beside it. -/
theorem exists_content (hlib : lib.Lawful) {ms : List (Option String × Json)} {kind : String}
    (hkind : member? ms "kind" = some (ofString kind)) (h : (Json.object ms).Respells j) :
    ∃ content, lib.tagged "kind" j =
        (if j.isPlain lib.holds maxDepth then some (kind, .object content) else none) ∧
      (j.isPlain lib.holds maxDepth → (Json.object content).isNamed) ∧
      ∀ name ≠ "kind", ∀ value, member? ms name = some value →
        ∃ value', member? content name = some value' ∧ Respells value value' := by
  obtain ⟨members, rfl, hfields⟩ := h.exists_object
  obtain ⟨value, hvalue, hrespelt⟩ := hfields "kind" _ hkind
  obtain rfl := hrespelt.eq_of_string
  refine ⟨members.filter (·.1 ≠ some "kind"), ?_, fun hplain => ?_,
    fun name hname value hfield => ?_⟩
  · by_cases hplain : (Json.object members).isPlain lib.holds maxDepth
    · rw [if_pos hplain]
      exact hlib.tagged_object hplain hvalue
    · rw [if_neg hplain]
      exact hlib.tagged_unheld (Bool.eq_false_iff.2 hplain)
  · have hnamed := List.all_eq_true.1 (isNamed_of_isPlain hplain)
    exact List.all_eq_true.2 fun m hm => hnamed m (List.mem_of_mem_filter hm)
  · rw [member?_filter hname]
    exact hfields name value hfield

theorem ofJson_of_respells (hlib : lib.Lawful) (h : p.toJson.Respells j) :
    ofJson lib j = if j.isPlain lib.holds maxDepth then some p else none := by
  cases p with
  | reject =>
      have hkind : member? [(some "kind", ofString "reject")] "kind" = some (ofString "reject") :=
        rfl
      obtain ⟨content, htagged, -, -⟩ := exists_content hlib hkind h
      rw [ofJson, htagged]
      split
      · simp [hlib.bare_object]
      · rfl
  | block dbNumber =>
      have hkind : member? [(some "kind", ofString "alias"),
          (some "db_number", ofNat dbNumber.toNat)] "kind" = some (ofString "alias") := rfl
      obtain ⟨content, htagged, hnamed, hfields⟩ := exists_content hlib hkind h
      obtain ⟨number, hnumber, hrespelt⟩ :=
        hfields "db_number" (by decide) (ofNat dbNumber.toNat) rfl
      obtain rfl : number = ofNat dbNumber.toNat := hrespelt.eq_of_number
      rw [ofJson, htagged]
      split
      · rename_i hplain
        have hrecord := hlib.record_object (List.nodup_singleton "db_number") (hnamed hplain)
        simp [hrecord, hnumber, hlib.word16_ofNat]
      · rfl

end VPolicy

/-- With any JSON library, plan data is decoded from its text and from the texts of its other
spellings. A group and a budget need names that are texts, a policy an object that is plain; and a
group is refused when a field of a chunk is missing or repeated. -/
theorem interchange_faithful (hlib : lib.Lawful) :
    (∀ g : Group, g.IsIndexed →
      lib.decode? Group.ofJson (lib.write g.toJson) = some g ∧
      ∀ j, g.toJson.Respells j →
        ReadAs lib Group.ofJson j (if Group.isNamed j then some g else none) ∧
        ∀ j', Group.Spoils j j' → ReadAs lib Group.ofJson j' none) ∧
    (∀ b : Budget, lib.decode? Budget.ofJson (lib.write b.toJson) = some b ∧
      ∀ j, b.toJson.Respells j →
        ReadAs lib Budget.ofJson j (if j.isNamed then some b else none)) ∧
    (∀ p : VPolicy, lib.decode? VPolicy.ofJson (lib.write p.toJson) = some p ∧
      ∀ j, p.toJson.Respells j →
        ReadAs lib VPolicy.ofJson j (if j.isPlain lib.holds maxDepth then some p else none)) ∧
    ∀ text g, lib.decode? Group.ofJson text = some g →
      lib.decode? Group.ofJson (lib.write g.toJson) = some g := by
  have hgroup : ∀ g : Group, g.IsIndexed →
      lib.decode? Group.ofJson (lib.write g.toJson) = some g := by
    intro g hg
    refine decode?_write hlib (Group.isData_toJson hg) ?_
    rw [Group.ofJson_of_respells hlib hg (.refl _), if_pos g.isNamed_toJson]
  refine ⟨fun g hg => ⟨hgroup g hg, fun j hj => ⟨?_, fun j' hj' => ?_⟩⟩,
    fun b => ⟨?_, fun j hj => ?_⟩, fun p => ⟨?_, fun j hj => ?_⟩, fun text g htext => ?_⟩
  · exact readAs_of_eq (Group.ofJson_of_respells hlib hg hj)
  · exact readAs_of_eq (Group.ofJson_of_spoils hlib hj hj')
  · exact decode?_write hlib b.isData_toJson (Budget.ofJson_of_respells hlib (.refl _))
  · exact readAs_of_eq (Budget.ofJson_of_respells hlib hj)
  · have hread := VPolicy.ofJson_of_respells hlib (.refl p.toJson)
    rw [if_pos (p.isPlain_toJson hlib)] at hread
    exact decode?_write hlib p.isData_toJson hread
  · exact readAs_of_eq (VPolicy.ofJson_of_respells hlib hj)
  · obtain ⟨j, -, hj⟩ := Option.bind_eq_some_iff.1 htext
    exact hgroup g (Group.isIndexed_of_ofJson hj)

/-- A group with the largest index, spelt with two fields of its chunk in exchange and with more
members around the chunk and in it; and the same without the index. -/
theorem interchange_faithful_largest :
    ∃ (g : Group) (j j' : Json),
      g = ⟨[⟨18446744073709551615, 1, 0, 1, 5, 12⟩]⟩ ∧ g.IsIndexed ∧ Library.standard.Lawful ∧
      g.toJson.Respells j ∧ Group.Spoils j j' ∧
      Library.standard.write j = "\x7b\"note\":null,\"chunks\":[\x7b\"originalSize\":1," ++
        "\"tagIndex\":18446744073709551615,\"offset\":0,\"chunkSize\":1,\"overheadSize\":5," ++
        "\"margin\":12,\"tag\":[true]\x7d]\x7d" ∧
      Library.standard.decode? Group.ofJson (Library.standard.write j) = some g ∧
      Library.standard.write j' = "\x7b\"note\":null,\"chunks\":[\x7b\"originalSize\":1," ++
        "\"offset\":0,\"chunkSize\":1,\"overheadSize\":5,\"margin\":12,\"tag\":[true]\x7d]\x7d" ∧
      Library.standard.decode? Group.ofJson (Library.standard.write j') = none := by
  have hg : Group.IsIndexed ⟨[⟨18446744073709551615, 1, 0, 1, 5, 12⟩]⟩ := by
    simp [Group.IsIndexed, UInt64.size]
  have hsame : ∀ ms, List.Forall₂ MemberRespells ms ms := fun ms =>
    List.forall₂_same.2 fun m _ => .mk (.refl m.2)
  have hchunk : Respells (Chunk.toJson ⟨18446744073709551615, 1, 0, 1, 5, 12⟩)
      (.object ([(some "originalSize", ofNat 1)] ++ (some "tagIndex", ofNat 18446744073709551615) ::
        [(some "offset", ofNat 0), (some "chunkSize", ofNat 1), (some "overheadSize", ofNat 5),
          (some "margin", ofNat 12), (some "tag", .array [.boolean true])])) :=
    @Respells.object _ _ [(some "tag", .array [.boolean true])] _ (hsame _) (by simp) (.swap _ _ _)
  have hgroup : Respells (Group.toJson ⟨[⟨18446744073709551615, 1, 0, 1, 5, 12⟩]⟩)
      (.object ([(some "note", .null)] ++ (some "chunks", .array ([] ++ _ :: [])) :: [])) :=
    .object (.cons (.mk (.array (.cons hchunk .nil))) .nil) (by simp) (.swap _ _ [])
  have hread : ∀ ms, (∀ m ∈ ms, m.2.IsSpelt) → Library.standard.read (Library.standard.write
      (.object [(some "note", .null), (some "chunks", .array [.object ms])])) =
        some (.object [(some "note", .null), (some "chunks", .array [.object ms])]) := by
    intro ms hms
    have hchunks : IsSpelt (.array [.object ms]) :=
      .array (List.forall_mem_singleton.2 (.object hms))
    exact read_of_render
      (.object (List.forall_mem_cons.2 ⟨.null, List.forall_mem_singleton.2 hchunks⟩)) rfl
  have hname : "tagIndex" ∈ Chunk.fieldNames := by decide
  have hnumber : ∀ n, (ofNat n).IsSpelt := fun n => .number (.integer n)
  obtain ⟨hdecoded, hrefused⟩ := ((interchange_faithful lawful_standard).1 _ hg).2 _ hgroup
  rw [if_pos (by decide +kernel)] at hdecoded
  refine ⟨_, _, _, rfl, hg, lawful_standard, hgroup, .chunk (.missing hname), by decide +kernel,
    hdecoded _ (hread _ ?_), by decide +kernel, hrefused _ (.chunk (.missing hname)) _ (hread _ ?_)⟩
  all_goals simp [hnumber, IsSpelt.array, IsSpelt.boolean]

/-- A policy is refused beside a number beyond floating point, and a budget beside a name that is
not a text, although neither has a field of that name. -/
theorem refused_beside_others :
    (∃ j, VPolicy.reject.toJson.Respells j ∧
      Library.standard.read "\x7b\"kind\":\"reject\",\"note\":1e400\x7d" = some j ∧
      Library.standard.decode? VPolicy.ofJson "\x7b\"kind\":\"reject\",\"note\":1e400\x7d" = none) ∧
    ∃ j, (Budget.toJson ⟨1, 2, 3⟩).Respells j ∧
      Library.standard.read
        "\x7b\"targetSize\":1,\"overheadSize\":2,\"margin\":3,\"\\ud800\":null\x7d" = some j ∧
      Library.standard.decode? Budget.ofJson
        "\x7b\"targetSize\":1,\"overheadSize\":2,\"margin\":3,\"\\ud800\":null\x7d" = none := by
  have hsame : ∀ ms, List.Forall₂ MemberRespells ms ms := fun ms =>
    List.forall₂_same.2 fun m _ => .mk (.refl m.2)
  constructor
  · have hnumber : Number.IsSpelt (.decimal ['1', 'e', '4', '0', '0']) := by
      have hwhole : IsWhole ['1'] := ⟨⟨by simp, by simp⟩, by simp⟩
      have hdigits : IsNumeral ['4', '0', '0'] := ⟨by simp, by simp⟩
      have hexponent : IsExponent ['e', '4', '0', '0'] := .unsigned (.inl rfl) hdigits
      exact @Number.IsSpelt.decimal false _ _ _ hwhole .absent hexponent (by simp)
    have hspelt : IsSpelt (.object [(some "kind", ofString "reject"),
        (some "note", .number (.decimal ['1', 'e', '4', '0', '0']))]) :=
      .object (List.forall_mem_cons.2 ⟨.string _, List.forall_mem_singleton.2 (.number hnumber)⟩)
    have hread : Library.standard.read "\x7b\"kind\":\"reject\",\"note\":1e400\x7d" = some _ :=
      read_of_render hspelt (by decide +kernel)
    have hnone : VPolicy.ofJson .standard (.object [(some "kind", ofString "reject"),
        (some "note", .number (.decimal ['1', 'e', '4', '0', '0']))]) = none := by decide +kernel
    exact ⟨_, .object (hsame _) (by simp) (.refl _), hread, readAs_of_eq hnone _ hread⟩
  · have hnumber : ∀ n, (ofNat n).IsSpelt := fun n => .number (.integer n)
    have hspelt : IsSpelt (.object [(some "targetSize", ofNat 1), (some "overheadSize", ofNat 2),
        (some "margin", ofNat 3), (none, .null)]) := by
      refine .object ?_
      simp only [List.forall_mem_cons]
      exact ⟨hnumber 1, hnumber 2, hnumber 3, .null, by simp⟩
    have hread : Library.standard.read
        "\x7b\"targetSize\":1,\"overheadSize\":2,\"margin\":3,\"\\ud800\":null\x7d" = some _ :=
      read_of_render hspelt (by decide +kernel)
    have hnone : Budget.ofJson .standard (.object [(some "targetSize", ofNat 1),
        (some "overheadSize", ofNat 2), (some "margin", ofNat 3), (none, .null)]) = none := by
      decide +kernel
    exact ⟨_, .object (hsame _) (by simp) (.refl _), hread, readAs_of_eq hnone _ hread⟩

end S7Request

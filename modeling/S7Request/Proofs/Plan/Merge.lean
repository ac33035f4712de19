import S7Request.Proofs.Plan.Bounds

/-!
# Merging responses

Responses answer a plan when they have its shape and every entry is at least as long as its chunk.
Exactly these are merged. The buffers then hold, for every chunk, the beginning of its entry, and
the chunks leave no byte of a buffer out. Other responses are refused for the first thing that is
wrong with them, in the order of the groups and, within a group, of the chunks.
-/
namespace S7Request

namespace Group

/-- Every chunk of the group has an entry that is long enough. -/
def AnsweredBy (g : Group) (response : List Bytes) : Prop :=
  List.Forall₂ (fun c entry => c.chunkSize.toNat ≤ entry.length) g.chunks response

/-- The first thing that is wrong with a response. -/
inductive Fault (g : Group) (response : List Bytes) : Error → Prop
  | itemCount (hlength : g.chunks.length ≠ response.length) :
      Fault g response (.planMismatch .responseItemCount)
  | short {c : Chunk} {entry : Bytes} (hlength : g.chunks.length = response.length)
      (hfirst : FirstWithout (fun x : Chunk × Bytes => x.1.chunkSize.toNat ≤ x.2.length)
        (g.chunks.zip response) (c, entry)) :
      Fault g response (.insufficientData c.chunkSize entry.length)

theorem exists_fault {g : Group} {response : List Bytes} (h : ¬g.AnsweredBy response) :
    ∃ e, g.Fault response e := by
  by_cases hlength : g.chunks.length = response.length
  · obtain ⟨c, entry, hfirst⟩ := exists_firstWithout_zip hlength h
    exact ⟨_, .short hlength hfirst⟩
  · exact ⟨_, .itemCount hlength⟩

end Group

namespace Plan

/-- Every group of the plan has a response that answers it. -/
def AnsweredBy (plan : Plan .read) (responses : List (List Bytes)) : Prop :=
  List.Forall₂ Group.AnsweredBy plan.groups responses

/-- The first thing that is wrong with the responses. -/
inductive Fault (plan : Plan .read) (responses : List (List Bytes)) : Error → Prop
  | responseCount (hlength : responses.length ≠ plan.groups.length) :
      Fault plan responses (.planMismatch .responseCount)
  | group {g : Group} {response : List Bytes} {e : Error}
      (hlength : responses.length = plan.groups.length)
      (hfirst : FirstWithout (fun x : Group × List Bytes => x.1.AnsweredBy x.2)
        (plan.groups.zip responses) (g, response))
      (hfault : g.Fault response e) :
      Fault plan responses e

/-- The place of the chunk in the buffer of its item holds the beginning of the entry. -/
def Holds (buffers : List Bytes) (c : Chunk) (entry : Bytes) : Prop :=
  ∃ buffer, buffers[c.tagIndex]? = some buffer ∧
    (buffer.drop c.offset.toNat).take c.chunkSize.toNat = entry.take c.chunkSize.toNat

/-- The buffers are what the responses say about the items, all of it and nothing else. -/
structure Merged (plan : Plan .read) (responses : List (List Bytes)) (buffers : List Bytes) :
    Prop where
  fitting : Fitting plan.items buffers
  holds : List.Forall₂ (fun g response => List.Forall₂ (Holds buffers) g.chunks response)
    plan.groups responses
  written : ∀ i buffer, buffers[i]? = some buffer → ∀ j < buffer.length,
    ∃ g ∈ plan.groups, ∃ c ∈ g.chunks, c.tagIndex = i ∧ c.offset.toNat ≤ j ∧
      j < c.offset.toNat + c.chunkSize.toNat

variable {config : PlannerConfig} {items : List Item} {plan : Plan .read}
  {buffers data : List Bytes} {responses : List (List Bytes)}

theorem exists_fault (h : ¬plan.AnsweredBy responses) : ∃ e, plan.Fault responses e := by
  by_cases hlength : responses.length = plan.groups.length
  · obtain ⟨g, response, hfirst⟩ := exists_firstWithout_zip hlength.symm h
    obtain ⟨e, hfault⟩ := Group.exists_fault hfirst.not_prop
    exact ⟨e, .group hlength hfirst hfault⟩
  · exact ⟨_, .responseCount hlength⟩

section Group

variable {g : Group} {response : List Bytes}

/-- A response that answers its group is stored, and the buffers keep their lengths. -/
theorem storeGroup_of_answeredBy (hg : ∀ c ∈ g.chunks, c.InRange items)
    (h : g.AnsweredBy response) (hfit : Fitting items buffers) :
    ∃ buffers', storeGroup buffers g response = .ok buffers' ∧ Fitting items buffers' := by
  obtain ⟨hlength, hlong⟩ := List.forall₂_iff_zip.1 h
  rw [storeGroup, if_neg (not_not.2 hlength)]
  refine exists_foldlM_ok (P := Fitting items) ?_ hfit
  rintro ⟨c, entry⟩ hmem buffers hfit
  exact storeChunk_of_le hfit (hg c (List.of_mem_zip hmem).1) (hlong hmem)

/-- A response with a fault is refused for it. -/
theorem storeGroup_of_fault (hg : ∀ c ∈ g.chunks, c.InRange items) {e : Error}
    (h : g.Fault response e) (hfit : Fitting items buffers) :
    storeGroup buffers g response = .error e := by
  cases h with
  | itemCount hlength => rw [storeGroup, if_pos hlength]
  | short hlength hfirst =>
      rw [storeGroup, if_neg (not_not.2 hlength)]
      refine hfirst.foldlM_eq_error (P := Fitting items) ?_ ?_ hfit
      · rintro ⟨c, entry⟩ hmem hlong buffers hfit
        exact storeChunk_of_le hfit (hg c (List.of_mem_zip hmem).1) hlong
      · intro buffers _
        exact storeChunk_of_lt buffers (Nat.lt_of_not_le hfirst.not_prop)

/-- What an entry holds beyond the size of its chunk is ignored. -/
theorem storeChunk_take {c : Chunk} {entry : Bytes} (hle : c.chunkSize.toNat ≤ entry.length) :
    storeChunk buffers c (entry.take c.chunkSize.toNat) = storeChunk buffers c entry := by
  rw [storeChunk, storeChunk, List.length_take_of_le hle, if_neg (Nat.lt_irrefl _),
    if_neg (Nat.not_lt.2 hle), List.take_take, Nat.min_self]

/-- Entries that begin with the payloads of their chunks are stored as these are. -/
theorem storeGroup_of_take (hg : g.AnsweredBy response)
    (htake : List.Forall₂ (fun c entry => chunkPayload data c = entry.take c.chunkSize.toNat)
      g.chunks response) (buffers : List Bytes) :
    storeGroup buffers g response =
      g.chunks.foldlM (fun buffers c => storeChunk buffers c (chunkPayload data c)) buffers := by
  rw [storeGroup, if_neg (not_not.2 hg.length_eq)]
  refine foldlM_zip_of_forall₂ (List.Forall₂.mp ?_ hg htake) buffers
  intro c entry hle htake buffers
  rw [htake, storeChunk_take hle]

end Group

/-- Responses that answer the plan are merged into data of the items, of which every chunk's payload
is the beginning of its entry. -/
theorem exists_merge_of_answeredBy (h : make .read config items = .ok plan)
    (hanswered : plan.AnsweredBy responses) :
    ∃ data, plan.merge responses = .ok data ∧ Fitting plan.items data ∧
      List.Forall₂ (fun g response => List.Forall₂
        (fun c entry => chunkPayload data c = entry.take c.chunkSize.toNat) g.chunks response)
        plan.groups responses := by
  have hnested : List.Forall₂ (List.Forall₂ fun c entry => c.chunkSize.toNat ≤ entry.length)
      (plan.groups.map (·.chunks)) responses := List.forall₂_map_left_iff.2 hanswered
  -- Cut to the sizes of their chunks, the entries are what some data of the items is split into.
  obtain ⟨data, hfit, hdata⟩ := exists_fitting_of_le h (List.rel_flatten hnested)
  have hshape : (plan.groups.map (·.chunks)).map List.length = responses.map List.length :=
    map_eq_map_of_forall₂ (hnested.imp fun _ _ hg => hg.length_eq)
  have htake := List.forall₂_map_left_iff.1 (forall₂_of_flatten hdata hshape)
  refine ⟨data, ?_, hfit, htake⟩
  have hsteps := List.Forall₂.mp (fun _ _ => storeGroup_of_take) hanswered htake
  rw [merge, if_neg (not_not.2 hanswered.length_eq.symm), foldlM_zip_of_forall₂ hsteps,
    ← foldlM_flatMap, ← merge_map]
  exact merge_chunkPayload h (items_of_make h ▸ hfit)

/-- Responses with a fault are refused for it. -/
theorem merge_of_fault (h : make .read config items = .ok plan) {e : Error}
    (hfault : plan.Fault responses e) : plan.merge responses = .error e := by
  cases hfault with
  | responseCount hlength => rw [merge, if_pos hlength]
  | @group g response _ hlength hfirst hfault =>
      have hrange {g : Group} {response : List Bytes}
          (hmem : (g, response) ∈ plan.groups.zip responses) :
          ∀ c ∈ g.chunks, c.InRange plan.items :=
        fun _ => inRange_of_make h (List.of_mem_zip hmem).1
      rw [merge, if_neg (not_not.2 hlength)]
      refine hfirst.foldlM_eq_error (P := Fitting plan.items) ?_ ?_ (fitting_replicate _)
      · rintro ⟨g, response⟩ hmem hanswered buffers hfit
        exact storeGroup_of_answeredBy (hrange hmem) hanswered hfit
      · intro buffers hfit
        exact storeGroup_of_fault (hrange hfirst.mem) hfault hfit

theorem holds_of_chunkPayload (hfit : Fitting items data) {c : Chunk} (hc : c.InRange items)
    {entry : Bytes} (htake : chunkPayload data c = entry.take c.chunkSize.toNat) :
    Holds data c entry := by
  obtain ⟨buffer, hbuffer, -⟩ := hfit.exists_getElem? hc
  rw [chunkPayload, hbuffer, Option.getD_some] at htake
  exact ⟨buffer, hbuffer, htake⟩

/-- Buffers whose chunks have the given payloads are what the responses say. -/
theorem merged_of_chunkPayload (h : make .read config items = .ok plan)
    (hfit : Fitting plan.items data)
    (htake : List.Forall₂ (fun g response => List.Forall₂
      (fun c entry => chunkPayload data c = entry.take c.chunkSize.toNat) g.chunks response)
      plan.groups responses) : Merged plan responses data where
  fitting := hfit
  holds := by
    have hrange : ∀ g ∈ plan.groups, ∀ c ∈ g.chunks, c.InRange plan.items :=
      fun g hg c => inRange_of_make h hg
    refine ((List.forall₂_and_left _ _).2 ⟨hrange, htake⟩).imp fun g response hgroup => ?_
    refine ((List.forall₂_and_left _ _).2 hgroup).imp fun c entry hchunk => ?_
    exact holds_of_chunkPayload hfit hchunk.1 hchunk.2
  written i buffer hbuffer j hj := by
    obtain ⟨item, hitem, hlength⟩ := exists_getElem?_of_forall₂ hfit.flip hbuffer
    exact exists_chunk h hitem (hlength ▸ hj)

theorem exists_merge_iff (h : make .read config items = .ok plan) :
    (∃ buffers, plan.merge responses = .ok buffers) ↔ plan.AnsweredBy responses := by
  refine ⟨fun ⟨buffers, hmerge⟩ => ?_, fun hanswered => ?_⟩
  · by_contra hunanswered
    obtain ⟨e, hfault⟩ := exists_fault hunanswered
    rw [merge_of_fault h hfault] at hmerge
    contradiction
  · obtain ⟨data, hmerge, -⟩ := exists_merge_of_answeredBy h hanswered
    exact ⟨data, hmerge⟩

theorem merge_eq_error_iff (h : make .read config items = .ok plan) {e : Error} :
    plan.merge responses = .error e ↔ plan.Fault responses e := by
  refine ⟨fun hmerge => ?_, merge_of_fault h⟩
  have hunanswered : ¬plan.AnsweredBy responses := by
    intro hanswered
    obtain ⟨buffers, hmerge'⟩ := (exists_merge_iff h).2 hanswered
    rw [hmerge] at hmerge'
    contradiction
  obtain ⟨e', hfault⟩ := exists_fault hunanswered
  obtain rfl := Except.error.inj ((merge_of_fault h hfault).symm.trans hmerge)
  exact hfault

/-- Exactly the responses that answer a plan are merged, into what they say; others are refused for
their first fault. No access leaves its bounds, whatever the responses are. -/
theorem merge_exact (h : make .read config items = .ok plan) (responses : List (List Bytes)) :
    plan.merge? responses = some (plan.merge responses) ∧
      ((∃ buffers, plan.merge responses = .ok buffers) ↔ plan.AnsweredBy responses) ∧
      (∀ buffers, plan.merge responses = .ok buffers → Merged plan responses buffers) ∧
      ∀ e, plan.merge responses = .error e ↔ plan.Fault responses e := by
  refine ⟨merge?_eq h responses, exists_merge_iff h, fun buffers hmerge => ?_,
    fun e => merge_eq_error_iff h⟩
  have hanswered := (exists_merge_iff h).1 ⟨buffers, hmerge⟩
  obtain ⟨data, hmerge', hfit, htake⟩ := exists_merge_of_answeredBy h hanswered
  obtain rfl := Except.ok.inj (hmerge'.symm.trans hmerge)
  exact merged_of_chunkPayload h hfit htake

/-- An item cut in two. Of two faults, the one in the earlier group is reported. -/
theorem merge_exact_cut :
    ∃ plan, make .read ⟨0, some ⟨7, 3, 2⟩, none⟩ [⟨.dataBlocks, 1, 10, 0, .byte, 5⟩] = .ok plan ∧
      plan.merge? [[[1, 2, 3, 4, 9]], [[5]]] = some (.ok [[1, 2, 3, 4, 5]]) ∧
      Merged plan [[[1, 2, 3, 4, 9]], [[5]]] [[1, 2, 3, 4, 5]] ∧
      plan.merge? [[[1, 2, 3]], []] = some (.error (.insufficientData 4 3)) ∧
      plan.Fault [[[1, 2, 3]], []] (.insufficientData 4 3) := by
  have hmerged : (make .read ⟨0, some ⟨7, 3, 2⟩, none⟩ [⟨.dataBlocks, 1, 10, 0, .byte, 5⟩] >>=
      fun plan => plan.merge [[[1, 2, 3, 4, 9]], [[5]]]) = .ok [[1, 2, 3, 4, 5]] := by
    decide +kernel
  have hrefused : (make .read ⟨0, some ⟨7, 3, 2⟩, none⟩ [⟨.dataBlocks, 1, 10, 0, .byte, 5⟩] >>=
      fun plan => plan.merge [[[1, 2, 3]], []]) = .error (.insufficientData 4 3) := by
    decide +kernel
  obtain ⟨plan, hplan, hmerge⟩ := bind_eq_ok_iff.1 hmerged
  rw [hplan] at hrefused
  obtain ⟨hbounds, -, hcontent, -⟩ := merge_exact hplan [[[1, 2, 3, 4, 9]], [[5]]]
  obtain ⟨hbounds', -, -, hfault⟩ := merge_exact hplan [[[1, 2, 3]], []]
  exact ⟨plan, hplan, hbounds.trans (congrArg some hmerge), hcontent _ hmerge,
    hbounds'.trans (congrArg some hrefused), (hfault _).1 hrefused⟩

end Plan

end S7Request

import S7Request.Proofs.Packing.Closing
import S7Request.Proofs.Packing.Overflow

/-!
# What packing reports

A packer that reports while it works: each group when it is closed, under the number of groups
closed before it and with what is used at that moment, and at the end the chunks that it has
counted. It packs as the packer does, and its log is the one read off the finished packing, as long
as the count of the chunks does not wrap. So the log can be checked against the groups: every group
but an open last one is reported once, in order, and for the reason for which it was closed.
-/
namespace S7Request

open Piece

/-- A packer with its log so far and the number of chunks that it has put, on a word of 64 bits. -/
structure Reporter where
  packer : Packer
  log : List Event
  chunkCount : UInt64
  deriving DecidableEq, Repr

namespace Reporter

def start : Reporter :=
  ⟨.empty, [], 0⟩

/-- Reports the open group, under the number of groups closed before it, and closes it. -/
def close (full : Bool) (r : Reporter) : Reporter :=
  { r with
    packer := r.packer.close full
    log := r.log ++ [if full then .closingFullGroup r.packer.closed.size r.packer.used
      else .closingGroup r.packer.closed.size r.packer.used] }

def makeRoom (l : Limits) (r : Reporter) : Reporter :=
  if l.target - r.packer.used ≤ l.overhead then r.close true else r

def put (c : Chunk) (r : Reporter) : Reporter :=
  { r with packer := r.packer.put c, chunkCount := r.chunkCount + 1 }

def settle (l : Limits) (r : Reporter) : Reporter :=
  if l.target ≤ Word.addClamped r.packer.used l.reserve then r.close false else r

@[simp] theorem packer_makeRoom (l : Limits) (r : Reporter) :
    (r.makeRoom l).packer = r.packer.makeRoom l := by
  unfold makeRoom Packer.makeRoom
  split <;> rfl

@[simp] theorem packer_settle (l : Limits) (r : Reporter) :
    (r.settle l).packer = r.packer.settle l := by
  unfold settle Packer.settle
  split <;> rfl

/-- Packs what remains of a request, beginning at an offset. -/
def cut (l : Limits) (tag : ℕ) (size offset remaining : UInt64) (r : Reporter) : Reporter :=
  if remaining = 0 then r
  else
    let roomy := r.makeRoom l
    let n := roomy.packer.share l remaining
    cut l tag size (offset + n) (remaining - n)
      ((roomy.put ⟨tag, size, offset, n, l.overhead, l.margin⟩).settle l)
termination_by remaining.toNat
decreasing_by
  have hr : remaining ≠ 0 := ‹¬remaining = 0›
  have hn : remaining.toNat ≠ 0 := fun e => hr (UInt64.toNat_inj.1 e)
  have hpos := Packer.share_pos l r.packer hr
  rw [packer_makeRoom, Packer.toNat_sub_share]
  omega

/-- Packs requests one after the other; the first of them has the given index. -/
def addAll (l : Limits) : ℕ → List UInt64 → Reporter → Reporter
  | _, [], r => r
  | tag, size :: rest, r => addAll l (tag + 1) rest (r.cut l tag size 0 size)

/-- The log of packing requests, which ends with the sum. -/
def report (d : Direction) (l : Limits) (sizes : List UInt64) : List Event :=
  let r := start.addAll l 0 sizes
  r.log ++ [.packed d sizes.length r.packer.groups.length r.chunkCount.toNat l.target l.overhead
    l.reserve]

variable {l : Limits} {r : Reporter}

theorem cut_zero (l : Limits) (tag : ℕ) (size offset : UInt64) (r : Reporter) :
    r.cut l tag size offset 0 = r := by rw [cut, if_pos rfl]

/-- Reporting does not change what is packed. -/
theorem packer_cut (l : Limits) (tag : ℕ) (size offset remaining : UInt64) (r : Reporter) :
    (r.cut l tag size offset remaining).packer = r.packer.cut l tag size offset remaining := by
  induction offset, remaining, r using cut.induct l tag size with
  | case1 offset r => rw [cut_zero, Packer.cut_zero]
  | case2 offset remaining r hr roomy n ih =>
      rw [cut, if_neg hr, Packer.cut, if_neg hr]
      simpa [roomy, n, put] using ih

theorem packer_addAll (l : Limits) (tag : ℕ) (sizes : List UInt64) (r : Reporter) :
    (r.addAll l tag sizes).packer = r.packer.addAll l tag sizes := by
  induction sizes generalizing tag r with
  | nil => rfl
  | cons size rest ih => rw [addAll, ih, packer_cut, Packer.addAll]

/-- What is reported is what the packer remembers, and the chunks are counted. -/
structure Faithful (r : Reporter) : Prop where
  log_eq : r.log = r.packer.closed.toList.mapIdx Packing.closingEvent
  chunkCount_eq : r.chunkCount = .ofNat r.packer.placed.length

theorem faithful_start : start.Faithful where
  log_eq := rfl
  chunkCount_eq := rfl

theorem Faithful.close (h : r.Faithful) (full : Bool) : (r.close full).Faithful where
  log_eq := by
    simp [Reporter.close, Packer.close, h.log_eq, List.mapIdx_append, Packing.closingEvent]
  chunkCount_eq := by
    rw [Reporter.close, Packer.placed_close]
    exact h.chunkCount_eq

theorem Faithful.makeRoom (h : r.Faithful) : (r.makeRoom l).Faithful := by
  unfold Reporter.makeRoom
  split
  · exact h.close true
  · exact h

theorem Faithful.settle (h : r.Faithful) : (r.settle l).Faithful := by
  unfold Reporter.settle
  split
  · exact h.close false
  · exact h

theorem Faithful.put (h : r.Faithful) (c : Chunk) : (r.put c).Faithful where
  log_eq := h.log_eq
  chunkCount_eq := by
    rw [Reporter.put, Packer.placed_put, h.chunkCount_eq, List.length_append, UInt64.ofNat_add]
    rfl

theorem Faithful.cut (h : r.Faithful) (tag : ℕ) (size offset remaining : UInt64) :
    (r.cut l tag size offset remaining).Faithful := by
  induction offset, remaining, r using cut.induct l tag size with
  | case1 offset r => rwa [cut_zero]
  | case2 offset remaining r hr roomy n ih =>
      rw [Reporter.cut, if_neg hr]
      exact ih (h.makeRoom.put _).settle

theorem Faithful.addAll (h : r.Faithful) (tag : ℕ) (sizes : List UInt64) :
    (r.addAll l tag sizes).Faithful := by
  induction sizes generalizing tag r with
  | nil => exact h
  | cons size rest ih => exact ih (h.cut tag size 0 size) (tag + 1)

/-- The log of packing, read off the packer that is left. -/
theorem report_eq (d : Direction) (l : Limits) (sizes : List UInt64) :
    report d l sizes =
      (Packer.empty.addAll l 0 sizes).closed.toList.mapIdx Packing.closingEvent ++
        [.packed d sizes.length (Packer.empty.addAll l 0 sizes).groups.length
          ((Packer.empty.addAll l 0 sizes).placed.length % UInt64.size) l.target l.overhead
          l.reserve] := by
  have hpacker : (start.addAll l 0 sizes).packer = Packer.empty.addAll l 0 sizes :=
    packer_addAll l 0 sizes start
  obtain ⟨hlog, hcount⟩ := faithful_start.addAll (l := l) 0 sizes
  rw [report, hlog, hcount, hpacker, UInt64.toNat_ofNat']

end Reporter

theorem Packing.length_placed (p : Packing) : p.packer.placed.length = p.chunkCount := by
  rw [← flatMap_chunks, chunkCount]
  induction p.groups with
  | nil => rfl
  | cons g groups ih => rw [List.flatMap_cons, List.length_append, ih, List.foldr_cons]

theorem Packing.chunkCount_eq_sum (p : Packing) :
    p.chunkCount = (p.groups.map (·.chunks.length)).sum := by
  rw [← length_placed, ← flatMap_chunks, List.length_flatMap]

variable {d : Direction} {b : Budget} {sizes : List UInt64} {packing : Packing}

/-- The log kept while packing is the one that the finished packing gives. -/
theorem report_eq_events (h : pack d sizes b = .ok packing)
    (hcount : packing.chunkCount < UInt64.size) :
    Reporter.report d packing.limits sizes = packing.events := by
  obtain ⟨hb, rfl⟩ := pack_eq_ok_iff.1 h
  rw [Reporter.report_eq, Packing.events, ← Packing.length_placed]
  rw [← Packing.length_placed] at hcount
  rw [Nat.mod_eq_of_lt hcount]
  rfl

namespace Packer

variable {l : Limits} {p : Packer}

/-- When no group is open, the last one was closed because its reserve was reached. -/
def LastSettled (p : Packer) : Prop :=
  p.chunks = #[] → ∀ c ∈ p.closed.toList.getLast?, c.full = false

theorem lastSettled_empty : empty.LastSettled := by
  simp [LastSettled, empty]

/-- A round puts a chunk last, so nothing but the reserve closes its group. -/
theorem lastSettled_round (l : Limits) (tag : ℕ) (size offset remaining : UInt64) (p : Packer) :
    (p.round l tag size offset remaining).LastSettled := by
  unfold round settle
  split
  · intro _ c hc
    simp only [close, Array.toList_push, List.getLast?_concat, Option.mem_some] at hc
    rw [← hc]
  · intro hempty
    exact absurd hempty (chunks_put_ne _ _)

theorem lastSettled_addAll (l : Limits) (sizes : List UInt64) :
    (empty.addAll l 0 sizes).LastSettled :=
  addAll_induction l (fun tag size offset remaining p _ _ _ =>
    lastSettled_round l tag size offset remaining p) 0 sizes lastSettled_empty

/-- A group is open exactly when the last one has its reserve free. -/
theorem Sound.chunks_ne_iff (h : p.Sound l) (hdue : p.ClosedWhenDue l) (hlast : p.LastSettled) :
    p.chunks ≠ #[] ↔ ∃ g ∈ p.groups.getLast?,
      load l.overhead.toNat g.pieces + l.reserve.toNat < l.target.toNat := by
  constructor
  · intro hne
    refine ⟨p.opened, by simp [groups_of_ne hne], ?_⟩
    rw [← h.used_eq]
    exact h.reserve_free
  · -- Without an open group the last one is closed, and it was closed at its reserve.
    rintro ⟨g, hg, hfree⟩ hempty
    have hgroups : p.groups = p.closed.toList.map (·.group) := by simp [groups, hempty]
    rw [hgroups, List.getLast?_map, Option.mem_def, Option.map_eq_some_iff] at hg
    obtain ⟨c, hc, rfl⟩ := hg
    have hc' := hdue c (List.mem_of_getLast? hc)
    have hreached := hc'.reserve_reached (hlast hempty c hc)
    rw [hc'.used_eq] at hreached
    omega

/-- The closed groups are the first ones. -/
theorem getElem?_groups {i : ℕ} {c : ClosedGroup} (h : p.closed.toList[i]? = some c) :
    p.groups[i]? = some c.group := by
  have hlt := (List.getElem?_eq_some_iff.1 h).1
  rw [groups, List.getElem?_append_left (by simpa using hlt), List.getElem?_map, h, Option.map_some]

theorem length_groups (p : Packer) :
    p.groups.length = p.closed.toList.length + if p.chunks = #[] then 0 else 1 := by
  by_cases h : p.chunks = #[] <;> simp [groups, h]

end Packer

theorem toNat_totalLength_of_pack (h : pack d sizes b = .ok packing) {g : Group}
    (hg : g ∈ packing.groups) : g.totalLength.toNat = load b.overhead.toNat g.pieces := by
  have htotals : Chunk.totals g.chunks = load b.overhead.toNat g.pieces :=
    totals_eq_load h hg fun _ hc => hc
  have hle := (admits_of_pack h hg).load_le
  rw [← htotals] at hle ⊢
  exact g.toNat_totalLength (Nat.lt_of_le_of_lt hle b.target.toNat_lt)

/-- An event records the closing of a group: under its index, with its length, and with the reason
for which it was closed. A full group is closed where its reserve was not reached. -/
structure RecordsClosing (d : Direction) (b : Budget) (index : ℕ) (g : Group) (e : Event) :
    Prop where
  level_eq : e.level = .trace
  fields_eq : e.fields = [("group", .number index), ("used", .number g.totalLength.toNat)]
  reason :
    e.message = "closing PDU group" ∧
        b.target.toNat ≤ g.totalLength.toNat + (b.reserve d).toNat ∨
      e.message = "closing full PDU group" ∧ (b.reserve d).toNat < b.overhead.toNat ∧
        g.totalLength.toNat + (b.reserve d).toNat < b.target.toNat ∧
        b.target.toNat ≤ g.totalLength.toNat + b.overhead.toNat

/-- An event sums up the groups into which requests were packed. -/
structure RecordsSum (d : Direction) (b : Budget) (sizes : List UInt64) (groups : List Group)
    (e : Event) : Prop where
  level_eq : e.level = .debug
  message_eq : e.message = "packed S7 requests"
  fields_eq : e.fields =
    [("mode", .text d.name), ("tags", .number sizes.length), ("groups", .number groups.length),
      ("chunks", .number (groups.map (·.chunks.length)).sum),
      ("target_size", .number b.target.toNat), ("overhead_size", .number b.overhead.toNat),
      ("reserve", .number (b.reserve d).toNat)]

/-- A log records a packing: the closings in the order of the groups, for each group one but for a
last one that is still open, and then the sum. -/
structure Recorded (d : Direction) (b : Budget) (sizes : List UInt64) (packing : Packing)
    (closings : List Event) (summary : Event) : Prop where
  log_eq : packing.events = closings ++ [summary]
  closing : ∀ i e, closings[i]? = some e →
    ∃ g, packing.groups[i]? = some g ∧ RecordsClosing d b i g e
  length_le : closings.length ≤ packing.groups.length
  le_length : packing.groups.length ≤ closings.length + 1
  lt_length_iff_open : closings.length < packing.groups.length ↔ packing.packer.chunks ≠ #[]
  lt_length_iff_free : closings.length < packing.groups.length ↔
    ∃ g ∈ packing.groups.getLast?,
      g.totalLength.toNat + (b.reserve d).toNat < b.target.toNat
  summary : RecordsSum d b sizes packing.groups summary

/-- The event of a closed group that was due records its closing. -/
theorem recordsClosing_closingEvent (h : pack d sizes b = .ok packing) {i : ℕ} {c : ClosedGroup}
    (hc : packing.packer.closed.toList[i]? = some c) :
    RecordsClosing d b i c.group (Packing.closingEvent i c) := by
  have htotal := toNat_totalLength_of_pack h (List.mem_of_getElem? (Packer.getElem?_groups hc))
  obtain ⟨hb, rfl⟩ := pack_eq_ok_iff.1 h
  obtain ⟨hused, hreserve, hroom⟩ :=
    Packer.closedWhenDue_addAll (b.limits d hb) sizes c (List.mem_of_getElem? hc)
  rw [Budget.limits_overhead, ← htotal] at hused
  rw [Budget.limits_target, Budget.limits_reserve, hused] at hreserve hroom
  rw [Budget.limits_overhead] at hroom
  cases hfull : c.full with
  | false =>
      have he : Packing.closingEvent i c = .closingGroup i c.used := by
        rw [Packing.closingEvent, hfull]
        rfl
      rw [he]
      exact ⟨rfl, by rw [Event.fields, hused], .inl ⟨rfl, hreserve hfull⟩⟩
  | true =>
      have he : Packing.closingEvent i c = .closingFullGroup i c.used := by
        rw [Packing.closingEvent, hfull]
        rfl
      obtain ⟨hfree, hle⟩ := hroom hfull
      rw [he]
      refine ⟨rfl, by rw [Event.fields, hused], .inr ⟨rfl, ?_, hfree, hle⟩⟩
      rw [Budget.reserve]
      omega

/-- The last group is open exactly when its reserve is free. -/
theorem open_iff_free (h : pack d sizes b = .ok packing) :
    packing.packer.chunks ≠ #[] ↔
      ∃ g ∈ packing.groups.getLast?,
        g.totalLength.toNat + (b.reserve d).toNat < b.target.toNat := by
  have htotal : ∀ g ∈ packing.groups.getLast?,
      g.totalLength.toNat = load b.overhead.toNat g.pieces := fun g hg =>
    toNat_totalLength_of_pack h (List.mem_of_getLast? hg)
  obtain ⟨hb, rfl⟩ := pack_eq_ok_iff.1 h
  have hiff := (Packer.sound_addAll (b.limits d hb) sizes).chunks_ne_iff
    (Packer.closedWhenDue_addAll _ sizes) (Packer.lastSettled_addAll _ sizes)
  rw [Budget.limits_target, Budget.limits_overhead, Budget.limits_reserve] at hiff
  rw [hiff]
  exact exists_congr fun g => and_congr_right fun hg => by rw [htotal g hg]; rfl

theorem recorded_of_pack (h : pack d sizes b = .ok packing) :
    ∃ closings summary, Recorded d b sizes packing closings summary := by
  refine ⟨packing.packer.closed.toList.mapIdx Packing.closingEvent,
    .packed packing.direction packing.tags packing.groups.length packing.chunkCount
      packing.limits.target packing.limits.overhead packing.limits.reserve, ?_⟩
  have hlength := packing.packer.length_groups
  have hopen : packing.packer.closed.toList.length < packing.groups.length ↔
      packing.packer.chunks ≠ #[] := by
    rw [Packing.groups, hlength]
    by_cases hempty : packing.packer.chunks = #[] <;> simp [hempty]
  constructor
  case log_eq => rfl
  case closing =>
    intro i e he
    rw [List.getElem?_mapIdx, Option.map_eq_some_iff] at he
    obtain ⟨c, hc, rfl⟩ := he
    exact ⟨c.group, Packer.getElem?_groups hc, recordsClosing_closingEvent h hc⟩
  case length_le =>
    rw [List.length_mapIdx, Packing.groups, hlength]
    exact Nat.le_add_right _ _
  case le_length =>
    rw [List.length_mapIdx, Packing.groups, hlength]
    split <;> omega
  case lt_length_iff_open => rw [List.length_mapIdx, hopen]
  case lt_length_iff_free => rw [List.length_mapIdx, hopen, open_iff_free h]
  case summary =>
    rw [Packing.chunkCount_eq_sum]
    obtain ⟨hb, rfl⟩ := pack_eq_ok_iff.1 h
    refine ⟨rfl, rfl, ?_⟩
    rw [Event.fields, Budget.limits_target, Budget.limits_overhead, Budget.limits_reserve]
    rfl

/-- The log of packing under an accepted budget is a faithful record. Kept while packing, with a
count of fewer chunks than a word can hold, it is the log of the finished packing; that one has one
event for every group closed before the requests end, in the order of the groups, and then the
sum. -/
theorem pack_log_faithful (d : Direction) (sizes : List UInt64) (b : Budget)
    (h : b.Accepted d) :
    ∃ packing, pack d sizes b = .ok packing ∧
      (packing.chunkCount < UInt64.size →
        Reporter.report d packing.limits sizes = packing.events) ∧
      ∃ closings summary, Recorded d b sizes packing closings summary :=
  have hpack := pack_of_accepted h sizes
  ⟨_, hpack, report_eq_events hpack, recorded_of_pack hpack⟩

/-- A read with a margin below its overhead. The first group is closed full, the second at its
reserve, and the third is left open, so that it is only counted. -/
theorem pack_log_faithful_small_margin :
    (⟨100, 10, 2⟩ : Budget).Accepted .read ∧
      ∃ packing, pack .read [85, 5, 80, 5] ⟨100, 10, 2⟩ = .ok packing ∧
        packing.chunkCount < UInt64.size ∧
        Reporter.report .read packing.limits [85, 5, 80, 5] = packing.events ∧
        packing.events = [.closingFullGroup 0 95, .closingGroup 1 100,
          .packed .read 4 3 5 100 10 2] ∧
        ∃ closings summary,
          Recorded .read ⟨100, 10, 2⟩ [85, 5, 80, 5] packing closings summary := by
  have h : (⟨100, 10, 2⟩ : Budget).Accepted .read := by decide
  obtain ⟨packing, hpack, hreport, hrecorded⟩ :=
    pack_log_faithful .read [85, 5, 80, 5] ⟨100, 10, 2⟩ h
  have hcount : (pack .read [85, 5, 80, 5] ⟨100, 10, 2⟩).map (·.chunkCount) = .ok 5 := by cbv
  have hevents : (pack .read [85, 5, 80, 5] ⟨100, 10, 2⟩).map (·.events) =
      .ok [.closingFullGroup 0 95, .closingGroup 1 100, .packed .read 4 3 5 100 10 2] := by cbv
  rw [hpack] at hcount hevents
  have hfive : packing.chunkCount = 5 := Except.ok.inj hcount
  have hlt : packing.chunkCount < UInt64.size := by
    rw [hfive]
    decide
  exact ⟨h, packing, hpack, hlt, hreport hlt, Except.ok.inj hevents, hrecorded⟩

end S7Request

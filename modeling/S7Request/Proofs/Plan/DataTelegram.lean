import S7Request.Proofs.Plan.Make
import Mathlib.Algebra.Order.BigOperators.Group.List
import Mathlib.Algebra.Order.Group.Nat

/-!
# Telegrams that carry data

The payload of a group travels in the response of a read and in the request of a write. There every
item has a header, a write's item its specification too, and payload of odd length is followed by a
fill byte. A budget charges each item its header and a fill byte whether or not it needs one, and
what it grants is the negotiated length without header and parameter. So the telegrams of every
group fit.
-/
namespace S7Request

open Piece

namespace Telegram

/-- Header and parameter of the telegram that carries the data. -/
def dataFrame : Direction → ℕ
  | .read => acknowledgeHeader + parameterBase
  | .write => jobHeader + parameterBase

/-- What the telegram that carries the data holds for each item beside its payload and fill
byte. -/
def dataItemFrame : Direction → ℕ
  | .read => dataHeader
  | .write => itemSpecification + dataHeader

/-- The length of payload with its fill byte, which only odd payload has. -/
def filledLength (n : ℕ) : ℕ :=
  n + if n % 2 = 1 then fillByte else 0

theorem filledLength_le (n : ℕ) : filledLength n ≤ n + fillByte := by
  unfold filledLength
  split <;> omega

end Telegram

/-- The length of the telegram that carries the data of a group. -/
def Group.dataTelegramLength (d : Direction) (g : Group) : ℕ :=
  Telegram.dataFrame d +
    (g.chunks.map fun c =>
      Telegram.dataItemFrame d + Telegram.filledLength c.chunkSize.toNat).sum

/-- The telegram is no longer than its header, its parameter and the load of the group when every
item is charged a fill byte. -/
theorem Group.dataTelegramLength_le (d : Direction) (g : Group) :
    g.dataTelegramLength d ≤
      Telegram.dataFrame d + load (Telegram.dataItemFrame d + Telegram.fillByte) g.pieces := by
  rw [dataTelegramLength, load, pieces, List.map_map]
  refine Nat.add_le_add_left (List.sum_le_sum fun c _ => ?_) _
  have := Telegram.filledLength_le c.chunkSize.toNat
  simp only [Function.comp_apply, Chunk.piece]
  omega

namespace Budget

theorem toNat_target_ofPduLength (d : Direction) (pduLength : UInt16) :
    (ofPduLength d pduLength).target.toNat = pduLength.toNat - Telegram.dataFrame d := by
  cases d <;> exact Word.toNat_subClamped _ _

theorem toNat_overhead_ofPduLength (d : Direction) (pduLength : UInt16) :
    (ofPduLength d pduLength).overhead.toNat =
      Telegram.dataItemFrame d + Telegram.fillByte := by cases d <;> rfl

/-- What an accepted budget grants leaves the header and the parameter free. -/
theorem dataFrame_add_target {d : Direction} {pduLength : UInt16}
    (h : (ofPduLength d pduLength).Accepted d) :
    Telegram.dataFrame d + (ofPduLength d pduLength).target.toNat = pduLength.toNat := by
  have hpos := UInt64.lt_iff_toNat_lt.1 h.1
  rw [toNat_target_ofPduLength] at hpos ⊢
  omega

end Budget

/-- Without a budget of its own a configuration has the one that follows from the telegram
length. -/
theorem PlannerConfig.budget_ofPduLength (d : Direction) (pduLength : UInt16) :
    (ofPduLength pduLength).budget d = (Budget.ofPduLength d pduLength).checked d := by
  cases d <;> rfl

/-- When the budget that follows from the telegram length is accepted, any items are planned, and
the telegrams that carry their data fit: the responses of a read, the requests of a write. -/
theorem dataTelegrams_fit {d : Direction} {pduLength : UInt16} {b : Budget}
    (h : (PlannerConfig.ofPduLength pduLength).budget d = .ok b) (items : List Item) :
    ∃ plan, Plan.make d (.ofPduLength pduLength) items = .ok plan ∧
      ∀ g ∈ plan.groups, g.dataTelegramLength d ≤ pduLength.toNat := by
  obtain ⟨plan, hplan, hpack, -⟩ := Plan.exists_make h items
  rw [PlannerConfig.budget_ofPduLength, Budget.checked_eq_ok_iff] at h
  obtain ⟨haccepted, rfl⟩ := h
  refine ⟨plan, hplan, fun g hg => ?_⟩
  have hload := (admits_of_pack hpack hg).load_le
  rw [Budget.toNat_overhead_ofPduLength] at hload
  calc
    g.dataTelegramLength d
      ≤ Telegram.dataFrame d + load (Telegram.dataItemFrame d + Telegram.fillByte) g.pieces :=
        g.dataTelegramLength_le d
    _ ≤ Telegram.dataFrame d + (Budget.ofPduLength d pduLength).target.toNat :=
        Nat.add_le_add_left hload _
    _ = pduLength.toNat := Budget.dataFrame_add_target haccepted

/-- At 30 bytes the target of a write is one byte more than the overhead of a chunk. -/
theorem dataTelegrams_fit_30 :
    (PlannerConfig.ofPduLength 30).budget .write = .ok ⟨18, 17, 0⟩ ∧
      ∃ plan, Plan.make .write (.ofPduLength 30) [⟨.dataBlocks, 1, 0, 0, .byte, 3⟩] = .ok plan ∧
        ∀ g ∈ plan.groups, g.dataTelegramLength .write ≤ (30 : UInt16).toNat := by
  have h : (PlannerConfig.ofPduLength 30).budget .write = .ok ⟨18, 17, 0⟩ := by decide
  exact ⟨h, dataTelegrams_fit h _⟩

example : (Plan.make .write (.ofPduLength 30) [⟨.dataBlocks, 1, 0, 0, .byte, 3⟩]).map
    (fun plan => plan.groups.map (Group.dataTelegramLength .write)) = .ok [30, 30, 30] := by cbv

end S7Request

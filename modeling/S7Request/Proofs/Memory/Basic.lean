import S7Request.Item
import S7Request.Plan.Merge
import Mathlib.Data.List.Forall2
import Mathlib.Data.Nat.Notation
import Mathlib.Logic.Function.Basic

/-!
# Memory of a controller

A controller holds one byte for each unit of each area: a location is an area with its data block,
the kind of unit, and the unit's number. An item names the units from its start on. Writing a run of
units splits at any point of the data, reading one at any point of the count, and units outside a
run keep their bytes.
-/
namespace S7Request

/-- One unit of a controller's memory. -/
structure Location where
  area : Area
  dbNumber : UInt16
  /-- Whether the unit is a bit; bits and bytes are held apart. -/
  isBit : Bool
  position : ℕ
  deriving DecidableEq, Repr

namespace Location

def shift (loc : Location) (n : ℕ) : Location :=
  { loc with position := loc.position + n }

@[simp] theorem shift_zero (loc : Location) : loc.shift 0 = loc := rfl

@[simp] theorem shift_shift (loc : Location) (m n : ℕ) :
    (loc.shift m).shift n = loc.shift (m + n) := by simp [shift, Nat.add_assoc]

@[simp] theorem shift_inj {loc : Location} {m n : ℕ} : loc.shift m = loc.shift n ↔ m = n := by
  simp [shift]

end Location

/-- A byte for every unit. -/
abbrev Memory := Location → UInt8

namespace Memory

/-- The memory after writing data to the units from a location on. -/
def write (m : Memory) (loc : Location) : Bytes → Memory
  | [] => m
  | byte :: rest => write (Function.update m loc byte) (loc.shift 1) rest

/-- The bytes of some units from a location on. -/
def read (m : Memory) (loc : Location) : ℕ → Bytes
  | 0 => []
  | n + 1 => m loc :: read m (loc.shift 1) n

@[simp] theorem length_read (m : Memory) (loc : Location) (n : ℕ) : (m.read loc n).length = n := by
  induction n generalizing loc with
  | zero => rfl
  | succ n ih => simp [read, ih]

theorem write_append (m : Memory) (loc : Location) (xs ys : Bytes) :
    m.write loc (xs ++ ys) = (m.write loc xs).write (loc.shift xs.length) ys := by
  induction xs generalizing m loc with
  | nil => rfl
  | cons x xs ih =>
      simp only [List.cons_append, write, ih, Location.shift_shift, List.length_cons]
      rw [Nat.add_comm]

theorem read_add (m : Memory) (loc : Location) (k n : ℕ) :
    m.read loc (k + n) = m.read loc k ++ m.read (loc.shift k) n := by
  induction k generalizing loc with
  | zero => simp [read]
  | succ k ih =>
      rw [Nat.succ_add, read, ih, Location.shift_shift, Nat.add_comm 1 k]
      rfl

/-- A unit outside the run that is written keeps its byte. -/
theorem write_of_ne (m : Memory) (loc other : Location) (data : Bytes)
    (h : ∀ k < data.length, loc.shift k ≠ other) : m.write loc data other = m other := by
  induction data generalizing m loc with
  | nil => rfl
  | cons byte rest ih =>
      have hhead : other ≠ loc := (h 0 (by simp)).symm
      rw [write, ih, Function.update_of_ne hhead]
      intro k hk
      rw [Location.shift_shift]
      exact h (1 + k) (by simpa [Nat.add_comm] using hk)

theorem read_congr {m m' : Memory} {loc : Location} {n : ℕ}
    (h : ∀ k < n, m (loc.shift k) = m' (loc.shift k)) : m.read loc n = m'.read loc n := by
  induction n generalizing loc with
  | zero => rfl
  | succ n ih =>
      have hhead : m loc = m' loc := h 0 n.succ_pos
      rw [read, read, hhead, ih]
      intro k hk
      rw [Location.shift_shift, Nat.add_comm]
      exact h (k + 1) (Nat.succ_lt_succ hk)

theorem read_write_self (m : Memory) (loc : Location) (data : Bytes) :
    (m.write loc data).read loc data.length = data := by
  induction data generalizing m loc with
  | nil => rfl
  | cons byte rest ih =>
      rw [List.length_cons, read, write, ih, write_of_ne, Function.update_self]
      intro k _ he
      rw [Location.shift_shift] at he
      exact absurd (Location.shift_inj (n := 0).1 he) (by simp)

end Memory

def Item.location (item : Item) : Location :=
  ⟨item.area, item.dbNumber, item.transportSize.isBit, item.start⟩

/-- Two items have no unit in common. -/
def Item.Disjoint (a b : Item) : Prop :=
  ∀ j < a.count.toNat, ∀ k < b.count.toNat, a.location.shift j ≠ b.location.shift k

instance (a b : Item) : Decidable (a.Disjoint b) :=
  inferInstanceAs (Decidable (∀ j < _, ∀ k < _, _))

namespace Memory

def store (m : Memory) (item : Item) (data : Bytes) : Memory :=
  m.write item.location data

def fetch (m : Memory) (item : Item) : Bytes :=
  m.read item.location item.count.toNat

/-- The memory after writing each item's data, one item after the other. -/
def storeAll (m : Memory) (items : List Item) (data : List Bytes) : Memory :=
  (items.zip data).foldl (fun m entry => m.store entry.1 entry.2) m

/-- The memory after writing what each telegram carries, one telegram after the other. -/
def storeTelegrams (m : Memory) (requests : List (List Item)) (payloads : List (List Bytes)) :
    Memory :=
  (requests.zip payloads).foldl (fun m telegram => m.storeAll telegram.1 telegram.2) m

@[simp] theorem storeAll_cons (m : Memory) (item : Item) (items : List Item) (bytes : Bytes)
    (data : List Bytes) :
    m.storeAll (item :: items) (bytes :: data) = (m.store item bytes).storeAll items data := rfl

theorem storeAll_append (m : Memory) {items : List Item} {data : List Bytes}
    (h : items.length = data.length) (items' : List Item) (data' : List Bytes) :
    m.storeAll (items ++ items') (data ++ data') =
      (m.storeAll items data).storeAll items' data' := by
  rw [storeAll, List.zip_append h, List.foldl_append]
  rfl

/-- Telegrams only group what is written. -/
theorem storeTelegrams_eq (m : Memory) {requests : List (List Item)} {payloads : List (List Bytes)}
    (h : List.Forall₂ (fun r p => r.length = p.length) requests payloads) :
    m.storeTelegrams requests payloads = m.storeAll requests.flatten payloads.flatten := by
  induction h generalizing m with
  | nil => rfl
  | @cons r p requests payloads hlen _ ih =>
      rw [List.flatten_cons, List.flatten_cons, storeAll_append m hlen, ← ih]
      rfl

theorem fetch_store_self (m : Memory) {item : Item} {data : Bytes}
    (h : data.length = item.count.toNat) : (m.store item data).fetch item = data := by
  rw [fetch, store, ← h, read_write_self]

/-- Writing an item leaves the bytes of a disjoint one. -/
theorem fetch_store_of_disjoint (m : Memory) {item other : Item} {data : Bytes}
    (hd : item.Disjoint other) (h : data.length = item.count.toNat) :
    (m.store item data).fetch other = m.fetch other := by
  refine read_congr fun k hk => write_of_ne _ _ _ _ fun j hj => ?_
  exact hd j (h ▸ hj) k hk

theorem fetch_storeAll_of_disjoint (m : Memory) {items : List Item} {data : List Bytes}
    {other : Item} (hd : ∀ item ∈ items, item.Disjoint other)
    (h : List.Forall₂ (fun item bytes => bytes.length = item.count.toNat) items data) :
    (m.storeAll items data).fetch other = m.fetch other := by
  induction h generalizing m with
  | nil => rfl
  | cons hlen _ ih =>
      rw [storeAll_cons, ih _ fun i hi => hd i (by simp [hi]),
        fetch_store_of_disjoint m (hd _ (by simp)) hlen]

/-- Reading disjoint items after writing them returns what was written. -/
theorem map_fetch_storeAll (m : Memory) {items : List Item} {data : List Bytes}
    (hd : items.Pairwise Item.Disjoint)
    (h : List.Forall₂ (fun item bytes => bytes.length = item.count.toNat) items data) :
    items.map (m.storeAll items data).fetch = data := by
  induction h generalizing m with
  | nil => rfl
  | @cons item bytes items data hlen hrest ih =>
      obtain ⟨hitem, hitems⟩ := List.pairwise_cons.1 hd
      have hothers : ∀ other ∈ items, other.Disjoint item :=
        fun other hmem j hj k hk he => hitem other hmem k hk j hj he.symm
      rw [storeAll_cons, List.map_cons, ih _ hitems, fetch_storeAll_of_disjoint _ hothers hrest,
        fetch_store_self m hlen]

end Memory

end S7Request

/-!
# Words whose overflow is seen

Sums and products of machine words that report a result too large for the word instead of
reducing it, the narrowing that reports a lost value, and the sum that stops at the largest word.
Each operation is described by one lemma in the natural numbers.
-/
namespace S7Request.Word

/-- The sum of two 64-bit words, absent when it is too large. -/
def add64? (a b : UInt64) : Option UInt64 :=
  if a.toNat + b.toNat < UInt64.size then some (a + b) else none

theorem add64?_eq_some_iff {a b c : UInt64} :
    add64? a b = some c ↔ c.toNat = a.toNat + b.toNat := by
  have hc := c.toNat_lt
  unfold add64?
  split
  · rename_i h
    rw [Option.some.injEq, ← UInt64.toNat_inj, UInt64.toNat_add, Nat.mod_eq_of_lt h]
    exact eq_comm
  · rename_i h
    constructor
    · simp
    · intro e
      exact absurd (e ▸ hc) h

/-- The sum of two 64-bit words, or the largest word when the sum is too large. -/
def addClamped (a b : UInt64) : UInt64 :=
  (add64? a b).getD (UInt64.ofNat (UInt64.size - 1))

theorem toNat_addClamped (a b : UInt64) :
    (addClamped a b).toNat = min (a.toNat + b.toNat) (UInt64.size - 1) := by
  unfold addClamped add64?
  split
  · rename_i h
    rw [Option.getD_some, UInt64.toNat_add, Nat.mod_eq_of_lt h]
    omega
  · rename_i h
    rw [Option.getD_none, UInt64.toNat_ofNat']
    simp only [UInt64.size] at h ⊢
    omega

/-- The difference of two 64-bit words, or zero when the second is the larger. -/
def subClamped (a b : UInt64) : UInt64 :=
  if b ≤ a then a - b else 0

theorem toNat_subClamped (a b : UInt64) : (subClamped a b).toNat = a.toNat - b.toNat := by
  unfold subClamped
  split
  · rename_i h
    exact UInt64.toNat_sub_of_le a b h
  · rename_i h
    rw [UInt64.le_iff_toNat_le] at h
    change 0 = _
    omega

/-- The sum of two 32-bit words, absent when it is too large. -/
def add32? (a b : UInt32) : Option UInt32 :=
  if a.toNat + b.toNat < UInt32.size then some (a + b) else none

theorem add32?_eq_some_iff {a b c : UInt32} :
    add32? a b = some c ↔ c.toNat = a.toNat + b.toNat := by
  have hc := c.toNat_lt
  unfold add32?
  split
  · rename_i h
    rw [Option.some.injEq, ← UInt32.toNat_inj, UInt32.toNat_add, Nat.mod_eq_of_lt h]
    exact eq_comm
  · rename_i h
    constructor
    · simp
    · intro e
      exact absurd (e ▸ hc) h

/-- The product of two 32-bit words, absent when it is too large. -/
def mul32? (a b : UInt32) : Option UInt32 :=
  if a.toNat * b.toNat < UInt32.size then some (a * b) else none

theorem mul32?_eq_some_iff {a b c : UInt32} :
    mul32? a b = some c ↔ c.toNat = a.toNat * b.toNat := by
  have hc := c.toNat_lt
  unfold mul32?
  split
  · rename_i h
    rw [Option.some.injEq, ← UInt32.toNat_inj, UInt32.toNat_mul, Nat.mod_eq_of_lt h]
    exact eq_comm
  · rename_i h
    constructor
    · simp
    · intro e
      exact absurd (e ▸ hc) h

/-- The 16-bit word of a number, absent when the number is too large. -/
def ofNat16? (n : Nat) : Option UInt16 :=
  if n < UInt16.size then some (UInt16.ofNat n) else none

theorem ofNat16?_eq_some_iff {n : Nat} {w : UInt16} : ofNat16? n = some w ↔ w.toNat = n := by
  have hw := w.toNat_lt
  unfold ofNat16?
  split
  · rename_i h
    rw [Option.some.injEq, ← UInt16.toNat_inj, UInt16.toNat_ofNat', Nat.mod_eq_of_lt h]
    exact eq_comm
  · rename_i h
    constructor
    · simp
    · intro e
      exact absurd (e ▸ hw) h

def ofNat32? (n : Nat) : Option UInt32 :=
  if n < UInt32.size then some (UInt32.ofNat n) else none

theorem ofNat32?_eq_some_iff {n : Nat} {w : UInt32} : ofNat32? n = some w ↔ w.toNat = n := by
  have hw := w.toNat_lt
  unfold ofNat32?
  split
  · rename_i h
    rw [Option.some.injEq, ← UInt32.toNat_inj, UInt32.toNat_ofNat', Nat.mod_eq_of_lt h]
    exact eq_comm
  · rename_i h
    constructor
    · simp
    · intro e
      exact absurd (e ▸ hw) h

def ofNat64? (n : Nat) : Option UInt64 :=
  if n < UInt64.size then some (UInt64.ofNat n) else none

theorem ofNat64?_eq_some_iff {n : Nat} {w : UInt64} : ofNat64? n = some w ↔ w.toNat = n := by
  have hw := w.toNat_lt
  unfold ofNat64?
  split
  · rename_i h
    rw [Option.some.injEq, ← UInt64.toNat_inj, UInt64.toNat_ofNat', Nat.mod_eq_of_lt h]
    exact eq_comm
  · rename_i h
    constructor
    · simp
    · intro e
      exact absurd (e ▸ hw) h

/-- The numbers from which on a signed 64-bit word is exceeded. -/
def signedLimit : Int := 0x8000000000000000

def isSigned64 (n : Int) : Bool :=
  -signedLimit ≤ n && n < signedLimit

end S7Request.Word

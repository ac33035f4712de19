import S7Request.Proofs.Settings.Section
import S7Request.Settings.Decode

/-!
# Settings of tables

The settings of a table are those of its two sections, each of which may be missing. A length or a
refusal laid over a section is what the section is decoded to, whatever it was before.
-/
namespace S7Request.Settings.Library

variable {lib : Library} {t u : Tree} {n : UInt16} {policy : VPolicy}

theorem decodeField_of_isTable {α : Type} {key name : String} {usual : α}
    {decode : String → Tree → Except Fault α} {expected : Expected} {position : ℕ}
    (hlib : lib.TakesRecords) (h : t.IsTable) :
    lib.decodeField expected position key name usual decode t =
      (t.entries.get? name).elim (.ok usual) (decode (keyOf key name)) := by
  obtain ⟨origin, es, rfl⟩ := h
  rw [decodeField, hlib.field_table]
  change _ = (Entries.get? es name).elim _ _
  cases Entries.get? es name <;> rfl

/-- The telegram length of a section that may be missing. -/
def sectionPduLength (lib : Library) (planner : Option Tree) : Except Fault UInt16 :=
  planner.elim (.ok standardPduLength) (lib.pduLengthOf "planner")

/-- The reading of the letter `V` of a section that may be missing. -/
def sectionPolicy (lib : Library) (address : Option Tree) : Except Fault VPolicy :=
  address.elim (.ok .standard) (lib.addressPolicyOf "address")

theorem ofTree_of_isTable (hlib : lib.TakesRecords) (h : t.IsTable) :
    lib.ofTree t = lib.sectionPduLength (t.entries.get? "planner") >>= fun n =>
      (lib.sectionPolicy (t.entries.get? "address")).map fun policy => ⟨n, policy⟩ := by
  rw [ofTree, decodeField_of_isTable hlib h, decodeField_of_isTable hlib h]
  rfl

/-- The length of one section, with the other section of another table, which has no first one. -/
theorem ofTree_pduLength (hlib : lib.TakesRecords) (hagree : t.Agree "address" u)
    (hlength : lib.sectionPduLength (t.entries.get? "planner") = .ok n)
    (hmissing : u.entries.get? "planner" = none) :
    lib.ofTree t = (lib.ofTree u).map fun alone => { alone with pduLength := n } := by
  rw [ofTree_of_isTable hlib hagree.isTable_left, ofTree_of_isTable hlib hagree.isTable_right,
    hlength, hmissing, hagree.get?_eq]
  cases lib.sectionPolicy (u.entries.get? "address") <;> rfl

theorem ofTree_policy (hlib : lib.TakesRecords) (hagree : t.Agree "planner" u)
    (hpolicy : lib.sectionPolicy (t.entries.get? "address") = .ok policy)
    (hmissing : u.entries.get? "address" = none) :
    lib.ofTree t = (lib.ofTree u).map fun alone => { alone with policy } := by
  rw [ofTree_of_isTable hlib hagree.isTable_left, ofTree_of_isTable hlib hagree.isTable_right,
    hpolicy, hmissing, hagree.get?_eq]
  cases lib.sectionPduLength (u.entries.get? "planner") <;> rfl

/-- The length laid over a section is its length. -/
theorem sectionPduLength_putEntry (hlib : lib.TakesRecords) (section' : Tree)
    (origin : Option Origin) (n : UInt16) :
    lib.sectionPduLength (some (section'.putEntry "pdu_len" (.leaf origin (.integer n.toNat)))) =
      .ok n := by
  change lib.pduLengthOf "planner" _ = _
  rw [pduLengthOf, decodeField_of_isTable hlib (Tree.isTable_putEntry ..), Tree.get?_putEntry_self]
  exact hlib.word16_integer _ origin n

/-- The refusal of the letter needs no other entry. -/
theorem policyOf_putEntry_reject (hlib : lib.TakesRecords) (t : Tree) (origin : Option Origin) :
    lib.policyOf (t.putEntry "kind" (.leaf origin (.text "reject"))) = .ok .reject := by
  have hkind := t.get?_putEntry_self "kind" (.leaf origin (.text "reject"))
  obtain ⟨origin', es, htable⟩ := t.isTable_putEntry "kind" (.leaf origin (.text "reject"))
  rw [htable] at hkind ⊢
  change Entries.get? es "kind" = _ at hkind
  rw [policyOf, hlib.tagged_table _ _ hkind (by simp)]
  change (lib.bare _ >>= fun _ => _) = _
  rw [hlib.bare_table]
  rfl

/-- A refusal laid over a section refuses the letter. -/
theorem sectionPolicy_putEntry_reject (hlib : lib.TakesRecords) (section' t : Tree)
    (origin : Option Origin) :
    lib.sectionPolicy (some (section'.putEntry "v_area"
      (t.putEntry "kind" (.leaf origin (.text "reject"))))) = .ok .reject := by
  change lib.addressPolicyOf "address" _ = _
  rw [addressPolicyOf, decodeField_of_isTable hlib (Tree.isTable_putEntry ..),
    Tree.get?_putEntry_self]
  exact policyOf_putEntry_reject hlib t origin

end S7Request.Settings.Library

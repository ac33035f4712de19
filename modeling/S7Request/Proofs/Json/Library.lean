import S7Request.Json.Library
import S7Request.Json.Plain
import S7Request.Proofs.Json.Record
import S7Request.Word

/-!
# What is known of a JSON library

The rules that encoders and decoders rely on: what is written is read again, integers are words
where they are in range, fields go by their exact names, and a tagged record is held in memory as
far as it is plain. What follows for the fields of a record is stated for every library with these
rules.
-/
namespace S7Request.Json

/-- A value that an encoder makes: words, strings, arrays and records of them. -/
inductive IsData : Json → Prop
  | word {n : Nat} : n < UInt64.size → IsData (ofNat n)
  | string (s : String) : IsData (ofString s)
  | array {es : List Json} : (∀ e ∈ es, IsData e) → IsData (array es)
  | fields {fields : List (String × Json)} : (∀ f ∈ fields, IsData f.2) → IsData (ofFields fields)

/-- Whether the names of an object are texts. -/
def isNamed : Json → Bool
  | object members => members.all (·.1.isSome)
  | _ => true

/-- The rules of a JSON library. -/
structure Library.Lawful (lib : Library) : Prop where
  read_write : ∀ {j}, j.IsData → lib.read (lib.write j) = some j
  word16_integer : ∀ n,
    lib.word16 (number (.integer n)) = if 0 ≤ n then Word.ofNat16? n.toNat else none
  word64_integer : ∀ n,
    lib.word64 (number (.integer n)) = if 0 ≤ n then Word.ofNat64? n.toNat else none
  sequence_array : ∀ es, lib.sequence (array es) = some es
  /-- A field is the only member with its exact name, and other members are ignored. -/
  record_object : ∀ {names : List String} {members}, names.Nodup → (object members).isNamed →
    lib.record names (object members) = names.mapM (member? members)
  /-- The names of other members are read all the same. -/
  record_misnamed : ∀ {names : List String} {members}, (object members).isNamed = false →
    lib.record names (object members) = none
  holds_word : ∀ n < UInt64.size, lib.holds (.integer (.ofNat n)) = true
  tagged_object : ∀ {tag kind members}, (object members).isPlain lib.holds maxDepth →
    member? members tag = some (ofString kind) →
      lib.tagged tag (object members) = some (kind, object (members.filter (·.1 ≠ some tag)))
  /-- A record that cannot be held in memory has no tag. -/
  tagged_unheld : ∀ {tag members}, (object members).isPlain lib.holds maxDepth = false →
    lib.tagged tag (object members) = none
  bare_object : ∀ members, lib.bare (object members) = true

namespace Library.Lawful

variable {lib : Library} {names : List String} {members ms : List (Option String × Json)}
  {values : List Json} {j : Json}

theorem record_eq (h : lib.Lawful) (hnodup : names.Nodup) :
    lib.record names (object members) =
      if (object members).isNamed then names.mapM (member? members) else none := by
  by_cases hnamed : (object members).isNamed
  · rw [if_pos hnamed, h.record_object hnodup hnamed]
  · rw [if_neg hnamed, h.record_misnamed (Bool.eq_false_iff.2 hnamed)]

/-- The fields of a record are found in every spelling of its object in which all names are
texts. -/
theorem exists_record (h : lib.Lawful) (hnodup : names.Nodup) (hspelling : (object ms).Respells j)
    (hvalues : names.mapM (member? ms) = some values) :
    ∃ values', lib.record names j = (if j.isNamed then some values' else none) ∧
      List.Forall₂ Respells values values' := by
  obtain ⟨members, values', rfl, hvalues', hrespelt⟩ := hspelling.exists_fields hvalues
  refine ⟨values', ?_, hrespelt⟩
  rw [h.record_eq hnodup, hvalues']

/-- A record is not found when one of its fields is left out or comes in again. -/
theorem record_of_spoils (h : lib.Lawful) (hnodup : names.Nodup)
    (hvalues : names.mapM (member? ms) = some values) (hspoils : Spoils names (object ms) j) :
    lib.record names j = none := by
  obtain ⟨ms', members, hobject, rfl, hspoiled⟩ := hspoils.exists_members
  obtain rfl := object.inj hobject
  rw [h.record_eq hnodup, hspoiled values hvalues, ite_self]

theorem word64_ofNat (h : lib.Lawful) (w : UInt64) : lib.word64 (ofNat w.toNat) = some w := by
  rw [ofNat, h.word64_integer]
  exact (if_pos (Int.natCast_nonneg w.toNat)).trans (Word.ofNat64?_eq_some_iff.2 rfl)

theorem word16_ofNat (h : lib.Lawful) (w : UInt16) : lib.word16 (ofNat w.toNat) = some w := by
  rw [ofNat, h.word16_integer]
  exact (if_pos (Int.natCast_nonneg w.toNat)).trans (Word.ofNat16?_eq_some_iff.2 rfl)

end Library.Lawful

/-- In a plain object all names are texts. -/
theorem isNamed_of_isPlain {holds : Number → Bool} {depth : Nat}
    {members : List (Option String × Json)} (h : (object members).isPlain holds depth) :
    (object members).isNamed := by
  have hmembers : ∀ {depth} ms, membersPlain holds depth ms → ∀ m ∈ ms, m.1.isSome := by
    intro depth ms h
    induction ms with
    | nil => simp
    | cons m ms ih =>
        obtain ⟨name, value⟩ := m
        simp only [membersPlain, Bool.and_eq_true] at h
        exact List.forall_mem_cons.2 ⟨h.1.1, ih h.2⟩
  cases depth with
  | zero => simp [isPlain] at h
  | succ depth =>
      rw [isPlain] at h
      exact List.all_eq_true.2 (hmembers members h)

end S7Request.Json

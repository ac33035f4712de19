import S7Request.Json.Standard
import S7Request.Proofs.Json.Library
import S7Request.Proofs.Json.Magnitude
import S7Request.Proofs.Json.RoundTrip

/-!
# The rules of the standard JSON library

The standard library keeps all the rules that encoders and decoders rely on.
-/
namespace S7Request.Json

theorem isSpelt_ofFields {fields : List (String × Json)} (h : ∀ f ∈ fields, f.2.IsSpelt) :
    (ofFields fields).IsSpelt := by
  refine .object fun m hm => ?_
  obtain ⟨f, hf, rfl⟩ := List.mem_map.1 hm
  exact h f hf

theorem IsData.isSpelt {j : Json} (h : j.IsData) : j.IsSpelt := by
  induction h with
  | word => exact .number (.integer _)
  | string s => exact .string s
  | array _ ih => exact .array ih
  | fields _ ih => exact isSpelt_ofFields ih

theorem bind_toNat?_integer (f : Nat → Option α) (n : Int) :
    (number (.integer n)).toNat?.bind f = if 0 ≤ n then f n.toNat else none := by
  cases n <;> rfl

theorem lawful_standard : Library.standard.Lawful where
  read_write h := h.isSpelt.parse_render
  word16_integer := bind_toNat?_integer Word.ofNat16?
  word64_integer := bind_toNat?_integer Word.ofNat64?
  sequence_array _ := rfl
  record_object _ hnamed := if_pos hnamed
  record_misnamed hnamed := if_neg (Bool.eq_false_iff.1 hnamed)
  holds_word _ hn := isFinite_of_lt hn
  tagged_object hplain htag := by
    refine (if_pos hplain).trans ?_
    simp only [htag, ofString]
  tagged_unheld hplain := if_neg (Bool.eq_false_iff.1 hplain)
  bare_object _ := rfl

/-- A text is read as the value that it is the text of. -/
theorem read_of_render {j : Json} {text : String} (h : j.IsSpelt) (htext : j.render = text) :
    Library.standard.read text = some j := by
  rw [← htext]
  exact h.parse_render

end S7Request.Json

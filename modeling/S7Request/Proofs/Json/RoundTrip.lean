import S7Request.Json.Parser
import S7Request.Proofs.Json.Token

/-!
# Reading what is written

The tokens of a value stand in its text in their order, and the reader builds the value from them.
So every value whose numbers are spelt as numbers is read back from its text.
-/
namespace S7Request.Json

/-- An induction over the elements of arrays and the members of objects. -/
@[elab_as_elim]
theorem induction {P : Json → Prop} (null : P null) (boolean : ∀ value, P (boolean value))
    (number : ∀ value, P (number value)) (string : ∀ value, P (string value))
    (array : ∀ es, (∀ e ∈ es, P e) → P (array es))
    (object : ∀ ms, (∀ m ∈ ms, P m.2) → P (object ms)) (j : Json) : P j :=
  @Json.rec P (fun es => ∀ e ∈ es, P e) (fun ms => ∀ m ∈ ms, P m.2) (fun m => P m.2)
    null boolean number string array object (by simp) (fun _ _ he hes => by simpa using ⟨he, hes⟩)
    (by simp) (fun _ _ hm hms => by simpa using ⟨hm, fun a b h => hms (a, b) h⟩)
    (fun _ _ h => h) j

/-- A value that has a text: its numbers are spelt as numbers. -/
inductive IsSpelt : Json → Prop
  | null : IsSpelt null
  | boolean (value : Bool) : IsSpelt (boolean value)
  | number {value : Number} : value.IsSpelt → IsSpelt (number value)
  | string (value : Option String) : IsSpelt (string value)
  | array {elements : List Json} : (∀ e ∈ elements, IsSpelt e) → IsSpelt (array elements)
  | object {members : List (Option String × Json)} : (∀ m ∈ members, IsSpelt m.2) →
      IsSpelt (object members)

section Scan

/-- Tokens that the scanner finds in their text in front of what does not continue a number. -/
def Scans (tokens : List Token) : Prop :=
  ∀ rest ts, EndsNumber rest → scan rest = some ts →
    scan (tokens.flatMap Token.text ++ rest) = some (tokens ++ ts)

variable {t : Token} {ts us : List Token} {es : List Json} {ms : List (Option String × Json)}

theorem Scans.cons (h : Scans ts) (ht : t.IsSpelt) (hends : ∀ cs, t.EndsBefore cs) :
    Scans (t :: ts) := by
  intro rest us hrest hus
  rw [List.flatMap_cons, List.append_assoc, List.cons_append]
  exact scan_text_append ht (hends _) (h rest us hrest hus)

theorem Scans.append (hts : Scans ts) (hus : Scans us)
    (hends : ∀ rest, EndsNumber rest → EndsNumber (us.flatMap Token.text ++ rest)) :
    Scans (ts ++ us) := by
  intro rest vs hrest hvs
  rw [List.flatMap_append, List.append_assoc, List.append_assoc]
  exact hts _ _ (hends rest hrest) (hus rest vs hrest hvs)

theorem scans_nil : Scans [] := fun _ _ _ h => h

theorem scans_elementTokens (h : ∀ e ∈ es, Scans e.tokens) : Scans (elementTokens es) := by
  have hclose : Scans [.closeArray] := scans_nil.cons trivial fun _ => trivial
  induction es with
  | nil => exact hclose
  | cons e es ih =>
      have he : Scans e.tokens := h e (by simp)
      have hes := ih fun x hx => h x (by simp [hx])
      cases es with
      | nil => exact he.append hclose (by simp [EndsNumber, Token.text])
      | cons f es =>
          exact he.append (hes.cons trivial fun _ => trivial) (by simp [EndsNumber, Token.text])

theorem scans_memberTokens (h : ∀ m ∈ ms, Scans m.2.tokens) : Scans (memberTokens ms) := by
  have hclose : Scans [.closeObject] := scans_nil.cons trivial fun _ => trivial
  induction ms with
  | nil => exact hclose
  | cons m ms ih =>
      obtain ⟨name, value⟩ := m
      have hvalue : Scans value.tokens := h (name, value) (by simp)
      have hms := ih fun x hx => h x (by simp [hx])
      have hname : ∀ {ts}, Scans ts → Scans (.string name :: .colon :: ts) := fun hts =>
        (hts.cons (t := .colon) trivial fun _ => trivial).cons trivial fun _ => trivial
      cases ms with
      | nil => exact hname (hvalue.append hclose (by simp [EndsNumber, Token.text]))
      | cons n ms =>
          exact hname (hvalue.append (hms.cons trivial fun _ => trivial)
            (by simp [EndsNumber, Token.text]))

theorem IsSpelt.scans {j : Json} (h : j.IsSpelt) : Scans j.tokens := by
  induction h with
  | null | boolean | string => exact scans_nil.cons trivial fun _ => trivial
  | number h =>
      intro rest ts hrest hts
      rw [tokens, List.flatMap_singleton]
      exact scan_text_append h hrest hts
  | array _ ih => exact (scans_elementTokens ih).cons trivial fun _ => trivial
  | object _ ih => exact (scans_memberTokens ih).cons trivial fun _ => trivial

theorem IsSpelt.scan_render {j : Json} (h : j.IsSpelt) : scan j.render.toList = some j.tokens := by
  have hends : EndsNumber [] := by simp [EndsNumber]
  have hscan := h.scans [] [] hends rfl
  rw [List.append_nil, List.append_nil] at hscan
  rw [render, String.toList_ofList, hscan]

end Scan

section Read

/-- A value that the reader builds from its tokens with two steps for each of them. -/
def Reads (j : Json) : Prop :=
  ∀ fuel rest, 2 * j.tokens.length ≤ fuel → readValue fuel (j.tokens ++ rest) = some (j, rest)

theorem exists_tokens_eq_cons (j : Json) : ∃ t ts, j.tokens = t :: ts ∧ t ≠ .closeArray := by
  cases j <;> exact ⟨_, _, rfl, by simp⟩

theorem readValue_openArray {fuel : Nat} {ts : List Token} (h : ts.head? ≠ some .closeArray) :
    readValue (fuel + 1) (.openArray :: ts) =
      (readElements fuel ts).map fun (es, rest) => (.array es, rest) := by
  rw [readValue]
  rintro rest rfl
  simp at h

theorem readValue_openObject {fuel : Nat} {ts : List Token} (h : ts.head? ≠ some .closeObject) :
    readValue (fuel + 1) (.openObject :: ts) =
      (readMembers fuel ts).map fun (ms, rest) => (.object ms, rest) := by
  rw [readValue]
  rintro rest rfl
  simp at h

theorem readElements_elementTokens (e : Json) (es : List Json) (h : ∀ x ∈ e :: es, Reads x)
    (fuel : Nat) (rest : List Token) (hfuel : 2 * (elementTokens (e :: es)).length ≤ fuel) :
    readElements fuel (elementTokens (e :: es) ++ rest) = some (e :: es, rest) := by
  induction es generalizing e fuel with
  | nil =>
      simp only [elementTokens, List.length_append, List.length_singleton] at hfuel
      obtain ⟨fuel, rfl⟩ : ∃ k, fuel = k + 1 := ⟨fuel - 1, by omega⟩
      have he := h e (by simp) fuel (.closeArray :: rest) (by omega)
      rw [elementTokens, List.append_assoc, List.singleton_append, readElements, he]
      rfl
  | cons f es ih =>
      simp only [elementTokens, List.length_append, List.length_cons] at hfuel
      obtain ⟨fuel, rfl⟩ : ∃ k, fuel = k + 1 := ⟨fuel - 1, by omega⟩
      have he := h e (by simp) fuel (.comma :: (elementTokens (f :: es) ++ rest)) (by omega)
      have hes := ih f (fun x hx => h x (by simp [hx])) fuel (by omega)
      rw [elementTokens, List.append_assoc, List.cons_append, readElements, he]
      simp [hes]

theorem readMembers_memberTokens (m : Option String × Json) (ms : List (Option String × Json))
    (h : ∀ x ∈ m :: ms, Reads x.2) (fuel : Nat) (rest : List Token)
    (hfuel : 2 * (memberTokens (m :: ms)).length ≤ fuel) :
    readMembers fuel (memberTokens (m :: ms) ++ rest) = some (m :: ms, rest) := by
  induction ms generalizing m fuel with
  | nil =>
      obtain ⟨name, value⟩ := m
      simp only [memberTokens, List.length_append, List.length_cons, List.length_nil] at hfuel
      obtain ⟨fuel, rfl⟩ : ∃ k, fuel = k + 1 := ⟨fuel - 1, by omega⟩
      have hmember : Reads value := h (name, value) (by simp)
      have hvalue := hmember fuel (.closeObject :: rest) (by omega)
      simp only [memberTokens, List.cons_append, List.append_assoc, List.nil_append, readMembers,
        hvalue]
      rfl
  | cons n ms ih =>
      obtain ⟨name, value⟩ := m
      simp only [memberTokens, List.length_append, List.length_cons] at hfuel
      obtain ⟨fuel, rfl⟩ : ∃ k, fuel = k + 1 := ⟨fuel - 1, by omega⟩
      have hmember : Reads value := h (name, value) (by simp)
      have hvalue := hmember fuel (.comma :: (memberTokens (n :: ms) ++ rest)) (by omega)
      have hms := ih n (fun x hx => h x (by simp [hx])) fuel (by omega)
      simp only [memberTokens, List.cons_append, List.append_assoc, readMembers, hvalue]
      simp [hms]

theorem reads (j : Json) : Reads j := by
  have hleaf : ∀ {j : Json} {t : Token}, j.tokens = [t] →
      (∀ fuel rest, readValue (fuel + 1) (t :: rest) = some (j, rest)) → Reads j := by
    intro j t htokens hread fuel rest hfuel
    rw [htokens, List.length_singleton] at hfuel
    obtain ⟨fuel, rfl⟩ : ∃ k, fuel = k + 1 := ⟨fuel - 1, by omega⟩
    rw [htokens]
    exact hread fuel rest
  induction j using Json.induction with
  | null | boolean | number | string => exact hleaf rfl fun _ _ => rfl
  | array es ih =>
      intro fuel rest hfuel
      rw [tokens, List.length_cons] at hfuel
      obtain ⟨fuel, rfl⟩ : ∃ k, fuel = k + 1 := ⟨fuel - 1, by omega⟩
      rw [tokens, List.cons_append]
      cases es with
      | nil => rfl
      | cons e es =>
          have helements := readElements_elementTokens e es ih fuel rest (by omega)
          have hfirst : (elementTokens (e :: es) ++ rest).head? ≠ some .closeArray := by
            obtain ⟨t, ts, htokens, ht⟩ := exists_tokens_eq_cons e
            cases es <;> simp [elementTokens, htokens, ht]
          rw [readValue_openArray hfirst, helements]
          rfl
  | object ms ih =>
      intro fuel rest hfuel
      rw [tokens, List.length_cons] at hfuel
      obtain ⟨fuel, rfl⟩ : ∃ k, fuel = k + 1 := ⟨fuel - 1, by omega⟩
      rw [tokens, List.cons_append]
      cases ms with
      | nil => rfl
      | cons m ms =>
          have hmembers := readMembers_memberTokens m ms ih fuel rest (by omega)
          have hfirst : (memberTokens (m :: ms) ++ rest).head? ≠ some .closeObject := by
            cases ms <;> simp [memberTokens]
          rw [readValue_openObject hfirst, hmembers]
          rfl

theorem ofTokens_tokens (j : Json) : ofTokens j.tokens = some j := by
  have h := reads j (2 * j.tokens.length) [] (Nat.le_refl _)
  rw [List.append_nil] at h
  rw [ofTokens, h]

end Read

/-- Writing a value and reading its text gives the value back. -/
theorem IsSpelt.parse_render {j : Json} (h : j.IsSpelt) : parse j.render = some j := by
  rw [parse, h.scan_render, Option.bind_some, ofTokens_tokens]

end S7Request.Json

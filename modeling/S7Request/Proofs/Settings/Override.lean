import S7Request.Proofs.Settings.Decode
import S7Request.Proofs.Settings.Standard
import S7Request.Settings.Load

/-!
# One setting from the environment

A variable decides its own setting and leaves the others to the file. With the telegram length or
the refusal of the letter `V` set in the environment, the settings are those of the other section of
the file alone with this one field changed. What the file holds in the section of the variable does
not matter: a table takes the entry, and anything else becomes a table that has it.
-/
namespace S7Request.Settings

namespace Library

variable {lib : Library} {t u : Tree} {file : Source} {text : String} {n : UInt16}

section Variables

/-- The setting in the variable of the telegram length. -/
theorem variables_pduLength (hlib : lib.ReadsVariables) (text : String) :
    lib.environment "NG_S7" "__" [("NG_S7__PLANNER__PDU_LEN", text)] =
      [(".".intercalate ["planner", "pdu_len"], .leaf (some .environment) (lib.scalar text))] := by
  have hname : "__".intercalate ["NG_S7", "PLANNER", "PDU_LEN"] = "NG_S7__PLANNER__PDU_LEN" := by
    decide +kernel
  have hlower : ["PLANNER", "PDU_LEN"].map Text.lowercase = ["planner", "pdu_len"] := by
    decide +kernel
  rw [← hname, ← hlower]
  exact hlib.variables_single text (by simp) (by decide +kernel)

/-- The setting in the variable of the kind of reading. -/
theorem variables_kind (hlib : lib.ReadsVariables) (text : String) :
    lib.environment "NG_S7" "__" [("NG_S7__ADDRESS__V_AREA__KIND", text)] =
      [(".".intercalate ["address", "v_area", "kind"],
        .leaf (some .environment) (lib.scalar text))] := by
  have hname : "__".intercalate ["NG_S7", "ADDRESS", "V_AREA", "KIND"] =
      "NG_S7__ADDRESS__V_AREA__KIND" := by decide +kernel
  have hlower : ["ADDRESS", "V_AREA", "KIND"].map Text.lowercase =
      ["address", "v_area", "kind"] := by decide +kernel
  rw [← hname, ← hlower]
  exact hlib.variables_single text (by simp) (by decide +kernel)

/-- The length is laid over its section, which it is then the length of. -/
theorem exists_layEntry_pduLength (hlib : lib.Lawful) (n : UInt16) (t : Tree) :
    ∃ value, lib.layEntry t (".".intercalate ["planner", "pdu_len"],
        .leaf (some .environment) (.integer n.toNat)) = .ok (t.putEntry "planner" value) ∧
      lib.sectionPduLength (some value) = .ok n := by
  have hpath : lib.path (".".intercalate ["planner", "pdu_len"]) =
      [.name "planner", .name "pdu_len"] := hlib.path_names (by simp) (by decide +kernel)
  have hplanner : Text.lowercase "planner" = "planner" := by decide +kernel
  have hentry : Text.lowercase "pdu_len" = "pdu_len" := by decide +kernel
  simp only [layEntry, hpath, hlib.set_name, hlib.set_last_name, hlib.lay_leaf, hplanner, hentry]
  exact ⟨_, rfl, sectionPduLength_putEntry hlib.toTakesRecords _ _ n⟩

/-- The refusal is laid over the reading in its section, which it is then the reading of. -/
theorem exists_layEntry_reject (hlib : lib.Lawful) (t : Tree) :
    ∃ value, lib.layEntry t (".".intercalate ["address", "v_area", "kind"],
        .leaf (some .environment) (.text "reject")) = .ok (t.putEntry "address" value) ∧
      lib.sectionPolicy (some value) = .ok .reject := by
  have hpath : lib.path (".".intercalate ["address", "v_area", "kind"]) =
      [.name "address", .name "v_area", .name "kind"] :=
    hlib.path_names (by simp) (by decide +kernel)
  have haddress : Text.lowercase "address" = "address" := by decide +kernel
  have hentry : Text.lowercase "v_area" = "v_area" := by decide +kernel
  have hkind : Text.lowercase "kind" = "kind" := by decide +kernel
  simp only [layEntry, hpath, hlib.set_name, hlib.set_last_name, hlib.lay_leaf, haddress, hentry,
    hkind]
  exact ⟨_, rfl, sectionPolicy_putEntry_reject hlib.toTakesRecords _ _ _⟩

end Variables

section Settings

theorem settings_single (ht : lib.build [file] = .ok t) : lib.settings [file] = lib.ofTree t := by
  rw [settings, ht]
  rfl

/-- The settings of a file and of one entry laid over it. -/
theorem settings_layEntry (hlib : lib.LaysSources) {e : String × Tree}
    (ht : lib.build [file] = .ok t) (hu : lib.layEntry t e = .ok u) :
    lib.settings [file, [e]] = lib.ofTree u := by
  have hbuild : lib.build [file, [e]] = .ok u := by
    rw [hlib.build_cons, ht]
    change [e].foldlM lib.layEntry t = _
    rw [List.foldlM_cons, hu]
    rfl
  rw [settings, hbuild]
  rfl

/-- With an entry laid over a section of the file, the settings are read from what the entry makes
of this section and from the other section of the file alone. -/
theorem settings_section (hlib : lib.LaysSources) (hfits : lib.fits file) {own other : String}
    (hne : own ≠ other) {e : String × Tree} {laid : Tree → Prop}
    (hlay : ∀ t, ∃ value, lib.layEntry t e = .ok (t.putEntry own value) ∧ laid value)
    {change : Settings → Settings}
    (hread : ∀ {t u value}, laid value → t.Agree other u → t.entries.get? own = some value →
      u.entries.get? own = none → lib.ofTree t = (lib.ofTree u).map change) :
    lib.settings [file, [e]] = (lib.settings [lib.part other file]).map change := by
  obtain ⟨t, u, ht, hu, hagree, hmissing⟩ := hlib.exists_build hfits other
  obtain ⟨value, hlaid, hvalue⟩ := hlay t
  rw [settings_layEntry hlib ht hlaid, settings_single hu]
  exact hread hvalue (hagree.putEntry_left value hne) (t.get?_putEntry_self own value)
    (hmissing own hne)

/-- With the telegram length in the environment, the section `planner` of the file does not
matter. -/
theorem settings_pduLength (hlib : lib.Lawful) (hfits : lib.fits file)
    (htext : Spells text n.toNat) :
    lib.settings [file, lib.environment "NG_S7" "__" [("NG_S7__PLANNER__PDU_LEN", text)]] =
      (lib.settings [lib.part "address" file]).map fun alone => { alone with pduLength := n } := by
  have hlt := n.toNat_lt
  rw [variables_pduLength hlib.toReadsVariables, hlib.scalar_digits htext (by omega)]
  refine settings_section hlib.toLaysSources hfits (by decide)
    (exists_layEntry_pduLength hlib n) fun hlength hagree hown hmissing => ?_
  exact ofTree_pduLength hlib.toTakesRecords hagree (hown ▸ hlength) hmissing

/-- With the refusal of the letter `V` in the environment, the section `address` of the file does
not matter. -/
theorem settings_reject (hlib : lib.Lawful) (hfits : lib.fits file) :
    lib.settings [file, lib.environment "NG_S7" "__" [("NG_S7__ADDRESS__V_AREA__KIND", "reject")]] =
      (lib.settings [lib.part "planner" file]).map
        fun alone => { alone with policy := .reject } := by
  have hscalar : lib.scalar "reject" = .text "reject" :=
    hlib.scalar_word (List.all_eq_true.1 (by decide +kernel)) (by decide +kernel)
  rw [variables_kind hlib.toReadsVariables, hscalar]
  refine settings_section hlib.toLaysSources hfits (by decide)
    (exists_layEntry_reject hlib) fun hpolicy hagree hown hmissing => ?_
  exact ofTree_policy hlib.toTakesRecords hagree (hown ▸ hpolicy) hmissing

theorem settings_nil (hlays : lib.LaysSources) (htakes : lib.TakesRecords) :
    lib.settings [[]] = .ok ⟨240, .block 1⟩ := by
  have hempty : Tree.emptyTable.IsTable := ⟨none, [], rfl⟩
  rw [settings_single (hlays.build_single []), ofTree_of_isTable htakes hempty]
  rfl

end Settings

variable {files : List SourceFile} {path name : String} {rest : Source}
  {environment : List (String × String)} {change : Settings → Settings}

/-- An environment that decides a field: the settings can be loaded exactly when a part of the file
can be read on its own, they are those of this part with the field changed, and otherwise the fault
is that of the part. -/
structure Decides (lib : Library) (files : List SourceFile) (path : String)
    (environment : List (String × String)) (rest : Source) (change : Settings → Settings) :
    Prop where
  exists_iff : (∃ s, lib.load files path environment = .ok s) ↔
    ∃ alone, lib.settings [rest] = .ok alone
  eq_change : ∀ s, lib.load files path environment = .ok s →
    ∃ alone, lib.settings [rest] = .ok alone ∧ s = change alone ∧
      plannerConfig s = .ofPduLength (change alone).pduLength ∧
      resolver s = resolve (change alone).policy
  error_iff : ∀ e, lib.load files path environment = .error e ↔
    ∃ fault, lib.settings [rest] = .error fault ∧ e = .settings fault
  absent : rest = [] → lib.load files path environment = .ok (change ⟨240, .block 1⟩)

theorem load_of_parse (hfile : lib.find files path = some (name, text))
    (hparse : lib.parse name text = some file) (environment : List (String × String)) :
    lib.load files path environment =
      (lib.settings [file, lib.environment "NG_S7" "__" environment]).mapError .settings := by
  simp only [load, source, hfile, hparse]
  rfl

theorem decides_of_eq (hlib : lib.Lawful) (h : lib.load files path environment =
    ((lib.settings [rest]).map change).mapError .settings) :
    lib.Decides files path environment rest change := by
  have habsent : lib.settings [[]] = .ok ⟨240, .block 1⟩ :=
    settings_nil hlib.toLaysSources hlib.toTakesRecords
  cases halone : lib.settings [rest] with
  | ok alone =>
      have hload : lib.load files path environment = .ok (change alone) := by
        rw [h, halone]
        rfl
      refine ⟨by simp [hload, halone], ?_, by simp [hload, halone], ?_⟩
      · intro s hs
        obtain rfl := Except.ok.inj (hload.symm.trans hs)
        exact ⟨alone, halone, rfl, rfl, rfl⟩
      · rintro rfl
        obtain rfl := Except.ok.inj (halone.symm.trans habsent)
        exact hload
  | error fault =>
      have hload : lib.load files path environment = .error (.settings fault) := by
        rw [h, halone]
        rfl
      refine ⟨by simp [hload, halone], by simp [hload], ?_, ?_⟩
      · intro e
        simp [hload, halone, eq_comm]
      · rintro rfl
        rw [habsent] at halone
        contradiction

end Library

/-- A telegram length in the environment is the telegram length, whatever the file holds under
`planner`, and a refusal of the letter `V` is how it is read, whatever the file holds under
`address`. The other section is as the file has it, and only it can fail. A file that cannot be
parsed is a fault in every environment. -/
theorem load_decided {lib : Library} (hlib : lib.Lawful) {files : List SourceFile}
    {path name text : String} (hfile : lib.find files path = some (name, text)) :
    (lib.parse name text = none →
        ∀ environment, lib.load files path environment = .error (.settings .notParsed)) ∧
      ∀ file, lib.parse name text = some file → lib.fits file →
        (∀ number (n : UInt16), Spells number n.toNat →
            lib.Decides files path [("NG_S7__PLANNER__PDU_LEN", number)] (lib.part "address" file)
              fun alone => { alone with pduLength := n }) ∧
          lib.Decides files path [("NG_S7__ADDRESS__V_AREA__KIND", "reject")]
            (lib.part "planner" file) fun alone => { alone with policy := .reject } := by
  refine ⟨fun hparse environment => ?_, fun file hparse hfits => ⟨fun number n hnumber => ?_, ?_⟩⟩
  · simp only [Library.load, Library.source, hfile, hparse]
    rfl
  · refine Library.decides_of_eq hlib ?_
    rw [Library.load_of_parse hfile hparse, Library.settings_pduLength hlib hfits hnumber]
  · refine Library.decides_of_eq hlib ?_
    rw [Library.load_of_parse hfile hparse, Library.settings_reject hlib hfits]

/-- A file whose section `planner` is an array with no number first and whose section `address` is
given by a path. The length from the environment replaces the array; with the refusal of the letter
alone the array is a fault. -/
theorem load_decided_array :
    ∃ files text file,
      text = "planner = ['x']\n'address.V_AREA' = ['alias', 5]" ∧
      files = [⟨"s7.toml", text.toUTF8⟩] ∧
      Library.standard.find files "s7" = some ("s7.toml", text) ∧
      Library.standard.parse "s7.toml" text = some file ∧ Library.standard.fits file ∧
      Spells "0480" (480 : UInt16).toNat ∧
      Library.standard.Decides files "s7" [("NG_S7__PLANNER__PDU_LEN", "0480")]
        (Library.standard.part "address" file) (fun alone => { alone with pduLength := 480 }) ∧
      Library.standard.load files "s7" [("NG_S7__PLANNER__PDU_LEN", "0480")] =
        .ok ⟨480, .block 5⟩ ∧
      Library.standard.load files "s7" [("NG_S7__ADDRESS__V_AREA__KIND", "reject")] =
        .error (.settings (.wrongNumber (.text "x") .integer "planner[0]"
          (some (.file "s7.toml")))) := by
  have htext : Spells "0480" (480 : UInt16).toNat :=
    ⟨by decide, List.all_eq_true.1 (by decide +kernel), by decide +kernel⟩
  have hfile : Library.standard.find
      [⟨"s7.toml", "planner = ['x']\n'address.V_AREA' = ['alias', 5]".toUTF8⟩] "s7" =
        some ("s7.toml", "planner = ['x']\n'address.V_AREA' = ['alias', 5]") := by decide +kernel
  have hparses : (Library.standard.parse "s7.toml"
      "planner = ['x']\n'address.V_AREA' = ['alias', 5]").any Library.standard.fits = true := by
    decide +kernel
  obtain ⟨file, hparse, hfits⟩ := (Option.any_eq_true _ _).1 hparses
  refine ⟨_, _, file, rfl, rfl, hfile, hparse, hfits, htext,
    ((load_decided lawful_standard hfile).2 file hparse hfits).1 "0480" 480 htext, ?_, ?_⟩
  · decide +kernel
  · decide +kernel

/-- Documents that say nothing of the section `address` and are faults with the telegram length in
the environment all the same: one has the reserved name in its section `planner`, the other an index
that no array is grown to. -/
theorem load_refused_documents :
    ∃ reserved beyond,
      reserved = "planner = \x7b '$__toml_private_datetime' = true \x7d" ∧
      beyond = "'planner[9223372036854775807]' = 0" ∧
      (∀ text ∈ [reserved, beyond],
        (Toml.document? text).any fun table =>
          table.all fun e => outermost (pathOf e.1) = some "planner") ∧
      Library.standard.settings [[]] = .ok ⟨240, .block 1⟩ ∧
      Library.standard.load [⟨"s7.toml", reserved.toUTF8⟩] "s7"
          [("NG_S7__PLANNER__PDU_LEN", "480")] = .error (.settings .notParsed) ∧
      Library.standard.load [⟨"s7.toml", beyond.toUTF8⟩] "s7"
          [("NG_S7__PLANNER__PDU_LEN", "480")] = .error (.settings .noRoom) := by
  refine ⟨_, _, rfl, rfl, ?_, rfl, ?_, ?_⟩
  · decide +kernel
  · decide +kernel
  · decide +kernel

end S7Request.Settings

/-
Which source decides a setting.

A configuration is gathered from a file, from the environment and from the file of variables.
The three are merged key by key, the first over the second and both over the third, so what
is read for a setting is the value of the first of them that has its key
(`Sources.settle_iff`). Loading gives a configuration exactly when every setting can be read
so (`load_eq_ok_iff`).

The file comes first. A variable of the environment is what a setting is read from exactly
when the file says nothing of the setting; a value in the file stands, whatever the
environment has (`load_decides`).
-/
import Cadence.Proofs.Config.Settings
import Cadence.Proofs.Config.Variables
import Cadence.Proofs.Pattern.Canonical

set_option autoImplicit false

namespace Cadence.Config

open Cadence.Number (Binary64)
open Cadence.Value (Distinct Plain lookup?)

variable {es upper lower : Entries} {part key : String} {c : Settings}

/-! ## The file's sections -/

/-- The entry for a part: the first under its very name, else the first whose key differs from
it in case only. -/
def chosen (es : Entries) (part : String) : Option (Value × Value) :=
  match es.find? (fun e => e.1.text? == some part) with
  | some e => some e
  | none => es.find? (fun e => (e.1.text?.map Text.lower) == some part)

/-- The parts that the entries have, each with its entry. -/
def chosenParts (es : Entries) : List (String × (Value × Value)) :=
  Settings.partNames.filterMap (fun part => (chosen es part).map (fun e => (part, e)))

theorem givenEntries_eq (es : Entries) :
    givenEntries es = (chosenParts es).map (fun e => (.str e.1, e.2.2)) ++
      es.filter (fun e => !(chosenParts es).any (fun d => d.2.1.eqv e.1)) := rfl

/-- What is chosen stands among the entries. -/
theorem mem_of_chosen {e : Value × Value} (h : chosen es part = some e) : e ∈ es := by
  rw [chosen] at h
  split at h
  case h_1 d hd =>
    cases h
    exact List.mem_of_find?_eq_some hd
  case h_2 => exact List.mem_of_find?_eq_some h

/-- An entry under the very name is not passed over. -/
theorem chosen_of_text? {e : Value × Value} (he : e ∈ es) (hpart : e.1.text? = some part) :
    ∃ d, chosen es part = some d ∧ d.1.text? = some part := by
  cases hfind : es.find? (fun e => e.1.text? == some part) with
  | none => simpa [hpart] using List.find?_eq_none.mp hfind e he
  | some d => exact ⟨d, by rw [chosen, hfind], by simpa using List.find?_some hfind⟩

/-- A part is chosen when it is one of the settings and something stands for it. -/
theorem mem_chosenParts_iff {e : Value × Value} :
    (part, e) ∈ chosenParts es ↔ part ∈ Settings.partNames ∧ chosen es part = some e := by
  simp only [chosenParts, List.mem_filterMap, Option.map_eq_some_iff, Prod.mk.injEq]
  constructor
  · rintro ⟨p, hp, d, hd, rfl, rfl⟩
    exact ⟨hp, hd⟩
  · rintro ⟨hp, he⟩
    exact ⟨part, hp, e, he, rfl, rfl⟩

/-- No part is chosen twice. -/
theorem nodup_chosenParts (es : Entries) : ((chosenParts es).map (·.1)).Nodup := by
  rw [chosenParts, List.map_filterMap]
  refine List.Nodup.filterMap (fun p q b hp hq => ?_) (by decide)
  simp only [Option.map_map, Option.mem_def, Option.map_eq_some_iff, Function.comp_apply] at hp hq
  obtain ⟨_, -, rfl⟩ := hp
  obtain ⟨_, -, rfl⟩ := hq
  rfl

/-- **The file's entries are sectioned**, also with the names of its sections set right. -/
theorem sectioned_givenEntries (h : Sectioned es) : Sectioned (givenEntries es) := by
  -- an entry is one of the file, at its own key or at the name of a part
  have hmem : ∀ e ∈ givenEntries es,
      (∃ part, e.1 = .str part) ∧ (∃ d ∈ es, d.2 = e.2) ∨ e ∈ es := by
    intro e he
    rw [givenEntries_eq, List.mem_append, List.mem_map] at he
    rcases he with ⟨⟨part, d⟩, hd, rfl⟩ | he
    · exact .inl ⟨⟨part, rfl⟩, d, mem_of_chosen (mem_chosenParts_iff.mp hd).2, rfl⟩
    · exact .inr (List.mem_filter.mp he).1
  refine ⟨⟨fun e he => ?_, ?_⟩, fun e he => ?_⟩
  · rcases hmem e he with ⟨⟨part, hpart⟩, -⟩ | he
    · exact hpart ▸ Value.plain_str part
    · exact h.distinct.plain e he
  · have hparts : Value.textKeys ((chosenParts es).map (fun e => (.str e.1, e.2.2)))
        = (chosenParts es).map (·.1) := by
      rw [Value.textKeys, List.filterMap_map, ← List.filterMap_eq_map]
      rfl
    rw [givenEntries_eq, Value.textKeys, List.filterMap_append, ← Value.textKeys, ← Value.textKeys,
      hparts, List.nodup_append]
    refine ⟨nodup_chosenParts es, ?_, fun part hpart s hs heq => ?_⟩
    · exact h.distinct.nodup.sublist (List.Sublist.filterMap _ List.filter_sublist)
    · -- what is left has no key that is the very name of a section
      subst heq
      obtain ⟨e, he, hes⟩ := List.mem_filterMap.mp hs
      obtain ⟨hein, hout⟩ := List.mem_filter.mp he
      obtain ⟨⟨_, d'⟩, hd', rfl⟩ := List.mem_map.mp hpart
      obtain ⟨d, hd, hdtext⟩ := chosen_of_text? hein hes
      have hdmem := mem_chosenParts_iff.mpr ⟨(mem_chosenParts_iff.mp hd').1, hd⟩
      have hdstr := h.distinct.plain d (mem_of_chosen hd) _ hdtext
      have hestr := h.distinct.plain e hein _ hes
      have htaken : (chosenParts es).any (fun d => d.2.1.eqv e.1) = true := by
        refine List.any_eq_true.mpr ⟨_, hdmem, ?_⟩
        rw [hdstr, hestr]
        exact Value.eqv_str_iff.mpr rfl
      rw [htaken] at hout
      cases hout
  · rcases hmem e he with ⟨-, d, hd, hde⟩ | he
    · exact hde ▸ h.keyed d hd
    · exact h.keyed e he

/-- What stands under a part has distinct keys. -/
theorem keyed_lookup? (h : Sectioned es) (part : String) : Keyed (lookup? part es) := by
  intro fs hfs
  obtain ⟨k, hk⟩ := FieldPattern.mem_of_lookup? hfs
  exact h.keyed _ hk fs rfl

/-! ## The three sources -/

/-- What the file, the environment and the file of variables give. -/
structure Sources where
  file : Entries
  environment : Entries
  envFile : Entries

namespace Sources

/-- What the first source that has a part gives for it. -/
def first (s : Sources) (part : String) : Option Value :=
  ((lookup? part s.file).or (lookup? part s.environment)).or (lookup? part s.envFile)

/-- What the first source that has a setting gives for it. -/
def say (s : Sources) (σ : Setting) : Option Value :=
  ((σ.entry? s.file).or (σ.entry? s.environment)).or (σ.entry? s.envFile)

/-- What the sources come to, each over the next. -/
def merged (s : Sources) (stray : Entries) : Entries :=
  mergeEntries (mergeEntries s.file s.environment) (mergeEntries stray s.envFile)

/-- The sources come to a configuration: what is there for a section is a mapping, every
setting is read from the first source that has it, and the file has no key that is not
known. -/
structure Settle (s : Sources) (c : Settings) : Prop where
  sections : ∀ σ : Setting, IsSection (s.first σ.part)
  settings : ∀ σ : Setting, σ.Reads (s.say σ) (σ.get c)
  schedules : ReadAs Settings.checkSchedules (.ok []) (s.first "schedules") c.schedules
  known : ∀ e ∈ s.file, IsKnown e.1

/-- Sources as they are found: their keys are distinct, those of the file inside its sections
as well, and the environment and the file of variables give parts. -/
structure Sound (s : Sources) : Prop where
  file : Sectioned s.file
  environment : Distinct s.environment
  sections : ∀ σ : Setting, Keyed (lookup? σ.part s.environment)
  known : ∀ e ∈ s.environment, IsKnown e.1
  knownEnvFile : ∀ e ∈ s.envFile, IsKnown e.1

variable {s : Sources} {stray : Entries}

/-- Under each part stands the file over the environment over the file of variables. -/
theorem lookup?_merged (hs : s.Sound) (hstray : ∀ e ∈ stray, ¬IsKnown e.1)
    (hpart : part ∈ Settings.partNames) :
    lookup? part (s.merged stray)
      = overlay (overlay (lookup? part s.file) (lookup? part s.environment))
          (lookup? part s.envFile) := by
  have hupper : Distinct (mergeEntries s.file s.environment) :=
    distinct_mergeEntries hs.file.distinct.plain hs.environment
  have hpass : ∀ e ∈ stray, e.1.text? ≠ some part := by
    intro e he heq
    refine hstray e he ?_
    rw [IsKnown, heq]
    exact hpart
  rw [merged, lookup?_mergeEntries hupper, lookup?_mergeEntries hs.file.distinct,
    lookup?_mergeEntries_of_forall_ne hpass]

/-- Each setting lies in one of the parts. -/
theorem part_mem (σ : Setting) : σ.part ∈ Settings.partNames := by
  cases σ <;> decide

/-- A setting is merged like its section, once the section is one. -/
theorem entry?_merged (hs : s.Sound) (hstray : ∀ e ∈ stray, ¬IsKnown e.1) (σ : Setting)
    (hsection : IsSection (s.first σ.part)) :
    σ.entry? (s.merged stray)
      = overlay (overlay (σ.entry? s.file) (σ.entry? s.environment)) (σ.entry? s.envFile) := by
  have hfile := keyed_lookup? hs.file σ.part
  have hupper := keyed_overlay hfile (hs.sections σ)
  rw [Setting.entry?, lookup?_merged hs hstray (part_mem σ), inner?_overlay hupper,
    inner?_overlay hfile, Setting.entry?, Setting.entry?, Setting.entry?]
  · -- what the file has for the section is the first there is
    intro v hv
    refine hsection v ?_
    rw [first, hv]
    rfl
  · have hover := (isSection_overlay_overlay (lookup? σ.part s.file) (lookup? σ.part s.environment)
      (lookup? σ.part s.envFile)).mpr hsection
    rw [isSection_overlay] at hover
    intro v hv
    refine hover v ?_
    rw [hv]
    rfl

/-- Nothing but the file can bring a key that is not known, once there is nothing stray. -/
theorem known_merged_iff (hs : s.Sound) (hstray : ∀ e ∈ stray, ¬IsKnown e.1) :
    (∀ e ∈ s.merged stray, IsKnown e.1) ↔ (∀ e ∈ s.file, IsKnown e.1) ∧ stray = [] := by
  have hmerge : ∀ us ls : Entries, (∀ e ∈ mergeEntries us ls, IsKnown e.1) ↔
      (∀ e ∈ us, IsKnown e.1) ∧ ∀ e ∈ ls, IsKnown e.1 := fun us ls =>
    forall_text?_mergeEntries_iff (P := fun t => t.getD "" ∈ Settings.partNames)
  rw [merged, hmerge, hmerge, hmerge]
  constructor
  · rintro ⟨⟨hfile, -⟩, hall, -⟩
    exact ⟨hfile, List.eq_nil_iff_forall_not_mem.mpr (fun e he => hstray e he (hall e he))⟩
  · rintro ⟨hfile, rfl⟩
    exact ⟨⟨hfile, hs.known⟩, nofun, hs.knownEnvFile⟩

/-- **A configuration is read from the merged entries when the sources come to it**, and there
is nothing stray. -/
theorem check_merged_iff (hs : s.Sound) (hstray : ∀ e ∈ stray, ¬IsKnown e.1) :
    Settings.check (s.merged stray) = .ok c ↔ s.Settle c ∧ stray = [] := by
  have hsections : ∀ σ : Setting, IsSection (lookup? σ.part (s.merged stray)) ↔
      IsSection (s.first σ.part) := by
    intro σ
    rw [lookup?_merged hs hstray (part_mem σ), isSection_overlay_overlay]
    rfl
  have hsettings : ∀ σ : Setting, IsSection (s.first σ.part) →
      (σ.Reads (σ.entry? (s.merged stray)) (σ.get c) ↔ σ.Reads (s.say σ) (σ.get c)) := by
    intro σ hsection
    rw [entry?_merged hs hstray σ hsection, Setting.Reads, readAs_overlay_overlay σ.flat]
    rfl
  have hschedules : ReadAs Settings.checkSchedules (.ok []) (lookup? "schedules" (s.merged stray))
      c.schedules ↔ ReadAs Settings.checkSchedules (.ok []) (s.first "schedules") c.schedules := by
    rw [lookup?_merged hs hstray (by decide), readAs_overlay_overlay flat_checkSchedules]
    rfl
  rw [Settings.check_eq_ok_iff, hschedules, known_merged_iff hs hstray]
  -- the settings are compared once their sections are known to be such, in both directions
  constructor
  · rintro ⟨h₁, h₂, h₃, h₄, hnone⟩
    have h₁' := fun σ => (hsections σ).mp (h₁ σ)
    exact ⟨⟨h₁', fun σ => (hsettings σ (h₁' σ)).mp (h₂ σ), h₃, h₄⟩, hnone⟩
  · rintro ⟨⟨h₁, h₂, h₃, h₄⟩, hnone⟩
    exact ⟨fun σ => (hsections σ).mpr (h₁ σ), fun σ => (hsettings σ (h₁ σ)).mpr (h₂ σ), h₃, h₄,
      hnone⟩

end Sources

/-! ## Loading -/

/-- The variables of the file of variables. -/
def fileVariables (t : Tree) (env : Environment) : Variables :=
  lowerNames (((surroundings t env).envFile.map (EnvFile.read env)).getD [])

/-- The sources that a load finds: a file whose value, with references expanded and without
halves, is a mapping with texts for keys, and parts from the environment and from the file of
variables. -/
structure Found (t : Tree) (env : Environment) (p : Path) (s : Sources) : Prop where
  file : ∃ text v w es, t.contains p = true ∧ t.read p = .ok text ∧
    (Format.of p).read text = .ok v ∧ expand env.toLookup v = .ok w ∧ w.smooth = .mapping es ∧
    es.all (fun e => e.1.text?.isSome) = true ∧ s.file = givenEntries es
  environment : partsFrom "EnvSettingsSource" (environmentVariables env) Settings.partNames
    = .ok s.environment
  envFile : partsFrom "DotEnvSettingsSource" (fileVariables t env) Settings.partNames
    = .ok s.envFile

variable {t : Tree} {env : Environment} {p : Path} {s : Sources}

/-- A variable of the file that is none of the parts would be a key that is not known. -/
theorem not_isKnown_of_stray {vars : Variables} :
    ∀ e ∈ strayEntries vars, ¬IsKnown e.1 := by
  intro e he
  rw [strayEntries, List.mem_filterMap] at he
  obtain ⟨⟨name, v⟩, -, he⟩ := he
  cases v with
  | none => cases he
  | some v =>
    simp only at he
    split at he
    · cases he
    case isFalse hno =>
      cases he
      simp only [Bool.or_eq_true, not_or] at hno
      simpa [IsKnown, Value.text?] using hno.1.2

/-- A source that gives parts gives no unknown key. -/
theorem isKnown_of_givesParts {source : String} {vars : Variables} {es : Entries}
    (h : GivesParts source vars Settings.partNames es) : ∀ e ∈ es, IsKnown e.1 := by
  intro e he
  obtain ⟨part, hpart, heq⟩ := h.known e he
  rw [IsKnown, heq]
  exact hpart

/-- What is found is sound. -/
theorem Found.sound (h : Found t env p s) : s.Sound := by
  obtain ⟨text, v, w, es, -, -, hread, hexpand, hsmooth, -, hfile⟩ := h.file
  have hsectioned : Sectioned es := by
    refine sectioned_smooth (fun gs hgs => ?_) hsmooth
    obtain ⟨fs, rfl, hfs⟩ := expand_eq_mapping (hgs ▸ hexpand)
    exact sectioned_of_expandEntries (sectioned_read hread) hfs
  have henv := givesParts_partsFrom (by decide) h.environment
  refine ⟨?_, henv.distinct, fun σ => ?_, isKnown_of_givesParts henv,
    isKnown_of_givesParts (givesParts_partsFrom (by decide) h.envFile)⟩
  · rw [hfile]
    exact sectioned_givenEntries hsectioned
  · obtain ⟨o, ho, hlook⟩ := henv.lookup σ.part (Sources.part_mem σ)
    rw [hlook]
    exact keyed_partFrom (lowered_lowerNames _) ho

/-- The sources come together when those of the variables can be read. -/
theorem gather_eq_ok_iff {merged : Entries} :
    gather (surroundings t env) es = .ok merged ↔ ∃ s : Sources,
      s.file = givenEntries es ∧
      partsFrom "EnvSettingsSource" (environmentVariables env) Settings.partNames
        = .ok s.environment ∧
      partsFrom "DotEnvSettingsSource" (fileVariables t env) Settings.partNames = .ok s.envFile ∧
      s.merged (strayEntries (fileVariables t env)) = merged := by
  simp only [gather, bind_eq_ok_iff, pure_eq_ok_iff]
  constructor
  · rintro ⟨fromEnv, henv, fromFile, hfile, rfl⟩
    exact ⟨⟨givenEntries es, fromEnv, fromFile⟩, rfl, henv, hfile, rfl⟩
  · rintro ⟨⟨file, fromEnv, fromFile⟩, rfl, henv, hfile, rfl⟩
    exact ⟨fromEnv, henv, fromFile, hfile, rfl⟩

/-- Settings are built of a mapping with texts for keys whose sources come together and pass. -/
theorem build_eq_ok_iff {around : Surroundings} {v : Value} :
    build around v = .ok c ↔ ∃ es merged, v = .mapping es ∧
      es.all (fun e => e.1.text?.isSome) = true ∧ gather around es = .ok merged ∧
      Settings.check merged = .ok c := by
  constructor
  · intro h
    unfold build at h
    split at h
    case h_1 es =>
      split at h
      -- only a mapping whose keys are all texts comes through
      case isTrue htexts =>
        obtain ⟨merged, hmerged, hc⟩ := bind_eq_ok_iff.mp h
        exact ⟨es, merged, rfl, htexts, hmerged, Checked.toExcept_eq_ok_iff.mp hc⟩
      case isFalse => cases h
    case h_2 => cases h
  · rintro ⟨es, merged, rfl, htexts, hmerged, hc⟩
    simp only [build, htexts, if_true]
    exact bind_eq_ok_iff.mpr ⟨merged, hmerged, Checked.toExcept_eq_ok_iff.mpr hc⟩

/-- Loading is reading, expanding and building, each of which has to succeed. -/
theorem load_eq_ok_iff_build :
    load t env p = .ok c ↔ ∃ text v w, t.contains p = true ∧ t.read p = .ok text ∧
      (Format.of p).read text = .ok v ∧ expand env.toLookup v = .ok w ∧
      build (surroundings t env) w.smooth = .ok c := by
  rw [load, loadAs]
  cases t.contains p with
  | false => simp
  | true =>
    cases t.read p with
    | error e => simp
    | ok text => simp

/-- **Loading gives a configuration when the sources that are found come to it**, and the file
of variables has no variable that would become a key by itself. -/
theorem load_eq_ok_iff :
    load t env p = .ok c ↔
      ∃ s, Found t env p s ∧ s.Settle c ∧ strayEntries (fileVariables t env) = [] := by
  -- the settings of the merge pass as the sources settle, and nothing may be left over
  have hcheck : ∀ {s : Sources}, Found t env p s →
      (Settings.check (s.merged (strayEntries (fileVariables t env))) = .ok c ↔
        s.Settle c ∧ strayEntries (fileVariables t env) = []) := fun hs =>
    Sources.check_merged_iff hs.sound not_isKnown_of_stray
  simp only [load_eq_ok_iff_build, build_eq_ok_iff, gather_eq_ok_iff]
  constructor
  · rintro ⟨text, v, w, hthere, htext, hread, hexpand, es, _, hsmooth, htexts,
      ⟨s, hfile, henv, hvars, rfl⟩, hc⟩
    have hs : Found t env p s :=
      ⟨⟨text, v, w, es, hthere, htext, hread, hexpand, hsmooth, htexts, hfile⟩, henv, hvars⟩
    exact ⟨s, hs, (hcheck hs).mp hc⟩
  · rintro ⟨s, hs, hc⟩
    obtain ⟨text, v, w, es, hthere, htext, hread, hexpand, hsmooth, htexts, hfile⟩ := hs.file
    exact ⟨text, v, w, hthere, htext, hread, hexpand, es, _, hsmooth, htexts,
      ⟨s, hfile, hs.environment, hs.envFile, rfl⟩, (hcheck hs).mpr hc⟩

/-! ## What decides a setting -/

/-- What decides a setting, by where it is spoken of. -/
structure Decides (env : Environment) (s : Sources) (c : Settings) (σ : Setting) : Prop where
  /-- A value in the file stands, whatever the environment has. -/
  file : ∀ v, σ.entry? s.file = some v → σ.check v = .ok (σ.get c)
  /-- Where the file is silent the variable for the key counts, unless another stands for the
  whole section. -/
  named : σ.entry? s.file = none → env.named? (variableOf σ.part) = none →
    ∀ text, env.named? (keyVariable σ.part σ.key) = some text →
      σ.check (.str text) = .ok (σ.get c)
  /-- Where there is neither it is the file of variables that counts, or else the default. -/
  otherwise : σ.entry? s.file = none → env.named? (variableOf σ.part) = none →
    env.named? (keyVariable σ.part σ.key) = none → σ.Reads (σ.entry? s.envFile) (σ.get c)

/-- Each setting has its key in its part. -/
theorem Setting.key_mem (σ : Setting) : σ.key ∈ partKeys σ.part := by
  cases σ <;> decide

/-- Without a variable for the whole section the environment has for a setting what its
variables for single keys have. -/
theorem Found.entry?_environment (h : Found t env p s) (σ : Setting)
    (hown : env.named? (variableOf σ.part) = none) :
    σ.entry? s.environment
      = lookup? σ.key (nestedEntries (environmentVariables env) σ.part) := by
  have hgives := givesParts_partsFrom (by decide) h.environment
  obtain ⟨o, ho, hlook⟩ := hgives.lookup σ.part (Sources.part_mem σ)
  have hnone : ((environmentVariables env).lookup (variableOf σ.part)).join = none := by
    rw [lookup_environment, hown]
    rfl
  rw [Setting.entry?, hlook]
  exact inner?_partFrom (lowered_lowerNames _) σ.key_mem hnone ho

/-- Settings that pass the merge are decided by the source that is found first. -/
theorem decides_of_settle (hs : Found t env p s) (h : s.Settle c) (σ : Setting) :
    Decides env s c σ := by
  have hread : σ.Reads (s.say σ) (σ.get c) := h.settings σ
  refine ⟨fun v hv => ?_, fun hfile hown text htext => ?_, fun hfile hown hno => ?_⟩
  · rw [Sources.say, hv] at hread
    exact hread
  · have henv : σ.entry? s.environment = some (.str text) := by
      rw [hs.entry?_environment σ hown]
      refine lookup?_nestedEntries_of_some (spelling_of_mem σ.key_mem).2.1
        (lowered_lowerNames _) (v := some text) ?_
      rw [lookup_environment, htext]
      rfl
    rw [Sources.say, hfile, henv] at hread
    exact hread
  · rw [Sources.say, hfile] at hread
    cases henv : σ.entry? s.environment with
    | none =>
      rw [henv] at hread
      exact hread
    | some v =>
      -- variables for parts of the key leave a mapping there, which no check passes
      rw [hs.entry?_environment σ hown] at henv
      obtain ⟨fs, rfl⟩ := lookup?_nestedEntries_of_none
        (by rw [lookup_environment, hno]; rfl) henv
      rw [hs.entry?_environment σ hown, henv] at hread
      exact absurd hread (σ.flat fs _)

/-- **A load succeeds when the sources it finds come to a configuration, and then the file
decides what it speaks of and variables decide the rest.** For each of the nine settings of
the logging and the engine section: what the file has for it stands, also against a variable
of the environment; where the file has nothing, the value is that of the setting's own
variable, if there is one; else it is what the file of variables has, or the default. -/
theorem load_decides (t : Tree) (env : Environment) (p : Path) (c : Settings) :
    (load t env p = .ok c ↔
      ∃ s, Found t env p s ∧ s.Settle c ∧ strayEntries (fileVariables t env) = []) ∧
    ∀ s, Found t env p s → s.Settle c → ∀ σ, Decides env s c σ :=
  ⟨load_eq_ok_iff, fun _ hs h σ => decides_of_settle hs h σ⟩

/-- A file that gives the number of workers, in an environment with a tick interval. -/
theorem load_decides_silent :
    let t : Tree := ⟨[(["c.yaml"], .file "engine:\n  max_workers: 4\n")]⟩
    let env : Environment := [("CRONWHEN_ENGINE__TICK_INTERVAL", "2.5")]
    let p : Path := ⟨false, ["c.yaml"]⟩
    ∃ c s, load t env p = .ok c ∧ Found t env p s ∧ s.Settle c ∧
      Setting.tickInterval.entry? s.file = none ∧
      env.named? (keyVariable "engine" "tick_interval") = some "2.5" ∧
      checkPositive (.str "2.5") = .ok c.engine.tickInterval := by
  intro t env p
  obtain ⟨c, hc⟩ := exists_eq_ok_of_isSome (x := load t env p) (by decide +kernel)
  obtain ⟨s, hs, hsettle, -⟩ := (load_decides t env p c).1.mp hc
  have hsilent : Setting.tickInterval.entry? s.file = none := by
    -- the entries of the file, followed through the steps of the load by evaluation
    have hcheck : ((t.read p).toOption.bind (fun text => ((Format.of p).read text).toOption.bind
        (fun v => (expand env.toLookup v).toOption.bind
          (fun w => ((checkEntries "CronWhenConfig" w.smooth).toExcept "").toOption.map
            (fun es => (Setting.tickInterval.entry? (givenEntries es)).isNone)))))
        = some true := by
      decide +kernel
    obtain ⟨text, v, w, es, -, htext, hread, hexpand, hsmooth, -, hfile⟩ := hs.file
    rw [htext] at hcheck
    simp only [Except.toOption, Option.bind_some, hread, hexpand, hsmooth] at hcheck
    rw [hfile, ← Option.isNone_iff_eq_none]
    exact Option.some.inj hcheck
  have hvariable : env.named? (keyVariable "engine" "tick_interval") = some "2.5" := by
    decide +kernel
  have hdecides := (load_decides t env p c).2 s hs hsettle .tickInterval
  exact ⟨c, s, hc, hs, hsettle, hsilent, hvariable,
    hdecides.named hsilent (by decide +kernel) "2.5" hvariable⟩

/-- What a file has stands against a valid variable: the file says one second and the variable
two and a half, and one second it is. -/
theorem load_file_over_variable :
    let t : Tree := ⟨[(["c.yaml"], .file "engine:\n  tick_interval: 1.0\n")]⟩
    let env : Environment := [("CRONWHEN_ENGINE__TICK_INTERVAL", "2.5")]
    let valid : Binary64 := .ofRatio false 5 2
    env.named? (keyVariable "engine" "tick_interval") = some "2.5" ∧
      ((checkPositive (.str "2.5")).toExcept "EngineConfig").toOption = some valid ∧
      (load t env ⟨false, ["c.yaml"]⟩).toOption.map (·.engine.tickInterval) = some .one ∧
      Binary64.one ≠ valid := by
  decide +kernel

end Cadence.Config

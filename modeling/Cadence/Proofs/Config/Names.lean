/-
Names of schedules.

The schedules of a configuration have different names. Schedules that are fine one by one are
accepted exactly when no name comes twice; otherwise the names that do are reported
(`duplicates`). Which names these are and that they stand in strict order settles the report
(`mem_duplicates_iff`, `pairwise_duplicates`); the order is that of code points.

A schedule is looked up by its name, and the first that has it is taken. As the names of an
accepted configuration differ it is the only one, whatever the configuration was made from
(`nodup_of_check`, `looksUp_of_nodup`).
-/
import Cadence.Proofs.Config.Sources
import Mathlib.Data.List.Nodup

set_option autoImplicit false

namespace Cadence.Config

open Cadence.Value (lookup?)

/-! ## Names that come twice -/

/-- Of the items that are kept none comes twice. -/
theorem nodup_eraseDups {α : Type} [BEq α] [LawfulBEq α] (xs : List α) : xs.eraseDups.Nodup := by
  match xs with
  | [] => simp
  | x :: xs =>
    rw [List.eraseDups_cons, List.nodup_cons]
    refine ⟨?_, nodup_eraseDups _⟩
    simp [List.mem_eraseDups]
termination_by xs.length
decreasing_by exact Nat.lt_succ_of_le (List.length_filter_le _ _)

namespace Settings

variable {names : List String} {name : String}

/-- **The duplicates are the names that come at least twice.** -/
theorem mem_duplicates_iff : name ∈ duplicates names ↔ 2 ≤ names.count name := by
  rw [duplicates, List.mem_mergeSort, List.mem_eraseDups, List.mem_filter, decide_eq_true_iff]
  constructor
  · exact And.right
  · intro h
    exact ⟨List.count_pos_iff.mp (Nat.lt_of_succ_lt h), h⟩

/-- **The duplicates are in strict order**, so each is there once. -/
theorem pairwise_duplicates (names : List String) :
    (duplicates names).Pairwise (fun a b => Text.Precedes a.toList b.toList) := by
  have hsorted : (duplicates names).Pairwise (fun a b => Text.notAfter a.toList b.toList = true) :=
    List.pairwise_mergeSort
      (fun a b c => @Text.notAfter_trans a.toList b.toList c.toList)
      (fun a b => Text.notAfter_total a.toList b.toList) _
  have hnodup : (duplicates names).Nodup := List.nodup_mergeSort.mpr (nodup_eraseDups _)
  refine (hsorted.and hnodup).imp (fun {a b} h => ?_)
  obtain ⟨hle, hne⟩ := h
  exact (Text.notAfter_iff.mp hle).resolve_left (fun heq => hne (String.toList_inj.mp heq))

/-- Nothing is reported when no name comes twice. -/
theorem duplicates_eq_nil_iff : duplicates names = [] ↔ names.Nodup := by
  rw [List.eq_nil_iff_forall_not_mem, List.nodup_iff_count_le_one]
  simp only [mem_duplicates_iff, Nat.not_le, Nat.lt_succ_iff]

/-- Schedules are let through when their names differ. -/
theorem verifyNames_of_nodup {ss : List ScheduleConfig} (h : (ss.map (·.name)).Nodup) :
    verifyNames ss = .ok ss := by
  rw [verifyNames, duplicates_eq_nil_iff.mpr h]

/-- A name that comes twice is a fault with all such names. -/
theorem verifyNames_of_not_nodup {ss : List ScheduleConfig} (h : ¬(ss.map (·.name)).Nodup) :
    verifyNames ss = .error (.content (.duplicateNames (duplicates (ss.map (·.name))))) := by
  rw [← duplicates_eq_nil_iff] at h
  rw [verifyNames]
  split
  case h_1 hnil => exact absurd hnil h
  case h_2 => rfl

/-- Schedules pass as they are when their names are distinct. -/
theorem verifyNames_eq_ok_iff {ss ts : List ScheduleConfig} :
    verifyNames ss = .ok ts ↔ (ss.map (·.name)).Nodup ∧ ts = ss := by
  by_cases h : (ss.map (·.name)).Nodup
  · simp [verifyNames_of_nodup h, h, eq_comm]
  · simp [verifyNames_of_not_nodup h, h]

/-! ## Lists of schedules -/

variable {es : Entries} {xs : List Value} {ss : List ScheduleConfig} {c : Settings}

/-- A list of schedules that are fine one by one is left to the check of names. -/
theorem checkSchedules_of_each
    (h : List.Forall₂ (fun x s => ScheduleConfig.check x = .ok s) xs ss) :
    checkSchedules (.list xs) = Checked.ofExcept (verifyNames ss) := by
  have heach : Checked.each ScheduleConfig.check 0 xs = .ok ss := Checked.each_eq_ok_iff.mpr h
  rw [checkSchedules, heach]
  rfl

/-- Schedules that pass have different names. -/
theorem nodup_of_checkSchedules {v : Value} (h : checkSchedules v = .ok ss) :
    (ss.map (·.name)).Nodup := by
  unfold checkSchedules at h
  rw [Checked.andThen_eq_ok_iff] at h
  obtain ⟨ts, -, hts⟩ := h
  rw [Checked.ofExcept_eq_ok_iff, verifyNames_eq_ok_iff] at hts
  obtain ⟨hnodup, rfl⟩ := hts
  exact hnodup

/-- **The schedules of an accepted configuration have different names**, wherever its entries
come from. -/
theorem nodup_of_check (h : check es = .ok c) : (c.schedules.map (·.name)).Nodup := by
  have hread := (check_eq_ok_iff.mp h).2.2.1
  cases hlook : lookup? "schedules" es with
  | none =>
    rw [hlook, ReadAs, Checked.ok.injEq] at hread
    rw [← hread]
    exact List.nodup_nil
  | some v =>
    rw [hlook] at hread
    exact nodup_of_checkSchedules hread

/-- All but the schedules of some entries is in order. -/
structure RestPasses (es : Entries) : Prop where
  logging : ∃ l, checkKey es "logging" (.ok {}) LoggingConfig.check = .ok l
  engine : ∃ e, checkKey es "engine" (.ok {}) EngineConfig.check = .ok e
  extra : checkExtra es = .ok ()

/-- The report on names that come more than once. -/
def duplicatesIssue (names : List String) : Issue :=
  ⟨[.key "schedules"], .invalidValue ("Duplicate schedule names: " ++ Text.joinWith ", " names)⟩

/-- Entries that are in order apart from their schedules pass when the names of these differ. -/
theorem check_of_nodup (hrest : RestPasses es) (hlist : lookup? "schedules" es = some (.list xs))
    (heach : List.Forall₂ (fun x s => ScheduleConfig.check x = .ok s) xs ss)
    (h : (ss.map (·.name)).Nodup) : ∃ c, check es = .ok c ∧ c.schedules = ss := by
  obtain ⟨⟨l, hl⟩, ⟨e, he⟩, hextra⟩ := hrest
  have hschedules : checkKey es "schedules" (.ok []) checkSchedules = .ok ss := by
    rw [checkKey, hlist]
    simp only [checkSchedules_of_each heach, verifyNames_of_nodup h]
    rfl
  refine ⟨⟨l, e, ss⟩, ?_, rfl⟩
  rw [check, hl, he, hschedules, hextra]
  rfl

/-- Otherwise the names that come more than once are all there is to report. -/
theorem check_of_not_nodup (hrest : RestPasses es)
    (hlist : lookup? "schedules" es = some (.list xs))
    (heach : List.Forall₂ (fun x s => ScheduleConfig.check x = .ok s) xs ss)
    (h : ¬(ss.map (·.name)).Nodup) :
    check es = .issues [duplicatesIssue (duplicates (ss.map (·.name)))] := by
  obtain ⟨⟨l, hl⟩, ⟨e, he⟩, hextra⟩ := hrest
  have hschedules : checkKey es "schedules" (.ok []) checkSchedules
      = .issues [duplicatesIssue (duplicates (ss.map (·.name)))] := by
    rw [checkKey, hlist]
    simp only [checkSchedules_of_each heach, verifyNames_of_not_nodup h]
    rfl
  rw [check, hl, he, hschedules, hextra]
  rfl

/-! ## Looking schedules up -/

variable {s : ScheduleConfig}

/-- With different names the first schedule of a name is the only one. -/
theorem schedule?_eq_some_iff (hnodup : (c.schedules.map (·.name)).Nodup) :
    c.schedule? name = some s ↔ s ∈ c.schedules ∧ s.name = name := by
  constructor
  · intro h
    exact ⟨List.mem_of_find?_eq_some h, by simpa using List.find?_some h⟩
  · rintro ⟨hs, rfl⟩
    cases hfind : c.schedule? s.name with
    | none => simpa using List.find?_eq_none.mp hfind s hs
    | some t =>
      have hname : t.name = s.name := by simpa using List.find?_some hfind
      rw [List.inj_on_of_nodup_map hnodup (List.mem_of_find?_eq_some hfind) hs hname]

/-- Nothing is found under a name that no schedule has. -/
theorem schedule?_eq_none_iff :
    c.schedule? name = none ↔ ∀ s ∈ c.schedules, s.name ≠ name := by
  simp [schedule?]

/-- What a configuration with different names gives for a name, and which of its schedules are
switched on. -/
structure LooksUp (c : Settings) : Prop where
  distinct : (c.schedules.map (·.name)).Nodup
  /-- the name of a schedule finds that schedule -/
  found : ∀ s ∈ c.schedules, c.schedule? s.name = some s
  /-- any other name finds nothing -/
  missing : ∀ name, (∀ s ∈ c.schedules, s.name ≠ name) → c.schedule? name = none
  /-- the schedules that are switched on stand in the order in which all of them do -/
  ordered : c.enabled.Sublist c.schedules
  enabled : ∀ s, s ∈ c.enabled ↔ s ∈ c.schedules ∧ s.enabled = true

/-- Distinct names are all that the lookups need. -/
theorem looksUp_of_nodup (h : (c.schedules.map (·.name)).Nodup) : LooksUp c where
  distinct := h
  found _ hs := (schedule?_eq_some_iff h).mpr ⟨hs, rfl⟩
  missing _ hname := schedule?_eq_none_iff.mpr hname
  ordered := List.filter_sublist
  enabled _ := List.mem_filter

end Settings

/-! ## Configurations -/

/-- A call comes to a list of values for the schedules, and is in order apart from these. -/
structure Brings (around : Surroundings) (given : Entries) (xs : List Value) : Prop where
  texts : given.all (fun e => e.1.text?.isSome) = true
  gathered : ∃ es, gather around given = .ok es ∧ lookup? "schedules" es = some (.list xs) ∧
    Settings.RestPasses es

/-- Schedules alone are such a call, where no variables are set. -/
theorem brings_alone (xs : List Value) : Brings {} [(.str "schedules", .list xs)] xs where
  texts := rfl
  gathered := ⟨[(.str "schedules", .list xs)], rfl, rfl, ⟨⟨_, rfl⟩, ⟨_, rfl⟩, rfl⟩⟩

/-- A document with schedules is built from a merge in which they stand, behind parts that pass. -/
theorem Brings.exists_build {around : Surroundings} {given : Entries} {xs : List Value}
    (h : Brings around given xs) : ∃ es, lookup? "schedules" es = some (.list xs) ∧
      Settings.RestPasses es ∧
      build around (.mapping given) = (Settings.check es).toExcept "CronWhenConfig" := by
  obtain ⟨es, hes, hlist, hrest⟩ := h.gathered
  refine ⟨es, hlist, hrest, ?_⟩
  rw [build, if_pos h.texts, hes]
  rfl

/-- What is made of a list of schedules, each fine by itself. -/
structure Settings.Screened (result : Except Fault Settings) (ss : List ScheduleConfig) : Prop where
  /-- it is accepted when its names differ -/
  accepted_iff : (∃ c, result = .ok c) ↔ (ss.map (·.name)).Nodup
  /-- as it is -/
  kept : ∀ c, result = .ok c → c.schedules = ss
  /-- when it is not, the names that come at least twice are reported in order, each once, and
  nothing else is -/
  refused : ∀ e, result = .error e → ∃ names : List String,
    e = .invalid "CronWhenConfig" [Settings.duplicatesIssue names] ∧
      names.Pairwise (fun a b => Text.Precedes a.toList b.toList) ∧
      ∀ name, name ∈ names ↔ 2 ≤ (ss.map (·.name)).count name

/-- **Names of schedules are unique, and lookups are exact.** Whatever list a call brings for
the schedules (`brings_alone`: it may be any), if they are fine one by one: they are accepted
exactly when their names differ, and else it is reported which do not. And however an accepted
configuration was made, a name finds the one schedule that has it. -/
theorem Settings.names_decide :
    (∀ around given xs ss, Brings around given xs →
      List.Forall₂ (fun x s => ScheduleConfig.check x = .ok s) xs ss →
        Screened (build around (.mapping given)) ss) ∧
    ∀ around v c, build around v = .ok c → LooksUp c := by
  refine ⟨fun around given xs ss hbrings heach => ?_, fun around v c h => ?_⟩
  · obtain ⟨es, hlist, hrest, hbuild⟩ := hbrings.exists_build
    rw [hbuild]
    -- everything but the names passes, so that they alone decide
    by_cases hnodup : (ss.map (·.name)).Nodup
    · obtain ⟨c, hc, hschedules⟩ := check_of_nodup hrest hlist heach hnodup
      rw [hc, Checked.toExcept]
      refine ⟨iff_of_true ⟨c, rfl⟩ hnodup, fun d hd => ?_, by simp⟩
      cases hd
      exact hschedules
    · rw [check_of_not_nodup hrest hlist heach hnodup, Checked.toExcept]
      refine ⟨iff_of_false (by simp) hnodup, by simp, fun e he => ?_⟩
      rw [Except.error.injEq] at he
      exact ⟨_, he.symm, pairwise_duplicates _, fun _ => mem_duplicates_iff⟩
  · obtain ⟨es, merged, -, -, -, hc⟩ := build_eq_ok_iff.mp h
    exact looksUp_of_nodup (nodup_of_check hc)

/-- Of five schedules two names come twice, so they are not accepted; three of them are, one
of which is switched off. -/
theorem Settings.names_decide_twice :
    let named (name : String) : Value := .mapping [(.str "name", .str name)]
    let nap : Value := .mapping [(.str "enabled", .bool false), (.str "name", .str "nap")]
    let given (xs : List Value) : Entries := [(.str "schedules", .list xs)]
    let five := [named "tea", named "gym", nap, named "tea", named "gym"]
    let three := [named "tea", nap, named "gym"]
    (∃ ss, ss.map (·.name) = ["tea", "gym", "nap", "tea", "gym"] ∧
      Screened (build {} (.mapping (given five))) ss ∧
      ∀ c, build {} (.mapping (given five)) ≠ .ok c) ∧
    ∃ c, build {} (.mapping (given three)) = .ok c ∧ LooksUp c ∧
      c.enabled.map (·.name) = ["tea", "gym"] := by
  intro named nap given five three
  have htea : ScheduleConfig.check (named "tea") = .ok { name := "tea" } := rfl
  have hgym : ScheduleConfig.check (named "gym") = .ok { name := "gym" } := rfl
  have hnap : ScheduleConfig.check nap = .ok { name := "nap", enabled := false } := rfl
  have hfive := names_decide.1 {} (given five) five _ (brings_alone five)
    (.cons htea (.cons hgym (.cons hnap (.cons htea (.cons hgym .nil)))))
  have hthree := names_decide.1 {} (given three) three _ (brings_alone three)
    (.cons htea (.cons hnap (.cons hgym .nil)))
  obtain ⟨c, hc⟩ := hthree.accepted_iff.mpr (by decide)
  have hlooks : LooksUp c := names_decide.2 {} (.mapping (given three)) c hc
  constructor
  · have hrefused : ∀ d, build {} (.mapping (given five)) ≠ .ok d := fun d hd =>
      absurd (hfive.accepted_iff.mp ⟨d, hd⟩) (by decide)
    exact ⟨_, by rfl, hfive, hrefused⟩
  · have henabled : c.enabled.map (·.name) = ["tea", "gym"] := by
      rw [Settings.enabled, hthree.kept c hc]
      rfl
    exact ⟨c, hc, hlooks, henabled⟩

end Cadence.Config

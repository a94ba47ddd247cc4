/-
Schedules of a configuration, and the builder.

A configuration gives a schedule by a timezone and, for each of the six fields, a number, a
list of numbers, a mapping to numbers, a text, or nothing; or by a cron text. Entries that
`Gives` a configuration are read as just that: a value of one of the four kinds is passed
through as it is (`checkFieldInput_value`), whatever it holds, and so is every other part
(`read_of_gives`).

What is built from a configuration without a cron text is a chain of calls of the builder,
one for the timezone and one for each input that is given (`toSchedule_eq_chain`). The calls
are for different parts, so they can be chained in any order. Together: a schedule is
accepted when the builder makes it, and then it is the one that the builder makes
(`ScheduleConfig.check_agrees`).
-/
import Cadence.Proofs.Config.Checked
import Cadence.Proofs.Schedule.Chain

set_option autoImplicit false

namespace Cadence.Config

open Cadence.Schedule (Setter Part chain every)

variable {es : Entries} {key : String} {α : Type} {a : α} {v : Value}
  {check : Value → Checked α} {default : Checked α} {c : ScheduleConfig}

/-! ## Reading -/

/-- A key that is there is read. -/
theorem checkKey_of_some (h : Value.lookup? key es = some v) (hv : check v = .ok a) :
    checkKey es key default check = .ok a := by
  rw [checkKey_eq_ok_iff, h]
  exact hv

/-- One that is not gives its default. -/
theorem checkKey_of_none (h : Value.lookup? key es = none) :
    checkKey es key (.ok a) check = .ok a := by
  rw [checkKey_eq_ok_iff, h]
  exact rfl

/-- A key holds a value; where there is none, it is absent or null. -/
def OptionalEntry (es : Entries) (key : String) : Option Value → Prop
  | some v => Value.lookup? key es = some v
  | none => Value.lookup? key es = none ∨ Value.lookup? key es = some .null

/-- Entries give the parts of a configuration, each as it is. -/
structure Gives (es : Entries) (c : ScheduleConfig) : Prop where
  name : Value.lookup? "name" es = some (.str c.name)
  inputs : ∀ f, OptionalEntry es f.name ((c.inputs.get f).map FieldInput.value)
  cron : OptionalEntry es "cron" (c.cron.map Value.str)
  timezone : Value.lookup? "timezone" es = some (.str c.timezone) ∨
    Value.lookup? "timezone" es = none ∧ c.timezone = "UTC"
  enabled : Value.lookup? "enabled" es = some (.bool c.enabled) ∨
    Value.lookup? "enabled" es = none ∧ c.enabled = true
  message : OptionalEntry es "message" (c.message.map Value.str)

/-- Integers pass as a list of integers. -/
theorem checkNumbers_value (ns : List Int) (n : Nat) :
    Checked.each checkInt n (ns.map Value.int) = .ok ns := by
  induction ns generalizing n with
  | nil => rfl
  | cons m ns ih =>
    rw [List.map_cons, Checked.each, ih]
    rfl

/-- So they do as the entries of a mapping. -/
theorem checkIntEntries_value (entries : List (String × Int)) :
    checkIntEntries (entries.map (fun (k, n) => (.str k, .int n))) = .ok entries := by
  induction entries with
  | nil => rfl
  | cons e entries ih =>
    rw [List.map_cons, checkIntEntries, ih]
    rfl

/-- **An input of one of the four kinds is read as what it is.** -/
theorem checkFieldInput_value (input : FieldInput) : checkFieldInput input.value = .ok input := by
  cases input with
  | number n => rfl
  | numbers ns =>
    have hns : checkNumbers (FieldInput.numbers ns).value = .ok ns := checkNumbers_value ns 0
    rw [checkFieldInput, hns]
    rfl
  | mapping entries =>
    have hes : checkMapping (FieldInput.mapping entries).value = .ok entries :=
      checkIntEntries_value entries
    rw [checkFieldInput, hes]
    rfl
  | name s => rfl

/-- What passes does so where nothing might stand as well. -/
theorem checkOptional_value {a : α} (hv : check v = .ok a) (hnull : v ≠ .null) :
    checkOptional check v = .ok (some a) := by
  unfold checkOptional
  split
  · exact absurd rfl hnull
  · rw [hv]
    rfl

/-- An entry that may be absent is read as what it holds, if it holds anything. -/
theorem checkKey_of_optionalEntry {give : α → Value} {o : Option α}
    (h : OptionalEntry es key (o.map give)) (hcheck : ∀ a, check (give a) = .ok a)
    (hnull : ∀ a, give a ≠ .null) :
    checkKey es key (.ok none) (checkOptional check) = .ok o := by
  cases o with
  | some a => exact checkKey_of_some h (checkOptional_value (hcheck a) (hnull a))
  | none => exact h.elim checkKey_of_none (checkKey_of_some · rfl)

/-- **A configuration is read as it is given.** -/
theorem read_of_gives (h : Gives es c) : ScheduleConfig.read es = .ok c := by
  -- each key is read as what is given, or as its default where nothing is
  have hinput : ∀ f : Field, checkKey es f.name (.ok none) (checkOptional checkFieldInput)
      = .ok (c.inputs.get f) := fun f =>
    checkKey_of_optionalEntry (h.inputs f) checkFieldInput_value (fun input => by
      cases input <;> exact nofun)
  have htext : ∀ {key : String} {o : Option String}, OptionalEntry es key (o.map Value.str) →
      checkKey es key (.ok none) (checkOptional checkText) = .ok o := fun ho =>
    checkKey_of_optionalEntry ho (fun _ => rfl) (fun _ => nofun)
  have hname : checkKey es "name" (.issue .missing) checkText = .ok c.name :=
    checkKey_of_some h.name rfl
  have htimezone : checkKey es "timezone" (.ok "UTC") checkText = .ok c.timezone := by
    rcases h.timezone with hsome | ⟨hnone, hdefault⟩
    · exact checkKey_of_some hsome rfl
    · rw [hdefault]
      exact checkKey_of_none hnone
  have henabled : checkKey es "enabled" (.ok true) checkBool = .ok c.enabled := by
    rcases h.enabled with hsome | ⟨hnone, hdefault⟩
    · exact checkKey_of_some hsome rfl
    · rw [hdefault]
      exact checkKey_of_none hnone
  simp only [ScheduleConfig.read, hname, hinput, htext h.cron, htimezone, henabled,
    htext h.message]
  rfl

/-! ## Building -/

/-- The setter of a field. -/
def setterOf : Field → Setter
  | .second => .named "sec"
  | .minute => .named "min"
  | .hour => .named "hour"
  | .day => .named "date"
  | .month => .named "month"
  | .weekday => .named "week"

/-- The call for an input. -/
def inputCall (inputs : Sextet (Option FieldInput)) (f : Field) : Option (Setter × Value) :=
  (inputs.get f).map (fun input => (setterOf f, input.value))

/-- The calls of the builder that say what a configuration without a cron text says. -/
def ScheduleConfig.calls (c : ScheduleConfig) : List (Setter × Value) :=
  (.named "tz", .str c.timezone) :: Field.all.filterMap (inputCall c.inputs)

/-- The setter of a field writes that field. -/
theorem call_setterOf (s : Schedule) (f : Field) (input : Value) :
    s.call (setterOf f) input = s.withField f input := by
  cases f <;> rfl

/-- And it is that field that it touches. -/
theorem part_setterOf (f : Field) : (setterOf f).part = some (.field f) := by
  cases f <;> rfl

/-- Applying the inputs is a chain of calls to the setters. -/
theorem applyInputs_eq_chain (inputs : Sextet (Option FieldInput)) (s : Schedule)
    (fs : List Field) :
    ScheduleConfig.applyInputs inputs s fs = s.chain (fs.filterMap (inputCall inputs)) := by
  induction fs generalizing s with
  | nil => rfl
  | cons f fs ih =>
    rw [ScheduleConfig.applyInputs]
    -- a field without input makes no call
    cases hf : inputs.get f with
    | none =>
      have hcall : inputCall inputs f = none := by rw [inputCall, hf, Option.map_none]
      rw [List.filterMap_cons_none hcall]
      exact ih s
    | some input =>
      have hcall : inputCall inputs f = some (setterOf f, input.value) := by
        rw [inputCall, hf, Option.map_some]
      rw [List.filterMap_cons_some hcall, chain, List.foldlM_cons, call_setterOf]
      exact congrArg _ (funext ih)

/-- **What is built without a cron text is a chain of calls.** -/
theorem toSchedule_eq_chain (h : c.cron = none) : c.toSchedule = every.chain c.calls := by
  have hzone : every.call (.named "tz") (.str c.timezone)
      = (Zone.find (.str c.timezone)).map (fun z => ⟨Sextet.same .wildcard, z⟩) := rfl
  simp only [ScheduleConfig.toSchedule, h]
  rw [ScheduleConfig.calls, chain, List.foldlM_cons, hzone]
  cases Zone.find (.str c.timezone) with
  | error e => rfl
  | ok z => exact applyInputs_eq_chain c.inputs _ Field.all

/-- The calls are for different parts. -/
theorem nodup_parts (c : ScheduleConfig) : (c.calls.map (·.1.part)).Nodup := by
  -- each input makes a call of its own field, and none the call for the zone
  have hpart : ∀ {f : Field} {p : Option Part},
      p ∈ (inputCall c.inputs f).map (·.1.part) → p = some (.field f) := by
    intro f p hp
    rw [inputCall, Option.map_map, Option.mem_def, Option.map_eq_some_iff] at hp
    obtain ⟨input, -, rfl⟩ := hp
    exact part_setterOf f
  rw [ScheduleConfig.calls, List.map_cons, List.map_filterMap, List.nodup_cons]
  constructor
  · intro hzone
    obtain ⟨f, -, hf⟩ := List.mem_filterMap.mp hzone
    cases hpart hf
  · refine List.Nodup.filterMap (fun f g p hf hg => ?_) (by decide)
    cases (hpart hf).symm.trans (hpart hg)
    rfl

/-- The calls go through when the timezone is known and each input compiles. -/
theorem succeeds_calls_iff : (∀ call ∈ c.calls, Schedule.Succeeds call) ↔
    (∃ z, Zone.find (.str c.timezone) = .ok z) ∧
      ∀ f input, c.inputs.get f = some input → ∃ p, FieldPattern.compile f input.value = .ok p := by
  have hzone : Schedule.Succeeds (.named "tz", .str c.timezone) ↔
      ∃ z, Zone.find (.str c.timezone) = .ok z := by
    change (∃ t, (Zone.find (.str c.timezone)).map _ = .ok t) ↔ _
    simp [map_eq_ok_iff]
  have hfield : ∀ f (input : Value), Schedule.Succeeds (setterOf f, input) ↔
      ∃ p, FieldPattern.compile f input = .ok p := by
    intro f input
    rw [Schedule.Succeeds, call_setterOf, Schedule.withField]
    simp [map_eq_ok_iff]
  rw [ScheduleConfig.calls, List.forall_mem_cons, hzone]
  refine and_congr_right' ⟨fun h f input hf => ?_, fun h call hcall => ?_⟩
  · have hmem : (setterOf f, input.value) ∈ Field.all.filterMap (inputCall c.inputs) := by
      refine List.mem_filterMap.mpr ⟨f, by cases f <;> decide, ?_⟩
      rw [inputCall, hf, Option.map_some]
    exact (hfield f input.value).mp (h _ hmem)
  -- a call among the calls comes from an input of its field
  · obtain ⟨f, -, hf⟩ := List.mem_filterMap.mp hcall
    rw [inputCall, Option.map_eq_some_iff] at hf
    obtain ⟨input, hinput, rfl⟩ := hf
    exact (hfield f input.value).mpr (h f input hinput)

/-! ## Agreement -/

/-- A configuration that is given is accepted when it can be verified. -/
theorem check_of_gives (h : Gives es c) :
    ScheduleConfig.check (.mapping es) = Checked.ofExcept c.verify := by
  have hread := read_of_gives h
  rw [ScheduleConfig.check, checkEntries, Checked.andThen, hread]
  rfl

/-- There are inputs when some field has one. -/
theorem hasInputs_iff : c.hasInputs = true ↔ ∃ f input, c.inputs.get f = some input := by
  rw [ScheduleConfig.hasInputs, Sextet.toList, List.any_map, List.any_eq_true]
  simp only [Function.comp_apply, Option.isSome_iff_exists]
  constructor
  · rintro ⟨f, -, hf⟩
    exact ⟨f, hf⟩
  · rintro ⟨f, hf⟩
    exact ⟨f, by cases f <;> decide, hf⟩

/-- What is verified is given in one way and builds; it stays as it is. -/
theorem ScheduleConfig.verify_eq_ok_iff {d : ScheduleConfig} : c.verify = .ok d ↔
    d = c ∧ (c.cron.isSome && c.hasInputs) = false ∧ ∃ s, c.toSchedule = .ok s := by
  rw [verify, ite_error_eq_ok_iff, map_eq_ok_iff, Bool.not_eq_true]
  constructor
  · rintro ⟨hone, s, hs, rfl⟩
    exact ⟨rfl, hone, s, hs⟩
  · rintro ⟨rfl, hone, s, hs⟩
    exact ⟨hone, s, hs, rfl⟩

/-- A schedule that is given in one way is accepted when it builds, as it is. -/
theorem check_eq_ok_iff (h : Gives es c) (hone : (c.cron.isSome && c.hasInputs) = false)
    {d : ScheduleConfig} :
    ScheduleConfig.check (.mapping es) = .ok d ↔ d = c ∧ ∃ s, c.toSchedule = .ok s := by
  rw [check_of_gives h, Checked.ofExcept_eq_ok_iff, ScheduleConfig.verify_eq_ok_iff]
  simp only [hone, true_and]

/-- The check of a schedule agrees with the builder, and with the reader of cron texts. -/
structure Agrees (c : ScheduleConfig) (result : Checked ScheduleConfig) : Prop where
  /-- given field by field, it is accepted when the timezone is known and each input compiles,
  and is what the builder makes of the same by calls in any order -/
  fields : c.cron = none →
    ((∃ d, result = .ok d) ↔ (∃ z, Zone.find (.str c.timezone) = .ok z) ∧
      ∀ f input, c.inputs.get f = some input → ∃ p, FieldPattern.compile f input.value = .ok p) ∧
    ∀ d, result = .ok d → d = c ∧ ∃ s, d.toSchedule = .ok s ∧
      ∀ calls, calls.Perm c.calls → every.chain calls = .ok s
  /-- given by a cron text alone, it is accepted when the text can be read, and is what is
  read -/
  text : ∀ text, c.cron = some text → (∀ f, c.inputs.get f = none) →
    ((∃ d, result = .ok d) ↔ ∃ s, Schedule.ofCron text c.timezone = .ok s) ∧
    ∀ d, result = .ok d → d = c ∧ ∃ s, d.toSchedule = .ok s ∧
      Schedule.ofCron text c.timezone = .ok s
  /-- given in both ways, it is rejected -/
  both : ∀ text f input, c.cron = some text → c.inputs.get f = some input →
    result = .issue (.invalidValue (Fault.content .cronOrFields).message)

/-- **Configuration and builder agree.** -/
theorem ScheduleConfig.check_agrees (h : Gives es c) :
    Agrees c (ScheduleConfig.check (.mapping es)) := by
  refine ⟨fun hcron => ?_, fun text hcron hnone => ?_, fun text f input hcron hf => ?_⟩
  · have hone : (c.cron.isSome && c.hasInputs) = false := by rw [hcron]; rfl
    have hbuilt : ∀ s, c.toSchedule = .ok s ↔ every.chain c.calls = .ok s :=
      fun s => by rw [toSchedule_eq_chain hcron]
    simp only [check_eq_ok_iff h hone]
    refine ⟨?_, ?_⟩
    · rw [← succeeds_calls_iff]
      simp only [hbuilt, Schedule.chain_eq_ok_iff, exists_eq_left, exists_and_left, exists_eq',
        and_true]
    · rintro d ⟨rfl, s, hs⟩
      -- no setter is called twice, so that the order is free
      exact ⟨rfl, s, hs, fun calls hcalls =>
        (Schedule.chain_perm hcalls.symm (nodup_parts d)).mp ((hbuilt s).mp hs)⟩
  · have hone : (c.cron.isSome && c.hasInputs) = false := by
      rw [Bool.and_eq_false_iff, Bool.eq_false_iff (b := c.hasInputs), ne_eq, hasInputs_iff]
      simp [hnone]
    have hbuilt : c.toSchedule = Schedule.ofCron text c.timezone := by
      rw [ScheduleConfig.toSchedule, hcron]
    simp only [check_eq_ok_iff h hone]
    refine ⟨?_, ?_⟩
    · simp only [hbuilt, exists_eq_left]
    · rintro d ⟨rfl, s, hs⟩
      exact ⟨rfl, s, hs, hbuilt ▸ hs⟩
  -- both given is refused before anything is built
  · have hboth : (c.cron.isSome && c.hasInputs) = true := by
      rw [hasInputs_iff.mpr ⟨f, input, hf⟩, hcron]
      rfl
    rw [check_of_gives h, ScheduleConfig.verify, hboth]
    rfl

/-- A second of zero, two hours and a name for the weekday: all are given, and the schedule
is accepted. -/
theorem ScheduleConfig.check_agrees_zero :
    let es : Entries := [(.str "weekday", .str "mon"), (.str "name", .str "tea"),
      (.str "second", .int 0), (.str "minute", .null), (.str "hour", .list [.int 4, .int 16]),
      (.str "timezone", .str "Asia/Kolkata")]
    let c : ScheduleConfig := {
      name := "tea", timezone := "Asia/Kolkata",
      inputs := {
        second := some (.number 0), minute := none, hour := some (.numbers [4, 16]),
        day := none, month := none, weekday := some (.name "mon") } }
    Gives es c ∧ Agrees c (ScheduleConfig.check (.mapping es)) ∧
      ∃ d, ScheduleConfig.check (.mapping es) = .ok d := by
  intro es c
  have hgives : Gives es c := {
    name := rfl
    inputs := fun f => by
      cases f with
      | second => exact rfl
      | minute => exact .inr rfl
      | hour => exact rfl
      | day => exact .inl rfl
      | month => exact .inl rfl
      | weekday => exact rfl
    cron := .inl rfl
    timezone := .inl rfl
    enabled := .inr ⟨rfl, rfl⟩
    message := .inl rfl }
  have hagrees := ScheduleConfig.check_agrees hgives
  refine ⟨hgives, hagrees, (hagrees.fields rfl).1.mpr ⟨⟨_, rfl⟩, fun f input hf => ?_⟩⟩
  cases f with
  | second | hour | weekday =>
    obtain rfl := Option.some.inj hf
    exact ⟨_, rfl⟩
  | minute | day | month => cases hf

end Cadence.Config

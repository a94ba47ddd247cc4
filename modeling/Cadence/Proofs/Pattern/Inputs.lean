/-
Inputs by numbers.

A field can be given by numbers, as a value that is compiled. `NumericInput` is such an
input apart from its form, with the value it is given as, the text that writes it and the
pattern it stands for; `Fits` is what its numbers have to satisfy. Compiling succeeds
exactly on what fits (`compile_eq_ok_iff`), and the check passes the pattern exactly when
it fits (`validate_pattern_iff`), so the two ask the same of every field.

The entries of a mapping come in any order; only their keys count.
-/
import Cadence.Proofs.Pattern.Canonical

set_option autoImplicit false

namespace Cadence

open Cadence.Number (intText)
open Cadence.Text (joinWith)

/-! ## Inputs by numbers -/

/-- What a field may be given by, apart from names. -/
inductive NumericInput
  | number (n : Int)
  | list (ns : List Int) (ne_nil : ns ≠ [])
  | every (n : Int)
  | range (low high : Int)
  | stepped (low high n : Int)

namespace NumericInput

/-- The input is given as the value `v`; the entries of a mapping have no order. -/
inductive Given : NumericInput → Value → Prop
  | number {n : Int} : Given (.number n) (.int n)
  | list {ns : List Int} {h : ns ≠ []} : Given (.list ns h) (.list (ns.map .int))
  | tuple {ns : List Int} {h : ns ≠ []} : Given (.list ns h) (.tuple (ns.map .int))
  | every {n : Int} : Given (.every n) (.mapping [(.str "every", .int n)])
  | range {low high : Int} {entries : List (Value × Value)} :
    entries.Perm [(.str "from", .int low), (.str "to", .int high)] →
      Given (.range low high) (.mapping entries)
  | stepped {low high n : Int} {entries : List (Value × Value)} :
    entries.Perm [(.str "from", .int low), (.str "to", .int high), (.str "every", .int n)] →
      Given (.stepped low high n) (.mapping entries)

/-- The text that writes the input. -/
def text : NumericInput → String
  | .number n => intText n
  | .list ns _ => joinWith "," (ns.map intText)
  | .every n => "*/" ++ intText n
  | .range low high => intText low ++ "-" ++ intText high
  | .stepped low high n => intText low ++ "-" ++ intText high ++ "/" ++ intText n

/-- The pattern that the input stands for. -/
def pattern : NumericInput → FieldPattern
  | .number n => .exact (.int n)
  | .list ns _ => FieldPattern.ofValues ns
  | .every n => .step (.int n) .none .none
  | .range low high => .span (.int low) (.int high)
  | .stepped low high n => .step (.int n) (.int low) (.int high)

/-- The numbers of the input suit a field. -/
def Fits (f : Field) : NumericInput → Prop
  | .number n => f.low ≤ n ∧ n ≤ f.high
  | .list ns _ => ∀ n ∈ ns, f.low ≤ n ∧ n ≤ f.high
  | .every n => 1 ≤ n ∧ n ≤ f.width
  | .range low high => f.low ≤ low ∧ low ≤ high ∧ high ≤ f.high
  | .stepped low high n => (f.low ≤ low ∧ low ≤ high ∧ high ≤ f.high) ∧ 1 ≤ n

end NumericInput

/-! ## Compiling -/

namespace Value

variable {keys keys' : List Value} {entries : List (Value × Value)}

/-- The order of the keys does not count. -/
theorem keysAre_perm (h : keys.Perm keys') (names : List String) :
    keysAre keys names = keysAre keys' names := by
  have hany : ∀ name : String,
      keys.any (fun k => k.text? == some name) = keys'.any (fun k => k.text? == some name) :=
    fun name => h.any_eq
  rw [keysAre, keysAre, h.length_eq]
  simp only [hany]

/-- Under keys that differ, each entry is found, in whatever order they stand. -/
theorem lookup?_of_perm {named : List (String × Value)}
    (h : entries.Perm (named.map (fun e => (.str e.1, e.2)))) (hnodup : (named.map (·.1)).Nodup)
    {key : String} {v : Value} (hmem : (key, v) ∈ named) : lookup? key entries = some v := by
  -- no key comes twice, so that the order of the entries does not matter
  have hkeys : (entries.map (·.1.text?)).Nodup := by
    rw [(h.map (·.1.text?)).nodup_iff, List.map_map]
    have htexts : named.map ((·.1.text?) ∘ fun e : String × Value => (Value.str e.1, e.2))
        = (named.map (·.1)).map some := by
      rw [List.map_map]
      rfl
    rw [htexts]
    exact List.Pairwise.map some (fun _ _ hne heq => hne (Option.some.inj heq)) hnodup
  have hentry : (Value.str key, v) ∈ entries :=
    h.mem_iff.mpr (List.mem_map.mpr ⟨(key, v), hmem, rfl⟩)
  clear h hnodup hmem
  induction entries with
  | nil => simp at hentry
  | cons e entries ih =>
    obtain ⟨k, w⟩ := e
    rw [List.map_cons, List.nodup_cons] at hkeys
    rw [lookup?]
    rcases List.mem_cons.mp hentry with heq | hentry
    · obtain ⟨rfl, rfl⟩ := Prod.mk.inj heq
      exact if_pos rfl
    · have hother : k.text? ≠ some key := by
        intro hk
        have hsame : k.text? ∈ entries.map (·.1.text?) :=
          List.mem_map.mpr ⟨_, hentry, hk.symm⟩
        exact hkeys.1 hsame
      rw [if_neg hother]
      exact ih hkeys.2 hentry

end Value

namespace FieldPattern

variable {f : Field} {v : Value} {p q : FieldPattern} {input : NumericInput}

/-- A list of numbers is compiled when each of them lies within the field. -/
theorem compileList_eq_ok_iff {ns : List Int} (hne : ns ≠ []) :
    compileList f (ns.map .int) = .ok p ↔
      (∀ n ∈ ns, f.low ≤ n ∧ n ≤ f.high) ∧ p = ofValues ns := by
  have hmap : ns.map Value.int ≠ [] := by simpa using hne
  -- each value passes as itself, or the list is refused
  have hall : ∀ ms : List Int,
      List.Forall₂ (fun v n => f.checkValue v = .ok n) (ns.map Value.int) ms ↔
        (∀ n ∈ ns, f.low ≤ n ∧ n ≤ f.high) ∧ ns = ms := by
    intro ms
    simp only [List.forall₂_map_left_iff, Field.checkValue_eq_ok_iff, Value.atom.injEq,
      Scalar.int.injEq]
    constructor
    · intro h
      have heq : List.Forall₂ (· = ·) ns ms := h.imp (fun _ _ h => h.1)
      rw [List.forall₂_eq_eq_eq] at heq
      subst heq
      rw [List.forall₂_same] at h
      exact ⟨fun n hn => (h n hn).2, rfl⟩
    · rintro ⟨h, rfl⟩
      rw [List.forall₂_same]
      exact fun n hn => ⟨rfl, h n hn⟩
  simp only [compileList, ite_error_eq_ok_iff, map_eq_ok_iff, mapM_eq_ok_iff, List.isEmpty_iff,
    hmap, not_false_eq_true, true_and, hall]
  constructor
  · rintro ⟨ms, ⟨h, rfl⟩, rfl⟩
    exact ⟨h, rfl⟩
  · rintro ⟨h, rfl⟩
    exact ⟨ns, ⟨h, rfl⟩, rfl⟩

/-- **A structured input is compiled exactly when it fits**, to the pattern it stands
for. -/
theorem compile_eq_ok_iff (hv : input.Given v) :
    compile f v = .ok p ↔ input.Fits f ∧ p = input.pattern := by
  -- a mapping is told by its keys, whatever their order
  cases hv with
  | @number n =>
    simp only [compile, map_eq_ok_iff, Field.checkValue_eq_ok_iff, Value.atom.injEq,
      Scalar.int.injEq, NumericInput.Fits, NumericInput.pattern]
    constructor
    · rintro ⟨_, ⟨rfl, h⟩, rfl⟩
      exact ⟨h, rfl⟩
    · rintro ⟨h, rfl⟩
      exact ⟨n, ⟨rfl, h⟩, rfl⟩
  | @list _ hne => exact compileList_eq_ok_iff hne
  | @tuple _ hne => exact compileList_eq_ok_iff hne
  | @every n =>
    have hkeys : Value.keysAre [.str "every"] ["every"] = true := by decide
    have hentry : Value.lookup? "every" [(.str "every", .int n)] = some (.int n) := rfl
    simp only [compile, compileRange, List.map_cons, List.map_nil, hkeys, if_true, hentry,
      Option.getD_some, bind_eq_ok_iff, pure_eq_ok_iff, Field.checkStep_eq_ok_iff,
      Value.atom.injEq, Scalar.int.injEq, Option.mem_def, Option.some.injEq, forall_eq',
      NumericInput.Fits, NumericInput.pattern]
    constructor
    · rintro ⟨_, ⟨rfl, h⟩, rfl⟩
      exact ⟨h, rfl⟩
    · rintro ⟨h, rfl⟩
      exact ⟨n, ⟨rfl, h⟩, rfl⟩
  | @range low high entries hperm =>
    have hkeys := Value.keysAre_perm (hperm.map Prod.fst)
    have hfind : ∀ {key : String} {v : Value},
        (key, v) ∈ [("from", Value.int low), ("to", .int high)] →
          Value.lookup? key entries = some v :=
      Value.lookup?_of_perm hperm (by simp)
    have hfrom : Value.lookup? "from" entries = some (.int low) := hfind (by simp)
    have hto : Value.lookup? "to" entries = some (.int high) := hfind (by simp)
    have h₁ : Value.keysAre [.str "from", .str "to"] ["every"] = false := by decide
    have h₂ : Value.keysAre [.str "from", .str "to"] ["from", "to"] = true := by decide
    simp only [compile, compileRange, hkeys, List.map_cons, List.map_nil, h₁, h₂,
      Bool.false_eq_true, if_false, if_true, hfrom, hto, Option.getD_some, bind_eq_ok_iff,
      pure_eq_ok_iff, Prod.exists, Field.checkBounds_eq_ok_iff, Value.atom.injEq,
      Scalar.int.injEq, NumericInput.Fits, NumericInput.pattern]
    constructor
    · rintro ⟨_, _, ⟨rfl, rfl, h⟩, rfl⟩
      exact ⟨h, rfl⟩
    · rintro ⟨h, rfl⟩
      exact ⟨low, high, ⟨rfl, rfl, h⟩, rfl⟩
  | @stepped low high n entries hperm =>
    have hkeys := Value.keysAre_perm (hperm.map Prod.fst)
    have hfind : ∀ {key : String} {v : Value},
        (key, v) ∈ [("from", Value.int low), ("to", .int high), ("every", .int n)] →
          Value.lookup? key entries = some v :=
      Value.lookup?_of_perm hperm (by simp)
    have hfrom : Value.lookup? "from" entries = some (.int low) := hfind (by simp)
    have hto : Value.lookup? "to" entries = some (.int high) := hfind (by simp)
    have hevery : Value.lookup? "every" entries = some (.int n) := hfind (by simp)
    have h₁ : Value.keysAre [.str "from", .str "to", .str "every"] ["every"] = false := by decide
    have h₂ : Value.keysAre [.str "from", .str "to", .str "every"] ["from", "to"] = false := by
      decide
    have h₃ : Value.keysAre [.str "from", .str "to", .str "every"] ["from", "to", "every"]
        = true := by decide
    simp only [compile, compileRange, hkeys, List.map_cons, List.map_nil, h₁, h₂, h₃,
      Bool.false_eq_true, if_false, if_true, hfrom, hto, hevery, Option.getD_some,
      bind_eq_ok_iff, pure_eq_ok_iff, Prod.exists, Field.checkBounds_eq_ok_iff,
      Field.checkStep_eq_ok_iff, Value.atom.injEq, Scalar.int.injEq, Option.mem_def,
      reduceCtorEq, false_implies, implies_true, and_true, NumericInput.Fits,
      NumericInput.pattern]
    constructor
    · rintro ⟨_, _, ⟨rfl, rfl, h⟩, _, ⟨rfl, hn⟩, rfl⟩
      exact ⟨⟨h, hn⟩, rfl⟩
    · rintro ⟨⟨h, hn⟩, rfl⟩
      exact ⟨low, high, ⟨rfl, rfl, h⟩, n, ⟨rfl, hn⟩, rfl⟩

/-! ## Checking -/

/-- A number is valid when it is in the range of the field. -/
theorem validate_exact_iff {n : Int} :
    validate f (.exact (.int n)) = .ok () ↔ f.low ≤ n ∧ n ≤ f.high := by
  simp only [validate, map_eq_ok_iff, Field.checkValue_eq_ok_iff, Value.atom.injEq,
    Scalar.int.injEq, and_true]
  constructor
  · rintro ⟨_, rfl, h⟩
    exact h
  · exact fun h => ⟨n, rfl, h⟩

/-- **The check passes the pattern of an input exactly when it fits.** -/
theorem validate_pattern_iff : validate f input.pattern = .ok () ↔ input.Fits f := by
  cases input with
  | number n => exact validate_exact_iff
  | list ns hne =>
    rw [NumericInput.pattern, NumericInput.Fits]
    -- a list of one has become its only value
    match ns, hne with
    | [n], _ => rw [ofValues, validate_exact_iff, List.forall_mem_singleton]
    | m :: n :: ns, _ =>
      have hlist : ofValues (m :: n :: ns)
          = .anyOf ((m :: n :: ns).map (fun k => .exact (.int k))) := rfl
      rw [hlist, validate, validateAll_eq_ok_iff, List.forall_mem_map]
      simp only [validate_exact_iff]
  | every n =>
    simp only [NumericInput.pattern, NumericInput.Fits, validate, map_eq_ok_iff,
      Field.checkStep_eq_ok_iff, Value.atom.injEq, Scalar.int.injEq, Option.mem_def,
      Option.some.injEq, forall_eq', and_true]
    constructor
    · rintro ⟨_, rfl, h⟩
      exact h
    · exact fun h => ⟨n, rfl, h⟩
  | range low high =>
    simp only [NumericInput.pattern, NumericInput.Fits, validate, map_eq_ok_iff, Prod.exists,
      Field.checkBounds_eq_ok_iff, Value.atom.injEq, Scalar.int.injEq, and_true]
    constructor
    · rintro ⟨_, _, rfl, rfl, h⟩
      exact h
    · exact fun h => ⟨low, high, rfl, rfl, h⟩
  | stepped low high n =>
    simp only [NumericInput.pattern, NumericInput.Fits, validate, bind_eq_ok_iff, Prod.exists,
      Field.checkBounds_eq_ok_iff, Field.checkStep_eq_ok_iff, Value.atom.injEq,
      Scalar.int.injEq, Option.mem_def, reduceCtorEq, false_implies, implies_true, and_true,
      pure_eq_ok_iff]
    constructor
    · rintro ⟨_, _, ⟨rfl, rfl, h⟩, _, rfl, hn⟩
      exact ⟨h, hn⟩
    · rintro ⟨h, hn⟩
      exact ⟨low, high, ⟨rfl, rfl, h⟩, n, rfl, hn⟩

end FieldPattern

end Cadence

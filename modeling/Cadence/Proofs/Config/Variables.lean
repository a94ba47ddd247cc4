/-
What variables give for the keys of a section.

Names of variables are lowered first, and of those that are equal then the last one counts
(`Environment.named?`). A variable for a single key is found under that key, unless the
variable for the whole section is there as well: nothing else in the environment can take
its place, since no other name in lower case comes apart into the same keys, and none is
spelled like it (`lookup?_nestedEntries_of_some`, `inner?_partFrom`). Where it is missing,
variables for parts of the key can leave a mapping there, and nothing else can
(`lookup?_nestedEntries_of_none`).
-/
import Cadence.Proofs.Config.Reading
import Cadence.Proofs.Text.Lowering
import Mathlib.Data.List.Induction

set_option autoImplicit false

namespace Cadence.Config

open Cadence.Value (Distinct Plain lookup? insertEntry)
open Cadence.Text (NoCapital IsNameLetter)

variable {vars : Variables} {name part key s : String} {v : Option String} {es : Entries}

/-! ## Names in lower case -/

/-- The value of the last variable with a name that is this one in lower case. -/
def Environment.named? (env : Environment) (name : String) : Option String :=
  ((env.filter (fun e => Text.lower e.1 = name)).getLast?).map (·.2)

/-- A variable that is written is seen under its name alone. -/
theorem lookup_put (name : String) (v : Option String) (vars : Variables) (n : String) :
    (lowerNames.put name v vars).lookup n = if n = name then some v else vars.lookup n := by
  induction vars with
  | nil =>
    rw [lowerNames.put, List.lookup_cons, List.lookup_nil]
    by_cases h : n = name
    · simp [h]
    · simp [h, beq_false_of_ne h]
  | cons e vars ih =>
    obtain ⟨m, w⟩ := e
    rw [lowerNames.put]
    -- an entry of that name is written over where it stands
    by_cases hm : m = name
    · subst hm
      rw [if_pos rfl, List.lookup_cons, List.lookup_cons]
      by_cases h : n = m
      · simp [h]
      · simp [h, beq_false_of_ne h]
    · rw [if_neg hm, List.lookup_cons, ih, List.lookup_cons]
      by_cases h : n = m
      · subst h
        simp [hm]
      · simp [beq_false_of_ne h]

/-- Writing one keeps the names in order, and adds its own when it is new. -/
theorem names_put (name : String) (v : Option String) (vars : Variables) :
    (lowerNames.put name v vars).map (·.1) = vars.map (·.1) ∨
      name ∉ vars.map (·.1) ∧
        (lowerNames.put name v vars).map (·.1) = vars.map (·.1) ++ [name] := by
  induction vars with
  | nil => exact .inr ⟨List.not_mem_nil, rfl⟩
  | cons e vars ih =>
    obtain ⟨m, w⟩ := e
    rw [lowerNames.put]
    by_cases hm : m = name
    · rw [if_pos hm]
      exact .inl rfl
    · rw [if_neg hm, List.map_cons, List.map_cons]
      refine ih.imp (fun h => by rw [h]) (fun ⟨hout, h⟩ => ⟨?_, by rw [h, List.cons_append]⟩)
      simpa [Ne.symm hm] using hout

/-- The names are lowered one variable after another, the later over the earlier. -/
theorem lowerNames_concat (vars : Variables) (e : String × Option String) :
    lowerNames (vars ++ [e]) = lowerNames.put (Text.lower e.1) e.2 (lowerNames vars) := by
  rw [lowerNames, lowerNames, List.foldl_append]
  rfl

/-- **Of the variables with equal names in lower case the last counts.** -/
theorem lookup_lowerNames (vars : Variables) (name : String) :
    (lowerNames vars).lookup name
      = ((vars.filter (fun e => Text.lower e.1 = name)).getLast?).map (·.2) := by
  induction vars using List.reverseRecOn with
  | nil => rfl
  | append_singleton vars e ih =>
    rw [lowerNames_concat, lookup_put, ih, List.filter_append]
    by_cases h : name = Text.lower e.1
    · simp [← h]
    · simp [h, Ne.symm h]

/-- Names in lower case: each once, and none with a capital in it. -/
structure Lowered (vars : Variables) : Prop where
  nodup : (vars.map (·.1)).Nodup
  small : ∀ e ∈ vars, ∀ c ∈ e.1.toList, NoCapital c

/-- Behind the lowering no name has a capital. -/
theorem lowered_lowerNames (vars : Variables) : Lowered (lowerNames vars) := by
  -- on the variables from behind, as each is put over those before it
  induction vars using List.reverseRecOn with
  | nil => exact ⟨List.nodup_nil, nofun⟩
  | append_singleton vars e ih =>
    have hsmall : ∀ n ∈ (lowerNames vars).map (·.1), ∀ c ∈ n.toList, NoCapital c := by
      intro n hn
      obtain ⟨d, hd, rfl⟩ := List.mem_map.mp hn
      exact ih.small d hd
    have hnew : ∀ c ∈ (Text.lower e.1).toList, NoCapital c := by
      intro c hc
      rw [Text.lower, String.toList_ofList] at hc
      exact Text.noCapital_of_mem_lowerFrom hc
    have hboth : ((lowerNames (vars ++ [e])).map (·.1)).Nodup ∧
        ∀ n ∈ (lowerNames (vars ++ [e])).map (·.1), ∀ c ∈ n.toList, NoCapital c := by
      rw [lowerNames_concat]
      -- the name is there already, or comes in as a new one at the end
      rcases names_put (Text.lower e.1) e.2 (lowerNames vars) with h | ⟨hout, h⟩
      · rw [h]
        exact ⟨ih.nodup, hsmall⟩
      · rw [h, List.nodup_append, List.forall_mem_append, List.forall_mem_singleton]
        refine ⟨⟨ih.nodup, List.nodup_singleton _, fun a ha b hb hab => hout ?_⟩, hsmall, hnew⟩
        rwa [← List.mem_singleton.mp hb, ← hab]
    exact ⟨hboth.1, fun d hd => hboth.2 d.1 (List.mem_map_of_mem hd)⟩

/-- The variables of an environment, each with a value. -/
def environmentVariables (env : Environment) : Variables :=
  lowerNames (env.map (fun (n, v) => (n, some v)))

/-- The variables of the environment are found as it names them. -/
theorem lookup_environment (env : Environment) (name : String) :
    (environmentVariables env).lookup name = (env.named? name).map some := by
  rw [environmentVariables, lookup_lowerNames, Environment.named?, List.filter_map,
    List.getLast?_map, Option.map_map, Option.map_map]
  rfl

/-! ## Keys of a name -/

/-- Dropping a lead finds what stands behind it. -/
theorem dropLead?_eq_some_iff {lead s rest : List Char} :
    Text.dropLead? lead s = some rest ↔ s = lead ++ rest := by
  induction lead generalizing s with
  | nil => simp [Text.dropLead?]
  | cons c lead ih =>
    cases s with
    | nil => simp [Text.dropLead?]
    | cons d s =>
      rw [Text.dropLead?, List.cons_append, List.cons.injEq]
      split
      case isTrue h => simp [ih, h]
      case isFalse h => simp [Ne.symm h]

/-- A name has at least one key. -/
theorem nestedKeys_ne_nil (s : List Char) : nestedKeys s ≠ [] := by
  fun_cases nestedKeys s <;> simp [*]

/-- A name that does not come apart is its only key. -/
theorem eq_of_nestedKeys_eq_singleton {s w : List Char} (h : nestedKeys s = [w]) : s = w := by
  fun_induction nestedKeys s generalizing w with
  | case1 r ih =>
    rw [List.cons.injEq] at h
    exact absurd h.2 (nestedKeys_ne_nil r)
  | case2 c r _ hr ih => exact absurd hr (nestedKeys_ne_nil r)
  | case3 c r _ w' ws hr ih =>
    rw [List.cons.injEq] at h
    obtain ⟨rfl, rfl⟩ := h
    rw [ih hr]
  | case4 => simpa using h

/-- The characters of the keys are those of the name. -/
theorem mem_of_mem_nestedKeys {s w : List Char} {c : Char} (hw : w ∈ nestedKeys s) (hc : c ∈ w) :
    c ∈ s := by
  -- two underscores part the keys, any other letter joins the first of them
  fun_induction nestedKeys s generalizing w with
  | case1 r ih =>
    rcases List.mem_cons.mp hw with rfl | hw
    · cases hc
    · exact List.mem_cons_of_mem _ (List.mem_cons_of_mem _ (ih hw hc))
  | case2 d r _ hr ih => exact absurd hr (nestedKeys_ne_nil r)
  | case3 d r _ w' ws hr ih =>
    rw [hr] at ih
    rcases List.mem_cons.mp hw with rfl | hw
    · rcases List.mem_cons.mp hc with rfl | hc
      · exact List.mem_cons_self
      · exact List.mem_cons_of_mem _ (ih List.mem_cons_self hc)
    · exact List.mem_cons_of_mem _ (ih (List.mem_cons_of_mem _ hw) hc)
  | case4 =>
    obtain rfl := List.mem_singleton.mp hw
    cases hc

/-- A key that is no path: it does not come apart. -/
def IsSingle (key : String) : Prop := nestedKeys key.toList = [key.toList]

/-- The name of the variable for a single key of a part, in lower case. -/
def keyVariable (part key : String) : String := variableOf part ++ "__" ++ key

/-- The variable of a key, letter by letter. -/
theorem toList_keyVariable (part key : String) :
    (keyVariable part key).toList = ((variableOf part).toList ++ ['_', '_']) ++ key.toList := by
  rw [keyVariable, String.toList_append, String.toList_append]
  rfl

/-! ## Entries for single keys -/

/-- What a variable adds to the entries of a part. -/
def nest (part : String) (es : Entries) (e : String × Option String) : Entries :=
  match Text.dropLead? ((variableOf part).toList ++ ['_', '_']) e.1.toList with
  | some path => setNested (variableValue e.2) ((nestedKeys path).map String.ofList) es
  | none => es

theorem nestedEntries_eq_foldl (vars : Variables) (part : String) :
    nestedEntries vars part = vars.foldl (nest part) [] := rfl

/-- Behind a step a key is as it was, or it holds a mapping, and held nothing else before. -/
def Spared (key : String) (es es' : Entries) : Prop :=
  lookup? key es' = lookup? key es ∨
    (∀ w, lookup? key es = some w → ∃ fs, w = .mapping fs) ∧
      ∃ fs, lookup? key es' = some (.mapping fs)

/-- An entry at another key spares the key. -/
theorem spared_insertEntry (hk : s ≠ key) (w : Value) :
    Spared key es (insertEntry es (.str s) w) :=
  .inl (Value.lookup?_insertEntry_of_ne (fun h => hk (Option.some.inj h)))

/-- A path that is not the key itself spares the key. -/
theorem spared_setNested {v : Value} {path : List String} (h : path ≠ [key]) :
    Spared key es (setNested v path es) := by
  cases path with
  | nil => exact .inl rfl
  | cons k rest =>
    cases rest with
    | nil => exact spared_insertEntry (fun hk => h (by rw [hk])) v
    | cons k' rest =>
      rw [setNested]
      -- only a mapping that is there already is entered
      by_cases hk : k = key
      · subst hk
        cases hes : lookup? k es with
        | none => exact .inr ⟨by simp [hes], _, Value.lookup?_insertEntry_str⟩
        | some w =>
          cases w with
          | mapping inner =>
            exact .inr ⟨fun w hw => ⟨inner, by rw [hes] at hw; exact (Option.some.inj hw).symm⟩, _,
              Value.lookup?_insertEntry_str⟩
          | _ => exact .inl rfl
      · split
        · exact spared_insertEntry hk _
        · exact .inl rfl
        · exact spared_insertEntry hk _
      all_goals simp

/-- So does every variable but the one of the key. -/
theorem spared_nest (es : Entries) {e : String × Option String}
    (he : e.1 ≠ keyVariable part key) : Spared key es (nest part es e) := by
  rw [nest]
  split
  case h_1 path hpath =>
    refine spared_setNested (fun h => he ?_)
    obtain ⟨w, ws, hw, hwkey, hws⟩ := List.map_eq_cons_iff.mp h
    rw [List.map_eq_nil_iff] at hws
    subst hws
    have hpathw := eq_of_nestedKeys_eq_singleton hw
    rw [dropLead?_eq_some_iff] at hpath
    rw [← String.toList_inj, hpath, toList_keyVariable, hpathw, ← hwkey, String.toList_ofList]
  case h_2 => exact .inl rfl

/-- And that one leaves its value there. -/
theorem lookup?_nest (hkey : IsSingle key) (v : Option String) :
    lookup? key (nest part es (keyVariable part key, v)) = some (variableValue v) := by
  have hpath := dropLead?_eq_some_iff.mpr (toList_keyVariable part key)
  rw [IsSingle] at hkey
  simp only [nest, hpath, hkey, List.map_cons, List.map_nil, String.ofList_toList, setNested]
  exact Value.lookup?_insertEntry_str

/-- A run over other variables keeps a value that is no mapping. -/
theorem foldl_spared (hvars : ∀ e ∈ vars, e.1 ≠ keyVariable part key)
    {w : Value} (hw : lookup? key es = some w) (hno : ∀ fs, w ≠ .mapping fs) :
    lookup? key (vars.foldl (nest part) es) = some w := by
  induction vars generalizing es with
  | nil => exact hw
  | cons e vars ih =>
    rw [List.forall_mem_cons] at hvars
    refine ih hvars.2 ?_
    rcases spared_nest es hvars.1 with hsame | ⟨hmapping, -⟩
    · rw [hsame, hw]
    · obtain ⟨fs, hfs⟩ := hmapping w hw
      exact absurd hfs (hno fs)

/-- **The variable for a key is found under the key.** -/
theorem lookup?_nestedEntries_of_some (hkey : IsSingle key) (hlow : Lowered vars)
    (h : vars.lookup (keyVariable part key) = some v) :
    lookup? key (nestedEntries vars part) = some (variableValue v) := by
  obtain ⟨before, behind, rfl, -⟩ := List.lookup_eq_some_iff.mp h
  -- its name is there once, so what comes behind it spares the key
  have hnodup := hlow.nodup
  rw [List.map_append, List.map_cons, List.nodup_append, List.nodup_cons] at hnodup
  have hbehind : ∀ e ∈ behind, e.1 ≠ keyVariable part key := by
    rintro e he heq
    exact hnodup.2.1.1 (List.mem_map.mpr ⟨e, he, heq⟩)
  rw [nestedEntries_eq_foldl, List.foldl_append, List.foldl_cons]
  refine foldl_spared hbehind (lookup?_nest hkey v) ?_
  cases v <;> exact nofun

/-- Where it is missing, nothing but a mapping is found there. -/
theorem lookup?_nestedEntries_of_none
    (h : vars.lookup (keyVariable part key) = none) {w : Value}
    (hw : lookup? key (nestedEntries vars part) = some w) : ∃ fs, w = .mapping fs := by
  have hvars : ∀ e ∈ vars, e.1 ≠ keyVariable part key := by
    intro e he heq
    have := List.lookup_eq_none_iff.mp h e he
    simp [heq] at this
  -- kept along the fold: under the key there is nothing but a mapping
  have hall : ∀ (vars : Variables) (es : Entries), (∀ e ∈ vars, e.1 ≠ keyVariable part key) →
      (∀ w, lookup? key es = some w → ∃ fs, w = .mapping fs) →
      ∀ w, lookup? key (vars.foldl (nest part) es) = some w → ∃ fs, w = .mapping fs := by
    intro vars
    induction vars with
    | nil => exact fun es _ hes => hes
    | cons e vars ih =>
      intro es hvars hes
      rw [List.forall_mem_cons] at hvars
      refine ih _ hvars.2 (fun w hw => ?_)
      rcases spared_nest es hvars.1 with hsame | ⟨-, fs, hfs⟩
      · exact hes w (hsame ▸ hw)
      · exact ⟨fs, (Option.some.inj (hfs.symm.trans hw)).symm⟩
  exact hall vars [] hvars nofun w hw

/-! ## Spelling -/

/-- A key as the part spells it. -/
def spelled (part : String) (k : Value) : Value :=
  (((k.text?).bind (fun s =>
    (partKeys part).find? (fun key => Text.lower key == Text.lower s))).map Value.str).getD k

theorem spellKeys_mapping (part : String) (es : Entries) :
    spellKeys part (.mapping es)
      = .mapping (es.foldl (fun acc e => insertEntry acc (spelled part e.1) e.2) []) := rfl

/-- Respelling a key leaves it plain. -/
theorem plain_spelled {k : Value} (hk : k.Plain) : (spelled part k).Plain := by
  rw [spelled]
  cases (k.text?).bind (fun s =>
      (partKeys part).find? (fun key => Text.lower key == Text.lower s)) with
  | none => exact hk
  | some t => exact Value.plain_str t

/-- A section has distinct keys when they are spelled as the part spells them. -/
theorem keyed_spellKeys {v : Value} (h : ∀ es, v = .mapping es → ∀ e ∈ es, e.1.Plain) :
    Keyed (some (spellKeys part v)) := by
  intro es hes
  cases v with
  | mapping fs =>
    rw [spellKeys_mapping, Option.some.injEq] at hes
    cases hes
    exact Value.distinct_nil.foldl_insertEntry (fun e he => plain_spelled (h fs rfl e he))
  | _ => cases hes

/-- A part spells its keys in small letters, and none of them is a path. -/
theorem spelling_of_mem (hkey : key ∈ partKeys part) :
    Text.lower key = key ∧ IsSingle key ∧ ∀ c ∈ key.toList, IsNameLetter c := by
  have hkeys : Text.lower key = key ∧ nestedKeys key.toList = [key.toList] ∧
      key.toList.all (fun c => IsNameLetter c) = true := by
    unfold partKeys at hkey
    split at hkey
    · simp only [List.mem_cons, List.not_mem_nil, or_false] at hkey
      rcases hkey with rfl | rfl | rfl | rfl | rfl <;> decide +kernel
    · simp only [List.mem_cons, List.not_mem_nil, or_false] at hkey
      rcases hkey with rfl | rfl | rfl | rfl <;> decide +kernel
    · cases hkey
  obtain ⟨hlower, hsingle, hletters⟩ := hkeys
  exact ⟨hlower, hsingle, by simpa using hletters⟩

/-- Entries under pieces of names in lower case. -/
structure Pieced (es : Entries) : Prop where
  distinct : Distinct es
  small : ∀ e ∈ es, ∀ s, e.1 = .str s → ∀ c ∈ s.toList, NoCapital c

/-- Entries in small letters stay so under another of their kind. -/
theorem Pieced.insertEntry (h : Pieced es) (hs : ∀ c ∈ s.toList, NoCapital c) (w : Value) :
    Pieced (insertEntry es (.str s) w) := by
  refine ⟨h.distinct.insertEntry (Value.plain_str s) w, fun e he => ?_⟩
  have hnew : ∀ t, Value.str s = .str t → ∀ c ∈ t.toList, NoCapital c := by
    intro t ht
    cases ht
    exact hs
  exact (Value.forall_mem_insertEntry (Q := fun _ => True)
    (P := fun k => ∀ t, k = .str t → ∀ c ∈ t.toList, NoCapital c)
    (fun e he => ⟨h.small e he, trivial⟩) hnew trivial e he).1

/-- So they do under a whole path. -/
theorem Pieced.setNested (h : Pieced es) {v : Value} {path : List String}
    (hpath : ∀ k ∈ path, ∀ c ∈ k.toList, NoCapital c) : Pieced (setNested v path es) := by
  cases path with
  | nil => exact h
  | cons k rest =>
    have hk := hpath k List.mem_cons_self
    cases rest with
    | nil => exact h.insertEntry hk v
    | cons k' rest =>
      rw [Config.setNested]
      · split
        · exact h.insertEntry hk _
        · exact h
        · exact h.insertEntry hk _
      · simp

/-- And what lowered variables give is of that kind. -/
theorem pieced_nestedEntries (hlow : Lowered vars) (part : String) :
    Pieced (nestedEntries vars part) := by
  -- each variable is filed under its path, whose keys are pieces of its name
  have hall : ∀ (vars : Variables) (es : Entries), (∀ e ∈ vars, ∀ c ∈ e.1.toList, NoCapital c) →
      Pieced es → Pieced (vars.foldl (nest part) es) := by
    intro vars
    induction vars with
    | nil => exact fun es _ hes => hes
    | cons e vars ih =>
      intro es hvars hes
      rw [List.forall_mem_cons] at hvars
      refine ih _ hvars.2 ?_
      rw [nest]
      split
      case h_1 path hpath =>
        rw [dropLead?_eq_some_iff] at hpath
        refine hes.setNested (fun k hk c hc => hvars.1 c ?_)
        obtain ⟨w, hw, rfl⟩ := List.mem_map.mp hk
        rw [String.toList_ofList] at hc
        rw [hpath, List.mem_append]
        exact .inr (mem_of_mem_nestedKeys hw hc)
      case h_2 => exact hes
  rw [nestedEntries_eq_foldl]
  exact hall vars [] hlow.small ⟨Value.distinct_nil, nofun⟩

/-- Of the pieces of names in lower case only the key itself is spelled like it. -/
theorem text?_spelled_iff (hkey : key ∈ partKeys part) {k : Value} (hk : k.Plain)
    (hsmall : ∀ s, k = .str s → ∀ c ∈ s.toList, NoCapital c) :
    (spelled part k).text? = some key ↔ k.text? = some key := by
  obtain ⟨hlower, -, hletters⟩ := spelling_of_mem hkey
  cases hs : k.text? with
  | none => simp [spelled, hs]
  | some s =>
    obtain rfl := hk s hs
    rw [Option.some.injEq, spelled, hs, Option.bind_some]
    cases hfind : (partKeys part).find? (fun key => Text.lower key == Text.lower s) with
    | none =>
      rw [Option.map_none, Option.getD_none, hs, Option.some.injEq]
    | some t =>
      have hmem := List.mem_of_find?_eq_some hfind
      have hlike : Text.lower t = Text.lower s := by simpa using List.find?_some hfind
      rw [(spelling_of_mem hmem).1] at hlike
      -- the key is in small letters, and so is the piece; only capitals could tell them apart
      have hst : s = t := Text.eq_of_lower_eq (hsmall s rfl) (spelling_of_mem hmem).2.2 hlike.symm
      rw [Option.map_some, Option.getD_some, hst]
      exact Option.some_inj

/-- **Spelling keeps what is under the keys of the part.** -/
theorem lookup?_spelled (hkey : key ∈ partKeys part) (h : Pieced es) :
    lookup? key (es.foldl (fun acc e => insertEntry acc (spelled part e.1) e.2) [])
      = lookup? key es := by
  -- what is still to come counts before what has been inserted
  have hall : ∀ (es acc : Entries), Pieced es →
      lookup? key (es.foldl (fun acc e => insertEntry acc (spelled part e.1) e.2) acc)
        = (lookup? key es).or (lookup? key acc) := by
    intro es
    induction es with
    | nil => exact fun acc _ => rfl
    | cons e es ih =>
      intro acc hes
      obtain ⟨htail, hplain, hout⟩ := Value.distinct_cons_iff.mp hes.distinct
      have hspelled := text?_spelled_iff hkey hplain (hes.small e List.mem_cons_self)
      rw [List.foldl_cons, ih _ ⟨htail, fun e he => hes.small e (List.mem_cons_of_mem _ he)⟩,
        lookup?]
      by_cases hk : e.1.text? = some key
      · rw [hout key hk, if_pos hk, plain_spelled hplain key (hspelled.mpr hk),
          Value.lookup?_insertEntry_str]
        rfl
      · rw [if_neg hk, Value.lookup?_insertEntry_of_ne (fun h => hk (hspelled.mp h))]
  rw [hall es [] h]
  exact Option.or_none

/-! ## Parts -/

variable {source : String} {o : Option Value} {parts : List String}

/-- What variables give for a part has plain keys, which are distinct as the part spells
them. -/
theorem keyed_partFrom (hlow : Lowered vars) (h : partFrom source vars part = .ok o) :
    Keyed (o.map (spellKeys part)) := by
  have hnested := (pieced_nestedEntries hlow part).distinct
  have hkeyed : ∀ {v : Value}, (∀ es, v = .mapping es → Distinct es) →
      Keyed ((some v).map (spellKeys part)) := fun hv =>
    keyed_spellKeys (fun es hes => (hv es hes).plain)
  rw [partFrom] at h
  split at h
  · rw [pure_eq_ok_iff] at h
    subst h
    split
    · exact nofun
    · exact hkeyed (fun es hes => by cases hes; exact hnested)
  · split at h
    · cases h
    case h_2 text _ es hread =>
      cases h
      obtain ⟨v, hv, hsmooth⟩ := map_eq_ok_iff.mp hread
      -- a text for the whole part is read on its own and merged below the single variables
      have hbelow : Distinct es :=
        (sectioned_smooth (fun fs hfs => Json.sectioned_read (hfs ▸ hv)) hsmooth).distinct
      exact hkeyed (fun es hes => by cases hes; exact distinct_mergeEntries hnested.plain hbelow)
    · cases h
      exact nofun
    case h_4 v hno _ _ =>
      cases h
      exact hkeyed (fun es hes => absurd hes (hno es))

/-- Without a variable for the whole part the variables for its single keys make the part. -/
theorem inner?_partFrom (hlow : Lowered vars) (hkey : key ∈ partKeys part)
    (hown : (vars.lookup (variableOf part)).join = none)
    (h : partFrom source vars part = .ok o) :
    inner? key (o.map (spellKeys part)) = lookup? key (nestedEntries vars part) := by
  rw [partFrom, hown, pure_eq_ok_iff] at h
  subst h
  split
  case isTrue hempty =>
    rw [List.isEmpty_iff.mp hempty]
    rfl
  case isFalse => exact lookup?_spelled hkey (pieced_nestedEntries hlow part)

/-- **What variables give for some parts**: for each of them what they give for it alone, and
nothing else. -/
structure GivesParts (source : String) (vars : Variables) (parts : List String) (es : Entries) :
    Prop where
  distinct : Distinct es
  known : ∀ e ∈ es, ∃ part ∈ parts, e.1 = .str part
  lookup : ∀ part ∈ parts, ∃ o, partFrom source vars part = .ok o ∧
    lookup? part es = o.map (spellKeys part)

/-- What is read of the variables are the parts, each once. -/
theorem givesParts_partsFrom (hparts : parts.Nodup) (h : partsFrom source vars parts = .ok es) :
    GivesParts source vars parts es := by
  induction parts generalizing es with
  | nil =>
    cases h
    exact ⟨Value.distinct_nil, nofun, nofun⟩
  | cons part parts ih =>
    rw [List.nodup_cons] at hparts
    rw [partsFrom, bind_eq_ok_iff] at h
    obtain ⟨o, ho, h⟩ := h
    rw [bind_eq_ok_iff] at h
    obtain ⟨fs, hfs, h⟩ := h
    obtain ⟨hdistinct, hknown, hlookup⟩ := ih hparts.2 hfs
    -- the other parts have nothing under this one
    have hnone : lookup? part fs = none := by
      rw [Value.lookup?_eq_none_iff, Value.textKeys, List.mem_filterMap]
      rintro ⟨e, he, hpart⟩
      obtain ⟨p, hp, heq⟩ := hknown e he
      rw [heq] at hpart
      exact hparts.1 (Option.some.inj hpart ▸ hp)
    have hne : ∀ p ∈ parts, part ≠ p := fun p hp heq => hparts.1 (heq ▸ hp)
    rw [pure_eq_ok_iff] at h
    cases o with
    | none =>
      subst h
      refine ⟨hdistinct, fun e he => ?_, List.forall_mem_cons.mpr ⟨⟨none, ho, hnone⟩, hlookup⟩⟩
      obtain ⟨p, hp, heq⟩ := hknown e he
      exact ⟨p, List.mem_cons_of_mem _ hp, heq⟩
    | some v =>
      subst h
      refine ⟨Value.distinct_cons_iff.mpr ⟨hdistinct, Value.plain_str part, ?_⟩,
        List.forall_mem_cons.mpr ⟨⟨part, List.mem_cons_self, rfl⟩, fun e he => ?_⟩,
        List.forall_mem_cons.mpr ⟨⟨some v, ho, ?_⟩, fun p hp => ?_⟩⟩
      · rintro s ⟨⟩
        exact hnone
      · obtain ⟨p, hp, heq⟩ := hknown e he
        exact ⟨p, List.mem_cons_of_mem _ hp, heq⟩
      · simp [lookup?, Value.text?]
      · obtain ⟨o, ho, hlook⟩ := hlookup p hp
        refine ⟨o, ho, ?_⟩
        simp [lookup?, Value.text?, hne p hp, hlook]

end Cadence.Config

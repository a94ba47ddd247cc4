/-
Entries of mappings, and one mapping over another.

The keys of a mapping that is read from a file or from the environment are texts, or no
texts at all (`Plain`); the other values that count as a text, the named months and days, do
not occur. Among such keys a text key is written once (`Distinct`), and every way of making
a mapping keeps it so.

Merging entries over others puts, under every key, the upper value over the lower one
(`lookup?_mergeEntries`), and a value over another is the upper one, unless both are
mappings (`layer`). A key inside a section is found in the same way one step further down
(`inner?_overlay`).
-/
import Cadence.Config.Source
import Mathlib.Data.List.Nodup

set_option autoImplicit false

namespace Cadence

/-! ## Keys -/

/-- Nothing but the text itself equals a text. -/
theorem Scalar.eqv_str_iff {a : Scalar} {s : String} : a.eqv (.str s) = true ↔ a = .str s := by
  cases a with
  | str t => simp [Scalar.eqv]
  | _ => simp [Scalar.eqv, Scalar.numeral?]

namespace Value

variable {k k' v w : Value} {s : String} {es : List (Value × Value)} {e : Value × Value}

/-- A key that counts as a text is a text. -/
def Plain (k : Value) : Prop := ∀ s, k.text? = some s → k = .str s

theorem plain_str (s : String) : (Value.str s).Plain := by
  intro t ht
  cases ht
  rfl

/-- Equal keys count as the same text. -/
theorem text?_of_eqv (h : k'.eqv k = true) : k'.text? = k.text? := by
  cases k' with
  | atom a =>
    cases k with
    | atom b =>
      cases b with
      | str t =>
        rw [eqv, Scalar.eqv_str_iff] at h
        rw [h]
      | _ =>
        -- a number or a truth value equals only its like, which are no texts either
        cases a with
        | str t => simp [eqv, Scalar.eqv, Scalar.numeral?] at h
        | _ => rfl
    | symbol t =>
      cases a with
      | str u => simpa [eqv, text?] using h
      | _ => simp [eqv] at h
    | _ => cases a <;> simp [eqv] at h
  | symbol t =>
    cases k with
    | atom b =>
      cases b with
      | str u => simpa [eqv, text?] using h
      | _ => simp [eqv] at h
    | symbol u =>
      rw [eqv, beq_iff_eq] at h
      rw [h]
    | _ => simp [eqv] at h
  | torn _ | list _ | tuple _ | mapping _ | pattern _ | date _ _ =>
    cases k <;> first | rfl | simp [eqv] at h

/-- So it is for a key. -/
theorem eqv_str_iff : k.eqv (.str s) = true ↔ k.text? = some s := by
  refine ⟨text?_of_eqv, fun h => ?_⟩
  cases k with
  | atom a =>
    cases a with
    | str t =>
      rw [text?, Option.some.injEq] at h
      rw [eqv, Scalar.eqv_str_iff, h]
    | _ => cases h
  | symbol t => simpa [eqv, text?] using h
  | _ => cases h

/-! ## Inserting -/

/-- An entry at another key is not seen. -/
theorem lookup?_insertEntry_of_ne (h : k.text? ≠ some s) :
    lookup? s (insertEntry es k v) = lookup? s es := by
  induction es with
  | nil => simp only [insertEntry, lookup?, if_neg h]
  | cons e es ih =>
    obtain ⟨k', w⟩ := e
    rw [insertEntry]
    split
    case isTrue heq =>
      have hk' : k'.text? ≠ some s := text?_of_eqv heq ▸ h
      rw [lookup?, if_neg hk', lookup?, if_neg hk']
    case isFalse => rw [lookup?, ih, lookup?]

/-- An entry at the key itself is what is found. -/
theorem lookup?_insertEntry_str : lookup? s (insertEntry es (.str s) v) = some v := by
  induction es with
  | nil => simp [insertEntry, lookup?, text?]
  | cons e es ih =>
    obtain ⟨k', w⟩ := e
    rw [insertEntry]
    split
    case isTrue heq => rw [lookup?, if_pos (eqv_str_iff.mp heq)]
    case isFalse hne => rw [lookup?, if_neg (fun h => hne (eqv_str_iff.mpr h)), ih]

/-- Inserting writes the value under a key that is there, or puts a new entry behind. -/
theorem insertEntry_cases (es : List (Value × Value)) (k v : Value) :
    (∃ e ∈ es, e.1.eqv k = true) ∧ (insertEntry es k v).map (·.1) = es.map (·.1) ∨
      (∀ e ∈ es, e.1.eqv k = false) ∧ insertEntry es k v = es ++ [(k, v)] := by
  induction es with
  | nil => exact .inr ⟨nofun, rfl⟩
  | cons e es ih =>
    obtain ⟨k', w⟩ := e
    rw [insertEntry]
    split
    case isTrue heq => exact .inl ⟨⟨_, List.mem_cons_self, heq⟩, rfl⟩
    case isFalse hne =>
      refine ih.imp (fun ⟨⟨e, he, heq⟩, h⟩ => ?_) (fun ⟨hall, h⟩ => ?_)
      · exact ⟨⟨e, List.mem_cons_of_mem _ he, heq⟩, by rw [List.map_cons, h, List.map_cons]⟩
      · exact ⟨List.forall_mem_cons.mpr ⟨by simpa using hne, hall⟩, by rw [h, List.cons_append]⟩

/-- The texts that the keys count as are those from before, and that of the new key. -/
theorem forall_text?_insertEntry_iff {P : Option String → Prop} :
    (∀ e ∈ insertEntry es k v, P e.1.text?) ↔ (∀ e ∈ es, P e.1.text?) ∧ P k.text? := by
  rcases insertEntry_cases es k v with ⟨⟨d, hd, heq⟩, hsame⟩ | ⟨-, hbehind⟩
  · have hkeys : ∀ fs : List (Value × Value), (∀ e ∈ fs, P e.1.text?) ↔
        ∀ k ∈ fs.map (·.1), P k.text? := fun fs => by rw [List.forall_mem_map]
    rw [hkeys, hsame, ← hkeys]
    exact ⟨fun h => ⟨h, text?_of_eqv heq ▸ h d hd⟩, fun h => h.1⟩
  · rw [hbehind, List.forall_mem_append, List.forall_mem_singleton]

/-- What holds of the keys and of the values before, and of the new ones, holds behind. -/
theorem forall_mem_insertEntry {P Q : Value → Prop} (h : ∀ e ∈ es, P e.1 ∧ Q e.2) (hk : P k)
    (hv : Q v) : ∀ e ∈ insertEntry es k v, P e.1 ∧ Q e.2 := by
  induction es with
  | nil => simpa [insertEntry] using ⟨hk, hv⟩
  | cons e es ih =>
    rw [List.forall_mem_cons] at h
    rw [insertEntry]
    split
    · exact List.forall_mem_cons.mpr ⟨⟨h.1.1, hv⟩, h.2⟩
    · exact List.forall_mem_cons.mpr ⟨h.1, ih h.2⟩

/-- Nothing is found at a text that is no key. -/
theorem lookup?_eq_none_iff : lookup? s es = none ↔ s ∉ textKeys es := by
  induction es with
  | nil => simp [lookup?, textKeys]
  | cons e es ih =>
    rw [lookup?, textKeys, List.mem_filterMap]
    rw [textKeys, List.mem_filterMap] at ih
    by_cases h : e.1.text? = some s
    · simp [h]
    · rw [if_neg h, ih]
      simp [h]

/-! ## Distinct keys -/

/-- The keys are plain, and no text is the key of two entries. -/
structure Distinct (es : List (Value × Value)) : Prop where
  plain : ∀ e ∈ es, e.1.Plain
  nodup : (textKeys es).Nodup

theorem distinct_nil : Distinct [] := ⟨nofun, List.nodup_nil⟩

/-- Distinct keys, entry by entry. -/
theorem distinct_cons_iff : Distinct (e :: es) ↔
    Distinct es ∧ e.1.Plain ∧ ∀ s, e.1.text? = some s → lookup? s es = none := by
  have hkeys : (textKeys (e :: es)).Nodup ↔
      (textKeys es).Nodup ∧ ∀ s, e.1.text? = some s → lookup? s es = none := by
    -- a first key that is no text adds nothing to the keys
    rw [textKeys, textKeys]
    cases ht : e.1.text? with
    | none => simp [ht]
    | some s =>
      rw [List.filterMap_cons_some (f := fun e : Value × Value => e.1.text?) ht, List.nodup_cons,
        and_comm]
      simp only [Option.some.injEq, forall_eq', lookup?_eq_none_iff, textKeys]
  constructor
  · rintro ⟨hplain, hnodup⟩
    rw [List.forall_mem_cons] at hplain
    exact ⟨⟨hplain.2, (hkeys.mp hnodup).1⟩, hplain.1, (hkeys.mp hnodup).2⟩
  · rintro ⟨⟨hplain, hnodup⟩, hk, hout⟩
    exact ⟨List.forall_mem_cons.mpr ⟨hk, hplain⟩, hkeys.mpr ⟨hnodup, hout⟩⟩

/-- The keys that are texts, as a projection of the entries. -/
theorem textKeys_eq (es : List (Value × Value)) :
    textKeys es = (es.map (·.1)).filterMap text? := by
  rw [List.filterMap_map]
  rfl

/-- **Inserting writes no text key a second time.** -/
theorem Distinct.insertEntry (h : Distinct es) (hk : k.Plain) (v : Value) :
    Distinct (Value.insertEntry es k v) := by
  -- either an entry is written over, with its key left in place, or a new one is added at the end
  rcases insertEntry_cases es k v with ⟨-, hsame⟩ | ⟨hnew, hbehind⟩
  · refine ⟨fun e he => ?_, ?_⟩
    · obtain ⟨d, hd, hde⟩ := List.mem_map.mp (hsame ▸ List.mem_map_of_mem he)
      exact hde ▸ h.plain d hd
    · rw [textKeys_eq, hsame, ← textKeys_eq]
      exact h.nodup
  · rw [hbehind]
    refine ⟨?_, ?_⟩
    · rw [List.forall_mem_append, List.forall_mem_singleton]
      exact ⟨h.plain, hk⟩
    · rw [textKeys, List.filterMap_append, ← textKeys]
      cases ht : k.text? with
      | none => simpa [ht] using h.nodup
      | some s =>
        -- the new key is a text, and an equal one among the old would have been written over
        obtain rfl := hk s ht
        have hout : s ∉ textKeys es := by
          rw [textKeys, List.mem_filterMap]
          rintro ⟨e, he, hes⟩
          have heq := hnew e he
          rw [eqv_str_iff.mpr hes] at heq
          cases heq
        have hone : [(Value.str s, v)].filterMap (·.1.text?) = [s] := rfl
        rw [hone, List.nodup_append]
        refine ⟨h.nodup, List.nodup_singleton s, fun a ha b hb hab => hout ?_⟩
        rwa [← List.mem_singleton.mp hb, ← hab]

/-- So does inserting entry after entry, each under a plain key. -/
theorem Distinct.foldl_insertEntry {α : Type} {key : α → Value} {value : α → Value} {as : List α}
    (h : Distinct es) (hkey : ∀ a ∈ as, (key a).Plain) :
    Distinct (as.foldl (fun acc a => Value.insertEntry acc (key a) (value a)) es) := by
  induction as generalizing es with
  | nil => exact h
  | cons a as ih =>
    rw [List.forall_mem_cons] at hkey
    exact ih (h.insertEntry hkey.1 _) hkey.2

end Value

namespace Config

open Value (Distinct Plain lookup? insertEntry)

variable {us ls : Entries} {s key : String} {u l : Option Value}

/-! ## One over another -/

/-- Looking a key up by its value and by its text are one. -/
theorem lookupKey?_str (s : String) (es : Entries) : lookupKey? (.str s) es = lookup? s es := by
  induction es with
  | nil => rfl
  | cons e es ih => simp only [lookupKey?, lookup?, Value.eqv_str_iff, ih]

/-- What may be missing over what may be missing. -/
def overlay : Option Value → Option Value → Option Value
  | some v, lower => some (layer v lower)
  | none, lower => lower

theorem layer_none (v : Value) : layer v none = v := by
  cases v <;> rfl

theorem overlay_none (u : Option Value) : overlay u none = u := by
  cases u with
  | none => rfl
  | some v => rw [overlay, layer_none]

/-- **Merging puts value over value, key by key.** -/
theorem lookup?_mergeEntries (hu : Distinct us) (ls : Entries) :
    lookup? s (mergeEntries us ls) = overlay (lookup? s us) (lookup? s ls) := by
  induction us generalizing ls with
  | nil => rfl
  | cons e us ih =>
    obtain ⟨k, v⟩ := e
    obtain ⟨htail, hplain, hout⟩ := Value.distinct_cons_iff.mp hu
    rw [mergeEntries, ih htail, lookup?]
    by_cases hk : k.text? = some s
    · -- the key is not in the rest, so nothing comes over it again
      obtain rfl := hplain s hk
      have hnone := hout s hk
      rw [hnone, if_pos hk, overlay, Value.lookup?_insertEntry_str, overlay, lookupKey?_str]
    · rw [if_neg hk, Value.lookup?_insertEntry_of_ne hk]

/-- A key that the upper entries do not have is as it was. -/
theorem lookup?_mergeEntries_of_forall_ne (hu : ∀ e ∈ us, e.1.text? ≠ some s) (ls : Entries) :
    lookup? s (mergeEntries us ls) = lookup? s ls := by
  induction us generalizing ls with
  | nil => rfl
  | cons e us ih =>
    rw [List.forall_mem_cons] at hu
    rw [mergeEntries, ih hu.2, Value.lookup?_insertEntry_of_ne hu.1]

/-- Merging puts no key twice. -/
theorem distinct_mergeEntries (hu : ∀ e ∈ us, e.1.Plain) (hl : Distinct ls) :
    Distinct (mergeEntries us ls) := by
  induction us generalizing ls with
  | nil => exact hl
  | cons e us ih =>
    rw [List.forall_mem_cons] at hu
    exact ih hu.2 (hl.insertEntry hu.1 _)

/-- What holds of all keys of a merge holds of all keys of both parts, and conversely. -/
theorem forall_text?_mergeEntries_iff {P : Option String → Prop} :
    (∀ e ∈ mergeEntries us ls, P e.1.text?) ↔
      (∀ e ∈ us, P e.1.text?) ∧ ∀ e ∈ ls, P e.1.text? := by
  induction us generalizing ls with
  | nil => simp [mergeEntries]
  | cons e us ih =>
    rw [mergeEntries, ih, Value.forall_text?_insertEntry_iff, List.forall_mem_cons]
    constructor
    · rintro ⟨hus, hls, he⟩
      exact ⟨⟨he, hus⟩, hls⟩
    · rintro ⟨⟨he, hus⟩, hls⟩
      exact ⟨hus, hls, he⟩

/-! ## Sections -/

/-- A section, if there is one, has distinct keys. -/
def Keyed (o : Option Value) : Prop := ∀ es, o = some (.mapping es) → Distinct es

/-- What a section has under a key. -/
def inner? (key : String) : Option Value → Option Value
  | some (.mapping es) => lookup? key es
  | _ => none

/-- So two values with distinct keys have a merge of that kind. -/
theorem keyed_overlay (hu : Keyed u) (hl : Keyed l) : Keyed (overlay u l) := by
  cases u with
  | none => exact hl
  | some v =>
    intro es hes
    cases v with
    | mapping us =>
      cases l with
      | none => exact hu es hes
      | some w =>
        cases w with
        | mapping ls =>
          cases hes
          -- two mappings are merged; else the upper value stands
          exact distinct_mergeEntries (hu us rfl).plain (hl ls rfl)
        | _ => exact hu es hes
    | _ => cases hes

/-- **A key inside a section over another is the key of the one over that of the other.** -/
theorem inner?_overlay (hu : Keyed u) (hsection : ∀ v, u = some v → ∃ es, v = .mapping es) :
    inner? key (overlay u l) = overlay (inner? key u) (inner? key l) := by
  cases u with
  | none => rfl
  | some v =>
    obtain ⟨us, rfl⟩ := hsection v rfl
    cases l with
    | none => exact (overlay_none _).symm
    | some w =>
      cases w with
      | mapping ls => exact lookup?_mergeEntries (hu us rfl) ls
      | _ => exact (overlay_none _).symm

end Config

end Cadence

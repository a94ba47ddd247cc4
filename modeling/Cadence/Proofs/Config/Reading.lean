/-
The keys of mappings that are read.

Whatever is read from JSON or YAML, the entries of a mapping come about by inserting one
after the other, under keys that are texts or no texts at all. So a mapping that is read has
distinct keys, and so has each mapping in it (`Sectioned`). Expanding references leaves the
keys alone.

What is read may have texts with half of a surrogate pair in them, also for keys. Where such
halves give way to U+FFFD two keys may become equal, and the later one wins; the mapping is
made anew there, so that it is sectioned again (`sectioned_smooth`).

Both readers are recursive, and the induction follows their recursion: on the fuel for JSON,
on the tree for YAML, where the entries that other mappings merge into one are looked at
together with its own.
-/
import Cadence.Config.Load
import Cadence.Proofs.Config.Entries
import Cadence.Proofs.Sequencing

set_option autoImplicit false

namespace Cadence

open Cadence.Value (Distinct Plain mappingOf insertEntry)
open Cadence.Config (Keyed)

/-- The keys are distinct, and so are those of each mapping among the values. -/
structure Sectioned (es : List (Value × Value)) : Prop where
  distinct : Distinct es
  keyed : ∀ e ∈ es, Keyed (some e.2)

variable {es acc : List (Value × Value)} {v : Value}

/-- A mapping made of entries with plain keys and keyed values. -/
theorem sectioned_mappingOf (h : ∀ e ∈ es, e.1.Plain ∧ Keyed (some e.2))
    (hv : mappingOf es = .mapping acc) : Sectioned acc := by
  cases hv
  refine ⟨Value.distinct_nil.foldl_insertEntry (fun e he => (h e he).1), ?_⟩
  -- the entries come one after another, each on what is there
  have hall : ∀ (es acc : List (Value × Value)), (∀ e ∈ es, e.1.Plain ∧ Keyed (some e.2)) →
      (∀ e ∈ acc, e.1.Plain ∧ Keyed (some e.2)) →
      ∀ e ∈ es.foldl (fun acc e => insertEntry acc e.1 e.2) acc, e.1.Plain ∧ Keyed (some e.2) := by
    intro es
    induction es with
    | nil => exact fun acc _ hacc => hacc
    | cons e es ih =>
      intro acc hes hacc
      rw [List.forall_mem_cons] at hes
      exact ih _ hes.2 (Value.forall_mem_insertEntry (P := Plain)
        (Q := fun v => Keyed (some v)) hacc hes.1.1 hes.1.2)
  exact fun e he => (hall es [] h nofun e he).2

/-! ## Without halves -/

/-- Smoothing goes through the entries one by one. -/
theorem smoothEntries_eq_map (es : List (Value × Value)) :
    Value.smoothEntries es = es.map (fun e => (e.1.smooth, e.2.smooth)) := by
  induction es with
  | nil => rfl
  | cons e es ih =>
    obtain ⟨k, v⟩ := e
    rw [Value.smoothEntries, ih, List.map_cons]

/-- A plain key stays plain. -/
theorem plain_smooth {k : Value} (h : k.Plain) : k.smooth.Plain := by
  cases k with
  | torn t => exact Value.plain_str _
  | atom a => exact h
  | symbol s => exact h
  | _ => exact nofun

/-- What is a mapping without its halves is a mapping with them. -/
theorem eq_mapping_of_smooth (h : v.smooth = .mapping es) :
    ∃ fs, v = .mapping fs ∧ mappingOf (Value.smoothEntries fs) = .mapping es := by
  cases v with
  | mapping fs => exact ⟨fs, rfl, h⟩
  | _ => cases h

/-- And distinct keys stay distinct, as no half stands in a plain key. -/
theorem keyed_smooth (h : Keyed (some v)) : Keyed (some v.smooth) := by
  intro es hes
  obtain ⟨fs, rfl, hfs⟩ := eq_mapping_of_smooth (Option.some.inj hes)
  cases hfs
  refine Value.distinct_nil.foldl_insertEntry (fun e he => ?_)
  rw [smoothEntries_eq_map, List.mem_map] at he
  obtain ⟨d, hd, rfl⟩ := he
  exact plain_smooth ((h fs rfl).plain d hd)

/-- A sectioned mapping is so without its halves, although keys may become equal. -/
theorem sectioned_smooth (h : ∀ fs, v = .mapping fs → Sectioned fs)
    (hv : v.smooth = .mapping es) : Sectioned es := by
  obtain ⟨fs, rfl, hfs⟩ := eq_mapping_of_smooth hv
  have hsectioned := h fs rfl
  refine sectioned_mappingOf (fun e he => ?_) hfs
  rw [smoothEntries_eq_map, List.mem_map] at he
  obtain ⟨d, hd, rfl⟩ := he
  exact ⟨plain_smooth (hsectioned.distinct.plain d hd), keyed_smooth (hsectioned.keyed d hd)⟩

/-! ## Leaves -/

/-- What has no parts, and is no named month or day. -/
def IsLeaf (v : Value) : Prop := v.Plain ∧ ∀ es, v ≠ .mapping es

/-- A leaf has no keys to be the same. -/
theorem IsLeaf.keyed (h : IsLeaf v) : Keyed (some v) := fun es hes =>
  absurd (Option.some.inj hes) (h.2 es)

theorem isLeaf_atom (a : Scalar) : IsLeaf (.atom a) := by
  refine ⟨fun s hs => ?_, nofun⟩
  cases a with
  | str t => exact Value.plain_str t s hs
  | _ => cases hs

theorem isLeaf_torn (t : Text.Torn) : IsLeaf (.torn t) := ⟨nofun, nofun⟩

theorem isLeaf_date (written : String) (timed : Bool) : IsLeaf (.date written timed) :=
  ⟨nofun, nofun⟩

/-- A text is a leaf, whole or torn. -/
theorem isLeaf_ofPoints (s : List Text.CodePoint) : IsLeaf (.ofPoints s) := by
  unfold Value.ofPoints
  split
  · exact isLeaf_atom _
  · exact isLeaf_torn _

/-! ## JSON -/

namespace Json

/-- What is read is sectioned, with `fuel` for its parts. -/
structure ReadsSectioned (fuel : Nat) : Prop where
  value : ∀ s v r, readValue fuel s = .ok (v, r) → ∀ es, v = .mapping es → Sectioned es
  entries : ∀ acc s v r, (∀ e ∈ acc, e.1.Plain ∧ Keyed (some e.2)) →
    readEntries fuel acc s = .ok (v, r) → ∃ es, v = .mapping es ∧ Sectioned es

/-- Items are read as a list. -/
theorem readItems_list {fuel : Nat} {acc : List Value} {s r : List Char}
    (h : readItems fuel acc s = .ok (v, r)) : ∃ xs, v = .list xs := by
  induction fuel generalizing acc s with
  | zero => cases h
  | succ fuel ih =>
    rw [readItems, bind_eq_ok_iff] at h
    obtain ⟨⟨w, s'⟩, -, h⟩ := h
    simp only at h
    split at h
    · exact ih h
    · cases h
      exact ⟨_, rfl⟩
    · cases h

/-- A string is a leaf, also one with a half in it. -/
theorem isLeaf_of_readString {fuel : Nat} {acc : List Text.CodePoint} {s r : List Char}
    (h : readString fuel acc s = .ok (v, r)) : IsLeaf v := by
  -- on the fuel, with what was read so far free: the value is made only at the closing quote
  induction fuel generalizing acc s with
  | zero => cases h
  | succ fuel ih =>
    cases s with
    | nil => cases h
    | cons c s =>
      unfold readString at h
      split at h
      · cases h
        exact isLeaf_ofPoints _
      split at h
      · split at h
        · cases h
        · split at h
          · exact ih h
          · cases h
        · split at h
          · exact ih h
          · cases h
      split at h
      · cases h
      · exact ih h

/-- A word and a number are no mappings. -/
theorem readWord?_scalar {s r : List Char} (h : readWord? s = some (v, r)) :
    ∀ es, v ≠ .mapping es := by
  obtain ⟨⟨w, u⟩, hmem, hw⟩ := List.exists_of_findSome?_eq_some h
  simp only [Option.map_eq_some_iff, Prod.mk.injEq] at hw
  obtain ⟨_, -, rfl, -⟩ := hw
  simp only [wordValues, List.mem_cons, Prod.mk.injEq, List.not_mem_nil, or_false] at hmem
  rcases hmem with ⟨-, rfl⟩ | ⟨-, rfl⟩ | ⟨-, rfl⟩ | ⟨-, rfl⟩ | ⟨-, rfl⟩ | ⟨-, rfl⟩ <;> exact nofun

/-- A number is no mapping. -/
theorem readNumber_scalar {s r : List Char} (h : readNumber s = .ok (v, r)) :
    ∀ es, v ≠ .mapping es := by
  unfold readNumber at h
  simp only at h
  split_ifs at h <;> cases h <;> exact nofun

/-- A value read with one more unit of fuel: the only mapping is made of entries. -/
theorem ReadsSectioned.value_succ {fuel : Nat} {s r : List Char} (ih : ReadsSectioned fuel)
    (h : readValue (fuel + 1) s = .ok (.mapping es, r)) : Sectioned es := by
  unfold readValue at h
  split at h
  · exact absurd rfl ((isLeaf_of_readString h).2 es)
  · split at h
    · cases h
    · obtain ⟨xs, hxs⟩ := readItems_list h
      cases hxs
  · split at h
    · cases h
      exact ⟨Value.distinct_nil, nofun⟩
    · obtain ⟨fs, hfs, hsectioned⟩ := ih.entries [] _ _ _ nofun h
      cases hfs
      exact hsectioned
  · split at h
    case h_1 hword =>
      cases h
      exact absurd rfl (readWord?_scalar hword es)
    case h_2 => exact absurd rfl (readNumber_scalar h es)

/-- Entries read with one more unit of fuel: the next one is a text and a value, and neither
spoils what was read before. -/
theorem ReadsSectioned.entries_succ {fuel : Nat} {acc : List (Value × Value)} {s r : List Char}
    (ih : ReadsSectioned fuel) (hacc : ∀ e ∈ acc, e.1.Plain ∧ Keyed (some e.2))
    (h : readEntries (fuel + 1) acc s = .ok (v, r)) : ∃ es, v = .mapping es ∧ Sectioned es := by
  unfold readEntries at h
  split at h
  · rw [bind_eq_ok_iff] at h
    obtain ⟨⟨k, s'⟩, hk, h⟩ := h
    simp only at h
    split at h
    · rw [bind_eq_ok_iff] at h
      obtain ⟨⟨w, s''⟩, hw, h⟩ := h
      have hentry : k.Plain ∧ Keyed (some w) :=
        ⟨(isLeaf_of_readString hk).1, fun es hes =>
          (ih.value _ _ _ hw es (Option.some.inj hes)).distinct⟩
      have hall : ∀ e ∈ (k, w) :: acc, e.1.Plain ∧ Keyed (some e.2) :=
        List.forall_mem_cons.mpr ⟨hentry, hacc⟩
      simp only at h
      split at h
      · exact ih.entries _ _ _ _ hall h
      · -- the closing brace: the entries were gathered from behind
        cases h
        exact ⟨_, rfl, sectioned_mappingOf (fun e he => hall e (List.mem_reverse.mp he)) rfl⟩
      · cases h
    · cases h
  · cases h

/-- All that is read from JSON is sectioned. -/
theorem readsSectioned (fuel : Nat) : ReadsSectioned fuel := by
  -- on the fuel, for values and for entries at once, as they call each other
  induction fuel with
  | zero =>
    refine ⟨fun s v r h => ?_, fun acc s v r _ h => ?_⟩
    · cases h
    · cases h
  | succ fuel ih =>
    refine ⟨fun s v r h es hv => ?_, fun acc s v r hacc h => ih.entries_succ hacc h⟩
    subst hv
    exact ih.value_succ h

/-- **A mapping read from JSON is sectioned.** -/
theorem sectioned_read {text : String} (h : read text = .ok (.mapping es)) : Sectioned es := by
  simp only [read, bind_eq_ok_iff] at h
  obtain ⟨⟨v, rest⟩, hv, h⟩ := h
  split at h
  · cases h
    exact (readsSectioned _).value _ _ _ hv es rfl
  · cases h

end Json

/-! ## YAML -/

namespace Yaml

/-- A scalar without quotes is a leaf, whatever it stands for. -/
theorem isLeaf_plainValue {s : List Char} {x : Except Fault Value} (h : plainValue s = some x)
    (hx : x = .ok v) : IsLeaf v := by
  subst hx
  unfold plainValue at h
  simp only at h
  split at h
  · cases h
    exact isLeaf_atom _
  split at h
  · cases h
    exact isLeaf_atom _
  split at h
  · cases h
    exact isLeaf_atom _
  split at h
  · rw [Option.some.injEq, map_eq_ok_iff] at h
    obtain ⟨n, -, rfl⟩ := h
    exact isLeaf_atom _
  split at h
  · rw [Option.some.injEq] at h
    simp only [Stamp.value, bind_eq_ok_iff, pure_eq_ok_iff] at h
    obtain ⟨_, -, _, -, rfl⟩ := h
    exact isLeaf_date _ _
  split at h
  · cases h
  · cases h
    exact isLeaf_atom _

/-- So is one of a named type. -/
theorem isLeaf_typedValue {type text : String} (h : typedValue type text = .ok v) : IsLeaf v := by
  unfold typedValue at h
  simp only at h
  split at h
  · cases h
    exact isLeaf_atom _
  · cases h
    exact isLeaf_atom _
  · split at h <;> cases h
    exact isLeaf_atom _
  · split_ifs at h
    rw [map_eq_ok_iff] at h
    obtain ⟨n, -, rfl⟩ := h
    exact isLeaf_atom _
  · split at h
    · cases h
      exact isLeaf_atom _
    · split_ifs at h
      cases h
      exact isLeaf_atom _
  · cases h

/-- So is one without halves. -/
theorem isLeaf_wholeValue {tag : Option (List Char)} {s : List Char} {plain : Bool}
    (h : wholeValue tag s plain = .ok v) : IsLeaf v := by
  unfold wholeValue at h
  split_ifs at h
  · cases hp : plainValue s with
    | none =>
      rw [hp] at h
      cases h
    | some x =>
      rw [hp] at h
      exact isLeaf_plainValue hp h
  · cases h
    exact isLeaf_atom _
  · split at h
    · exact isLeaf_typedValue h
    · cases h

/-- And so is one with them. -/
theorem isLeaf_tornValue {tag : Option (List Char)} {t : Text.Torn}
    (h : tornValue tag t = .ok v) : IsLeaf v := by
  unfold tornValue at h
  split at h
  · cases h
    exact isLeaf_torn _
  · split at h
    · cases h
      exact isLeaf_torn _
    · exact isLeaf_typedValue h
    · cases h

/-- Thus every scalar is a leaf. -/
theorem isLeaf_scalarValue {tag : Option (List Char)} {text : List Text.CodePoint} {plain : Bool}
    (h : scalarValue tag text plain = .ok v) : IsLeaf v := by
  unfold scalarValue at h
  split at h
  · exact isLeaf_wholeValue h
  · exact isLeaf_tornValue h

/-- What can be a key is plain: a list and a mapping cannot. -/
theorem plain_of_key {n : Node} {key : Value} (h : n.value = .ok key)
    (hkey : key.unhashable?.isSome = false) : key.Plain := by
  -- only a scalar can be a key: sequences and mappings have no hash
  cases n with
  | scalar tag text plain =>
    rw [Node.value] at h
    exact (isLeaf_scalarValue h).1
  | sequence tag items =>
    rw [Node.value] at h
    split_ifs at h
    rw [bind_eq_ok_iff] at h
    obtain ⟨vs, -, h⟩ := h
    cases h
    cases hkey
  | mapping tag entries =>
    rw [Node.value] at h
    split_ifs at h
    rw [bind_eq_ok_iff] at h
    obtain ⟨_, -, h⟩ := h
    cases h
    cases hkey

mutual

theorem sectioned_value : (n : Node) → {es : List (Value × Value)} →
    n.value = .ok (.mapping es) → Sectioned es
  | .scalar tag text plain, es, h => by
    rw [Node.value] at h
    exact absurd rfl ((isLeaf_scalarValue h).2 es)
  | .sequence tag items, es, h => by
    rw [Node.value] at h
    split_ifs at h
    rw [bind_eq_ok_iff] at h
    obtain ⟨vs, -, h⟩ := h
    cases h
  | .mapping tag entries, es, h => by
    rw [Node.value] at h
    split_ifs at h
    rw [bind_eq_ok_iff] at h
    obtain ⟨⟨merged, own⟩, hpairs, h⟩ := h
    exact sectioned_mappingOf (sound_pairs entries hpairs) (Except.ok.inj h)

theorem sound_pairs : (ns : List (Node × Node)) → {merged own : List (Value × Value)} →
    Node.pairs ns = .ok (merged, own) → ∀ e ∈ merged ++ own, e.1.Plain ∧ Keyed (some e.2)
  | [], merged, own, h => by
    cases h
    exact nofun
  | (k, v) :: ns, merged, own, h => by
    rw [Node.pairs] at h
    split at h
    · rw [bind_eq_ok_iff] at h
      obtain ⟨first, hfirst, h⟩ := h
      rw [bind_eq_ok_iff] at h
      obtain ⟨⟨more, rest⟩, hrest, h⟩ := h
      cases h
      rw [List.append_assoc, List.forall_mem_append]
      -- a merged mapping comes before the rest
      exact ⟨sound_merging v hfirst, sound_pairs ns hrest⟩
    -- whatever the key is, the entry joins the own ones of this mapping
    · have hown : ∀ {key : Value}, key.Plain →
          (do
            let value ← v.value
            let (merged, own) ← Node.pairs ns
            pure (merged, (key, value) :: own)) = .ok (merged, own) →
          ∀ e ∈ merged ++ own, e.1.Plain ∧ Keyed (some e.2) := by
        intro key hkey h
        rw [bind_eq_ok_iff] at h
        obtain ⟨value, hvalue, h⟩ := h
        rw [bind_eq_ok_iff] at h
        obtain ⟨⟨more, rest⟩, hrest, h⟩ := h
        cases h
        have hkeyed : Keyed (some value) := fun es hes =>
          (sectioned_value v (Option.some.inj hes ▸ hvalue)).distinct
        have hall := sound_pairs ns hrest
        rw [List.forall_mem_append] at hall
        rw [List.forall_mem_append, List.forall_mem_cons]
        exact ⟨hall.1, ⟨hkey, hkeyed⟩, hall.2⟩
      split at h
      · exact hown (Value.plain_str _) h
      · rw [bind_eq_ok_iff] at h
        obtain ⟨key, hkey, h⟩ := h
        simp only at h
        split at h
        · cases h
        case isFalse hhash =>
          exact hown (plain_of_key hkey (by simpa using hhash)) h

theorem sound_merging : (n : Node) → {es : List (Value × Value)} →
    Node.merging n = .ok es → ∀ e ∈ es, e.1.Plain ∧ Keyed (some e.2)
  | .scalar _ _ _, es, h => by cases h
  | .sequence _ items, es, h => by
    rw [Node.merging] at h
    exact sound_mergingAll items h
  | .mapping _ entries, es, h => by
    rw [Node.merging, bind_eq_ok_iff] at h
    obtain ⟨⟨merged, own⟩, hpairs, h⟩ := h
    cases h
    exact sound_pairs entries hpairs

theorem sound_mergingAll : (ns : List Node) → {es : List (Value × Value)} →
    Node.mergingAll ns = .ok es → ∀ e ∈ es, e.1.Plain ∧ Keyed (some e.2)
  | [], es, h => by
    cases h
    exact nofun
  | .mapping _ entries :: ns, es, h => by
    rw [Node.mergingAll, bind_eq_ok_iff] at h
    obtain ⟨⟨merged, own⟩, hpairs, h⟩ := h
    rw [bind_eq_ok_iff] at h
    obtain ⟨rest, hrest, h⟩ := h
    cases h
    rw [List.forall_mem_append]
    exact ⟨sound_mergingAll ns hrest, sound_pairs entries hpairs⟩
  | .scalar _ _ _ :: _, es, h => by cases h
  | .sequence _ _ :: _, es, h => by cases h

end

/-- **A mapping read from YAML is sectioned.** -/
theorem sectioned_read {text : String} (h : read text = .ok (.mapping es)) : Sectioned es := by
  rw [read] at h
  split at h
  · cases h
  · cases h
  · exact sectioned_value _ h

end Yaml

/-! ## Files -/

namespace Config

variable {env : Lookup} {fs : List (Value × Value)}

/-- **A mapping read from a file is sectioned.** -/
theorem sectioned_read {format : Format} {text : String}
    (h : format.read text = .ok (.mapping es)) : Sectioned es := by
  cases format with
  | yaml =>
    rw [Format.read, bind_eq_ok_iff] at h
    obtain ⟨v, hv, h⟩ := h
    rw [pure_eq_ok_iff] at h
    split at h
    · cases h
      exact ⟨Value.distinct_nil, nofun⟩
    · exact Yaml.sectioned_read (h ▸ hv)
  | json =>
    rw [Format.read] at h
    split at h
    case h_1 hv =>
      cases h
      exact Json.sectioned_read hv
    case h_2 => cases h
    case h_3 => cases h

/-- Expanding leaves the keys alone. -/
theorem map_key_of_expandEntries (h : expandEntries env es = .ok fs) :
    fs.map (·.1) = es.map (·.1) := by
  induction es generalizing fs with
  | nil =>
    cases h
    rfl
  | cons e es ih =>
    obtain ⟨k, v⟩ := e
    simp only [expandEntries, bind_eq_ok_iff, pure_eq_ok_iff] at h
    obtain ⟨w, -, gs, hgs, rfl⟩ := h
    rw [List.map_cons, ih hgs, List.map_cons]

/-- What expands to a mapping is a mapping. -/
theorem expand_eq_mapping (h : expand env v = .ok (.mapping fs)) :
    ∃ es, v = .mapping es ∧ expandEntries env es = .ok fs := by
  -- a text expands to a text
  have htext : ∀ s, expand env v = (do pure (.ofPoints (← expandText env s))) → False := by
    intro s hs
    rw [hs, bind_eq_ok_iff] at h
    obtain ⟨t, -, ht⟩ := h
    exact (isLeaf_ofPoints t).2 fs (pure_eq_ok_iff.mp ht)
  cases v with
  | atom a =>
    cases a with
    | str s => exact (htext _ rfl).elim
    | _ => cases h
  | torn t => exact (htext _ rfl).elim
  | list xs =>
    rw [expand, bind_eq_ok_iff] at h
    obtain ⟨ys, -, h⟩ := h
    cases h
  | mapping es =>
    rw [expand, bind_eq_ok_iff] at h
    obtain ⟨gs, hgs, h⟩ := h
    cases h
    exact ⟨es, rfl, hgs⟩
  | _ => cases h

/-- The keys are not expanded, so distinct ones stay so. -/
theorem distinct_of_expandEntries (h : Distinct es) (hfs : expandEntries env es = .ok fs) :
    Distinct fs := by
  have hkeys := map_key_of_expandEntries hfs
  refine ⟨fun e he => ?_, ?_⟩
  · obtain ⟨d, hd, hde⟩ := List.mem_map.mp (hkeys ▸ List.mem_map_of_mem he)
    exact hde ▸ h.plain d hd
  · rw [Value.textKeys_eq, hkeys, ← Value.textKeys_eq]
    exact h.nodup

/-- Expanding leaves a mapping sectioned. -/
theorem sectioned_of_expandEntries (h : Sectioned es) (hfs : expandEntries env es = .ok fs) :
    Sectioned fs := by
  refine ⟨distinct_of_expandEntries h.distinct hfs, ?_⟩
  have hkeyed := h.keyed
  clear h
  induction es generalizing fs with
  | nil =>
    cases hfs
    exact nofun
  | cons e es ih =>
    obtain ⟨k, v⟩ := e
    rw [List.forall_mem_cons] at hkeyed
    simp only [expandEntries, bind_eq_ok_iff, pure_eq_ok_iff] at hfs
    obtain ⟨w, hw, gs, hgs, rfl⟩ := hfs
    rw [List.forall_mem_cons]
    refine ⟨fun inner hinner => ?_, ih hgs hkeyed.2⟩
    obtain rfl := Option.some.inj hinner
    -- only a mapping expands to a mapping
    obtain ⟨below, rfl, hbelow⟩ := expand_eq_mapping hw
    exact distinct_of_expandEntries (hkeyed.1 below rfl) hbelow

end Config

end Cadence

/-
What expanding a configuration makes of it.

A reference to a variable is a dollar sign with a name behind it: a run of name characters as
long as it goes, or anything up to the next closing brace, in braces (`Refers`). One pass over
a text puts the value of a variable in place of each reference that has one, and keeps all
else (`Replaces`). The pass goes on behind what it has put in, in the text as it was, so a
value may hold dollar signs and braces without meaning anything by them. The pass fails at a
name in braces that has no bytes; which names those are has nothing to do with the
environment (`Legible`).

The relations look for a reference at every place of the text, and the reader takes a text
apart from the left. They agree because a reference is told by its own code points: behind a
dollar sign there is at most one, and none of what it is written with can be longer or
shorter (`segments_of_refers`, `segments_of_not_starts`). `pass_induction` is what follows
for proofs: what holds of the empty text and goes through a reference and through a code
point that starts none, holds of every text.

Values are compared place by place (`Alike`). An expanded value has the kinds, the keys, the
lengths and the leaves of the value it was made from, except that each text is what one pass
makes of it; so no two environments lead to values of different shape.
-/
import Cadence.Config.Environment
import Cadence.Proofs.Sequencing
import Cadence.Proofs.Text.Cutting

set_option autoImplicit false

namespace Cadence

open Cadence.Text (CodePoint points)

namespace Config

variable {env : Lookup} {name written rest s t : List CodePoint} {p : CodePoint}

/-! ## Names as bytes -/

/-- Each code point of a name has bytes. -/
def HasBytes (name : List CodePoint) : Prop := ∀ p ∈ name, isStray p = false

/-- A name that has bytes is looked up by them. -/
theorem nameBytes_of_hasBytes (h : HasBytes name) :
    nameBytes name = .ok (name.flatMap bytesOf) := by
  have hnone : name.dropWhile (fun p => !isStray p) = [] := by
    rw [List.dropWhile_eq_nil_iff]
    intro p hp
    rw [h p hp]
    rfl
  rw [nameBytes, hnone]

/-- A name without bytes is refused, by a fault of a class of its own. -/
theorem nameBytes_of_not_hasBytes (h : ¬HasBytes name) :
    ∃ e, nameBytes name = .error e ∧ e.className = "UnicodeEncodeError" := by
  rw [nameBytes]
  split
  case h_1 hnone =>
    rw [List.dropWhile_eq_nil_iff] at hnone
    exact absurd (fun p hp => by simpa using hnone p hp) h
  case h_2 => exact ⟨_, rfl, rfl⟩

/-! ## References -/

/-- A reference to a variable: its name, what it is written with, and what stands behind it. -/
inductive Refers : List CodePoint → List CodePoint → List CodePoint → Prop
  /-- a run of name characters that does not go on -/
  | bare {name rest : List CodePoint} (hne : name ≠ []) (hname : ∀ p ∈ name, isNameChar p = true)
      (hend : ∀ p ∈ rest.head?, isNameChar p = false) : Refers name (.char '$' :: name) rest
  /-- anything without a closing brace, in braces -/
  | braced {name rest : List CodePoint} (hname : .char '\x7d' ∉ name) :
      Refers name (.char '$' :: .char '\x7b' :: (name ++ [.char '\x7d'])) rest

/-- A reference begins where the text does. -/
def StartsReference (s : List CodePoint) : Prop :=
  ∃ name written rest, Refers name written rest ∧ s = written ++ rest

/-- A reference is written from its dollar sign on. -/
theorem Refers.exists_eq_cons (h : Refers name written rest) :
    ∃ w, written = .char '$' :: w := by
  cases h with
  | bare => exact ⟨_, rfl⟩
  | braced => exact ⟨_, rfl⟩

/-- What stands behind a dollar sign is read as the reference it is. -/
theorem reference?_of_refers (h : Refers name (.char '$' :: written) rest) :
    reference? (written ++ rest) = some (name, written.length) := by
  cases h with
  | bare hne hname hend =>
    have hrun : (name ++ rest).takeWhile isNameChar = name := by
      rw [List.takeWhile_append_of_pos hname]
      cases rest with
      | nil => simp
      | cons p rest => simp [hend p rfl]
    -- a brace is no name character, so the run is not taken for a name in braces
    have hbrace : ∀ r, name ++ rest ≠ .char '\x7b' :: r := by
      intro r hr
      obtain ⟨p, w, rfl⟩ := List.exists_cons_of_ne_nil hne
      obtain ⟨rfl, -⟩ := List.cons.inj hr
      exact absurd (hname _ List.mem_cons_self) (by decide)
    rw [reference?]
    · simp only [hrun, List.isEmpty_iff, hne, if_false]
    · exact hbrace
  | braced hname =>
    have hcut : Text.cutAt (.char '\x7d') (name ++ .char '\x7d' :: rest) = (name, some rest) :=
      Text.cutAt_eq_some_iff.mpr ⟨rfl, hname⟩
    rw [List.cons_append, List.append_assoc, List.singleton_append, reference?, hcut,
      List.length_cons, List.length_append, List.length_singleton]

/-- What is read behind a dollar sign is a reference. -/
theorem refers_of_reference? {n : Nat} (h : reference? s = some (name, n)) :
    Refers name (.char '$' :: s.take n) (s.drop n) := by
  rw [reference?.eq_def] at h
  split at h
  case h_1 r =>
    split at h
    case h_1 inside rest hcut =>
      obtain ⟨rfl, rfl⟩ := Prod.mk.inj (Option.some.inj h)
      obtain ⟨rfl, hname⟩ := Text.cutAt_eq_some_iff.mp hcut
      have hwritten : .char '\x7b' :: (inside ++ .char '\x7d' :: rest)
          = .char '\x7b' :: (inside ++ [.char '\x7d']) ++ rest := by simp
      have hlength : inside.length + 2
          = (CodePoint.char '\x7b' :: (inside ++ [.char '\x7d'])).length := by simp
      rw [hwritten, hlength, List.take_left, List.drop_left]
      exact .braced hname
    case h_2 => cases h
  case h_2 =>
    simp only at h
    split at h
    · cases h
    case isFalse hne =>
      obtain ⟨rfl, rfl⟩ := Prod.mk.inj (Option.some.inj h)
      -- the run of name characters is as long as it goes
      have hall : ∀ p ∈ s.takeWhile isNameChar, isNameChar p = true :=
        fun p hp => List.mem_takeWhile_imp hp
      have hend : ∀ p ∈ (s.dropWhile isNameChar).head?, isNameChar p = false := by
        intro p hp
        have hstop := List.head?_dropWhile_not isNameChar s
        rwa [Option.mem_def.mp hp] at hstop
      have hsplit := List.takeWhile_append_dropWhile (p := isNameChar) (l := s)
      generalize s.takeWhile isNameChar = w, s.dropWhile isNameChar = r at *
      subst hsplit
      rw [List.take_left, List.drop_left]
      exact .bare (by simpa using hne) hall hend

/-! ## Taking a text apart -/

theorem segments_of_refers (h : Refers name written rest) :
    segments (written ++ rest) = .reference name written :: segments rest := by
  obtain ⟨w, rfl⟩ := h.exists_eq_cons
  rw [List.cons_append, segments, if_pos rfl, reference?_of_refers h]
  simp only [List.take_left, List.drop_left]

theorem segments_of_not_starts (h : ¬StartsReference (p :: s)) :
    segments (p :: s) = .point p :: segments s := by
  rw [segments]
  split
  case isTrue hp =>
    subst hp
    split
    case h_1 name n href =>
      refine absurd ⟨name, _, _, refers_of_reference? href, ?_⟩ h
      rw [List.cons_append, List.take_append_drop]
    case h_2 => rfl
  case isFalse => rfl

/-- A pass over a text as an induction: it goes on behind a reference, and behind a code point
that starts none. -/
theorem pass_induction {P : List CodePoint → Prop} (done : P [])
    (reference : ∀ {name written rest}, Refers name written rest → P rest → P (written ++ rest))
    (point : ∀ {p s}, ¬StartsReference (p :: s) → P s → P (p :: s)) (s : List CodePoint) : P s := by
  -- on the length: behind a reference the pass goes on at its rest, not at the next point
  induction hn : s.length using Nat.strongRecOn generalizing s with
  | ind n ih =>
    cases s with
    | nil => exact done
    | cons p s =>
      by_cases hstarts : StartsReference (p :: s)
      · obtain ⟨name, written, rest, href, hs⟩ := hstarts
        obtain ⟨w, rfl⟩ := href.exists_eq_cons
        have hshort : rest.length < n := by
          rw [← hn, hs, List.length_append, List.length_cons]
          omega
        rw [hs]
        exact reference href (ih _ hshort rest rfl)
      · exact point hstarts (ih s.length (by rw [← hn, List.length_cons]; omega) s rfl)

/-! ## One pass -/

theorem expandText_nil : expandText env [] = .ok [] := by
  rw [expandText, segments]
  rfl

/-- A reference is replaced by its value, or stays as it is written; then the rest follows. -/
theorem expandText_of_refers (h : Refers name written rest) :
    expandText env (written ++ rest) = (do
      let bytes ← nameBytes name
      let t ← expandText env rest
      pure ((env bytes).getD written ++ t)) := by
  simp only [expandText, segments_of_refers h, List.mapM_cons, Segment.expand, bind_assoc,
    pure_bind, List.flatten_cons]

/-- A point that starts no reference stays. -/
theorem expandText_of_not_starts (h : ¬StartsReference (p :: s)) :
    expandText env (p :: s) = (do
      let t ← expandText env s
      pure (p :: t)) := by
  rw [expandText, segments_of_not_starts h, List.mapM_cons, Segment.expand]
  simp only [expandText, bind_assoc, pure_bind, List.flatten_cons]
  rfl

/-- One pass over a text from the left: a reference with a value gives way to the value, one
without stays as it is written, and so does all else. -/
inductive Replaces (env : Lookup) : List CodePoint → List CodePoint → Prop
  | done : Replaces env [] []
  | value {name written rest value t : List CodePoint} (href : Refers name written rest)
      (hname : HasBytes name) (hvalue : env (name.flatMap bytesOf) = some value)
      (h : Replaces env rest t) : Replaces env (written ++ rest) (value ++ t)
  | unset {name written rest t : List CodePoint} (href : Refers name written rest)
      (hname : HasBytes name) (hnone : env (name.flatMap bytesOf) = none)
      (h : Replaces env rest t) : Replaces env (written ++ rest) (written ++ t)
  | point {p : CodePoint} {s t : List CodePoint} (hp : ¬StartsReference (p :: s))
      (h : Replaces env s t) : Replaces env (p :: s) (p :: t)

/-- A pass over a text meets no name without bytes. -/
inductive Legible : List CodePoint → Prop
  | done : Legible []
  | reference {name written rest : List CodePoint} (href : Refers name written rest)
      (hname : HasBytes name) (h : Legible rest) : Legible (written ++ rest)
  | point {p : CodePoint} {s : List CodePoint} (hp : ¬StartsReference (p :: s))
      (h : Legible s) : Legible (p :: s)

/-- A pass has the result that the relation gives it. -/
theorem expandText_of_replaces (h : Replaces env s t) : expandText env s = .ok t := by
  induction h with
  | done => exact expandText_nil
  | value href hname hvalue _ ih =>
    rw [expandText_of_refers href, nameBytes_of_hasBytes hname, ih]
    simp only [bind, Except.bind, hvalue, Option.getD_some]
    rfl
  | unset href hname hnone _ ih =>
    rw [expandText_of_refers href, nameBytes_of_hasBytes hname, ih]
    simp only [bind, Except.bind, hnone, Option.getD_none]
    rfl
  | point hp _ ih =>
    rw [expandText_of_not_starts hp, ih]
    rfl

/-- A legible text has a pass, in every environment. -/
theorem Legible.exists_replaces (h : Legible s) (env : Lookup) : ∃ t, Replaces env s t := by
  induction h with
  | done => exact ⟨[], .done⟩
  | @reference name written rest href hname _ ih =>
    obtain ⟨t, ht⟩ := ih
    cases hvalue : env (name.flatMap bytesOf) with
    | some value => exact ⟨value ++ t, .value href hname hvalue ht⟩
    | none => exact ⟨written ++ t, .unset href hname hvalue ht⟩
  | point hp _ ih =>
    obtain ⟨t, ht⟩ := ih
    exact ⟨_, .point hp ht⟩

/-- A pass over a text is refused when the text is not legible. -/
theorem expandText_of_not_legible (h : ¬Legible s) :
    ∃ e, (∀ env, expandText env s = .error e) ∧ e.className = "UnicodeEncodeError" := by
  induction s using pass_induction with
  | done => exact absurd .done h
  | @reference name written rest href ih =>
    by_cases hname : HasBytes name
    · obtain ⟨e, he, hclass⟩ := ih (fun hrest => h (.reference href hname hrest))
      refine ⟨e, fun env => ?_, hclass⟩
      rw [expandText_of_refers href, nameBytes_of_hasBytes hname, he env]
      rfl
    · -- the first name without bytes is the one that is reported
      obtain ⟨e, he, hclass⟩ := nameBytes_of_not_hasBytes hname
      refine ⟨e, fun env => ?_, hclass⟩
      rw [expandText_of_refers href, he]
      rfl
  | point hp ih =>
    obtain ⟨e, he, hclass⟩ := ih (fun hs => h (.point hp hs))
    refine ⟨e, fun env => ?_, hclass⟩
    rw [expandText_of_not_starts hp, he env]
    rfl

/-- **Taking apart and putting in is one pass**, and no text has two. -/
theorem replaces_iff : Replaces env s t ↔ expandText env s = .ok t := by
  refine ⟨expandText_of_replaces, fun h => ?_⟩
  have hlegible : Legible s := by
    by_contra hnot
    obtain ⟨e, he, -⟩ := expandText_of_not_legible hnot
    rw [he env] at h
    cases h
  obtain ⟨u, hu⟩ := hlegible.exists_replaces env
  rw [expandText_of_replaces hu] at h
  exact Except.ok.inj h ▸ hu

end Config

/-! ## Values place by place -/

namespace Value

variable {R R' : List CodePoint → List CodePoint → Prop} {v w w' : Value} {s : List CodePoint}

/-- A text is read back as its points. -/
@[simp] theorem points?_ofPoints (s : List CodePoint) : (ofPoints s).points? = some s := by
  unfold ofPoints
  split
  case h_1 cs h =>
    rw [points?, String.toList_ofList, ← Text.chars?_eq_some_iff.mp h]
  case h_2 => rfl

/-- A text is told by its code points. -/
theorem points?_eq_some_iff : v.points? = some s ↔ v = ofPoints s := by
  refine ⟨fun h => ?_, fun h => h ▸ points?_ofPoints s⟩
  unfold points? at h
  split at h
  case h_1 u =>
    obtain rfl := Option.some.inj h
    unfold ofPoints
    split
    case h_1 cs hcs =>
      rw [Text.chars?_points] at hcs
      rw [← Option.some.inj hcs, String.ofList_toList]
    case h_2 hcs =>
      rw [Text.chars?_points] at hcs
      cases hcs
  -- torn points are kept as they are, since some half of them makes no text
  case h_2 u =>
    obtain rfl := Option.some.inj h
    unfold ofPoints
    split
    case h_1 cs hcs =>
      rw [u.torn] at hcs
      cases hcs
    case h_2 => rfl
  case h_3 => cases h

mutual

/-- Two values of one shape whose texts are in a relation, place by place: the kinds are the
same, the keys and their order, the lengths, and every leaf that is no text. -/
inductive Alike (R : List CodePoint → List CodePoint → Prop) : Value → Value → Prop
  | text {v w : Value} {s t : List CodePoint} (hv : v.points? = some s) (hw : w.points? = some t)
      (h : R s t) : Alike R v w
  | atom {a : Scalar} (h : ∀ s, a ≠ .str s) : Alike R (.atom a) (.atom a)
  | list {xs ys : List Value} (h : AllAlike R xs ys) : Alike R (.list xs) (.list ys)
  | mapping {es fs : List (Value × Value)} (h : EntriesAlike R es fs) :
      Alike R (.mapping es) (.mapping fs)
  | tuple (xs : List Value) : Alike R (.tuple xs) (.tuple xs)
  | symbol (s : Symbol) : Alike R (.symbol s) (.symbol s)
  | pattern (p : FieldPattern) : Alike R (.pattern p) (.pattern p)
  | date (written : String) (timed : Bool) : Alike R (.date written timed) (.date written timed)

/-- Two lists of one length, alike item by item. -/
inductive AllAlike (R : List CodePoint → List CodePoint → Prop) : List Value → List Value → Prop
  | nil : AllAlike R [] []
  | cons {x y : Value} {xs ys : List Value} (h : Alike R x y) (hs : AllAlike R xs ys) :
      AllAlike R (x :: xs) (y :: ys)

/-- The entries of two mappings, with the same keys in the same order. -/
inductive EntriesAlike (R : List CodePoint → List CodePoint → Prop) :
    List (Value × Value) → List (Value × Value) → Prop
  | nil : EntriesAlike R [] []
  | cons {k v w : Value} {es fs : List (Value × Value)} (h : Alike R v w)
      (hs : EntriesAlike R es fs) : EntriesAlike R ((k, v) :: es) ((k, w) :: fs)

end

/-- Two values of one shape. -/
def SameShape : Value → Value → Prop := Alike (fun _ _ => True)

mutual

/-- What two values of one shape with a third have in common, they have with each other. -/
theorem Alike.sameShape : {v w w' : Value} → Alike R v w → Alike R' v w' → SameShape w w'
  | _, _, _, .text _ hw _, .text _ hw' _ => .text hw hw' trivial
  | .atom (.str _), _, _, .text _ _ _, .atom h => absurd rfl (h _)
  | .atom (.str _), _, _, .atom h, .text _ _ _ => absurd rfl (h _)
  | _, _, _, .atom h, .atom _ => .atom h
  | _, _, _, .list h, .list h' => .list (h.sameShape h')
  | _, _, _, .mapping h, .mapping h' => .mapping (h.sameShape h')
  | _, _, _, .tuple xs, .tuple _ => .tuple xs
  | _, _, _, .symbol s, .symbol _ => .symbol s
  | _, _, _, .pattern p, .pattern _ => .pattern p
  | _, _, _, .date w t, .date _ _ => .date w t

/-- Two lists that are alike to a third are so to each other. -/
theorem AllAlike.sameShape : {xs ys zs : List Value} → AllAlike R xs ys → AllAlike R' xs zs →
    AllAlike (fun _ _ => True) ys zs
  | _, _, _, .nil, .nil => .nil
  | _, _, _, .cons h hs, .cons h' hs' => .cons (h.sameShape h') (hs.sameShape hs')

/-- So are two mappings. -/
theorem EntriesAlike.sameShape : {es fs gs : List (Value × Value)} → EntriesAlike R es fs →
    EntriesAlike R' es gs → EntriesAlike (fun _ _ => True) fs gs
  | _, _, _, .nil, .nil => .nil
  | _, _, _, .cons h hs, .cons h' hs' => .cons (h.sameShape h') (hs.sameShape hs')

end

/-- A text that stands somewhere in a value and is no key. -/
inductive TextIn (s : List CodePoint) : Value → Prop
  | here {v : Value} (h : v.points? = some s) : TextIn s v
  | item {x : Value} {xs : List Value} (hx : x ∈ xs) (h : TextIn s x) : TextIn s (.list xs)
  | entry {k v : Value} {es : List (Value × Value)} (he : (k, v) ∈ es) (h : TextIn s v) :
      TextIn s (.mapping es)

end Value

namespace Config

open Value (Alike AllAlike EntriesAlike SameShape TextIn)

variable {env : Lookup} {s : List CodePoint}

/-- A text expands to a text. -/
theorem expand_ofPoints :
    expand env (.ofPoints s) = (do pure (.ofPoints (← expandText env s))) := by
  unfold Value.ofPoints
  split
  case h_1 cs h =>
    rw [expand, String.toList_ofList, ← Text.chars?_eq_some_iff.mp h]
    rfl
  case h_2 => rfl

/-- A text is alike to what one pass makes of it. -/
theorem alike_text_iff {v w : Value} (hv : v.points? = some s) :
    Alike (Replaces env) v w ↔ expand env v = .ok w := by
  have hexpand : expand env v = (do pure (.ofPoints (← expandText env s))) := by
    rw [Value.points?_eq_some_iff.mp hv, expand_ofPoints]
  rw [hexpand, bind_eq_ok_iff]
  constructor
  · intro h
    -- a text is replaced as a text and not copied as an atom
    cases h with
    | text hs hw h =>
      obtain rfl := Option.some.inj (hv.symm.trans hs)
      exact ⟨_, replaces_iff.mp h, pure_eq_ok_iff.mpr (Value.points?_eq_some_iff.mp hw).symm⟩
    | @atom a h =>
      cases a with
      | str u => exact absurd rfl (h u)
      | _ => cases hv
    | _ => cases hv
  · rintro ⟨t, ht, hw⟩
    obtain rfl := pure_eq_ok_iff.mp hw
    exact .text hv (Value.points?_ofPoints t) (replaces_iff.mpr ht)

mutual

/-- What a value expands to is alike to it, and no other value is. -/
theorem alike_iff : (v w : Value) → Alike (Replaces env) v w ↔ expand env v = .ok w
  | .atom a, w => by
    cases a with
    | str s => exact alike_text_iff rfl
    | _ =>
      constructor
      · rintro (⟨hv, -, -⟩ | _)
        · cases hv
        · rfl
      · intro h
        cases h
        exact .atom nofun
  | .torn _, _ => alike_text_iff rfl
  | .list xs, w => by
    rw [expand, bind_eq_ok_iff]
    constructor
    · rintro (⟨hv, -, -⟩ | _ | h)
      · cases hv
      · exact ⟨_, (allAlike_iff xs _).mp h, rfl⟩
    · rintro ⟨ys, hys, hw⟩
      obtain rfl := pure_eq_ok_iff.mp hw
      exact .list ((allAlike_iff xs _).mpr hys)
  | .mapping es, w => by
    rw [expand, bind_eq_ok_iff]
    constructor
    · rintro (⟨hv, -, -⟩ | _ | _ | h)
      · cases hv
      · exact ⟨_, (entriesAlike_iff es _).mp h, rfl⟩
    · rintro ⟨fs, hfs, hw⟩
      obtain rfl := pure_eq_ok_iff.mp hw
      exact .mapping ((entriesAlike_iff es _).mpr hfs)
  | .tuple xs, w => ⟨by rintro (⟨⟨⟩, -, -⟩ | _); rfl, by rintro ⟨⟩; exact .tuple xs⟩
  | .symbol s, w => ⟨by rintro (⟨⟨⟩, -, -⟩ | _); rfl, by rintro ⟨⟩; exact .symbol s⟩
  | .pattern p, w => ⟨by rintro (⟨⟨⟩, -, -⟩ | _); rfl, by rintro ⟨⟩; exact .pattern p⟩
  | .date s t, w => ⟨by rintro (⟨⟨⟩, -, -⟩ | _); rfl, by rintro ⟨⟩; exact .date s t⟩

/-- Expanding a list replaces its members one by one. -/
theorem allAlike_iff : (xs ys : List Value) →
    AllAlike (Replaces env) xs ys ↔ expandAll env xs = .ok ys
  | [], ys => ⟨by rintro ⟨⟩; rfl, by rintro ⟨⟩; exact .nil⟩
  | x :: xs, ys => by
    simp only [expandAll, bind_eq_ok_iff, pure_eq_ok_iff]
    constructor
    · rintro (_ | ⟨h, hs⟩)
      exact ⟨_, (alike_iff x _).mp h, _, (allAlike_iff xs _).mp hs, rfl⟩
    · rintro ⟨y, hy, ys, hys, rfl⟩
      exact .cons ((alike_iff x _).mpr hy) ((allAlike_iff xs _).mpr hys)

/-- Expanding a mapping replaces its values and leaves its keys. -/
theorem entriesAlike_iff : (es fs : List (Value × Value)) →
    EntriesAlike (Replaces env) es fs ↔ expandEntries env es = .ok fs
  | [], fs => ⟨by rintro ⟨⟩; rfl, by rintro ⟨⟩; exact .nil⟩
  | (k, v) :: es, fs => by
    simp only [expandEntries, bind_eq_ok_iff, pure_eq_ok_iff]
    constructor
    · rintro (_ | ⟨h, hs⟩)
      exact ⟨_, (alike_iff v _).mp h, _, (entriesAlike_iff es _).mp hs, rfl⟩
    · rintro ⟨w, hw, fs, hfs, rfl⟩
      exact .cons ((alike_iff v _).mpr hw) ((entriesAlike_iff es _).mpr hfs)

end

/-! ## Values that cannot be expanded -/

/-- Whether a step succeeds does not hang on the environment: in each it has a result when
`P` holds, and otherwise it has one fault in all of them. -/
structure Foretold {α : Type} (P : Prop) (f : Lookup → Except Fault α) : Prop where
  exists_ok : P → ∀ env, ∃ a, f env = .ok a
  exists_error : ¬P → ∃ e, (∀ env, f env = .error e) ∧ e.className = "UnicodeEncodeError"

section

variable {α β γ : Type} {P Q : Prop} {f : Lookup → Except Fault α} {g : Lookup → Except Fault β}

/-- The condition may be put in other words. -/
theorem Foretold.of_iff (h : Foretold P f) (hPQ : Q ↔ P) : Foretold Q f :=
  ⟨fun hQ => h.exists_ok (hPQ.mp hQ), fun hQ => h.exists_error (mt hPQ.mpr hQ)⟩

/-- What is made of the outcome does not bear on whether there is one. -/
theorem Foretold.map (h : Foretold P f) (k : α → β) :
    Foretold P (fun env => do pure (k (← f env))) := by
  refine ⟨fun hP env => ?_, fun hP => ?_⟩
  · obtain ⟨a, ha⟩ := h.exists_ok hP env
    exact ⟨k a, by rw [ha]; rfl⟩
  · obtain ⟨e, he, hclass⟩ := h.exists_error hP
    exact ⟨e, fun env => by rw [he env]; rfl, hclass⟩

/-- Of two steps the first that fails gives the fault. -/
theorem Foretold.and (hf : Foretold P f) (hg : Foretold Q g) (k : α → β → γ) :
    Foretold (P ∧ Q) (fun env => do
      let a ← f env
      let b ← g env
      pure (k a b)) := by
  refine ⟨fun ⟨hP, hQ⟩ env => ?_, fun hnot => ?_⟩
  · obtain ⟨a, ha⟩ := hf.exists_ok hP env
    obtain ⟨b, hb⟩ := hg.exists_ok hQ env
    exact ⟨k a b, by rw [ha, hb]; rfl⟩
  -- the first step that fails is the one whose fault is reported
  · by_cases hP : P
    · obtain ⟨e, he, hclass⟩ := hg.exists_error (fun hQ => hnot ⟨hP, hQ⟩)
      refine ⟨e, fun env => ?_, hclass⟩
      obtain ⟨a, ha⟩ := hf.exists_ok hP env
      rw [ha, he env]
      rfl
    · obtain ⟨e, he, hclass⟩ := hf.exists_error hP
      exact ⟨e, fun env => by rw [he env]; rfl, hclass⟩

end

/-- The expansion of a text succeeds in every environment, or in none. -/
theorem foretold_expandText (s : List CodePoint) :
    Foretold (Legible s) (fun env => expandText env s) := by
  refine ⟨fun h env => ?_, expandText_of_not_legible⟩
  obtain ⟨t, ht⟩ := h.exists_replaces env
  exact ⟨t, expandText_of_replaces ht⟩

/-- Every text that is looked into is legible. -/
def AllLegible (v : Value) : Prop := ∀ s, TextIn s v → Legible s

/-- A text is legible when its references are. -/
theorem allLegible_text_iff {v : Value} {s : List CodePoint} (h : v.points? = some s) :
    AllLegible v ↔ Legible s := by
  refine ⟨fun hall => hall s (.here h), fun hs t ht => ?_⟩
  cases ht with
  | here ht =>
    rw [h] at ht
    exact Option.some.inj ht ▸ hs
  | item => cases h
  | entry => cases h

/-- A list is so when all its members are. -/
theorem allLegible_list_iff {xs : List Value} :
    AllLegible (.list xs) ↔ ∀ x ∈ xs, AllLegible x := by
  refine ⟨fun h x hx s hs => h s (.item hx hs), fun h s hs => ?_⟩
  cases hs with
  | here hs => cases hs
  | item hx hs => exact h _ hx s hs

/-- A mapping is so when all its values are. -/
theorem allLegible_mapping_iff {es : List (Value × Value)} :
    AllLegible (.mapping es) ↔ ∀ e ∈ es, AllLegible e.2 := by
  refine ⟨fun h e he s hs => h s (.entry he hs), fun h s hs => ?_⟩
  cases hs with
  | here hs => cases hs
  | entry he hs => exact h _ he s hs

/-- A value without texts is expanded to itself. -/
theorem foretold_of_textless {v : Value} (htexts : ∀ s, ¬TextIn s v)
    (h : ∀ env, expand env v = .ok v) : Foretold (AllLegible v) (fun env => expand env v) :=
  ⟨fun _ env => ⟨v, h env⟩, fun hnot => absurd (fun s hs => absurd hs (htexts s)) hnot⟩

mutual

/-- Whether a value can be expanded is a matter of its texts alone. -/
theorem foretold_expand : (v : Value) → Foretold (AllLegible v) (fun env => expand env v)
  | .atom a => by
    cases a with
    | str s => exact ((foretold_expandText _).map Value.ofPoints).of_iff (allLegible_text_iff rfl)
    | _ => exact foretold_of_textless (by rintro s ⟨⟨⟩⟩) (fun _ => rfl)
  | .torn u => ((foretold_expandText _).map Value.ofPoints).of_iff (allLegible_text_iff rfl)
  | .list xs => ((foretold_expandAll xs).map Value.list).of_iff allLegible_list_iff
  | .mapping es => ((foretold_expandEntries es).map Value.mapping).of_iff allLegible_mapping_iff
  | .tuple _ | .symbol _ | .pattern _ | .date _ _ =>
    foretold_of_textless (by rintro s ⟨⟨⟩⟩) (fun _ => rfl)

/-- Whether a list expands is settled by its members, whatever the environment. -/
theorem foretold_expandAll : (xs : List Value) →
    Foretold (∀ x ∈ xs, AllLegible x) (fun env => expandAll env xs)
  | [] => ⟨fun _ _ => ⟨[], rfl⟩, fun h => absurd nofun h⟩
  | x :: xs => ((foretold_expand x).and (foretold_expandAll xs) (fun y ys => y :: ys)).of_iff
      List.forall_mem_cons

/-- So it is for the entries of a mapping. -/
theorem foretold_expandEntries : (es : List (Value × Value)) →
    Foretold (∀ e ∈ es, AllLegible e.2) (fun env => expandEntries env es)
  | [] => ⟨fun _ _ => ⟨[], rfl⟩, fun h => absurd nofun h⟩
  | (k, v) :: es =>
    ((foretold_expand v).and (foretold_expandEntries es) (fun w fs => (k, w) :: fs)).of_iff
      List.forall_mem_cons

end

/-! ## Shape -/

end Config

end Cadence

/-
The format of cron texts, and the order of their faults.

A cron text is laid out as fields and an optional zone in brackets (`Framed`), its
fields are cut into words (`Splits`), and the words and the zone's name are what the
schedule is read from. `Written` says when a text stands for a schedule and `Refused`
which fault a text deserves; neither mentions the reader. The reader returns exactly
the schedules that are written down and raises exactly the faults that are deserved
(`ofCron_eq_iff`), for every text and every fallback zone.

A text can also be taken apart more loosely, with the blanks around the fields counted
to them or not. `Loose` holds all these ways; they agree on the words and on the zone
(`Loose.framed`), so it does not matter which of them a reader finds first.
-/
import Cadence.Proofs.Schedule.Reading
import Cadence.Proofs.Text.Words

set_option autoImplicit false

namespace Cadence

open Cadence.Text (AllBlank Splits Stripped cutAt isBlank trim words cutAt_eq_some_iff
  cutAt_eq_none_iff splits_iff stripped_iff)

/-! ## The outer shape -/

/-- A text without brackets. -/
def Text.Plain (s : List Char) : Prop := ∀ c ∈ s, c ≠ '[' ∧ c ≠ ']'

open Cadence.Text (Plain)

theorem Text.plain_iff {s : List Char} : Plain s ↔ '[' ∉ s ∧ ']' ∉ s := by
  constructor
  · intro h
    exact ⟨fun hopen => (h _ hopen).1 rfl, fun hclose => (h _ hclose).2 rfl⟩
  · rintro ⟨hopen, hclose⟩ c hc
    exact ⟨fun h => hopen (h ▸ hc), fun h => hclose (h ▸ hc)⟩

/-- How a cron text is laid out: plain text for the fields, then nothing, or plain text
in brackets with only blanks behind it. -/
inductive Framed : List Char → List Char → Option (List Char) → Prop
  | bare {body : List Char} : Plain body → Framed body body none
  | zoned {body zone tail : List Char} : Plain body → Plain zone → AllBlank tail →
    Framed (body ++ '[' :: (zone ++ ']' :: tail)) body (some zone)

/-- **Taking a text apart finds its layout**, so it has at most one. -/
theorem CronShape.read_eq_some_iff {s body : List Char} {zone : Option (List Char)} :
    read s = some ⟨body, zone⟩ ↔ Framed s body zone := by
  constructor
  · intro h
    rw [read] at h
    split at h
    case h_1 before hcut =>
      -- no bracket is opened
      obtain ⟨rfl, hopen⟩ := cutAt_eq_none_iff.mp hcut
      rw [Option.ite_none_left_eq_some, Option.some.injEq, CronShape.mk.injEq] at h
      obtain ⟨hclose, rfl, rfl⟩ := h
      exact .bare (Text.plain_iff.mpr ⟨hopen, by simpa using hclose⟩)
    case h_2 before rest hcut =>
      obtain ⟨rfl, hopen⟩ := cutAt_eq_some_iff.mp hcut
      rw [Option.ite_none_left_eq_some] at h
      obtain ⟨hclose, h⟩ := h
      split at h
      case h_1 => simp at h
      case h_2 zone' behind hcut' =>
        -- the first one opened is closed by the first that closes
        obtain ⟨rfl, hclose'⟩ := cutAt_eq_some_iff.mp hcut'
        rw [Option.ite_none_left_eq_some, Option.some.injEq, CronShape.mk.injEq] at h
        obtain ⟨hrest, rfl, rfl⟩ := h
        simp only [Bool.or_eq_true, List.contains_iff_mem, Bool.not_eq_true', not_or,
          Bool.not_eq_false, List.all_eq_true] at hrest
        exact .zoned (Text.plain_iff.mpr ⟨hopen, by simpa using hclose⟩)
          (Text.plain_iff.mpr ⟨hrest.1, hclose'⟩) hrest.2
  · intro h
    cases h with
    | bare hbody =>
      obtain ⟨hopen, hclose⟩ := Text.plain_iff.mp hbody
      rw [read, cutAt_eq_none_iff.mpr ⟨rfl, hopen⟩]
      simp [hclose]
    | @zoned body zone tail hbody hzone htail =>
      obtain ⟨hopen, hclose⟩ := Text.plain_iff.mp hbody
      obtain ⟨hopen', hclose'⟩ := Text.plain_iff.mp hzone
      have hall : tail.all isBlank = true := List.all_eq_true.mpr htail
      rw [read, cutAt_eq_some_iff.mpr ⟨rfl, hopen⟩]
      simp [hclose, cutAt_eq_some_iff.mpr ⟨rfl, hclose'⟩, hopen', hall]

/-- A text has one layout. -/
theorem Framed.unique {s body body' : List Char} {zone zone' : Option (List Char)}
    (h : Framed s body zone) (h' : Framed s body' zone') : body = body' ∧ zone = zone' := by
  have hsame := (CronShape.read_eq_some_iff.mpr h).symm.trans (CronShape.read_eq_some_iff.mpr h')
  rwa [Option.some.injEq, CronShape.mk.injEq] at hsame

/-- What cannot be taken apart has no layout at all. -/
theorem CronShape.read_eq_none_iff {s : List Char} :
    read s = none ↔ ∀ body zone, ¬ Framed s body zone := by
  rw [Option.eq_none_iff_forall_not_mem]
  constructor
  · exact fun h body zone hframed => h _ (read_eq_some_iff.mpr hframed)
  · exact fun h shape hshape => h shape.fields shape.zone (read_eq_some_iff.mp hshape)

/-- The looser ways of taking a text apart: blanks around the fields may be counted to
them or not. -/
inductive Loose : List Char → List Char → Option (List Char) → Prop
  | bare {lead fields tail : List Char} : AllBlank lead → Plain fields → AllBlank tail →
    Loose (lead ++ (fields ++ tail)) fields none
  | zoned {lead fields gap zone tail : List Char} : AllBlank lead → Plain fields →
    AllBlank gap → Plain zone → AllBlank tail →
      Loose (lead ++ (fields ++ (gap ++ '[' :: (zone ++ ']' :: tail)))) fields (some zone)

/-- Blanks are no brackets. -/
theorem Text.AllBlank.plain {s : List Char} (h : AllBlank s) : Plain s := by
  intro c hc
  constructor
  · rintro rfl
    exact absurd (h _ hc) (by decide)
  · rintro rfl
    exact absurd (h _ hc) (by decide)

/-- Nor are there brackets in two texts without any, put together. -/
theorem Text.Plain.append {s t : List Char} (hs : Plain s) (ht : Plain t) : Plain (s ++ t) := by
  intro c hc
  exact (List.mem_append.mp hc).elim (hs c) (ht c)

/-- **The loose ways agree.** Whichever of them is taken, the zone is that of the
layout, and the fields have its words. -/
theorem Loose.framed {s fields : List Char} {zone : Option (List Char)} (h : Loose s fields zone) :
    ∃ body, Framed s body zone ∧ words body = words fields := by
  cases h with
  | @bare lead fields tail hlead hfields htail =>
    refine ⟨lead ++ (fields ++ tail), .bare (hlead.plain.append (hfields.append htail.plain)), ?_⟩
    rw [Text.words_blank_append hlead, Text.words_append_blank htail]
  | @zoned lead fields gap zone tail hlead hfields hgap hzone htail =>
    refine ⟨lead ++ (fields ++ gap), ?_, ?_⟩
    · have hbody : Plain (lead ++ (fields ++ gap)) :=
        hlead.plain.append (hfields.append hgap.plain)
      have hframed := Framed.zoned hbody hzone htail
      simpa only [List.append_assoc] using hframed
    · rw [Text.words_blank_append hlead, Text.words_append_blank hgap]

/-- A frame leaves open which blanks are trimmed where. -/
theorem Framed.loose {s body : List Char} {zone : Option (List Char)} (h : Framed s body zone) :
    Loose s body zone := by
  have hnil : AllBlank [] := fun c hc => by simp at hc
  cases h with
  | bare hbody =>
    have hloose := Loose.bare hnil hbody hnil
    rwa [List.append_nil] at hloose
  | @zoned body zone tail hbody hzone htail =>
    have hloose : Loose ([] ++ (body ++ ([] ++ '[' :: (zone ++ ']' :: tail)))) body (some zone) :=
      .zoned hnil hbody hnil hzone htail
    exact hloose

/-! ## Zones -/

/-- A name is looked up as it stands. -/
theorem Zone.find_str_eq_ok_iff {name : String} {z : Zone} :
    Zone.find (.str name) = .ok z ↔ Zone.find? name = some z := by
  rw [Zone.find]
  cases Zone.find? name <;> simp

/-- A name that is not found is reported with the name. -/
theorem Zone.find_str_eq_error_iff {name : String} {e : Fault} :
    Zone.find (.str name) = .error e ↔
      Zone.find? name = none ∧ e = .domain (.timezone name) := by
  rw [Zone.find]
  cases Zone.find? name <;> simp [eq_comm]

namespace Schedule

variable {text fallback : String} {s : Schedule}

/-! ## What a text stands for -/

/-- The word of a field among the six. -/
def tokenOf (tokens : List (List Char)) (f : Field) : String :=
  String.ofList (tokens.getD f.place [])

/-- The words of a text's fields and its zone, as they stand there. -/
def LaidOut (text : List Char) (tokens : List (List Char)) (zone : Option (List Char)) : Prop :=
  ∃ body, Framed text body zone ∧ Splits body tokens

/-- A word fits a field as a pattern: it is the text of the pattern, and the pattern is
in the field's range. -/
def Fits (f : Field) (token : String) (p : FieldPattern) : Prop :=
  FieldPattern.parse token = .ok p ∧ FieldPattern.validate f p = .ok ()

/-- **The cron texts of a schedule.** Six words that fit their fields as the schedule's
patterns, and the schedule's zone by name. The name stands in the brackets, between
blanks or not; where there are no brackets it is the fallback. -/
def Written (text fallback : String) (s : Schedule) : Prop :=
  ∃ tokens zone name, LaidOut text.toList tokens zone ∧ tokens.length = 6 ∧
    (∀ f, Fits f (tokenOf tokens f) (s.fields.get f)) ∧
    Stripped (zone.getD fallback.toList) name ∧
    Zone.find? (String.ofList name) = some s.zone ∧ s.zone.name = String.ofList name

/-- **The fault that a text deserves**: the first thing wrong in the order outer shape,
number of fields, the fields from the left (the text of a field before its range), zone. -/
inductive Refused (text fallback : String) : Fault → Prop
  | shape : (∀ tokens zone, ¬ LaidOut text.toList tokens zone) →
    Refused text fallback (.pattern text .cronShape)
  | count {tokens : List (List Char)} {zone : Option (List Char)} :
    LaidOut text.toList tokens zone → tokens.length ≠ 6 →
      Refused text fallback (.pattern text (.fieldCount tokens.length))
  | unread {tokens : List (List Char)} {zone : Option (List Char)} {earlier later : List Field}
    {f : Field} {e : Fault} :
    LaidOut text.toList tokens zone → tokens.length = 6 → Field.all = earlier ++ f :: later →
      (∀ g ∈ earlier, ∃ p, Fits g (tokenOf tokens g) p) →
      FieldPattern.parse (tokenOf tokens f) = .error e → Refused text fallback e
  | unfit {tokens : List (List Char)} {zone : Option (List Char)} {earlier later : List Field}
    {f : Field} {p : FieldPattern} {e : Fault} :
    LaidOut text.toList tokens zone → tokens.length = 6 → Field.all = earlier ++ f :: later →
      (∀ g ∈ earlier, ∃ p, Fits g (tokenOf tokens g) p) →
      FieldPattern.parse (tokenOf tokens f) = .ok p → FieldPattern.validate f p = .error e →
      Refused text fallback e
  | zone {tokens : List (List Char)} {zone : Option (List Char)} {name : List Char} :
    LaidOut text.toList tokens zone → tokens.length = 6 →
      (∀ f, ∃ p, Fits f (tokenOf tokens f) p) → Stripped (zone.getD fallback.toList) name →
      Zone.find? (String.ofList name) = none →
      Refused text fallback (.domain (.timezone (String.ofList name)))

/-! ## What the reader does -/

/-- A text has at most one layout, and its words and zone are those the reader takes. -/
theorem laidOut_iff {text : List Char} {tokens : List (List Char)} {zone : Option (List Char)} :
    LaidOut text tokens zone ↔
      ∃ body, CronShape.read text = some ⟨body, zone⟩ ∧ words body = tokens := by
  simp only [LaidOut, CronShape.read_eq_some_iff, splits_iff]

/-- The words and the zone of a text may be had from any loose way of taking it apart. -/
theorem laidOut_iff_loose {text : List Char} {tokens : List (List Char)}
    {zone : Option (List Char)} :
    LaidOut text tokens zone ↔ ∃ fields, Loose text fields zone ∧ Splits fields tokens := by
  constructor
  · rintro ⟨body, hframed, hsplits⟩
    exact ⟨body, hframed.loose, hsplits⟩
  · rintro ⟨fields, hloose, hsplits⟩
    obtain ⟨body, hframed, hwords⟩ := hloose.framed
    exact ⟨body, hframed, splits_iff.mpr (hwords.trans (splits_iff.mp hsplits))⟩

/-- A field is read when its token fits, as a pattern and for the field. -/
theorem readField_eq_ok_iff {f : Field} {token : List Char} {p : FieldPattern} :
    readField f token = .ok p ↔ Fits f (String.ofList token) p := by
  simp only [readField, FieldPattern.checked, bind_eq_ok_iff, pure_eq_ok_iff, Fits]
  constructor
  · rintro ⟨q, hq, _, hv, rfl⟩
    exact ⟨hq, hv⟩
  · rintro ⟨hp, hv⟩
    exact ⟨p, hp, (), hv, rfl⟩

/-- A field is refused for its word's text, or, that being fine, for its range. -/
theorem readField_eq_error_iff {f : Field} {token : List Char} {e : Fault} :
    readField f token = .error e ↔ FieldPattern.parse (String.ofList token) = .error e ∨
      ∃ p, FieldPattern.parse (String.ofList token) = .ok p ∧
        FieldPattern.validate f p = .error e := by
  have hpure : ∀ p : FieldPattern, (pure p : Except Fault FieldPattern) ≠ .error e :=
    fun p => by simp [pure, Except.pure]
  simp only [readField, FieldPattern.checked, bind_eq_error_iff, hpure, and_false, exists_false,
    or_false]

/-- Six words are read one field after the other. -/
theorem map_toList_readFields {text : String} {tokens : List (List Char)}
    (hlen : tokens.length = 6) :
    (readFields text tokens).map Sextet.toList
      = Field.all.mapM (fun f => readField f (tokens.getD f.place [])) := by
  simp only [List.length_eq_succ_iff, List.length_eq_zero_iff] at hlen
  obtain ⟨a, _, rfl, b, _, rfl, c, _, rfl, d, _, rfl, e, _, rfl, g, _, rfl, rfl⟩ := hlen
  -- written out, both sides are six reads, one after the other
  have hmap : ∀ (x : Except Fault (Sextet FieldPattern)),
      x.map Sextet.toList = Sextet.toList <$> x := fun x => rfl
  rw [hmap]
  simp only [readFields, Field.all, List.mapM_cons, List.mapM_nil, map_bind, map_pure, bind_assoc,
    pure_bind, Sextet.toList, List.map_cons, List.map_nil, Sextet.get]
  rfl

/-- Fewer or more than six tokens are told by their number, before any of them is read. -/
theorem readFields_of_length_ne {text : String} {tokens : List (List Char)}
    (hlen : tokens.length ≠ 6) :
    readFields text tokens = .error (.pattern text (.fieldCount tokens.length)) := by
  unfold readFields
  split
  case h_1 => simp at hlen
  case h_2 => rfl

/-- Six words are refused for the first field that is. -/
theorem readFields_eq_error_iff {text : String} {tokens : List (List Char)}
    (hlen : tokens.length = 6) {e : Fault} :
    readFields text tokens = .error e ↔ ∃ earlier f later, Field.all = earlier ++ f :: later ∧
      (∀ g ∈ earlier, ∃ p, Fits g (tokenOf tokens g) p) ∧
        readField f (tokens.getD f.place []) = .error e := by
  have hmap : readFields text tokens = .error e ↔
      (readFields text tokens).map Sextet.toList = .error e := by
    cases readFields text tokens <;> simp [Except.map]
  rw [hmap, map_toList_readFields hlen, mapM_eq_error_iff]
  simp only [readField_eq_ok_iff, tokenOf]

/-- A text with a layout is read field by field, and then for its zone. -/
theorem ofCron_of_laidOut {tokens : List (List Char)} {zone : Option (List Char)}
    {name : List Char} (h : LaidOut text.toList tokens zone)
    (hname : Stripped (zone.getD fallback.toList) name) :
    ofCron text fallback = (do
      let fields ← readFields text tokens
      let z ← Zone.find (.str (String.ofList name))
      pure ⟨fields, z⟩) := by
  obtain ⟨body, hread, hwords⟩ := laidOut_iff.mp h
  rw [ofCron, hread]
  simp only [hwords, stripped_iff.mp hname]

/-- The fields are read when there are six tokens and each fits its field. -/
theorem readFields_eq_ok_iff_fits {text : String} {tokens : List (List Char)}
    {fields : Sextet FieldPattern} : readFields text tokens = .ok fields ↔
      tokens.length = 6 ∧ ∀ f, Fits f (tokenOf tokens f) (fields.get f) := by
  simp only [readFields_eq_ok_iff, readField_eq_ok_iff, tokenOf]

/-- Words that all fit are the fields of a schedule. -/
theorem exists_readFields {text : String} {tokens : List (List Char)} (hlen : tokens.length = 6)
    (h : ∀ f, ∃ p, Fits f (tokenOf tokens f) p) :
    ∃ fields, readFields text tokens = .ok fields := by
  choose pattern hpattern using h
  refine ⟨⟨pattern .second, pattern .minute, pattern .hour, pattern .day, pattern .month,
    pattern .weekday⟩, readFields_eq_ok_iff_fits.mpr ⟨hlen, fun f => ?_⟩⟩
  cases f <;> exact hpattern _

/-- A text without a layout is refused for its shape. -/
theorem ofCron_of_not_laidOut (h : ∀ tokens zone, ¬ LaidOut text.toList tokens zone) :
    ofCron text fallback = .error (.pattern text .cronShape) := by
  have hread : CronShape.read text.toList = none := by
    rw [CronShape.read_eq_none_iff]
    intro body zone hframed
    exact h _ zone ⟨body, hframed, splits_iff.mpr rfl⟩
  rw [ofCron, hread]

/-- A text is read exactly from what is written. -/
theorem ofCron_eq_ok_iff : ofCron text fallback = .ok s ↔ Written text fallback s := by
  constructor
  · intro h
    -- what is laid out in no way is refused before anything is read
    by_cases hlaid : ∃ tokens zone, LaidOut text.toList tokens zone
    · obtain ⟨tokens, zone, hlaid⟩ := hlaid
      have hname : Stripped (zone.getD fallback.toList) _ := stripped_iff.mpr rfl
      simp only [ofCron_of_laidOut hlaid hname, bind_eq_ok_iff, pure_eq_ok_iff] at h
      obtain ⟨fields, hfields, z, hz, rfl⟩ := h
      obtain ⟨hlen, hfits⟩ := readFields_eq_ok_iff_fits.mp hfields
      have hfound := Zone.find_str_eq_ok_iff.mp hz
      exact ⟨tokens, zone, _, hlaid, hlen, hfits, hname, hfound, Zone.name_of_find? hfound⟩
    · rw [ofCron_of_not_laidOut (fun tokens zone h => hlaid ⟨tokens, zone, h⟩)] at h
      cases h
  · rintro ⟨tokens, zone, name, hlaid, hlen, hfits, hname, hfound, -⟩
    simp only [ofCron_of_laidOut hlaid hname, bind_eq_ok_iff, pure_eq_ok_iff]
    exact ⟨s.fields, readFields_eq_ok_iff_fits.mpr ⟨hlen, hfits⟩, s.zone,
      Zone.find_str_eq_ok_iff.mpr hfound, rfl⟩

/-- Behind six words, the fault is that of the first field that has one, or the zone's. -/
theorem refused_of_laidOut {tokens : List (List Char)} {zone : Option (List Char)}
    (hlaid : LaidOut text.toList tokens zone) (hlen : tokens.length = 6) {e : Fault}
    (h : ofCron text fallback = .error e) : Refused text fallback e := by
  have hname : Stripped (zone.getD fallback.toList) _ := stripped_iff.mpr rfl
  rw [ofCron_of_laidOut hlaid hname, bind_eq_error_iff] at h
  rcases h with h | ⟨fields, hfields, h⟩
  · obtain ⟨earlier, f, later, hall, hfit, h⟩ := (readFields_eq_error_iff hlen).mp h
    rcases readField_eq_error_iff.mp h with h | ⟨p, hp, h⟩
    · exact .unread hlaid hlen hall hfit h
    · exact .unfit hlaid hlen hall hfit hp h
  · rcases bind_eq_error_iff.mp h with h | ⟨z, -, h⟩
    · -- the zone is looked for behind the fields, so these all fit
      obtain ⟨hunknown, rfl⟩ := Zone.find_str_eq_error_iff.mp h
      have hfit := (readFields_eq_ok_iff_fits.mp hfields).2
      exact .zone hlaid hlen (fun f => ⟨_, hfit f⟩) hname hunknown
    · cases h

/-- A fault of the reader is one of the faults that are named, with its cause. -/
theorem refused_of_ofCron {e : Fault} (h : ofCron text fallback = .error e) :
    Refused text fallback e := by
  by_cases hlaid : ∃ tokens zone, LaidOut text.toList tokens zone
  · obtain ⟨tokens, zone, hlaid⟩ := hlaid
    by_cases hlen : tokens.length = 6
    · exact refused_of_laidOut hlaid hlen h
    · rw [ofCron_of_laidOut hlaid (stripped_iff.mpr rfl), readFields_of_length_ne hlen] at h
      cases h
      exact .count hlaid hlen
  · have hnone : ∀ tokens zone, ¬ LaidOut text.toList tokens zone :=
      fun tokens zone h => hlaid ⟨tokens, zone, h⟩
    rw [ofCron_of_not_laidOut hnone] at h
    cases h
    exact .shape hnone

/-- Each of them does come about; the first thing wrong is the one reported. -/
theorem Refused.ofCron_eq {e : Fault} (h : Refused text fallback e) :
    ofCron text fallback = .error e := by
  -- the faults in the order in which they are found
  cases h with
  | shape hnone => exact ofCron_of_not_laidOut hnone
  | count hlaid hlen =>
    rw [ofCron_of_laidOut hlaid (stripped_iff.mpr rfl), readFields_of_length_ne hlen]
    rfl
  | unread hlaid hlen hall hfit h =>
    rw [ofCron_of_laidOut hlaid (stripped_iff.mpr rfl), bind_eq_error_iff]
    exact .inl ((readFields_eq_error_iff hlen).mpr
      ⟨_, _, _, hall, hfit, readField_eq_error_iff.mpr (.inl h)⟩)
  | unfit hlaid hlen hall hfit hp h =>
    rw [ofCron_of_laidOut hlaid (stripped_iff.mpr rfl), bind_eq_error_iff]
    exact .inl ((readFields_eq_error_iff hlen).mpr
      ⟨_, _, _, hall, hfit, readField_eq_error_iff.mpr (.inr ⟨_, hp, h⟩)⟩)
  | zone hlaid hlen hfit hname hunknown =>
    obtain ⟨fields, hfields⟩ := exists_readFields hlen hfit
    rw [ofCron_of_laidOut hlaid hname, bind_eq_error_iff]
    refine .inr ⟨fields, hfields, bind_eq_error_iff.mpr (.inl ?_)⟩
    exact Zone.find_str_eq_error_iff.mpr ⟨hunknown, rfl⟩

/-- **A cron text is read exactly as the format says.** Every text and every fallback
zone: the reader returns a schedule when and only when the text is written for it, and
raises a fault when and only when the text deserves it. -/
theorem ofCron_eq_iff (text fallback : String) :
    (∀ s, ofCron text fallback = .ok s ↔ Written text fallback s) ∧
      (∀ e, ofCron text fallback = .error e ↔ Refused text fallback e) :=
  ⟨fun _ => ofCron_eq_ok_iff, fun _ => ⟨refused_of_ofCron, Refused.ofCron_eq⟩⟩

end Schedule

end Cadence

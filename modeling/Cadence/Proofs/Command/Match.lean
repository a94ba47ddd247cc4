/-
How a match of a schedule at an instant ends, and what it shows.

A match reads a cron text and the text of an instant, shows the schedule field by field with
a verdict each, and then a verdict on the whole. It is meant to end with zero when the
schedule matches, and with one when it does not or a text cannot be read. `MatchEnds` says
how it does end. There is one way that is not meant: the two texts can be read, and yet the
instant has no fields in the zone of the schedule, because universal time there or the time
on the zone's wall is not in the years that have dates (`Moment.Beyond`). Reading is over
then, so the fault is one that nobody deals with, and nothing is shown.

Whenever there is a table, its six rows and the verdict below it agree: the projection that
the rows are about, into the zone that is looked up by the schedule's name for it, is the
one that the schedule itself is asked about (`timeParts_name`).
-/
import Cadence.Command.Evaluate
import Cadence.Proofs.Instant.Texts
import Cadence.Proofs.Schedule.Faults
import Cadence.Proofs.Schedule.RoundTrip

set_option autoImplicit false

namespace Cadence

open Cadence.Number (intText)

/-! ## Instants without fields -/

namespace Moment

variable {m : Moment} {z : Zone} {e : Fault}

/-- Universal time, or the time in the zone, is beyond the years that have dates. -/
def Beyond (m : Moment) (z : Zone) : Prop :=
  ∃ u, m.utcMicros? = some u ∧ ¬(inYears u = true ∧ inYears (z.wallAt u) = true)

/-- A moment with a fixed offset has no fields in a zone exactly when it is beyond it. -/
theorem partsIn_eq_error_iff_beyond (hm : ∃ o, m.place = .fixed o) :
    m.partsIn z = .error e ↔ e = .overflow .date ∧ m.Beyond z := by
  obtain ⟨o, ho⟩ := hm
  have hu : m.utcMicros? = some (m.wall - o) := by
    rw [utcMicros?, offset?, ho, Option.map_some]
  have hs : m.standsIn z = false := by rw [standsIn, ho]
  rw [partsIn_eq_error_iff hu, Beyond, hu, and_iff_right hs]
  simp

end Moment

/-! ## Schedules from cron texts -/

namespace Schedule

variable {text fallback : String} {s : Schedule} {m : Moment} {e : Fault}

/-- All faults of a pattern are faults of its text. -/
theorem isContent_of_ofCron (h : ofCron text fallback = .error e) : e.isContent = true := by
  rcases ofCron_faults h with ⟨_, _, rfl⟩ | ⟨_, rfl⟩ | ⟨_, _, rfl⟩
  · rfl
  · rfl
  · rfl

/-- All fields of a pattern that is read have integers. -/
theorem integral_of_ofCron (h : ofCron text fallback = .ok s) (f : Field) :
    (s.fields.get f).Integral :=
  ((sourced_of_ofCron (Q := fun _ => True) h).produced f).integral

/-- The zone of a schedule that was read is found under its name. -/
theorem timeParts_name (h : ofCron text fallback = .ok s) :
    timeParts m (.str s.zone.name) = m.partsIn s.zone := by
  have hknown := (sourced_of_ofCron (Q := fun _ => True) h).known
  rw [timeParts, Zone.find_eq_ok_iff.mpr ⟨rfl, hknown⟩]
  rfl

end Schedule

namespace Command

open Cadence.Schedule (ofCron defaultZone)

variable {cron instant : String} {d : Desk} {s : Schedule} {m now : Moment} {e : Fault}
  {parts : Sextet Int}

/-! ## Reading -/

/-- A pattern and an instant are read when both are right. -/
theorem readMatch_eq_ok_iff : readMatch ⟨cron, some instant⟩ now = .ok (s, m) ↔
    ofCron cron defaultZone = .ok s ∧ Moment.parse instant = .ok m := by
  simp only [readMatch, bind_eq_ok_iff, pure_eq_ok_iff, Prod.mk.injEq]
  constructor
  · rintro ⟨s', hs, m', hm, rfl, rfl⟩
    exact ⟨hs, hm⟩
  · rintro ⟨hs, hm⟩
    exact ⟨s, hs, m, hm, rfl, rfl⟩

/-- Whatever refuses one of the texts is a fault of content. -/
theorem isContent_of_readMatch (h : readMatch ⟨cron, some instant⟩ now = .error e) :
    e.isContent = true := by
  simp only [readMatch, bind_eq_error_iff] at h
  rcases h with h | ⟨s, -, h | ⟨m, -, h⟩⟩
  · exact Schedule.isContent_of_ofCron h
  · exact (Moment.content_of_parse h).isContent
  · cases h

/-- With both texts read, the schedule can be asked unless the instant is beyond. -/
theorem accepts_eq_error_iff_beyond (hs : ofCron cron defaultZone = .ok s)
    (hm : Moment.parse instant = .ok m) :
    s.accepts m = .error e ↔ e = .overflow .date ∧ m.Beyond s.zone := by
  rw [Schedule.accepts_eq_error_iff (Schedule.integral_of_ofCron hs),
    Moment.partsIn_eq_error_iff_beyond (Moment.exists_fixed_of_parse hm)]

/-! ## The table -/

/-- The row of a field: its pattern, its value on the wall, and its verdict. -/
def matchRow (texts : Field → String) (parts : Sextet Int) (verdict : Field → Bool)
    (f : Field) : List String :=
  [f.name, texts f, intText (parts.get f), verdictWord (verdict f)]

/-- With fields, a schedule that was read has a table and a verdict, and they agree. -/
theorem exists_matchTable (hs : ofCron cron defaultZone = .ok s)
    (hparts : m.partsIn s.zone = .ok parts) : ∃ (title : String) (texts : Field → String),
    ∃ verdict : Field → Bool, (∀ f, (s.fields.get f).render = .ok (texts f)) ∧
      (∀ f, (s.fields.get f).accepts (.int (parts.get f)) = .ok (verdict f)) ∧
      matchTable s m = .ok ⟨title, ["Field", "Pattern", "Local value", "Match"],
        Field.all.map (matchRow texts parts verdict)⟩ ∧
      s.accepts m = .ok (Field.all.all verdict) := by
  have hintegral := Schedule.integral_of_ofCron hs
  obtain ⟨text, htext, -⟩ := (Schedule.Built.cron hs).faithful.cron_eq
  -- a field of a text has only integers, so each has a verdict and a text
  choose verdict hverdict using fun f => (hintegral f).exists_accepts (parts.get f)
  have hrender := fun f => ((Schedule.Built.cron hs).faithful.canonical f).render
  refine ⟨text ++ " at " ++ m.iso, _, verdict, hrender, hverdict, ?_, ?_⟩
  · have hrows : Field.all.mapM (fieldRow s parts) = .ok (Field.all.map (matchRow
        (fun f => String.ofList (s.fields.get f).written) parts verdict)) := by
      rw [mapM_eq_ok_iff, List.forall₂_map_right_iff, List.forall₂_same]
      intro f _
      rw [fieldRow, hverdict, hrender]
      rfl
    simp only [matchTable, Schedule.timeParts_name hs, hparts, htext, bind, Except.bind, hrows]
    rfl
  · have hfield : ∀ f, ∃ b, (s.fields.get f).accepts (.int (parts.get f)) = .ok b ∧
        (b = true ↔ verdict f = true) := fun f => ⟨verdict f, hverdict f, Iff.rfl⟩
    obtain ⟨b, hb, hall⟩ := Schedule.acceptsParts_of_fields hfield Field.all
    -- the verdict below the table is the conjunction of its last column
    have hsame : b = Field.all.all verdict :=
      Bool.eq_iff_iff.mpr (hall.trans List.all_eq_true.symm)
    rw [Schedule.accepts, hparts, ← hsame]
    exact hb

/-! ## The ways to end -/

/-- How a match of a cron text at the text of an instant ends. -/
inductive MatchEnds (cron instant : String) : Except Fault Nat → Prop
  | yes {s : Schedule} {m : Moment} : ofCron cron defaultZone = .ok s →
    Moment.parse instant = .ok m → s.accepts m = .ok true → MatchEnds cron instant (.ok 0)
  | no {s : Schedule} {m : Moment} : ofCron cron defaultZone = .ok s →
    Moment.parse instant = .ok m → s.accepts m = .ok false → MatchEnds cron instant (.ok 1)
  | refused {e : Fault} : ofCron cron defaultZone = .error e → MatchEnds cron instant (.ok 1)
  | undated {s : Schedule} {e : Fault} : ofCron cron defaultZone = .ok s →
    Moment.parse instant = .error e → MatchEnds cron instant (.ok 1)
  /-- the texts can be read, but the instant has no fields in the zone -/
  | beyond {s : Schedule} {m : Moment} : ofCron cron defaultZone = .ok s →
    Moment.parse instant = .ok m → m.Beyond s.zone →
      MatchEnds cron instant (.error (.overflow .date))

def verdictPiece (matched : Bool) : Piece :=
  .markup (if matched then "[green]MATCH[/]" else "[yellow]NO MATCH[/]")

/-- An instant without a local time in the zone is a fault that nobody catches. -/
theorem matchAt_of_beyond (hs : ofCron cron defaultZone = .ok s)
    (hm : Moment.parse instant = .ok m) (hbeyond : m.Beyond s.zone) :
    matchAt ⟨cron, some instant⟩ d = (d, .error (.overflow .date)) := by
  have hparts := (Moment.partsIn_eq_error_iff_beyond (Moment.exists_fixed_of_parse hm)).mpr
    ⟨rfl, hbeyond⟩
  have htable : matchTable s m = .error (.overflow .date) := by
    rw [matchTable, Schedule.timeParts_name hs, hparts]
    rfl
  rw [matchAt, readMatch_eq_ok_iff.mpr ⟨hs, hm⟩]
  simp only [htable]

/-- A fault of the texts is printed. -/
theorem matchAt_of_error (h : readMatch ⟨cron, some instant⟩ d.session.clock.now = .error e) :
    matchAt ⟨cron, some instant⟩ d = (d.printFault e, .ok 1) := by
  rw [matchAt, h]
  simp only [isContent_of_readMatch h, if_true]

/-- What a match does when the instant has its fields in the zone. -/
theorem matchAt_of_fields (hs : ofCron cron defaultZone = .ok s)
    (hm : Moment.parse instant = .ok m) (hbeyond : ¬m.Beyond s.zone) :
    ∃ (parts : Sextet Int) (texts : Field → String) (verdict : Field → Bool) (title : String),
      timeParts m (.str s.zone.name) = .ok parts ∧
      (∀ f, (s.fields.get f).render = .ok (texts f)) ∧
      (∀ f, (s.fields.get f).accepts (.int (parts.get f)) = .ok (verdict f)) ∧
      s.accepts m = .ok (Field.all.all verdict) ∧
      matchAt ⟨cron, some instant⟩ d =
        ((d.display (.table ⟨title, ["Field", "Pattern", "Local value", "Match"],
            Field.all.map (matchRow texts parts verdict)⟩)).display
          (verdictPiece (Field.all.all verdict)), .ok (exitCode (Field.all.all verdict))) := by
  cases hparts : m.partsIn s.zone with
  | error e =>
    -- a written instant has a fixed offset, so only the range of years can fail it
    have hfixed := Moment.exists_fixed_of_parse hm
    exact absurd ((Moment.partsIn_eq_error_iff_beyond hfixed).mp hparts).2 hbeyond
  | ok parts =>
    obtain ⟨title, texts, verdict, hrender, hverdict, htable, haccepts⟩ :=
      exists_matchTable hs hparts
    refine ⟨parts, texts, verdict, title, ?_, hrender, hverdict, haccepts, ?_⟩
    · rw [Schedule.timeParts_name hs, hparts]
    · rw [matchAt, readMatch_eq_ok_iff.mpr ⟨hs, hm⟩]
      simp only [htable, haccepts]
      rfl

/-- A match ends in the way that is said. -/
theorem MatchEnds.snd_matchAt {r : Except Fault Nat} (h : MatchEnds cron instant r) :
    (matchAt ⟨cron, some instant⟩ d).2 = r := by
  -- a schedule that answers has a table, so the exit code is that of its answer
  have hanswer : ∀ {s : Schedule} {m : Moment} {b : Bool}, ofCron cron defaultZone = .ok s →
      Moment.parse instant = .ok m → s.accepts m = .ok b →
        (matchAt ⟨cron, some instant⟩ d).2 = .ok (exitCode b) := by
    intro s m b hs hm hb
    have hbeyond : ¬m.Beyond s.zone := by
      intro hbeyond
      rw [(accepts_eq_error_iff_beyond hs hm).mpr ⟨rfl, hbeyond⟩] at hb
      cases hb
    obtain ⟨_, _, verdict, _, -, -, -, haccepts, hmatch⟩ := matchAt_of_fields hs hm hbeyond
    rw [haccepts, Except.ok.injEq] at hb
    rw [hmatch, hb]
  cases h with
  | yes hs hm hb => exact hanswer hs hm hb
  | no hs hm hb => exact hanswer hs hm hb
  | refused he =>
    have hread : readMatch ⟨cron, some instant⟩ d.session.clock.now = .error _ :=
      bind_eq_error_iff.mpr (.inl he)
    rw [matchAt_of_error hread]
  | undated hs he =>
    have hread : readMatch ⟨cron, some instant⟩ d.session.clock.now = .error _ :=
      bind_eq_error_iff.mpr (.inr ⟨_, hs, bind_eq_error_iff.mpr (.inl he)⟩)
    rw [matchAt_of_error hread]
  | beyond hs hm hbeyond => rw [matchAt_of_beyond hs hm hbeyond]

/-- There is a way to end for every pair of texts. -/
theorem exists_matchEnds (cron instant : String) : ∃ r, MatchEnds cron instant r := by
  cases hs : ofCron cron defaultZone with
  | error e => exact ⟨_, .refused hs⟩
  | ok s =>
    cases hm : Moment.parse instant with
    | error e => exact ⟨_, .undated hs hm⟩
    | ok m =>
      cases hb : s.accepts m with
      | error e => exact ⟨_, .beyond hs hm ((accepts_eq_error_iff_beyond hs hm).mp hb).2⟩
      | ok b =>
        cases b with
        | true => exact ⟨_, .yes hs hm hb⟩
        | false => exact ⟨_, .no hs hm hb⟩

/-- **How a match ends and what it shows.** It ends in exactly the ways of `MatchEnds`, with
one fault among them, that of an instant beyond the years. An instant that is beyond leaves
the desk as it was. Every other one has a table, whose rows give the fields of the moment in
the zone of the schedule's name with a verdict each, and below it the verdict of the
schedule, which is that all six rows say yes. -/
theorem matchAt_decides (cron instant : String) (d : Desk) :
    (∀ r, (matchAt ⟨cron, some instant⟩ d).2 = r ↔ MatchEnds cron instant r) ∧
    ∀ s m, ofCron cron defaultZone = .ok s → Moment.parse instant = .ok m →
      (m.Beyond s.zone → matchAt ⟨cron, some instant⟩ d = (d, .error (.overflow .date))) ∧
      (¬m.Beyond s.zone → ∃ (parts : Sextet Int) (texts : Field → String)
        (verdict : Field → Bool) (title : String),
        timeParts m (.str s.zone.name) = .ok parts ∧
        (∀ f, (s.fields.get f).render = .ok (texts f)) ∧
        (∀ f, (s.fields.get f).accepts (.int (parts.get f)) = .ok (verdict f)) ∧
        s.accepts m = .ok (Field.all.all verdict) ∧
        matchAt ⟨cron, some instant⟩ d =
          ((d.display (.table ⟨title, ["Field", "Pattern", "Local value", "Match"],
              Field.all.map (matchRow texts parts verdict)⟩)).display
            (verdictPiece (Field.all.all verdict)), .ok (exitCode (Field.all.all verdict)))) := by
  refine ⟨fun r => ⟨fun h => ?_, MatchEnds.snd_matchAt⟩, fun s m hs hm =>
    ⟨matchAt_of_beyond hs hm, matchAt_of_fields hs hm⟩⟩
  -- every run ends in one of the ways, and they exclude each other
  obtain ⟨r', hr'⟩ := exists_matchEnds cron instant
  rwa [← h, hr'.snd_matchAt]

/-- The last second of the year 9999 in universal time: both texts can be read, but in Tokyo
it is the next year, so the match ends with a fault. -/
theorem matchAt_beyond_tokyo :
    (ofCron "* * * * * * [Asia/Tokyo]" defaultZone).toOption.isSome = true ∧
    (Moment.parse "9999-12-31T23:59:59Z").toOption.isSome = true ∧
    ¬∃ code, (matchAt ⟨"* * * * * * [Asia/Tokyo]", some "9999-12-31T23:59:59Z"⟩ default).2
      = .ok code := by
  have hcron : (ofCron "* * * * * * [Asia/Tokyo]" defaultZone).toOption.isSome = true := by
    decide +kernel
  have hinstant : (Moment.parse "9999-12-31T23:59:59Z").toOption.isSome = true := by
    decide +kernel
  -- nine hours ahead this second lies in the year 10000
  have hmatch : (matchAt ⟨"* * * * * * [Asia/Tokyo]", some "9999-12-31T23:59:59Z"⟩
      default).2.toOption = none := by
    decide +kernel
  refine ⟨hcron, hinstant, ?_⟩
  rintro ⟨code, hcode⟩
  rw [hcode] at hmatch
  cases hmatch

end Command

end Cadence

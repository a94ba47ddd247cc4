/-
Who comes to a registration during a run.

Calls nest, so during one evaluation a registration can be armed, cancelled and evaluated
many times over, by its own callback or by those of others. `visitsAll` lists these
requests in the order in which they come, at whatever depth, each with the session it
finds; the functions follow the evaluation, and the sessions are those that it goes
through. So a run that nests is laid out flat.

What a registration and its story come to can then be said without the nesting: each
request does one thing to the two (`Record.meet`), and between two visits nothing happens
to them. `Passes` says this of a list of visits, and every run passes through its own
(`through_serveAll`), because an evaluation that is due makes its note before it calls.
-/
import Cadence.Proofs.Session.Requests

set_option autoImplicit false

namespace Cadence

/-! ## Visits -/

/-- A request that comes to a registration, and the session that it finds. -/
structure Visit where
  session : Session
  request : Request

namespace Session

/-- The visits that the registration `key` has from a call. -/
abbrev Callee := Nat → Session → List Visit

/-- A visit to the registration `k`, if that is the one that is looked at. -/
def comes (key k : Nat) (s : Session) (q : Request) : List Visit :=
  if k = key then [⟨s, q⟩] else []

/-- The session in which the callback of a registration is called. -/
def noted (k : Nat) (second : Int) (s : Session) : Session :=
  (s.modify k (·.fired second s.clock.now)).witness (.called k s.clock.now)

/-- The visits from an evaluation: its own, and those from the call that it makes. -/
def tickVisits (called : Callee) (key k : Nat) (s : Session) : List Visit :=
  comes key k s (.tick s.clock.now) ++
    match s.registration? k with
    | none => []
    | some r => match r.judge s.clock.now with
      | .due second => called k (s.noted k second)
      | _ => []

/-- The visits that come by a name. -/
def visitsBy (name : String) (s : Session) (f : Nat → List Visit) : List Visit :=
  match s.keyOf name with
  | .error _ => []
  | .ok k => f k

def actVisits (called : Callee) (key : Nat) (s : Session) : Action → List Visit
  | .tick name => s.visitsBy name (fun k => s.tickVisits called key k)
  | .arm name => s.visitsBy name (fun k => comes key k s .arm)
  | .cancel name => s.visitsBy name (fun k => comes key k s .cancel)
  | .note action => s.actVisits called key action
  | _ => []

/-- The visits from actions, up to the first that fails. -/
def actAllVisits (call : Caller) (called : Callee) (key owner : Nat) (s : Session) :
    List Action → List Visit
  | [] => []
  | a :: rest => s.actVisits called key a ++ match s.act call owner a with
    | (t, .ok _) => actAllVisits call called key owner t rest
    | (_, .error _) => []

/-- The visits from a call with at most so many calls inside one another. -/
def visitsWithin (key : Nat) : Nat → Callee
  | 0 => fun _ _ => []
  | depth + 1 => fun k s => match s.registration? k with
    | none => []
    | some r => s.actAllVisits (callWithin depth) (visitsWithin key depth) key k
        (r.script r.fireCount)

/-- The visits from a request that comes from outside. -/
def serveVisits (called : Callee) (key : Nat) (s : Session) : Request → List Visit
  | .arm => [⟨s, .arm⟩]
  | .cancel => [⟨s, .cancel⟩]
  | .tick now => { s with clock := ⟨now⟩ }.tickVisits called key key

/-- All the visits during a run. -/
def visitsAll (depth key : Nat) (s : Session) : List Request → List Visit
  | [] => []
  | q :: requests => s.serveVisits (visitsWithin key depth) key q ++
      (s.serve (callWithin depth) key q).visitsAll depth key requests

end Session

/-! ## One registration and its story -/

/-- A registration, and what happened to it. -/
structure Record where
  registration : Registration
  story : List Occurrence

namespace Record

/-- What a request does to a registration, a call apart. -/
def meet (key : Nat) (p : Record) : Request → Record
  | .arm =>
    if p.registration.stage = .stopped then p
    else { p with registration := { p.registration with stage := .armed } }
  | .cancel =>
    if p.registration.stage = .stopped then p
    else ⟨p.registration.stop, p.story ++ p.registration.notice key⟩
  | .tick now => match p.registration.judge now with
    | .due second => ⟨p.registration.fired second now, p.story ++ [.called key now]⟩
    | .repeated _ => { p with story := p.story ++ [.passed key now] }
    | _ => p

end Record

namespace Session

variable {key k : Nat} {s t u : Session} {call : Caller} {called : Callee} {p q : Record}
  {vs ws : List Visit}

/-- The registration `key` and its story are those of the record. -/
structure Holds (key : Nat) (p : Record) (s : Session) : Prop where
  found : s.registration? key = some p.registration
  story : s.story key = p.story

/-- The visits find the registration as those before them leave it. -/
inductive Passes (key : Nat) : Record → List Visit → Record → Prop
  | nil (p : Record) : Passes key p [] p
  | cons {p q : Record} {v : Visit} {vs : List Visit} :
    Holds key p v.session → Passes key (p.meet key v.request) vs q → Passes key p (v :: vs) q

/-- A list of visits goes on where another ends. -/
theorem Passes.append {p' : Record} (h : Passes key p vs p') (h' : Passes key p' ws q) :
    Passes key p (vs ++ ws) q := by
  induction h with
  | nil => exact h'
  | cons hv _ ih => exact .cons hv (ih h')

/-- Between two sessions a registration goes through the visits and nothing else. -/
def Through (key : Nat) (s : Session) (vs : List Visit) (t : Session) : Prop :=
  ∀ p, Holds key p s → ∃ q, Passes key p vs q ∧ Holds key q t

/-- So does a run. -/
theorem Through.append (h : Through key s vs t) (h' : Through key t ws u) :
    Through key s (vs ++ ws) u := by
  intro p hp
  obtain ⟨p', hvs, hp'⟩ := h p hp
  obtain ⟨q, hws, hq⟩ := h' p' hp'
  exact ⟨q, hvs.append hws, hq⟩

/-- What leaves a registration and its story alone needs no visit. -/
theorem Through.of_same (hr : t.registration? key = s.registration? key)
    (ht : t.story key = s.story key) : Through key s [] t := fun p hp =>
  ⟨p, .nil p, hr.trans hp.found, ht.trans hp.story⟩

theorem Through.refl (key : Nat) (s : Session) : Through key s [] s := .of_same rfl rfl

/-- One visit. -/
theorem Through.of_visit {a : Request}
    (h : ∀ p, Holds key p s → Holds key (p.meet key a) t) : Through key s [⟨s, a⟩] t :=
  fun p hp => ⟨p.meet key a, .cons hp (.nil _), h p hp⟩

/-! ## Operations -/

/-- Arming is a visit to the registration that is armed. -/
theorem through_arm (key k : Nat) (s : Session) :
    Through key s (comes key k s .arm) (s.arm k).1 := by
  rw [comes]
  by_cases hk : k = key
  · subst hk
    rw [if_pos rfl]
    refine .of_visit (fun p hp => ?_)
    obtain ⟨hr, hstory⟩ := registration?_arm hp.found
    rw [Record.meet]
    -- what is stopped refuses, and is left as it is
    by_cases hstage : p.registration.stage = .stopped
    · rw [if_pos hstage] at hr ⊢
      exact ⟨hr, hstory.trans hp.story⟩
    · rw [if_neg hstage] at hr ⊢
      exact ⟨hr, hstory.trans hp.story⟩
  · rw [if_neg hk, arm]
    split
    · exact .refl key s
    · split
      · exact .refl key s
      · exact .of_same (by simp [hk]) (by simp)

/-- Cancelling is a visit too, and its notice is part of the story. -/
theorem through_cancel (key k : Nat) (s : Session) :
    Through key s (comes key k s .cancel) (s.cancel k) := by
  rw [comes]
  by_cases hk : k = key
  · subst hk
    rw [if_pos rfl]
    refine .of_visit (fun p hp => ?_)
    obtain ⟨hr, hstory⟩ := registration?_cancel hp.found
    rw [Record.meet]
    by_cases hstage : p.registration.stage = .stopped
    -- stopping what is stopped changes nothing, and nobody is told
    · have hstop : p.registration.stop = p.registration := by
        rw [Registration.stop, ← hstage]
      rw [if_pos hstage] at hstory ⊢
      rw [hstop] at hr
      rw [List.append_nil] at hstory
      exact ⟨hr, hstory.trans hp.story⟩
    · rw [if_neg hstage] at hstory ⊢
      exact ⟨hr, by rw [hstory, hp.story]⟩
  · rw [if_neg hk, cancel]
    split
    · exact .refl key s
    · split
      · exact .refl key s
      · exact .of_same (by simp [hk]) (by simp [story_tell, hk])

/-- An evaluation that makes no call is one visit at most. -/
theorem through_look {r : Registration} (hr : s.registration? k = some r)
    (hstill : k = key → Holds key (Record.meet key ⟨r, s.story key⟩ (.tick s.clock.now)) t)
    (haside : k ≠ key → t.registration? key = s.registration? key ∧
      t.story key = s.story key) :
    Through key s (comes key k s (.tick s.clock.now)) t := by
  rw [comes]
  by_cases hk : k = key
  · subst hk
    rw [if_pos rfl]
    refine .of_visit (fun p hp => ?_)
    -- the record kept so far is that of the registration
    obtain rfl : r = p.registration := Option.some.inj (hr.symm.trans hp.found)
    have hmet := hstill rfl
    rwa [hp.story] at hmet
  · rw [if_neg hk]
    exact .of_same (haside hk).1 (haside hk).2

/-! ## Evaluations and calls -/

/-- Callbacks during which a registration goes through its visits. -/
def Leads (key : Nat) (call : Caller) (called : Callee) : Prop :=
  ∀ k s, Through key s (called k s) (call k s).1

/-- At the beginning of a call the record has the call already. -/
theorem holds_noted {r : Registration} {second : Int} (hr : s.registration? key = some r)
    (hj : r.judge s.clock.now = .due second) :
    Holds key (Record.meet key ⟨r, s.story key⟩ (.tick s.clock.now)) (s.noted key second) where
  found := by simp [noted, Record.meet, hj, hr]
  story := by simp [noted, Record.meet, hj, Occurrence.isOf]

/-- What is left behind a call is left behind the note and the call. -/
theorem fst_fire (k : Nat) (second : Int) (s : Session) :
    (s.fire call k second).1 = (call k (s.noted k second)).1 := by
  rw [fire, ← noted]
  obtain ⟨t, e | x⟩ := call k (s.noted k second) <;> rfl

/-- An evaluation is a visit, followed by those of the call that it makes. -/
theorem through_tickWith (hcall : Leads key call called) (k : Nat) (s : Session) :
    Through key s (s.tickVisits called key k) (s.tickWith call k).1 := by
  unfold tickVisits tickWith
  cases hr : s.registration? k with
  | none =>
    rw [comes]
    split
    case isTrue hk =>
      subst hk
      intro p hp
      rw [hp.found] at hr
      simp at hr
    case isFalse => exact .refl key s
  | some r =>
    simp only
    have hstill : Record.meet key ⟨r, s.story key⟩ (.tick s.clock.now) = ⟨r, s.story key⟩ →
        Through key s (comes key k s (.tick s.clock.now)) s := by
      intro hmeet
      refine through_look hr (fun hk => ?_) (fun _ => ⟨rfl, rfl⟩)
      rw [hmeet]
      exact ⟨hk ▸ hr, rfl⟩
    cases hj : r.judge s.clock.now with
    | unarmed =>
      rw [List.append_nil]
      exact hstill (by rw [Record.meet, hj])
    | failed e =>
      rw [List.append_nil]
      exact hstill (by rw [Record.meet, hj])
    | unmatched =>
      rw [List.append_nil]
      exact hstill (by rw [Record.meet, hj])
    | repeated second =>
      rw [List.append_nil]
      refine through_look hr (fun hk => ⟨?_, ?_⟩) (fun hk => ⟨by simp, ?_⟩)
      · subst hk
        simp [Record.meet, hj, hr]
      · subst hk
        simp [Record.meet, hj, Occurrence.isOf]
      · simp [Occurrence.isOf, hk]
    | due second =>
      have hnote : Through key s (comes key k s (.tick s.clock.now)) (s.noted k second) := by
        refine through_look hr (fun hk => ?_) (fun hk => ⟨?_, ?_⟩)
        · subst hk
          exact holds_noted hr hj
        · simp [noted, hk]
        · simp [noted, Occurrence.isOf, hk]
      -- the note is made before the call, and stands whatever comes of that
      have hafter := hnote.append (hcall k (s.noted k second))
      rwa [← fst_fire] at hafter

/-- A name that is not known leads to no visit, and to no change. -/
theorem through_visitsBy {α : Type} {f : Nat → Outcome α} {g : Nat → List Visit}
    (name : String) (h : ∀ k, Through key s (g k) (f k).1) :
    Through key s (s.visitsBy name g) (s.withName name f).1 := by
  rw [visitsBy, withName]
  cases s.keyOf name with
  | error e => exact .refl key s
  | ok k => exact h k

/-- An action passes through the visits that it makes. -/
theorem through_act (hcall : Leads key call called) (owner : Nat) (s : Session) (a : Action) :
    Through key s (s.actVisits called key a) (s.act call owner a).1 := by
  -- on the action; a note is met as the action that it holds
  induction a generalizing s with
  | tick name =>
    refine through_visitsBy name (fun k => ?_)
    have htick := through_tickWith hcall k s
    split
    case h_1 heq => rwa [heq] at htick
    case h_2 heq => rwa [heq] at htick
  | arm name =>
    refine through_visitsBy name (fun k => ?_)
    rw [fst_silent]
    exact through_arm key k s
  | cancel name => exact through_visitsBy name (fun k => through_cancel key k s)
  | advance seconds =>
    rw [act, fst_silent, advance]
    split <;> exact .of_same rfl rfl
  | setClock now =>
    rw [act, fst_silent, setClock]
    split <;> exact .of_same rfl rfl
  | say logger text => exact .of_same rfl rfl
  | fail e => exact .refl key s
  | note action ih =>
    have hnote : Through key (s.act call owner action).1 []
        ((s.act call owner action).1.witness (.noted owner (s.act call owner action).2)) :=
      .of_same (by simp) (by simp [Occurrence.isOf])
    have hboth := (ih s).append hnote
    rwa [List.append_nil] at hboth

/-- So do actions one after the other, up to the first that fails. -/
theorem through_actAll (hcall : Leads key call called) (owner : Nat) (s : Session)
    (as : List Action) :
    Through key s (s.actAllVisits call called key owner as) (s.actAll call owner as).1 := by
  induction as generalizing s with
  | nil => exact .refl key s
  | cons a as ih =>
    have hact := through_act hcall owner s a
    rw [actAllVisits, actAll]
    cases hdone : s.act call owner a with
    | mk t outcome =>
      rw [hdone] at hact
      -- an action that fails ends the script
      cases outcome with
      | error e => exact hact.append (.refl key t)
      | ok b => exact hact.append (ih t)

/-- **A call leads a registration through its visits**, at any depth. -/
theorem leads_callWithin (key depth : Nat) :
    Leads key (callWithin depth) (visitsWithin key depth) := by
  -- on the depth that is left, as the calls of a call are one level less deep
  induction depth with
  | zero => exact fun k s => .refl key s
  | succ depth ih =>
    intro k s
    simp only [callWithin, visitsWithin]
    cases s.registration? k with
    | none => exact .refl key s
    | some r => exact through_actAll ih k s (r.script r.fireCount)

/-! ## Runs -/

/-- And so does a request from outside. -/
theorem through_serve (hcall : Leads key call called) (s : Session) (a : Request) :
    Through key s (s.serveVisits called key a) (s.serve call key a) := by
  cases a with
  | arm =>
    have harm := through_arm key key s
    rwa [comes, if_pos rfl] at harm
  | cancel =>
    have hcancel := through_cancel key key s
    rwa [comes, if_pos rfl] at hcancel
  | tick now =>
    have hclock : Through key s [] { s with clock := ⟨now⟩ } := .of_same rfl rfl
    exact hclock.append (through_tickWith hcall key _)

/-- **A run leads a registration through its visits.** -/
theorem through_serveAll (key depth : Nat) (s : Session) (requests : List Request) :
    Through key s (s.visitsAll depth key requests)
      (s.serveAll (callWithin depth) key requests) := by
  induction requests generalizing s with
  | nil => exact .refl key s
  | cons a requests ih => exact (through_serve (leads_callWithin key depth) s a).append (ih _)

/-- What is asked from outside is among the visits, in its order. -/
theorem requests_sublist (depth key : Nat) (s : Session) (requests : List Request) :
    requests.Sublist ((s.visitsAll depth key requests).map Visit.request) := by
  induction requests generalizing s with
  | nil => exact List.nil_sublist _
  | cons a requests ih =>
    have hown : [a].Sublist ((s.serveVisits (visitsWithin key depth) key a).map Visit.request) := by
      cases a with
      | arm => exact .refl _
      | cancel => exact .refl _
      | tick now => simp [serveVisits, tickVisits, comes]
    rw [visitsAll, List.map_append]
    exact hown.append (ih _)

end Session

end Cadence

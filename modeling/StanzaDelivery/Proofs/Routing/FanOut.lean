import StanzaDelivery.Proofs.Routing.Attempts

/-! A stanza that fans out to several sessions. Each of them fares as if it were the only one,
whatever becomes of the others: its inbox ends up the same, and its fault, if it has one, is the
same. A deliverer that notes its calls is called once for every session that is authenticated,
in the order of the sessions, and finds each of them as it was before. -/

namespace StanzaDelivery.Routing

open Registry Handover

variable {deliver : Deliverer} {stanza : Stanza} {site : Site} {ids : List SessionId}
  {id : SessionId} {s : Session}

def fanOut (deliver : Deliverer) (stanza : Stanza) (site : Site) (ids : List SessionId) :
    Report × Site :=
  Router.handToSessions deliver (Router.targets site ids) stanza site

/-- What becomes of a session to which a stanza is to be handed: the faults of it, of which there
is one unless the session takes the stanza, and the session afterwards. -/
inductive Tried (deliver : Deliverer) (stanza : Stanza) (s : Session) :
    List Fault → Session → Prop
  | spared (unfit : s.state ≠ .authenticated) : Tried deliver stanza s [notAuthenticated] s
  | accepted {after : Session} (fit : s.state = .authenticated)
      (answer : deliver stanza s = (.accepted, after)) : Tried deliver stanza s [] after
  | refused {fault : Fault} {after : Session} (fit : s.state = .authenticated)
      (answer : deliver stanza s = (.refused fault, after)) :
      Tried deliver stanza s [fault] after
  | crashed {after : Session} (fit : s.state = .authenticated)
      (answer : deliver stanza s = (.crashed, after)) :
      Tried deliver stanza s [handlerCrashed] after

theorem tried_attempt (deliver : Deliverer) (stanza : Stanza) (s : Session) :
    Tried deliver stanza s (attempt deliver stanza s.isAuthenticated s).1.toList
      (attempt deliver stanza s.isAuthenticated s).2 := by
  cases state : s.isAuthenticated with
  | false => exact .spared (of_decide_eq_false state)
  | true =>
    have fit : s.state = .authenticated := of_decide_eq_true state
    rcases answer : deliver stanza s with ⟨attempted, after⟩
    simp only [attempt, if_true, answer]
    cases attempted with
    | accepted => exact .accepted fit answer
    | refused fault => exact .refused fit answer
    | crashed => exact .crashed fit answer

theorem targets_ids (site : Site) (ids : List SessionId) :
    (Router.targets site ids).map (·.id) = ids := by
  rw [Router.targets, List.map_map]
  exact List.map_id ids

theorem faults_fanOut (distinct : ids.Nodup) :
    (fanOut deliver stanza site ids).1.faults =
      ids.filterMap fun id =>
        (targetOf site.registry id).fault? deliver stanza site.registry := by
  have apart : ((Router.targets site ids).map (·.id)).Nodup := by rwa [targets_ids]
  refine (attemptAll_fst deliver stanza apart site.registry).trans ?_
  rw [Router.targets, List.filterMap_map]
  rfl

theorem faults_fanOut_singleton (id : SessionId) :
    (fanOut deliver stanza site [id]).1.faults =
      ((targetOf site.registry id).fault? deliver stanza site.registry).toList := by
  rw [faults_fanOut (List.pairwise_singleton _ id), List.filterMap_eq_flatMap_toList,
    List.flatMap_singleton]

theorem session?_fanOut (distinct : ids.Nodup) (member : id ∈ ids)
    (known : site.registry.session? id = some s) :
    (fanOut deliver stanza site ids).2.registry.session? id =
      some (attempt deliver stanza s.isAuthenticated s).2 := by
  have apart : ((Router.targets site ids).map (·.id)).Nodup := by rwa [targets_ids]
  have aimed : targetOf site.registry id ∈ Router.targets site ids :=
    List.mem_map_of_mem member
  refine (session?_attemptAll_of_mem deliver stanza apart aimed site.registry).trans ?_
  simp only [targetOf, known]
  rfl

theorem session?_fanOut_of_notMem (other : id ∉ ids) :
    (fanOut deliver stanza site ids).2.registry.session? id = site.registry.session? id :=
  session?_attemptAll_of_notMem deliver stanza (by rwa [targets_ids]) site.registry

/-- A deliverer with a state of its own, which it takes from one call to the next. -/
abbrev Handler (σ : Type) := Stanza → Session → σ → (Attempt × Session) × σ

def attemptAllBy {σ : Type} (handler : Handler σ) (stanza : Stanza) :
    List Target → Registry → σ → (List Fault × Registry) × σ
  | [], r, state => (([], r), state)
  | target :: rest, r, state =>
    match r.session? target.id with
    | none => attemptAllBy handler stanza rest r state
    | some s =>
      if target.eligible then
        let ((attempted, after), state) := handler stanza s state
        let ((faults, r), state) :=
          attemptAllBy handler stanza rest (r.update target.id fun _ => after) state
        ((attempted.fault?.toList ++ faults, r), state)
      else
        let ((faults, r), state) := attemptAllBy handler stanza rest r state
        ((notAuthenticated :: faults, r), state)

def noting (deliver : Deliverer) : Handler (List (Stanza × Session)) :=
  fun stanza s calls => (deliver stanza s, calls ++ [(stanza, s)])

/-- The sessions of the targets that were authenticated when they were looked at. -/
def called (r : Registry) (targets : List Target) : List Session :=
  targets.filterMap fun target => if target.eligible then r.session? target.id else none

theorem attemptAllBy_noting (deliver : Deliverer) (stanza : Stanza) {targets : List Target}
    (distinct : (targets.map (·.id)).Nodup) (r : Registry) (calls : List (Stanza × Session)) :
    attemptAllBy (noting deliver) stanza targets r calls =
      (attemptAll deliver stanza targets r,
        calls ++ (called r targets).map fun s => (stanza, s)) := by
  induction targets generalizing r calls with
  | nil => simp [attemptAllBy, attemptAll, called]
  | cons target rest ih =>
    obtain ⟨apart, distinct⟩ := List.nodup_cons.1 distinct
    have others (change : Session → Session) :
        called (r.update target.id change) rest = called r rest := by
      apply List.filterMap_congr
      intro later member
      have other : target.id ≠ later.id := fun same =>
        apart (List.mem_map.2 ⟨later, member, same.symm⟩)
      simp [session?_update, other]
    cases known : r.session? target.id with
    | none =>
      simp [attemptAllBy, attemptAll, attemptTarget, act, called, known, ih distinct]
    | some s =>
      cases eligible : target.eligible with
      | false =>
        have spared := attemptTarget_of_ineligible deliver stanza known
        rw [← eligible] at spared
        simp [attemptAllBy, attemptAll, spared, called, known, eligible, ih distinct]
      | true =>
        simp only [attemptAllBy, known, eligible, if_true, noting, ih distinct, others]
        simp [attemptAll, attemptTarget, act, called, known, eligible, attempt]

theorem called_targets (site : Site) (ids : List SessionId) :
    called site.registry (Router.targets site ids) =
      (ids.filterMap site.registry.session?).filter Session.isAuthenticated := by
  rw [called, Router.targets, List.filterMap_map, List.filter_filterMap]
  apply List.filterMap_congr
  intro id _
  cases known : site.registry.session? id with
  | none => simp [targetOf, known]
  | some s => cases state : s.isAuthenticated <;> simp [targetOf, known, state, Option.filter]

/-- Whatever the deliverer does and however the sessions stand, a stanza for several sessions
counts as processed, and its faults are those of the sessions, one by one and in their order. Each
session is tried, and its fault and its state afterwards are those which it would have if it were
the only one; so they are also the same with another deliverer that agrees on this session. No
other session is touched, and nothing else of the site. The deliverer is called once for every
session that is authenticated. -/
theorem targets_are_independent (deliver : Deliverer) (stanza : Stanza) (site : Site)
    (distinct : ids.Nodup) :
    ((fanOut deliver stanza site ids).1.processed = true ∧
      (fanOut deliver stanza site ids).1.faults =
        ids.flatMap fun id => (fanOut deliver stanza site [id]).1.faults) ∧
    (∀ id ∈ ids, ∀ s, site.registry.session? id = some s → ∃ after,
      Tried deliver stanza s (fanOut deliver stanza site [id]).1.faults after ∧
        (fanOut deliver stanza site [id]).2.registry.session? id = some after ∧
        (fanOut deliver stanza site ids).2.registry.session? id = some after) ∧
    (∀ other : Deliverer, ∀ id ∈ ids, ∀ s, site.registry.session? id = some s →
      other stanza s = deliver stanza s →
        (fanOut other stanza site [id]).1.faults = (fanOut deliver stanza site [id]).1.faults ∧
        (fanOut other stanza site ids).2.registry.session? id =
          (fanOut deliver stanza site ids).2.registry.session? id) ∧
    (∀ id ∉ ids, (fanOut deliver stanza site ids).2.registry.session? id =
      site.registry.session? id) ∧
    (fanOut deliver stanza site ids).2 = { site with registry :=
      ⟨(fanOut deliver stanza site ids).2.registry.sessions, site.registry.directory⟩ } ∧
    attemptAllBy (noting deliver) stanza (Router.targets site ids) site.registry [] =
      (((fanOut deliver stanza site ids).1.faults, (fanOut deliver stanza site ids).2.registry),
        ((ids.filterMap site.registry.session?).filter Session.isAuthenticated).map
          fun s => (stanza, s)) := by
  have alone {deliver : Deliverer} {id : SessionId} {s : Session}
      (known : site.registry.session? id = some s) :
      (fanOut deliver stanza site [id]).1.faults =
        (attempt deliver stanza s.isAuthenticated s).1.toList := by
    rw [faults_fanOut_singleton, Target.fault?, targetOf, known]
    rfl
  have single (id : SessionId) : [id].Nodup := List.pairwise_singleton _ id
  refine ⟨⟨rfl, ?_⟩, ?_, ?_, fun id other => session?_fanOut_of_notMem other, ?_, ?_⟩
  · rw [faults_fanOut distinct, List.filterMap_eq_flatMap_toList]
    exact List.flatMap_congr fun id _ => (faults_fanOut_singleton id).symm
  · intro id member s known
    refine ⟨_, ?_, session?_fanOut (single id) (List.mem_singleton_self id) known,
      session?_fanOut distinct member known⟩
    rw [alone known]
    exact tried_attempt deliver stanza s
  · intro other id member s known same
    have attempts : attempt other stanza s.isAuthenticated s =
        attempt deliver stanza s.isAuthenticated s := by
      rw [attempt, attempt, same]
    rw [alone known, alone known, session?_fanOut distinct member known,
      session?_fanOut distinct member known, attempts]
    exact ⟨rfl, rfl⟩
  · have kept : (fanOut deliver stanza site ids).2.registry.directory = site.registry.directory :=
      directory_attemptAll deliver stanza (Router.targets site ids) site.registry
    rw [← kept]
    rfl
  · have apart : ((Router.targets site ids).map (·.id)).Nodup := by rwa [targets_ids]
    rw [attemptAllBy_noting deliver stanza apart, called_targets]
    rfl

theorem targets_are_independent_beside_failures :
    ∃ (deliver : Deliverer) (stanza : Stanza) (site : Site) (ids : List SessionId),
      ids.Nodup ∧ (fanOut deliver stanza site ids).1.processed = true ∧
      (fanOut deliver stanza site ids).1.faults.map Fault.message =
        ["Delivery failed: outbound channel closed for a@b/left",
          "Delivery failed: session handler panicked",
          "Delivery failed: no relay to non-authenticated session",
          "Delivery failed: outbound channel full for a@b/full"] ∧
      ((fanOut deliver stanza site ids).2.registry.session? 4).map Session.inbox =
        some [stanza] := by
  -- Of five sessions one has hung up, the deliverer crashes on one, one is not authenticated, and
  -- one has no room left; the stanza reaches the one between them all the same.
  let session (name : String) (state : SessionState) (priority : Int8) (capacity : Nat)
      (connected : Bool) : Session :=
    ⟨⟨⟨some "a", "b"⟩, name⟩, state, priority, capacity, connected, []⟩
  let stanza : Stanza := .message ⟨.chat, none, none, none, none, none⟩
  let sessions : List Session :=
    [session "crashing" .authenticated 1 1 true, session "new" .encrypted 0 1 true,
      session "full" .authenticated 0 0 true, session "left" .authenticated 0 1 false,
      session "fit" .authenticated 0 1 true]
  let site : Site := ⟨⟨sessions, []⟩, ⟨[], none⟩, .empty 0, .empty 0, false, .empty⟩
  have distinct : [3, 0, 4, 1, 2].Nodup := by decide
  obtain ⟨⟨processed, faults⟩, each, _⟩ :=
    targets_are_independent crashingAboveZero stanza site distinct
  refine ⟨crashingAboveZero, stanza, site, _, distinct, processed, ?_, ?_⟩
  · rw [faults]
    decide
  · obtain ⟨after, tried, _, last⟩ := each 4 (by decide) _ rfl
    rw [last]
    cases tried with
    | accepted fit answer =>
      cases answer
      rfl

end StanzaDelivery.Routing

import StanzaDelivery.Proofs.Engine.Settling
import StanzaDelivery.Proofs.Routing.Locality

/-! Accounts do not get each other's stanzas. A task that is carried out puts its stanza at
most once into an inbox, and only into inboxes of sessions bound under the account that it
was relayed to. Sessions may be replaced while a task waits; its targets are sessions and not
addresses, and a session never moves to another address. -/

namespace StanzaDelivery.Engine

open Registry Handover Routing

variable {history : List Event} {e next : Engine} {events : List Event}

theorem registry_routed (e : Engine) (job : Job) :
    (e.routed job).2.registry =
      (attemptAll e.deliverer job.task.stanza (e.targetsFor job) e.site.registry).2 := by
  cases job with
  | held task targets => rfl
  | fresh task =>
    rw [routed, targetsFor, Router.resolve]
    cases e.router.policy.aim e.site.registry task.address task.stanza with
    | sessions ids => rfl
    | nowhere => rfl
    | refused fault => rfl
    | component domain => exact registry_handToComponent ..
    | nobody => exact registry_handleOffline ..

theorem routed_attempted {job : Job} (some : e.targetsFor job ≠ []) :
    (e.routed job).1 = .reported (.attempted
      (attemptAll e.deliverer job.task.stanza (e.targetsFor job) e.site.registry).1) := by
  cases job with
  | held task targets => rfl
  | fresh task =>
    rw [targetsFor] at some
    rw [routed, targetsFor, Router.resolve]
    cases aim : e.router.policy.aim e.site.registry task.address task.stanza with
    | sessions ids => rfl
    | nowhere => simp [aim] at some
    | refused fault => simp [aim] at some
    | component domain => simp [aim] at some
    | nobody => simp [aim] at some

theorem Turned.registry (turned : e.Turned next events) :
    next.site.registry = e.site.registry ∨
      ∃ pool job, job ∈ e.pool.unfinished ∧ events = (e.taking pool).workEvents job ∧
        next.site.registry =
          (attemptAll e.deliverer job.task.stanza (e.targetsFor job) e.site.registry).2 := by
  cases turned with
  | quiet pool turned => exact .inl rfl
  | waiting pool job began turned waits => exact .inl rfl
  | ending pool job began turned free =>
    have registry := (kept_concluded (e.taking pool) job).registry
    refine .inr ⟨pool, job, turned.unfinished_perm.symm.subset (List.mem_cons_self ..), rfl, ?_⟩
    exact registry.trans (registry_routed (e.taking pool) job)

theorem Turned.changed (turned : e.Turned next events) (handing : e.deliverer = handoff) :
    e.site.registry.Changed next.site.registry := by
  rcases turned.registry with same | ⟨_, job, _, _, attempted⟩
  · rw [same]
    exact .none
  · rw [attempted, handing]
    exact changed_attemptAll address_handoff ..

def Event.arrivals (id : SessionId) : Event → List Stanza
  | .executed x => x.arrivals id
  | _ => []

theorem arrivals_workEvents (e : Engine) (job : Job) (id : SessionId) :
    (e.workEvents job).flatMap (Event.arrivals id) = (e.execution job).arrivals id := by
  have silent : ((e.deedsFor job).filterMap (replied? job.task)).flatMap (Event.arrivals id) =
      [] := by
    apply List.flatMap_eq_nil_iff.2
    intro event member
    obtain ⟨destination, reply, answer, _, rfl⟩ := eq_replied_of_mem member
    rfl
  rw [workEvents, List.flatMap_cons, silent, List.append_nil]
  rfl

theorem arrivals_eq_nil_or {p : RoutingPolicy} {job : Job} {address : Address}
    (handing : e.deliverer = handoff)
    (targeted : Targeted p e.site.registry address (e.targetsFor job)) (id : SessionId) :
    (e.routed job).2.registry.inbox id =
        e.site.registry.inbox id ++ (e.execution job).arrivals id ∧
      ((e.execution job).arrivals id = [] ∨
        (e.execution job).arrivals id = [job.task.stanza] ∧
          address.domain = p.localDomain ∧
          ∃ s, e.site.registry.session? id = some s ∧
            s.address.isUnder address.bare = true) := by
  have reached := inbox_attemptAll job.task.stanza targeted.distinct e.site.registry id
  rw [← handing, ← registry_routed] at reached
  have added : (e.execution job).arrivals id =
      ((e.routed job).2.registry.inbox id).drop (e.site.registry.inbox id).length := rfl
  rw [added]
  rcases reached with same | ⟨grown, aimed⟩
  · rw [same]
    simp
  · rw [grown]
    obtain ⟨target, member, rfl⟩ := List.mem_map.1 aimed
    have bound := targeted.bound target member
    simpa [targeted.domain target member] using bound

/-- The stanza of the task went only into inboxes under the task's account, and into each of
them at most once. -/
def Confined (p : RoutingPolicy) (r : Registry) (x : Execution) : Prop :=
  ∀ id, x.arrivals id = [] ∨
    x.arrivals id = [x.task.stanza] ∧ x.task.address.domain = p.localDomain ∧
      ∃ s, r.session? id = some s ∧ s.address.isUnder x.task.address.bare = true

theorem Confined.changed {p : RoutingPolicy} {r q : Registry} {x : Execution}
    (confined : Confined p r x) (changed : r.Changed q) : Confined p q x := by
  intro id
  rcases confined id with nothing | ⟨once, domain, s, known, under⟩
  · exact .inl nothing
  · obtain ⟨now, there, same⟩ := changed.address known
    exact .inr ⟨once, domain, now, there, by rw [same, under]⟩

structure Isolated (history : List Event) (e : Engine) : Prop where
  built : e.site.registry.Built
  held : ∀ task targets, .held task targets ∈ e.pool.unfinished →
    Targeted e.router.policy e.site.registry task.address targets
  executed : ∀ x, .executed x ∈ history → Confined e.router.policy e.site.registry x

theorem Isolated.targeted (isolated : Isolated history e) {job : Job}
    (there : job ∈ e.pool.unfinished) :
    Targeted e.router.policy e.site.registry job.task.address (e.targetsFor job) := by
  cases job with
  | held task targets => exact isolated.held task targets there
  | fresh task =>
    rw [targetsFor]
    split
    next ids aim => exact targeted_aim isolated.built.consistent aim
    next => exact targeted_nil

theorem Isolated.turned (isolated : Isolated history e) (turned : e.Turned next events)
    (handing : e.deliverer = handoff) : Isolated (history ++ events) next := by
  have changed := turned.changed handing
  have router := turned.lasting.router
  refine ⟨changed.built isolated.built, ?_, ?_⟩
  · intro task targets member
    rw [router]
    apply Targeted.changed _ changed
    rcases turned.mem_unfinished member with
      before | ⟨_, _, _, _, reply⟩ | ⟨before, there, _, same⟩
    · exact isolated.held task targets before
    · cases reply
    · cases same
      exact isolated.targeted there
  · intro x member
    rw [router]
    apply Confined.changed _ changed
    rcases List.mem_append.1 member with before | new
    · exact isolated.executed x before
    · obtain ⟨pool, job, there, _, same | ⟨_, _, _, _, same⟩⟩ := turned.mem_events new
      · cases same
        intro id
        have targeted : Targeted _ _ _ ((e.taking pool).targetsFor job) :=
          isolated.targeted there
        exact (arrivals_eq_nil_or handing targeted id).2
      · cases same

theorem Isolated.changed {after : Engine} {later : List Event} (isolated : Isolated history e)
    (router : after.router = e.router)
    (changed : e.site.registry.Changed after.site.registry)
    (held : ∀ task targets, .held task targets ∈ after.pool.unfinished →
      .held task targets ∈ e.pool.unfinished)
    (executed : ∀ x, .executed x ∈ later → .executed x ∈ history) : Isolated later after := by
  refine ⟨changed.built isolated.built, ?_, ?_⟩
  · intro task targets member
    rw [router]
    exact (isolated.held task targets (held task targets member)).changed changed
  · intro x member
    rw [router]
    exact (isolated.executed x (executed x member)).changed changed

theorem Isolated.relayed {after : Engine} {task : Task} {admission : Option Pool.Admission}
    (isolated : Isolated history e) (relayed : e.Relayed task admission after) :
    Isolated (history ++ [.asked task admission]) after := by
  obtain ⟨router, _, site⟩ := relayed.equipment
  exact isolated.changed router (by rw [site]; exact .none)
    (fun _ _ member => relayed.held_before member) fun _ member => executed_before_asked member

theorem Reached.isolated (reached : Reached history e) (handing : e.deliverer = handoff) :
    Isolated history e := by
  induction reached with
  | new router deliverer gate keepsCopies keepsLog site launched built =>
    obtain ⟨_, rfl⟩ := launched_eq launched
    exact ⟨built, fun _ _ member => absurd member List.not_mem_nil,
      fun _ member => absurd member List.not_mem_nil⟩
  | @relay history e address stanza escalation before ih =>
    have relayed := e.relayed_relay address stanza escalation
    rw [relayed.equipment.2.1] at handing
    exact (ih handing).relayed relayed
  | turn before turn ih =>
    have turned := turned_of_turn turn
    rw [turned.lasting.deliverer] at handing
    exact (ih handing).turned turned handing
  | outside before outside ih =>
    have still := outside.still
    rw [still.deliverer] at handing
    exact (ih handing).changed still.router still.registry
      (fun _ _ member => still.unfinished.subset member) fun _ executed => executed

def Event.isFor (address : FullAddress) : Event → Bool
  | .executed x => address.isUnder x.task.address.bare
  | _ => false

theorem length_arrivals_le {id : SessionId} {address : FullAddress}
    (each : ∀ event ∈ events,
      (event.arrivals id).length ≤ if event.isFor address then 1 else 0) :
    (events.flatMap (Event.arrivals id)).length ≤ events.countP (Event.isFor address) := by
  induction events with
  | nil => exact Nat.le_refl _
  | cons event rest ih =>
    obtain ⟨first, others⟩ := List.forall_mem_cons.1 each
    have more := ih others
    rw [List.flatMap_cons, List.length_append, List.countP_cons]
    omega

theorem Isolated.inbox_turn (isolated : Isolated history e) (turned : e.Turned next events)
    (handing : e.deliverer = handoff) (id : SessionId) :
    next.site.registry.inbox id =
      e.site.registry.inbox id ++ events.flatMap (Event.arrivals id) := by
  cases turned with
  | quiet pool turned => simp
  | waiting pool job began turned waits =>
    rw [List.flatMap_nil, List.append_nil]
    rfl
  | ending pool job began turned free =>
    have there : job ∈ e.pool.unfinished :=
      turned.unfinished_perm.symm.subset (List.mem_cons_self ..)
    have targeted : Targeted _ _ _ ((e.taking pool).targetsFor job) := isolated.targeted there
    have registry : ((e.taking pool).concluded job).retire.site.registry =
        ((e.taking pool).routed job).2.registry := (kept_concluded (e.taking pool) job).registry
    rw [arrivals_workEvents, registry]
    exact (arrivals_eq_nil_or handing targeted id).1

/-- Whatever happens to an engine that hands off, only turns put stanzas into inboxes, and
every task that is carried out puts its stanza at most once into an inbox, if its destination
is of the local domain and the session is bound under the destination's account; which is
then the session's own account, unless separators stand inside the parts of an address. So
a session gets no more stanzas than there were tasks for accounts that it is bound under. -/
theorem copies_stay_in_account (reached : Reached history e) (handing : e.deliverer = handoff) :
    (∀ next, e.turn = some next → ∀ id, next.site.registry.inbox id =
      e.site.registry.inbox id ++ e.turnEvents.flatMap (Event.arrivals id)) ∧
    (∀ address stanza escalation,
      (e.relay address stanza escalation).2.site.registry = e.site.registry) ∧
    (∀ x, .executed x ∈ history → ∀ id, x.arrivals id = [] ∨
      x.arrivals id = [x.task.stanza] ∧
      x.task.address.domain = e.router.policy.localDomain ∧
      ∃ s, e.site.registry.session? id = some s ∧
        s.address.isUnder x.task.address.bare = true ∧
        (s.address.bare.Plain → x.task.address.bare.Plain →
          s.address.bare = x.task.address.bare)) ∧
    ∀ id s, e.site.registry.session? id = some s →
      (history.flatMap (Event.arrivals id)).length ≤ history.countP (Event.isFor s.address) := by
  have isolated := reached.isolated handing
  refine ⟨?_, ?_, ?_, ?_⟩
  · intro next turn id
    exact isolated.inbox_turn (turned_of_turn turn) handing id
  · intro address stanza escalation
    rw [(e.relayed_relay address stanza escalation).equipment.2.2]
  · intro x executed id
    rcases isolated.executed x executed id with nothing | ⟨once, domain, s, known, under⟩
    · exact .inl nothing
    · exact .inr ⟨once, domain, s, known, under, fun own plain =>
        own.bare_eq_of_isUnder plain under⟩
  · intro id s known
    apply length_arrivals_le
    intro event member
    cases event with
    | executed x =>
      rcases isolated.executed x member id with nothing | ⟨once, _, found, there, under⟩
      · simp [Event.arrivals, nothing]
      · rw [known] at there
        cases there
        simp [Event.arrivals, once, Event.isFor, under]
    | asked task answer => exact Nat.zero_le _
    | replied cause destination reply answer => exact Nat.zero_le _

theorem copies_stay_in_account_of_carol :
    ∃ history e s, Reached history e ∧ e.deliverer = handoff ∧
      e.site.registry.session? 0 = some s ∧
      (history.flatMap (Event.arrivals 0)).length = 1 ∧
      history.countP (Event.isFor s.address) = 1 := by
  -- A message for an account with one session, which then has one copy.
  let carol : BareAddress := ⟨some "carol", "waddle.social"⟩
  let phone : Session := ⟨⟨carol, "phone"⟩, .authenticated, 3, 1, true, []⟩
  let stanza : Stanza := .message ⟨.chat, none, none, none, none, none⟩
  let router : Router := ⟨⟨"waddle.social", false⟩, false, false⟩
  let registry : Registry := (Registry.empty.register phone).2
  let site : Site := ⟨registry, ⟨[], none⟩, .empty 0, .empty 0, false, .empty⟩
  let settings : Pool.Settings := ⟨1, 2, 1, 60000⟩
  let e : Engine := empty router handoff none false false site (.empty settings)
  let asking : Engine := (e.relay carol.toAddress stanza (.single .ignore)).2
  have launched : Pool.launch true settings = .launched (.empty settings : Pool Job) := rfl
  have new : Reached [] e :=
    .new router _ none false false site launched (.register phone .empty)
  have busy : asking.turn.isSome = true := by decide +kernel
  have turn := turn_eq_run_one busy
  have reached := (new.relay carol.toAddress stanza (.single .ignore)).turn turn
  have handing : (run 1 asking).deliverer = handoff := (turned_of_turn turn).lasting.deliverer
  have known : (run 1 asking).site.registry.session? 0 = some (phone.put stanza) := by
    decide +kernel
  obtain ⟨_, _, _, few⟩ := copies_stay_in_account reached handing
  refine ⟨_, _, _, reached, handing, known, by decide +kernel, ?_⟩
  refine Nat.le_antisymm ?_ (Nat.le_trans ?_ (few 0 _ known))
  · decide +kernel
  · decide +kernel

/-- The domain of a session is written like another domain and the begin of a resource. A
message for that other domain's resource gets to the session. -/
theorem copies_leave_account :
    ∃ history e x s, Reached history e ∧ e.deliverer = handoff ∧ .executed x ∈ history ∧
      FullAddress.read "℀/x" = .ok s.address ∧ Address.read "a/c/x" = .ok x.task.address ∧
      e.site.registry.session? 0 = some s ∧ x.arrivals 0 = [x.task.stanza] ∧
      s.address.bare.text ≠ x.task.address.bare.text ∧
      x.task.address.domain = e.router.policy.localDomain ∧
      s.address.bare.domain ≠ e.router.policy.localDomain := by
  let session : Session := ⟨⟨⟨none, "a/c"⟩, "x"⟩, .authenticated, 1, 16, true, []⟩
  let stanza : Stanza := .message ⟨.chat, none, none, none, none, none⟩
  let router : Router := ⟨⟨"a", false⟩, false, false⟩
  let registry : Registry := (Registry.empty.register session).2
  let site : Site := ⟨registry, ⟨[], none⟩, .empty 0, .empty 0, false, .empty⟩
  let settings : Pool.Settings := ⟨1, 2, 1, 60000⟩
  let e : Engine := empty router handoff none false false site (.empty settings)
  let task : Task := ⟨⟨⟨none, "a"⟩, some "c/x"⟩, stanza, .single .ignore, some 0⟩
  let asking : Engine := (e.relay task.address stanza task.escalation).2
  have launched : Pool.launch true settings = .launched (.empty settings : Pool Job) := rfl
  have new : Reached [] e :=
    .new router _ none false false site launched (.register session .empty)
  have busy : asking.turn.isSome = true := by decide +kernel
  have turn := turn_eq_run_one busy
  have reached := (new.relay task.address stanza task.escalation).turn turn
  have taken : asking.pool.turn =
      some (Pool.begin { asking.pool with ready := [] }, some (.fresh task)) := rfl
  refine ⟨_, run 1 asking, _, session.put stanza, reached, (turned_of_turn turn).lasting.deliverer,
    List.mem_append_right _ (executed_mem_turnEvents taken rfl), ?_, ?_, ?_, ?_, ?_, ?_, ?_⟩
  · decide +kernel
  · decide +kernel
  · decide +kernel
  · decide +kernel
  · decide +kernel
  · decide +kernel
  · decide +kernel

end StanzaDelivery.Engine

import StanzaDelivery.Proofs.Engine.Isolation
import StanzaDelivery.Proofs.Engine.Offers
import StanzaDelivery.Proofs.Routing.Resources

/-! Bounces, from the fault to the inbox of the sender. A bounce is two tasks: the one that had
faults, whose escalation offers a reply to the pool, and the reply, which is a job like any
other once the pool has taken it on. So the job is followed from move to move: it stays where it
is, or it comes to wait at the gate with the sessions that it has found, or it is carried out. -/

namespace StanzaDelivery.Engine

open scoped List
open Registry Handover Routing

variable {e next last : Engine} {events : List Event} {offers : List Offer} {stages : List Stage}

theorem offersIn_bounce {task : Task} (bounces : task.escalation = .single .bounce)
    (resolution : Resolution) (e : Engine) :
    offersIn task resolution e =
      ((Bounce.reply? task.stanza resolution.faults).map fun found =>
        (facing task resolution e).offering (replyTask found.1 found.2)).toList := by
  have nothing : Bounce.reply? task.stanza [] = none := by
    rw [Bounce.reply?, Bounce.cause?, List.find?_nil]
    cases task.stanza.isErrorOrResponse <;> cases task.stanza.sender <;> rfl
  cases resolution with
  | discarded => rw [Resolution.faults, nothing]; rfl
  | crashed => rw [Resolution.faults, nothing]; rfl
  | reported report =>
    rw [offersIn, facing, Resolution.faults]
    split
    · rw [bounces, Escalation.tryAll, Escalation.tryRemedy, Escalation.bounce]
      cases Bounce.reply? task.stanza report.faults <;> rfl
    next clean =>
      have none : report.faults = [] := by simpa [Report.hasFaults] using clean
      rw [none, nothing]
      rfl

theorem Moved.equipment (moved : e.Moved next events offers) :
    next.router = e.router ∧ next.deliverer = e.deliverer := by
  cases moved with
  | relayed task answer relayed => exact ⟨relayed.equipment.1, relayed.equipment.2.1⟩
  | quiet pool turned => exact ⟨rfl, rfl⟩
  | waiting pool job began turned waits => exact ⟨rfl, rfl⟩
  | ending pool job began turned free =>
    have kept := kept_concluded (e.taking pool) job
    exact ⟨kept.router, kept.deliverer⟩
  | outside outside => exact ⟨outside.still.router, outside.still.deliverer⟩

theorem Path.equipment (path : Path e stages last) :
    last.router = e.router ∧ last.deliverer = e.deliverer := by
  induction path with
  | rest e => exact ⟨rfl, rfl⟩
  | move move path ih =>
    exact ⟨ih.1.trans move.moved.equipment.1, ih.2.trans move.moved.equipment.2⟩

def OpenWhileRunning (e : Engine) : Prop := e.running = true → e.pool.closed = false

theorem New.openWhileRunning (new : New e) : OpenWhileRunning e := by
  obtain ⟨_, _, settings, pool⟩ := new.blank
  intro _
  rw [pool]
  rfl

structure Halted (e : Engine) : Prop where
  running : e.running = false
  closed : e.pool.closed = true

theorem halted_stop (e : Engine) : e.stop.Halted := ⟨rfl, Pool.closed_wake _⟩

theorem Outside.flags {after : Engine} (outside : e.Outside after) :
    after.running = e.running ∧ after.pool.closed = e.pool.closed ∨ after.Halted := by
  cases outside with
  | takeOutcome handle =>
    unfold Engine.takeOutcome
    split <;> exact .inl ⟨rfl, rfl⟩
  | pass ms => exact .inl ⟨rfl, by rw [Pool.pass_eq]⟩
  | setMaxWorkers n set =>
    obtain ⟨_, rfl⟩ := (Pool.setMaxWorkers_eq_ok_iff e.pool _ n).1 set
    exact .inl ⟨rfl, rfl⟩
  | stop => exact .inr e.halted_stop
  | furnish site changed => exact .inl ⟨rfl, rfl⟩
  | shut => exact .inl ⟨rfl, rfl⟩
  | unlock => exact .inl ⟨rfl, rfl⟩
  | setKeepAlive ms => exact .inl ⟨rfl, rfl⟩
  | throughput => exact .inl ⟨rfl, rfl⟩

theorem Moved.flags (moved : e.Moved next events offers) :
    next.running = e.running ∧ next.pool.closed = e.pool.closed ∨ next.Halted := by
  cases moved with
  | relayed task answer relayed =>
    cases relayed with
    | refused stopped => exact .inl ⟨rfl, rfl⟩
    | answered admission pool running submitted => exact .inl ⟨rfl, submitted.kept.2.1⟩
  | quiet pool turned => exact .inl ⟨rfl, turned.kept.2.1⟩
  | waiting pool job began turned waits => exact .inl ⟨rfl, turned.kept.2.1⟩
  | ending pool job began turned free =>
    refine .inl ⟨(kept_concluded (e.taking pool) job).running, ?_⟩
    have closed := (intake_concluded_offers (e.taking pool) job).kept.2.2.1
    change ((e.taking pool).concluded job).pool.finish.closed = _
    rw [Pool.finish_eq]
    exact closed.trans turned.kept.2.1
  | outside outside => exact outside.flags

theorem Moved.openWhileRunning (moved : e.Moved next events offers) (before : OpenWhileRunning e) :
    OpenWhileRunning next := by
  intro runs
  rcases moved.flags with ⟨running, closed⟩ | halted
  · exact closed.trans (before (running.symm.trans runs))
  · exact nomatch halted.running.symm.trans runs

theorem Path.openWhileRunning (path : Path e stages last) (before : OpenWhileRunning e) :
    OpenWhileRunning last := by
  induction path with
  | rest e => exact before
  | move move path ih => exact ih (move.moved.openWhileRunning before)

theorem Moved.fate (moved : e.Moved next events offers) {job : Job}
    (there : job ∈ e.pool.unfinished) :
    job ∈ next.pool.unfinished ∨
      (∃ pool, .executed ((e.taking pool).execution job) ∈ events) ∨
      e.waits job = true ∧ .held job.task (e.targetsFor job) ∈ next.pool.unfinished := by
  cases moved with
  | relayed task answer relayed =>
    rcases relayed.unfinished_perm with same | ⟨_, _, _, parts⟩
    · exact .inl (same.symm.subset there)
    · exact .inl (parts.symm.subset (List.mem_cons_of_mem _ there))
  | quiet pool turned => exact .inl (turned.unfinished_perm.subset there)
  | waiting pool other began turned waits =>
    have parts := unfinished_waiting turned (.held other.task (e.targetsFor other))
    rcases List.mem_cons.1 (parts.symm.subset (List.mem_cons_of_mem _ there)) with rfl | stays
    · refine .inr (.inr ⟨waits, ?_⟩)
      rw [Pool.unfinished_suspend]
      exact List.mem_append_right _ (List.mem_singleton_self _)
    · exact .inl stays
  | ending pool other began turned free =>
    have parts := ending_perm turned (intake_concluded_offers (e.taking pool) other)
    rcases List.mem_cons.1 (parts.symm.subset (List.mem_append_right _ there)) with rfl | stays
    · exact .inr (.inl ⟨pool, List.mem_cons_self ..⟩)
    · exact .inl stays
  | outside outside => exact .inl (outside.still.unfinished.symm.subset there)

theorem Path.carriesOut_held (path : Path e stages last) {task : Task} {targets : List Target}
    (there : .held task targets ∈ e.pool.unfinished) (finished : last.pool.unfinished = []) :
    ∃ ran ∈ stages, ∃ pool,
      .executed ((ran.engine.taking pool).execution (.held task targets)) ∈ ran.events := by
  induction path with
  | rest e =>
    rw [finished] at there
    cases there
  | move move path ih =>
    rcases move.moved.fate there with stays | ⟨pool, done⟩ | ⟨waits, _⟩
    · obtain ⟨ran, member, done⟩ := ih stays finished
      exact ⟨ran, List.mem_cons_of_mem _ member, done⟩
    · exact ⟨_, List.mem_cons_self .., pool, done⟩
    · cases waits

theorem Path.carriesOut (path : Path e stages last) {task : Task}
    (there : .fresh task ∈ e.pool.unfinished) (finished : last.pool.unfinished = []) :
    ∃ found ∈ stages, ∃ ran ∈ stages, ∃ pool job, job.task = task ∧
      ran.engine.targetsFor job = found.engine.targetsFor (.fresh task) ∧
      (found = ran ∨ found.engine.waits (.fresh task) = true) ∧
      .executed ((ran.engine.taking pool).execution job) ∈ ran.events := by
  induction path with
  | rest e =>
    rw [finished] at there
    cases there
  | move move path ih =>
    rcases move.moved.fate there with stays | ⟨pool, done⟩ | ⟨waits, held⟩
    · obtain ⟨found, first, ran, second, done⟩ := ih stays finished
      exact ⟨found, List.mem_cons_of_mem _ first, ran, List.mem_cons_of_mem _ second, done⟩
    · exact ⟨_, List.mem_cons_self .., _, List.mem_cons_self .., pool, .fresh task, rfl, rfl,
        .inl rfl, done⟩
    · obtain ⟨ran, member, pool, done⟩ := path.carriesOut_held held finished
      exact ⟨_, List.mem_cons_self .., ran, List.mem_cons_of_mem _ member, pool, _, rfl, rfl,
        .inr waits, done⟩

/-- A task for a full address that found the session bound there puts its stanza into the inbox
of that session, if the session can still take it, and into no other. -/
def ReachesOnly (full : FullAddress) (found ran : Engine) (x : Execution) : Prop :=
  ∀ entry, Bound found.site.registry full entry → 0 ≤ entry.session.priority →
    entry.session.isAuthenticated = true →
    (∀ s, ran.site.registry.session? entry.id = some s → s.isAuthenticated = true →
      s.connected = true → s.hasRoom = true → x.arrivals entry.id = [x.task.stanza]) ∧
    ∀ id, id ≠ entry.id → x.arrivals id = []

theorem targetsFor_bound (consistent : e.site.registry.Consistent) {full : FullAddress}
    {task : Task} {entry : Entry} (destination : task.address = full.toAddress)
    (here : full.bare.domain = e.router.policy.localDomain)
    (single : task.stanza.messageType ≠ some .groupchat)
    (bound : Bound e.site.registry full entry) (enough : 0 ≤ entry.session.priority)
    (authenticated : entry.session.isAuthenticated = true) :
    e.targetsFor (.fresh task) = [⟨entry.id, true⟩] := by
  have here : full.toAddress.domain = e.router.policy.localDomain := here
  have only : chosen e.router.policy e.site.registry full.toAddress task.stanza = [entry] :=
    chosen_of_bound consistent here single bound enough
  have aim : e.router.policy.aim e.site.registry task.address task.stanza =
      .sessions [entry.id] := by
    rw [destination, aim_eq_ofEntries here single (not_dropped_full _ full task.stanza), only]
    rfl
  have known := (mem_entries.1 bound.1).2
  simp [targetsFor, aim, Router.targets, targetOf, known, authenticated]

theorem arrivals_of_single (handing : e.deliverer = handoff) {job : Job} {id : SessionId}
    (targets : e.targetsFor job = [⟨id, true⟩]) :
    (∀ s, e.site.registry.session? id = some s → takes s = true →
      (e.execution job).arrivals id = [job.task.stanza]) ∧
    ∀ other, other ≠ id → (e.execution job).arrivals other = [] := by
  have after := registry_routed e job
  rw [handing, targets] at after
  have added (other : SessionId) : (e.execution job).arrivals other =
      ((e.routed job).2.registry.inbox other).drop (e.site.registry.inbox other).length := rfl
  constructor
  · intro s known able
    have distinct : ([⟨id, true⟩].map fun target : Target => target.id).Nodup :=
      List.pairwise_singleton _ id
    have put := session?_attemptAll_of_mem handoff job.task.stanza distinct
      (List.mem_singleton_self _) e.site.registry
    rw [known, Option.map_some, attempt_handoff_snd, able, ← after] at put
    rw [added, inbox_of_session? put, inbox_of_session? known]
    exact List.drop_left
  · intro other apart
    have outside : other ∉ [⟨id, true⟩].map fun target : Target => target.id := by
      simpa using apart
    have spared := session?_attemptAll_of_notMem handoff job.task.stanza outside e.site.registry
    rw [added, after, inbox_congr spared, List.drop_length]

theorem Path.reply_reaches {start : Engine} {before : List Stage}
    (path : Path e stages last) (new : New start) (earlier : Path start before e)
    (handing : last.deliverer = handoff)
    {sender : FullAddress} {reply : Stanza}
    (there : .fresh (replyTask sender.toAddress reply) ∈ e.pool.unfinished)
    (finished : last.pool.unfinished = [])
    (here : sender.bare.domain = last.router.policy.localDomain)
    (answer : reply.isErrorOrResponse = true) :
    ∃ found ∈ stages, ∃ ran ∈ stages, ∃ y, .executed y ∈ ran.events ∧
      y.task = replyTask sender.toAddress reply ∧
      (found = ran ∨ found.engine.gate = some false) ∧
      ReachesOnly sender found.engine ran.engine y := by
  obtain ⟨found, first, ran, second, pool, job, task, targets, place, done⟩ :=
    path.carriesOut there finished
  refine ⟨found, first, ran, second, _, done, task, place.imp_right mustWait_eq_true, ?_⟩
  intro entry bound enough authenticated
  obtain ⟨_, _, toFound, fromFound⟩ := path.at_stage first
  obtain ⟨_, _, _, fromRan⟩ := path.at_stage second
  have handingFound := fromFound.equipment.2.symm.trans handing
  have handingRan := fromRan.equipment.2.symm.trans handing
  have isolated := ((earlier.append toFound).reached new.reached).isolated handingFound
  rw [fromFound.equipment.1] at here
  rw [targetsFor_bound isolated.built.consistent rfl here
    (messageType_ne_groupchat_of_answer answer) bound enough authenticated] at targets
  obtain ⟨put, others⟩ := arrivals_of_single (e := ran.engine.taking pool) handingRan targets
  refine ⟨?_, others⟩
  intro s known live connected room
  refine put s known ?_
  rw [takes, live, connected, room]
  rfl

theorem New.unfinished (new : New e) : e.pool.unfinished = [] := by
  obtain ⟨_, _, settings, pool⟩ := new.blank
  rw [pool]
  rfl

theorem offersFor_bounce (e : Engine) (job : Job)
    (bounces : job.task.escalation = .single .bounce)
    (question : job.task.stanza.isErrorOrResponse = false) {sender : Address}
    (from_ : job.task.stanza.sender = some sender) :
    ∃ f : Engine, f.running = e.running ∧ f.pool = e.pool ∧
      e.offersFor job = ((Bounce.cause? (e.execution job).resolution.faults).map fun fault =>
        f.offering (replyTask sender
          (Bounce.reply job.task.stanza sender (Bounce.errorOf fault)))).toList := by
  obtain ⟨kept, pool⟩ :=
    facing_kept job.task (e.routed job).1 { e with site := (e.routed job).2 }
  refine ⟨_, kept.running, pool, ?_⟩
  rw [offersFor, offersIn_bounce bounces, Bounce.reply?_of_question question from_,
    Option.map_map]
  rfl

theorem Moved.bounce (moved : e.Moved next events offers) (opened : OpenWhileRunning e)
    {x : Execution} (done : .executed x ∈ events) (bounces : x.task.escalation = .single .bounce)
    (question : x.task.stanza.isErrorOrResponse = false) {sender : Address}
    (from_ : x.task.stanza.sender = some sender) :
    (Bounce.cause? x.resolution.faults = none → events = [.executed x] ∧ offers = []) ∧
    ∀ cause, Bounce.cause? x.resolution.faults = some cause →
      let task := replyTask sender (Bounce.reply x.task.stanza sender (Bounce.errorOf cause))
      ∃ answer, offers = [⟨task, answer⟩] ∧ (e.running = true → answer.isSome = true) ∧
        ∀ admission, answer = some admission → admission ≠ .rejected →
          .fresh task ∈ next.pool.unfinished := by
  cases moved with
  | relayed task answer relayed => cases List.mem_singleton.1 done
  | quiet pool turned => cases done
  | waiting pool job began turned waits => cases done
  | outside outside => cases done
  | ending pool job began turned free =>
    have only := mem_executions.2 done
    rw [executions_workEvents, List.mem_singleton] at only
    subst only
    obtain ⟨f, running, inHand, offered⟩ :=
      offersFor_bounce (e.taking pool) job bounces question from_
    constructor
    · intro fine
      rw [fine] at offered
      rw [workEvents_eq, offered]
      exact ⟨rfl, rfl⟩
    · intro cause first task
      rw [first] at offered
      refine ⟨(f.offer task).1, offered, ?_, ?_⟩
      · intro runs
        have closed : f.pool.closed = false :=
          (congrArg Pool.closed inHand).trans (turned.kept.2.1.trans (opened runs))
        exact isSome_offer (running.trans runs) closed task
      · intro admission answer admitted
        have parts := ending_perm turned (intake_concluded_offers (e.taking pool) job)
        have taken : task ∈ ((e.taking pool).offersFor job).filterMap Offer.admitted? := by
          rw [offered]
          exact List.mem_filterMap.2
            ⟨_, List.mem_singleton_self _, Offer.admitted?_of_answer answer admitted⟩
        have there := parts.symm.subset
          (List.mem_append_left _ (List.mem_map_of_mem (f := Job.fresh) taken))
        rcases List.mem_cons.1 there with same | stays
        · -- The job itself is bounced, and the reply is not.
          have other : job.task.escalation = .single .bounce := bounces
          rw [← same] at other
          cases other
        · exact stays

/-- A task that is bounced, from its faults to the inbox of its sender. Without a fault other than
that its stanza is stored, nothing is sent. With one, exactly one reply is offered to the pool:
the stanza turned around, of the same kind and id, as an error. A running engine gets an answer
to that offer. If the pool takes the reply on and the engine comes to rest, a later stage has
carried the reply out, and has put it into the inbox of the session that is bound to the sender's
address, once, and into no other. (Where the gate is shut when the session is found, it is when
the gate has opened that the session must be able to take the reply.) In the end every task
that the pool has taken on, and so every reply, has been carried out once. -/
theorem bounce_reaches_sender {start e : Engine} {before after : List Stage} {stage : Stage}
    (new : New start) (path : Path start (before ++ stage :: after) e)
    (handing : e.deliverer = handoff) {x : Execution} (done : .executed x ∈ stage.events)
    (bounces : x.task.escalation = .single .bounce)
    (question : x.task.stanza.isErrorOrResponse = false) {sender : FullAddress}
    (from_ : x.task.stanza.sender = some sender.toAddress)
    (here : sender.bare.domain = e.router.policy.localDomain) :
    ((∀ fault ∈ x.resolution.faults, fault = .storedOffline) →
      stage.events = [.executed x] ∧ stage.offers = []) ∧
    ((∃ fault ∈ x.resolution.faults, fault ≠ .storedOffline) →
      ∃ reply answer, stage.offers = [⟨replyTask sender.toAddress reply, answer⟩] ∧
        reply.kind = x.task.stanza.kind ∧ reply.id = x.task.stanza.id ∧
        reply.typeName = "error" ∧ reply.recipient = some sender.toAddress ∧
        reply.sender = x.task.stanza.recipient ∧
        (stage.engine.running = true → answer.isSome = true) ∧
        ∀ admission, answer = some admission → admission ≠ .rejected → e.turn = none →
          e.gate ≠ some false →
          ∃ found ∈ after, ∃ ran ∈ after, ∃ y, .executed y ∈ ran.events ∧
            y.task = replyTask sender.toAddress reply ∧
            (found = ran ∨ found.engine.gate = some false) ∧
            ReachesOnly sender found.engine ran.engine y) ∧
    (e.turn = none → e.gate ≠ some false →
      (executions (historyOf (before ++ stage :: after))).map (·.task) ~
        (offersOf (before ++ stage :: after)).filterMap Offer.admitted?) := by
  have rest (still : e.turn = none) (loose : e.gate ≠ some false) : e.pool.unfinished = [] :=
    (path.reached new.reached).sound.unfinished_eq_nil still loose
  obtain ⟨next, earlier, move, later⟩ := path.cut
  obtain ⟨fine, bounced⟩ := move.moved.bounce (earlier.openWhileRunning new.openWhileRunning)
    done bounces question from_
  refine ⟨fun kept => fine (Bounce.cause?_eq_none_iff.2 kept), ?_, ?_⟩
  · rintro ⟨fault, member, real⟩
    obtain ⟨cause, first⟩ := Option.ne_none_iff_exists'.1 fun none =>
      real (Bounce.cause?_eq_none_iff.1 none fault member)
    obtain ⟨answer, offered, answered, taken⟩ := bounced cause first
    refine ⟨_, answer, offered, Bounce.kind_reply .., Bounce.id_reply ..,
      Bounce.typeName_reply ..,
      Bounce.recipient_reply .., Bounce.sender_reply .., answered, ?_⟩
    intro admission answered admitted still loose
    exact later.reply_reaches new (earlier.append move.path) handing
      (taken admission answered admitted) (rest still loose) here
      (Bounce.isErrorOrResponse_reply ..)
  · intro still loose
    have all := path.tasks_perm
    rwa [rest still loose, new.unfinished, List.map_nil, List.append_nil, List.append_nil] at all

/-- A letter from the phone to an account that does not exist. -/
def strayTask : Task where
  address := (⟨some "bob", "waddle.social"⟩ : BareAddress).toAddress
  stanza := .message ⟨.chat, some (⟨some "bob", "waddle.social"⟩ : BareAddress).toAddress,
    some telephone.toAddress, some "m1", none, none⟩
  escalation := .single .bounce
  handle := some 0

def emptyPostOffice : Engine :=
  empty ⟨⟨"waddle.social", false⟩, false, false⟩ handoff none false false (telephoneSite 0)
    (.empty ⟨1, 2, 1, 60000⟩)

theorem new_emptyPostOffice : New emptyPostOffice :=
  .new _ handoff none false false (telephoneSite 0) launched_small (built_telephoneSite 0)

def postOffice : Engine :=
  (emptyPostOffice.relay strayTask.address strayTask.stanza strayTask.escalation).2

theorem bounce_reaches_sender_at_telephone :
    ∃ start before stage after e x reply, New start ∧ Path start (before ++ stage :: after) e ∧
      .executed x ∈ stage.events ∧ x.task = strayTask ∧ e.turn = none ∧
      reply.typeName = "error" ∧ reply.id = some "m1" ∧
      ∃ ran ∈ after, ∃ y, .executed y ∈ ran.events ∧
        y.task = replyTask telephone.toAddress reply ∧ y.arrivals 0 = [reply] ∧
        ∀ id, id ≠ 0 → y.arrivals id = [] := by
  let pool : Pool Job := Pool.begin { postOffice.pool with ready := [] }
  have taken : postOffice.pool.turn = some (pool, some (.fresh strayTask)) := rfl
  have done := executed_mem_turnEvents taken rfl
  have second : (run 1 postOffice).turn.isSome = true := by decide +kernel
  have third : (run 1 (run 1 postOffice)).turn.isSome = true := by decide +kernel
  have still : (run 1 (run 1 (run 1 postOffice))).turn = none := by
    rw [← Option.isNone_iff_eq_none]
    decide +kernel
  have move : emptyPostOffice.Move _ _ postOffice :=
    .relay strayTask.address strayTask.stanza strayTask.escalation
  let later : List Stage :=
    [⟨run 1 postOffice, (run 1 postOffice).turnEvents, (run 1 postOffice).turnOffers⟩,
      ⟨run 1 (run 1 postOffice), (run 1 (run 1 postOffice)).turnEvents,
        (run 1 (run 1 postOffice)).turnOffers⟩]
  have path := move.path.append (.move (.turn (turn_eq_run_one rfl))
    (.move (.turn (turn_eq_run_one second)) (.move (.turn (turn_eq_run_one third)) (.rest _))))
  have from_ : strayTask.stanza.sender = some telephone.toAddress := rfl
  have here : telephone.bare.domain =
      (run 1 (run 1 (run 1 postOffice))).router.policy.localDomain := by
    rw [path.equipment.1]
    rfl
  obtain ⟨_, bounced, _⟩ :=
    bounce_reaches_sender new_emptyPostOffice path path.equipment.2 done rfl rfl from_ here
  have faulty : ((postOffice.taking pool).execution (.fresh strayTask)).resolution =
      .reported (.failed .noSuchUser) := by decide +kernel
  obtain ⟨reply, answer, offered, _, id, error, _, _, _, reaches⟩ :=
    bounced ⟨.noSuchUser, by rw [faulty]; exact List.mem_singleton_self _, nofun⟩
  have queued : answer = some .queued := by
    have answers := congrArg (List.map Offer.answer) offered
    rw [show postOffice.turnOffers.map Offer.answer = [some .queued] by decide +kernel] at answers
    exact (List.singleton_inj.1 answers).symm
  obtain ⟨found, first, ran, second, y, executed, task, place, arrives⟩ :=
    reaches .queued queued nofun still (by decide +kernel)
  have open_ : ∀ stage ∈ later, stage.engine.gate = none := by decide +kernel
  have alive : ∀ stage ∈ later, ∃ entry ∈ stage.engine.site.registry.entries,
      entry.key.text = telephone.text ∧ 0 ≤ entry.session.priority ∧
        entry.session.isAuthenticated = true ∧ entry.session.connected = true ∧
        entry.session.hasRoom = true ∧ entry.id = 0 := by decide +kernel
  have same : found = ran :=
    place.resolve_right fun shut => nomatch (open_ found first).symm.trans shut
  subst same
  obtain ⟨entry, member, written, enough, authenticated, connected, room, number⟩ :=
    alive found first
  obtain ⟨put, others⟩ := arrives entry ⟨member, written⟩ enough authenticated
  have arrived := put entry.session (mem_entries.1 member).2 authenticated connected room
  rw [number, task] at arrived
  rw [number] at others
  exact ⟨_, _, _, later, _, _, reply, new_emptyPostOffice, path, done, rfl, still, error, id,
    found, first, y, executed, task, arrived, others⟩

end StanzaDelivery.Engine

import StanzaDelivery.Proofs.Routing.FanOut
import StanzaDelivery.Proofs.Routing.Recipients

/-! What is left to do for a stanza whose account has no session to hand it to. The router then
asks two services, which may fail: whether the account exists, and, if it does, to keep the
stanza. They are taken here to be any services, with a state of their own; those of a site are one
case. Services that note what they are asked tell that nobody asks them of a stanza which is
handed to a session. -/

namespace StanzaDelivery.Routing

open Registry Handover

inductive Request
  | verify (account : BareAddress)
  | receive (stanza : Stanza)
  deriving DecidableEq, Repr

def Request.received? : Request → Option Stanza
  | .verify _ => none
  | .receive stanza => some stanza

structure Services (σ : Type) where
  verify : BareAddress → σ → Except StorageFault Bool × σ
  receive : Stanza → σ → Except StorageFault Unit × σ

variable {σ : Type}

def Services.noting (services : Services σ) : Services (σ × List Request) where
  verify account := fun (state, asked) =>
    let (answer, state) := services.verify account state
    (answer, state, asked ++ [.verify account])
  receive stanza := fun (state, asked) =>
    let (answer, state) := services.receive stanza state
    (answer, state, asked ++ [.receive stanza])

def ownServices (accounts : Accounts) : Services StanzaStore where
  verify account := fun pending => (accounts.verify account, pending)
  receive stanza := fun pending => pending.receive stanza

def handleOfflineBy (services : Services σ) (keepsOffline : Bool) (account : BareAddress)
    (stanza : Stanza) (state : σ) : Report × σ :=
  match services.verify account state with
  | (.error fault, state) => (.failed (.causedByStorage "account verification failed" fault), state)
  | (.ok false, state) => (.failed .noSuchUser, state)
  | (.ok true, state) =>
    if keepsOffline then
      match services.receive stanza state with
      | (.ok (), state) => (.failed .storedOffline, state)
      | (.error fault, state) =>
        (.failed (.causedByStorage "offline receiver rejected stanza" fault), state)
    else (.failed .recipientOffline, state)

/-- Does what `resolve` does, with these services in place of those of the site. -/
def resolveBy (services : Services σ) (router : Router) (deliver : Deliverer) (address : Address)
    (stanza : Stanza) (site : Site) (state : σ) : Resolution × Site × σ :=
  match router.policy.aim site.registry address stanza with
  | .nobody =>
    let (report, state) := handleOfflineBy services router.keepsOffline address.bare stanza state
    (.reported report, site, state)
  | aim =>
    let (resolution, site) := router.carryOut deliver aim address stanza site
    (resolution, site, state)

theorem handleOffline_eq (router : Router) (account : BareAddress) (stanza : Stanza)
    (site : Site) :
    router.handleOffline account stanza site =
      ((handleOfflineBy (ownServices site.accounts) router.keepsOffline account stanza
          site.pending).1,
        { site with pending := (handleOfflineBy (ownServices site.accounts) router.keepsOffline
          account stanza site.pending).2 }) := by
  unfold Router.handleOffline handleOfflineBy ownServices
  dsimp only
  cases site.accounts.verify account with
  | error fault => rfl
  | ok known =>
    cases known with
    | false => rfl
    | true =>
      cases router.keepsOffline with
      | false => rfl
      | true =>
        simp only [if_true]
        rcases site.pending.receive stanza with ⟨kept, pending⟩
        cases kept <;> rfl

theorem resolve_eq_resolveBy (router : Router) (deliver : Deliverer) (address : Address)
    (stanza : Stanza) (site : Site) :
    router.resolve deliver address stanza site =
      ((resolveBy (ownServices site.accounts) router deliver address stanza site site.pending).1,
        { (resolveBy (ownServices site.accounts) router deliver address stanza site
            site.pending).2.1 with
          pending := (resolveBy (ownServices site.accounts) router deliver address stanza site
            site.pending).2.2 }) := by
  rw [Router.resolve, resolveBy]
  cases router.policy.aim site.registry address stanza with
  | nobody => simp only [Router.carryOut, handleOffline_eq]
  | component domain =>
    obtain ⟨components, same⟩ := site_handToComponent router domain stanza site
    refine Prod.ext rfl ?_
    simp only [Router.carryOut, same]
  | nowhere => rfl
  | refused fault => rfl
  | sessions ids => rfl

/-- What the services come to: the fault that is reported, what they are asked, and their state
afterwards. The fault is their own, or says that the account does not exist, that nothing keeps
stanzas for it, or that the stanza is kept. -/
inductive Unreached (services : Services σ) (keepsOffline : Bool) (account : BareAddress)
    (stanza : Stanza) (state : σ) : Fault → List Request → σ → Prop
  | unverified {cause : StorageFault} {after : σ}
      (verify : services.verify account state = (.error cause, after)) :
      Unreached services keepsOffline account stanza state
        (.causedByStorage "account verification failed" cause) [.verify account] after
  | unknown {after : σ} (verify : services.verify account state = (.ok false, after)) :
      Unreached services keepsOffline account stanza state .noSuchUser [.verify account] after
  | offline {after : σ} (verify : services.verify account state = (.ok true, after))
      (alone : keepsOffline = false) :
      Unreached services keepsOffline account stanza state .recipientOffline [.verify account] after
  | stored {between after : σ} (verify : services.verify account state = (.ok true, between))
      (keeps : keepsOffline = true) (receive : services.receive stanza between = (.ok (), after)) :
      Unreached services keepsOffline account stanza state .storedOffline
        [.verify account, .receive stanza] after
  | rejected {cause : StorageFault} {between after : σ}
      (verify : services.verify account state = (.ok true, between)) (keeps : keepsOffline = true)
      (receive : services.receive stanza between = (.error cause, after)) :
      Unreached services keepsOffline account stanza state
        (.causedByStorage "offline receiver rejected stanza" cause)
        [.verify account, .receive stanza] after

theorem unreached_handleOfflineBy (services : Services σ) (keepsOffline : Bool)
    (account : BareAddress) (stanza : Stanza) (state : σ) :
    ∃ fault asked last,
      handleOfflineBy services keepsOffline account stanza state = (.failed fault, last) ∧
      handleOfflineBy services.noting keepsOffline account stanza (state, []) =
        (.failed fault, last, asked) ∧
      Unreached services keepsOffline account stanza state fault asked last := by
  rcases verify : services.verify account state with ⟨answer, between⟩
  cases answer with
  | error cause =>
    refine ⟨_, _, _, ?_, ?_, .unverified verify⟩ <;>
      simp [handleOfflineBy, Services.noting, verify]
  | ok known =>
    cases known with
    | false =>
      refine ⟨_, _, _, ?_, ?_, .unknown verify⟩ <;>
        simp [handleOfflineBy, Services.noting, verify]
    | true =>
      cases keeps : keepsOffline with
      | false =>
        refine ⟨_, _, _, ?_, ?_, .offline verify rfl⟩ <;>
          simp [handleOfflineBy, Services.noting, verify]
      | true =>
        rcases receive : services.receive stanza between with ⟨kept, last⟩
        cases kept with
        | ok _ =>
          refine ⟨_, _, _, ?_, ?_, .stored verify rfl receive⟩ <;>
            simp [handleOfflineBy, Services.noting, verify, receive]
        | error cause =>
          refine ⟨_, _, _, ?_, ?_, .rejected verify rfl receive⟩ <;>
            simp [handleOfflineBy, Services.noting, verify, receive]

/-- What becomes of a stanza: the policy wants it for some sessions, which are tried, and no service
is asked anything; or it wants it for none, and all that happens is what the services come to. -/
inductive Handled (services : Services σ) (router : Router) (deliver : Deliverer)
    (address : Address) (stanza : Stanza) (site : Site) (state : σ) :
    Resolution → Site → List Request → σ → Prop
  | reached {order : List Entry} {faults : List Fault} {after : Site}
      (wanted : ∀ e, e ∈ order ↔ Wanted router.policy site.registry address stanza e)
      (distinct : (order.map (·.id)).Nodup) (somebody : order ≠ [])
      (fanned : fanOut deliver stanza site (order.map (·.id)) = (.attempted faults, after)) :
      Handled services router deliver address stanza site state
        (.reported (.attempted faults)) after [] state
  | unreached {fault : Fault} {asked : List Request} {last : σ}
      (nobody : ∀ e, ¬Wanted router.policy site.registry address stanza e)
      (unreached : Unreached services router.keepsOffline address.bare stanza state fault asked
        last) :
      Handled services router deliver address stanza site state (.reported (.failed fault)) site
        asked last

variable {services : Services σ} {router : Router} {address : Address} {stanza : Stanza}
  {site : Site} {state last : σ} {fault : Fault} {asked : List Request}

theorem Unreached.received {keepsOffline : Bool} {account : BareAddress}
    (unreached : Unreached services keepsOffline account stanza state fault asked last) :
    asked.filterMap Request.received? =
      if (services.verify account state).1 = .ok true ∧ keepsOffline = true then [stanza]
      else [] := by
  cases unreached with
  | unverified verify => simp [verify, Request.received?]
  | unknown verify => simp [verify, Request.received?]
  | offline verify alone => simp [verify, alone, Request.received?]
  | stored verify keeps receive =>
    rw [if_pos ⟨congrArg Prod.fst verify, keeps⟩]
    rfl
  | rejected verify keeps receive =>
    rw [if_pos ⟨congrArg Prod.fst verify, keeps⟩]
    rfl

section

variable (built : site.registry.Built) (here : address.domain = router.policy.localDomain)
  (single : stanza.messageType ≠ some .groupchat)
  (kept : ¬(address.resource = none ∧ stanza.messageType = some .error))
include built here single kept

theorem handled_resolveBy (services : Services σ) (deliver : Deliverer) (state : σ) :
    ∃ resolution after asked last,
      resolveBy services router deliver address stanza site state = (resolution, after, last) ∧
      resolveBy services.noting router deliver address stanza site (state, []) =
        (resolution, after, last, asked) ∧
      Handled services router deliver address stanza site state resolution after asked last := by
  have wanted := mem_chosen built.consistent router.policy address stanza
  have distinct := nodup_chosen built.consistent router.policy address stanza
  have aim := aim_eq_ofEntries here single (fun dropped => kept dropped.2) site.registry
  by_cases order : chosen router.policy site.registry address stanza = []
  · have nobody : ∀ e, ¬Wanted router.policy site.registry address stanza e := by
      intro e member
      have listed := (wanted e).2 member
      rw [order] at listed
      cases listed
    rw [order] at aim
    obtain ⟨fault, asked, last, plain, noted, unreached⟩ :=
      unreached_handleOfflineBy services router.keepsOffline address.bare stanza state
    refine ⟨_, _, asked, last, ?_, ?_, .unreached nobody unreached⟩
    · simp [resolveBy, aim, Aim.ofEntries, plain]
    · simp [resolveBy, aim, Aim.ofEntries, noted]
  · have sessions : router.policy.aim site.registry address stanza =
        .sessions ((chosen router.policy site.registry address stanza).map (·.id)) := by
      simp [aim, Aim.ofEntries, order]
    refine ⟨_, _, [], state, ?_, ?_, .reached wanted distinct order rfl⟩
    · rw [resolveBy, sessions]
      rfl
    · rw [resolveBy, sessions]
      rfl

/-- A stanza for somebody at home, unless it is for a group or an error that nobody waits for, is
handed to the sessions that the policy wants if there are any, counts as processed then, and no
service is asked. If there are none, it counts as unprocessed, with one fault, which is that of
the account's verification, that there is no such account, that nothing keeps stanzas for it, that
the stanza is kept, or why it is not; so the stanza is given away to be kept once, as it is, if
nobody is wanted, the account exists and something keeps stanzas, and never otherwise. With the
services of its own site this is what a router does. -/
theorem unreachable_handling_is_exact (services : Services σ) (deliver : Deliverer) (state : σ) :
    (∃ resolution after asked last,
      resolveBy services router deliver address stanza site state = (resolution, after, last) ∧
      resolveBy services.noting router deliver address stanza site (state, []) =
        (resolution, after, last, asked) ∧
      Handled services router deliver address stanza site state resolution after asked last ∧
      (asked.filterMap Request.received? = [] ∨ asked.filterMap Request.received? = [stanza]) ∧
      (asked.filterMap Request.received? = [stanza] ↔
        (∀ e, ¬Wanted router.policy site.registry address stanza e) ∧
          (services.verify address.bare state).1 = .ok true ∧ router.keepsOffline = true)) ∧
    ∃ resolution after pending,
      resolveBy (ownServices site.accounts) router deliver address stanza site site.pending =
        (resolution, after, pending) ∧
      router.resolve deliver address stanza site =
        (resolution, { after with pending := pending }) := by
  refine ⟨?_, _, _, _, rfl, resolve_eq_resolveBy router deliver address stanza site⟩
  obtain ⟨resolution, after, asked, last, plain, noted, handled⟩ :=
    handled_resolveBy built here single kept services deliver state
  refine ⟨resolution, after, asked, last, plain, noted, handled, ?_⟩
  cases handled with
  | reached wanted distinct somebody fanned =>
    obtain ⟨e, member⟩ := List.exists_mem_of_ne_nil _ somebody
    refine ⟨.inl rfl, nofun, ?_⟩
    rintro ⟨nobody, _⟩
    exact absurd ((wanted e).1 member) (nobody e)
  | unreached nobody unreached =>
    rw [unreached.received]
    by_cases received : (services.verify address.bare state).1 = .ok true ∧
        router.keepsOffline = true
    · rw [if_pos received]
      exact ⟨.inr rfl, fun _ => ⟨nobody, received⟩, fun _ => rfl⟩
    · rw [if_neg received]
      exact ⟨.inl rfl, nofun, fun asked => absurd asked.2 received⟩

end

theorem unreachable_handling_is_exact_for_absentee :
    ∃ (router : Router) (account : BareAddress) (stanza : Stanza) (site : Site),
      (∀ e, ¬Wanted router.policy site.registry account.toAddress stanza e) ∧
      resolveBy (ownServices site.accounts).noting router handoff account.toAddress stanza site
          (.empty 1, []) =
        (.reported (.failed .storedOffline), site, ⟨1, [⟨account, stanza, false⟩]⟩,
          [.verify account, .receive stanza]) ∧
      (router.resolve handoff account.toAddress stanza site).1 = .reported (.failed
        (.causedByStorage "offline receiver rejected stanza" (.quotaExceeded account.text))) := by
  -- The account of an absent recipient exists, and its store has room for one stanza: of two, the
  -- second is rejected, and neither has a session to go to.
  let account : BareAddress := ⟨some "carol", "waddle.social"⟩
  let stanza : Stanza := .message ⟨.chat, some account.toAddress, none, none, some "hello", none⟩
  let router : Router := ⟨⟨"waddle.social", false⟩, true, false⟩
  let full : StanzaStore := ⟨1, [⟨account, stanza, true⟩]⟩
  let site : Site := ⟨.empty, ⟨[account], none⟩, full, .empty 0, false, .empty⟩
  have built : site.registry.Built := .empty
  have here : account.toAddress.domain = router.policy.localDomain := rfl
  have single : stanza.messageType ≠ some .groupchat := nofun
  have kept : ¬(account.toAddress.resource = none ∧ stanza.messageType = some .error) :=
    fun both => nomatch both.2
  have shown : resolveBy (ownServices site.accounts).noting router handoff account.toAddress stanza
      site (.empty 1, []) =
        (.reported (.failed .storedOffline), site, ⟨1, [⟨account, stanza, false⟩]⟩,
          [.verify account, .receive stanza]) := by decide +kernel
  obtain ⟨⟨_, _, asked, _, _, noted, _, _, received⟩, _⟩ :=
    unreachable_handling_is_exact built here single kept (ownServices site.accounts) handoff
      (.empty 1)
  have known : asked = [.verify account, .receive stanza] :=
    congrArg (fun result => result.2.2.2) (noted.symm.trans shown)
  refine ⟨router, account, stanza, site, ?_, shown, by decide +kernel⟩
  subst known
  exact (received.1 rfl).1

end StanzaDelivery.Routing

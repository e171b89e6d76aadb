import StanzaDelivery.Proofs.Routing.Failures
import StanzaDelivery.Proofs.Storage.Ledger

/-! Stanzas kept for offline accounts. The router verifies the account of the destination; the
store files a stanza under the account that the stanza itself is addressed to. These are one
account only if the two addresses are of one account, which nothing demands. -/

namespace StanzaDelivery.Routing

open Handover

variable {router : Router} {deliver : Deliverer} {address : Address} {stanza : Stanza} {site : Site}

def ReportsStored (resolution : Resolution) : Prop :=
  ∃ report, resolution = .reported report ∧ .storedOffline ∈ report.faults

/-- The stanza, not yet viewed, is the last of what the account holds; what it held before and
what others hold is as it was. -/
structure Filed (account : BareAddress) (stanza : Stanza) (before after : StanzaStore) : Prop where
  own : (after.heldBy account).map StoredStanza.kept =
    (before.heldBy account).map StoredStanza.kept ++ [⟨stanza, false⟩]
  others : ∀ other : BareAddress, other.text ≠ account.text →
    after.heldBy other = before.heldBy other
  drained : (after.drainPending account).1 = (before.drainPending account).1 ++ [stanza]

theorem filed_append (store : StanzaStore) (account : BareAddress) (stanza : Stanza) :
    Filed account stanza store
      { store with stored := store.stored ++ [⟨account, stanza, false⟩] } := by
  constructor
  · simp [StanzaStore.heldBy, StoredStanza.belongsTo, StoredStanza.kept]
  · intro other apart
    simp [StanzaStore.heldBy, StoredStanza.belongsTo, Ne.symm apart]
  · simp [StanzaStore.drainPending, StanzaStore.isPendingFor, StoredStanza.belongsTo]

theorem Filed.rewritten {account other : BareAddress} {before after : StanzaStore}
    (filed : Filed account stanza before after) (same : account.text = other.text) :
    Filed other stanza before after := by
  have held (store : StanzaStore) : store.heldBy account = store.heldBy other := by
    simp only [StanzaStore.heldBy, StoredStanza.belongsTo, same]
  have pending : StanzaStore.isPendingFor account = StanzaStore.isPendingFor other :=
    funext fun entry => by rw [StanzaStore.isPendingFor, StoredStanza.belongsTo, same]; rfl
  have drained (store : StanzaStore) :
      (store.drainPending account).1 = (store.drainPending other).1 := by
    rw [StanzaStore.drainPending, StanzaStore.drainPending, pending]
  constructor
  · rw [← held, ← held, filed.own]
  · intro third apart
    exact filed.others third (same ▸ apart)
  · rw [← drained, ← drained, filed.drained]

/-- What a resolution does to the pending store: it files the stanza for its own recipient and
says so, after it verified the account of the destination; or it leaves the store alone, and
says that it stored something only if somebody it called said so. -/
inductive Shelved (router : Router) (deliver : Deliverer) (address : Address) (stanza : Stanza)
    (site : Site) : Resolution → StanzaStore → Prop
  | aside {resolution : Resolution}
      (said : ReportsStored resolution → Fails router deliver address stanza site .storedOffline) :
      Shelved router deliver address stanza site resolution site.pending
  | filed (recipient : Address) (verified : site.accounts.verify address.bare = .ok true)
      (addressed : stanza.recipient = some recipient) :
      Shelved router deliver address stanza site (.reported (.failed .storedOffline))
        { site.pending with
          stored := site.pending.stored ++ [⟨recipient.bare, stanza, false⟩] }

theorem Shelved.failed {fault : Fault} (other : fault.isStoredOffline = false) :
    Shelved router deliver address stanza site (.reported (.failed fault)) site.pending := by
  refine .aside ?_
  rintro ⟨_, ⟨⟩, member⟩
  rw [← List.mem_singleton.1 member] at other
  cases other

theorem kind_of_refused {p : RoutingPolicy} {r : Registry} {fault : Fault}
    (aim : p.aim r address stanza = .refused fault) : fault.kind = .serviceUnavailable := by
  have entries (list : List Registry.Entry) : Aim.ofEntries list ≠ .refused fault := by
    unfold Aim.ofEntries
    split <;> simp
  unfold RoutingPolicy.aim at aim
  split at aim
  · split at aim
    · cases aim
    · cases aim
      rfl
  · split at aim
    · cases aim
      rfl
    · split at aim
      · exact absurd aim (entries _)
      · split at aim
        · cases aim
        · exact absurd aim (entries _)

theorem shelved_handleOffline (router : Router) (deliver : Deliverer) (address : Address)
    (stanza : Stanza) (site : Site) :
    Shelved router deliver address stanza site
      (.reported (router.handleOffline address.bare stanza site).1)
      (router.handleOffline address.bare stanza site).2.pending := by
  unfold Router.handleOffline
  cases verified : site.accounts.verify address.bare with
  | error fault => exact .failed rfl
  | ok known =>
    cases known with
    | false => exact .failed rfl
    | true =>
      cases keeps : router.keepsOffline with
      | false => exact .failed rfl
      | true =>
        simp only [if_true, StanzaStore.receive, StanzaStore.insert]
        cases addressed : stanza.recipient with
        | none => exact .failed rfl
        | some recipient =>
          by_cases room : (site.pending.heldBy recipient.bare).length < site.pending.limit
          · simp only [if_pos room]
            exact .filed recipient verified addressed
          · simp only [if_neg room]
            exact .failed rfl

theorem shelved_handToComponent {domain : String}
    (aim : router.policy.aim site.registry address stanza = .component domain) :
    Shelved router deliver address stanza site (router.handToComponent domain stanza site).1
      (router.handToComponent domain stanza site).2.pending := by
  unfold Router.handToComponent
  cases asked : router.knowsComponents with
  | false => exact .failed rfl
  | true =>
    cases found : site.components.component? domain with
    | none => exact .failed rfl
    | some component =>
      cases component with
      | accepting =>
        refine .aside ?_
        rintro ⟨_, ⟨⟩, member⟩
        cases member
      | crashing =>
        refine .aside ?_
        rintro ⟨_, ⟨⟩, _⟩
      | refusing fault =>
        refine .aside ?_
        rintro ⟨_, ⟨⟩, member⟩
        obtain rfl := List.mem_singleton.1 member
        exact .component aim asked found

theorem shelved_resolve (router : Router) (deliver : Deliverer) (address : Address)
    (stanza : Stanza) (site : Site) :
    Shelved router deliver address stanza site (router.resolve deliver address stanza site).1
      (router.resolve deliver address stanza site).2.pending := by
  rw [Router.resolve]
  cases aim : router.policy.aim site.registry address stanza with
  | nowhere =>
    refine .aside ?_
    rintro ⟨_, ⟨⟩, _⟩
  | refused fault =>
    have other : fault.isStoredOffline = false := by
      rw [Fault.isStoredOffline, kind_of_refused aim]
      rfl
    exact .failed other
  | component domain => exact shelved_handToComponent aim
  | nobody => exact shelved_handleOffline router deliver address stanza site
  | sessions ids =>
    refine .aside ?_
    rintro ⟨_, ⟨⟩, member⟩
    rcases failsAmong_of_mem member with failed | own
    · exact .session aim failed
    · cases own

theorem reportsStored_of_room (keeps : router.keepsOffline = true)
    (aim : router.policy.aim site.registry address stanza = .nobody)
    (verified : site.accounts.verify address.bare = .ok true) {recipient : Address}
    (addressed : stanza.recipient = some recipient)
    (room : (site.pending.heldBy recipient.bare).length < site.pending.limit) :
    (router.resolve deliver address stanza site).1 = .reported (.failed .storedOffline) := by
  simp [Router.resolve, Router.carryOut, aim, Router.handleOffline, verified, keeps,
    StanzaStore.receive, StanzaStore.insert, addressed, room]

/-- A stanza that is reported as stored has been filed, as one that waits, for the account that
was routed to and for no other, and nothing is stored that is not reported so: unless the
stanza's own recipient is of another account. Then that account gets it, whether it exists or
not, and the account that was routed to gets nothing. (A session or a component that is called
may itself report a stanza as stored; the store then stays as it is.) -/
theorem offline_stanza_filed_unless_readdressed (router : Router) (deliver : Deliverer)
    (address : Address) (stanza : Stanza) (site : Site) (keeps : router.keepsOffline = true) :
    let result := router.resolve deliver address stanza site
    let before := site.pending
    let after := result.2.pending
    (ReportsStored result.1 →
      Fails router deliver address stanza site .storedOffline ∧ after = before ∨
      site.accounts.verify address.bare = .ok true ∧
        ∃ recipient, stanza.recipient = some recipient ∧
          Filed recipient.bare stanza before after ∧
          (recipient.bare.text = address.bare.text → Filed address.bare stanza before after) ∧
          (recipient.bare.text ≠ address.bare.text →
            after.heldBy address.bare = before.heldBy address.bare)) ∧
    (¬ReportsStored result.1 → after = before) ∧
    (router.policy.aim site.registry address stanza = .nobody →
      site.accounts.verify address.bare = .ok true →
      ∀ recipient, stanza.recipient = some recipient →
        (before.heldBy recipient.bare).length < before.limit → ReportsStored result.1) := by
  intro result before after
  have shelved : Shelved router deliver address stanza site result.1 after :=
    shelved_resolve router deliver address stanza site
  refine ⟨?_, ?_, ?_⟩
  · intro reported
    generalize result.1 = resolution at shelved reported
    generalize after = store at shelved
    cases shelved with
    | aside said => exact .inl ⟨said reported, rfl⟩
    | filed recipient verified addressed =>
      have filed := filed_append site.pending recipient.bare stanza
      exact .inr ⟨verified, recipient, addressed, filed, filed.rewritten,
        fun apart => filed.others address.bare apart.symm⟩
  · intro silent
    generalize result.1 = resolution at shelved silent
    generalize after = store at shelved
    cases shelved with
    | aside => rfl
    | filed => exact absurd ⟨_, rfl, List.mem_singleton_self _⟩ silent
  · intro aim verified recipient addressed room
    exact ⟨_, reportsStored_of_room keeps aim verified addressed room, List.mem_singleton_self _⟩

/-- An account that is offline, and one that does not exist. -/
def absentee : BareAddress := ⟨some "carol", "waddle.social"⟩

def nobodyHere : BareAddress := ⟨some "dave", "waddle.social"⟩

def absentSite : Site where
  registry := .empty
  accounts := ⟨[absentee], none⟩
  pending := .empty 1000
  online := .empty 0
  sharesStore := false
  components := .empty

def letterTo (account : BareAddress) : Stanza :=
  .message ⟨.chat, some account.toAddress, none, none, none, none⟩

theorem offline_stanza_filed_unless_readdressed_for_absentee :
    ∃ router : Router, router.keepsOffline = true ∧
      let result := router.resolve handoff absentee.toAddress (letterTo absentee) absentSite
      ReportsStored result.1 ∧
        Filed absentee (letterTo absentee) absentSite.pending result.2.pending := by
  let router : Router := ⟨⟨"waddle.social", false⟩, true, false⟩
  obtain ⟨filed, -, stored⟩ := offline_stanza_filed_unless_readdressed router handoff
    absentee.toAddress (letterTo absentee) absentSite rfl
  have aim : router.policy.aim absentSite.registry absentee.toAddress (letterTo absentee) =
      .nobody := by decide +kernel
  have reported := stored aim (by decide) _ rfl (by decide)
  refine ⟨router, rfl, reported, ?_⟩
  rcases filed reported with ⟨called, _⟩ | ⟨_, recipient, addressed, _, own, _⟩
  · cases called with
    | component other => cases aim.symm.trans other
    | session other => cases aim.symm.trans other
  · obtain rfl := Option.some.inj addressed
    exact own rfl

/-- A letter to an account that does not exist, routed to the one that is offline, is reported
as stored, but waits for the account that does not exist. -/
theorem readdressed_stanza_is_misfiled :
    ∃ router : Router, router.keepsOffline = true ∧
      let result := router.resolve handoff absentee.toAddress (letterTo nobodyHere) absentSite
      result.1 = .reported (.failed .storedOffline) ∧
        absentSite.accounts.verify nobodyHere = .ok false ∧
        result.2.pending.heldBy absentee = [] ∧
        result.2.pending.heldBy nobodyHere = [⟨nobodyHere, letterTo nobodyHere, false⟩] := by
  refine ⟨⟨⟨"waddle.social", false⟩, true, false⟩, rfl, ?_⟩
  decide +kernel

end StanzaDelivery.Routing

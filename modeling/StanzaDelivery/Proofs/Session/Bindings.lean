import Mathlib.Data.Set.Card
import StanzaDelivery.Proofs.Address.Written
import StanzaDelivery.Proofs.Session.Operations

/-! What the lookups of a registry show. That is a function of the sessions that are bound, of
their addresses and of their priorities, as long as no two addresses are written the same; if
two are, the one that was registered first decides on the account that an entry is filed under. -/

namespace StanzaDelivery.Registry

variable {r : Registry} {text : String} {id : SessionId}

theorem lookups_congr {q : Registry} (same : q.entries = r.entries) :
    (∀ full, q.find? full = r.find? full) ∧
      ∀ address, q.sessionsFor address = r.sessionsFor address := by
  have found (full : FullAddress) : q.find? full = r.find? full := by rw [find?, find?, same]
  refine ⟨found, fun address => ?_⟩
  simp only [sessionsFor, ofAccount, same, found]

theorem entries_update (unbound : ∀ text, ¬r.Leads text id) (change : Session → Session) :
    (r.update id change).entries = r.entries := by
  rw [entries, entries, directory_update]
  refine List.filterMap_congr fun found member => ?_
  have other : id ≠ found.2 := by
    rintro rfl
    exact unbound _ ⟨found.1, member, rfl⟩
  simp [session?_update, entry?, other]

theorem Consistent.count_eq (consistent : r.Consistent) :
    r.count = {text | ∃ id, r.Leads text id}.ncard := by
  have distinct : (r.directory.map (·.1.text)).Nodup := List.pairwise_map.2 consistent.distinct
  have same : {text | ∃ id, r.Leads text id} = ↑(r.directory.map (·.1.text)).toFinset := by
    ext text
    simp only [Set.mem_ofPred_eq, List.coe_toFinset, List.mem_map, Leads]
    constructor
    · rintro ⟨id, key, member, written⟩
      exact ⟨(key, id), member, written⟩
    · rintro ⟨found, member, written⟩
      exact ⟨found.2, found.1, member, written⟩
  rw [same, Set.ncard_coe_finset, List.toFinset_card_of_nodup distinct, List.length_map, count]

theorem Consistent.cleanUp_fst (consistent : r.Consistent) :
    r.cleanUp.1 = {text | ∃ id, r.Leads text id ∧ r.isStale id = true}.ncard := by
  let stale := r.directory.filter fun found => r.isStale found.2
  have leads : ∀ text id, { r with directory := stale }.Leads text id ↔
      r.Leads text id ∧ r.isStale id = true := by
    intro text id
    simp only [Leads, stale, List.mem_filter]
    constructor
    · rintro ⟨key, ⟨member, gone⟩, written⟩
      exact ⟨⟨key, member, written⟩, gone⟩
    · rintro ⟨⟨key, member, written⟩, gone⟩
      exact ⟨key, ⟨member, gone⟩, written⟩
  have fewer : stale.Sublist r.directory := List.filter_sublist
  have counted := (consistent.of_sublist fewer).count_eq
  have parts := List.length_eq_length_filter_add (l := r.directory) fun found => r.isStale found.2
  simp only [← leads]
  rw [← counted, cleanUp, count]
  dsimp only [stale]
  omega

theorem Consistent.find?_cleanUp (consistent : r.Consistent) (full : FullAddress) :
    r.cleanUp.2.find? full = (r.find? full).filter (·.session.connected) := by
  have after : r.cleanUp.2.Consistent := consistent.of_sublist List.filter_sublist
  have kept (e : Entry) : e ∈ r.cleanUp.2.entries ↔ e ∈ r.entries ∧ e.session.connected = true := by
    simp only [mem_entries, cleanUp, List.mem_filter, session?, isStale]
    constructor
    · rintro ⟨⟨member, live⟩, known⟩
      exact ⟨⟨member, known⟩, by simpa [known] using live⟩
    · rintro ⟨⟨member, known⟩, live⟩
      exact ⟨⟨member, by simp [known, live]⟩, known⟩
  ext e
  rw [after.mem_find?, Option.filter_eq_some_iff, consistent.mem_find?, kept, and_right_comm]

/-- No two addresses that were registered are written the same. -/
def Unambiguous (ops : List Operation) : Prop :=
  ∀ s t, .register s ∈ ops → .register t ∈ ops → s.address.text = t.address.text →
    s.address = t.address

theorem unambiguous_of_plain {ops : List Operation}
    (plain : ∀ s, .register s ∈ ops → s.address.bare.Plain) : Unambiguous ops := by
  intro s t first second same
  have under : s.address.isUnder t.address.bare = true :=
    (s.address.isUnder_iff t.address.bare).2 ⟨t.address.resource, same⟩
  have bare := (plain s first).bare_eq_of_isUnder (plain t second) under
  have resource : s.address.resource = t.address.resource := by
    rw [FullAddress.text, FullAddress.text, bare] at same
    simpa [← String.toList_inj, String.toList_append] using same
  calc
    s.address = ⟨s.address.bare, s.address.resource⟩ := rfl
    _ = t.address := by rw [bare, resource]

theorem mem_directoryWith {address : FullAddress} {found : FullAddress × SessionId}
    (member : found ∈ r.directoryWith address id) :
    found.1 = address ∨ ∃ number, (found.1, number) ∈ r.directory := by
  unfold directoryWith at member
  split at member
  · obtain ⟨before, was, rfl⟩ := List.mem_map.1 member
    split <;> exact .inr ⟨before.2, was⟩
  · rcases List.mem_append.1 member with old | new
    · exact .inr ⟨found.2, old⟩
    · exact .inl (congrArg Prod.fst (List.mem_singleton.1 new))

theorem key_registered {ops : List Operation} {key : FullAddress}
    (member : (key, id) ∈ (performAll ops).directory) :
    ∃ s, .register s ∈ ops ∧ s.address = key := by
  induction ops using List.reverseRecOn generalizing id with
  | nil => cases member
  | append_singleton ops op ih =>
    have older : (∃ number, (key, number) ∈ (performAll ops).directory) →
        ∃ s, .register s ∈ ops ++ [op] ∧ s.address = key := by
      rintro ⟨number, old⟩
      obtain ⟨s, registered, address⟩ := ih old
      exact ⟨s, List.mem_append_left _ registered, address⟩
    rw [performAll_concat] at member
    cases op with
    | register session =>
      rcases mem_directoryWith member with new | old
      · exact ⟨session, List.mem_concat_self, new.symm⟩
      · exact older old
    | unregister address => exact older ⟨id, (List.mem_filter.1 member).1⟩
    | change number change => exact older ⟨id, member⟩
    | cleanUp => exact older ⟨id, (List.mem_filter.1 member).1⟩

theorem Unambiguous.key_eq {ops : List Operation} (unambiguous : Unambiguous ops) {e : Entry}
    (member : e ∈ (performAll ops).entries) : e.key = e.session.address := by
  obtain ⟨bound, known⟩ := mem_entries.1 member
  obtain ⟨s, first, key⟩ := key_registered bound
  obtain ⟨t, second, address⟩ := session_registered known
  have written := (built_performAll ops).consistent.text_session member
  rw [← key, address] at written ⊢
  exact unambiguous s t first second written.symm

theorem Entry.Before.asymm {a b : Entry} (before : a.Before b) : ¬b.Before a := by
  rintro (higher | ⟨level, first⟩) <;> rcases before with above | ⟨same, last⟩
  · exact Int8.lt_irrefl (Int8.lt_trans higher above)
  · exact Int8.lt_irrefl (same ▸ higher)
  · exact Int8.lt_irrefl (level ▸ above)
  · exact String.lt_irrefl _ (String.lt_trans first last)

/-- The view shows the address and the priority of a session, and maybe more of it. -/
def Tells {α : Type} (view : Session → α) : Prop :=
  ∀ s t, view s = view t → s.address = t.address ∧ s.priority = t.priority

section Views

variable {α : Type} {view : Session → α} {q : Registry}

def shown (view : Session → α) (entries : List Entry) : List α :=
  entries.map fun e => view e.session

def ViewBefore (view : Session → α) (a b : α) : Prop :=
  ∃ e f : Entry, view e.session = a ∧ view f.session = b ∧ e.Before f

theorem Tells.before (tells : Tells view) {e f c d : Entry}
    (first : view e.session = view c.session) (second : view f.session = view d.session)
    (before : e.Before f) : c.Before d := by
  obtain ⟨address, priority⟩ := tells _ _ first
  obtain ⟨other, level⟩ := tells _ _ second
  rwa [Entry.Before, address, priority, other, level] at before

theorem Tells.not_viewBefore_flip (tells : Tells view) {a b : α} (before : ViewBefore view a b) :
    ¬ViewBefore view b a := by
  obtain ⟨e, f, rfl, rfl, order⟩ := before
  rintro ⟨c, d, first, second, flipped⟩
  exact order.asymm (tells.before first second flipped)

theorem Tells.shown_eq (tells : Tells view) {entries others : List Entry}
    (one : entries.Pairwise Entry.Before) (other : others.Pairwise Entry.Before)
    (same : ∀ a, a ∈ shown view entries ↔ a ∈ shown view others) :
    shown view entries = shown view others := by
  have ordered {list : List Entry} (pairwise : list.Pairwise Entry.Before) :
      (shown view list).Pairwise (ViewBefore view) :=
    List.pairwise_map.2 (pairwise.imp fun before => ⟨_, _, rfl, rfl, before⟩)
  have irrefl : Std.Irrefl (ViewBefore view) :=
    ⟨fun _ before => tells.not_viewBefore_flip before before⟩
  have antisymm : Std.Antisymm (ViewBefore view) :=
    ⟨fun _ _ before flipped => absurd flipped (tells.not_viewBefore_flip before)⟩
  exact (ordered one).eq_of_mem_iff (ordered other) same

def binding (view : Session → α) (r : Registry) (full : FullAddress) : Option α :=
  (r.find? full).map fun e => view e.session

theorem Unambiguous.mem_sessionsFor {ops : List Operation} (unambiguous : Unambiguous ops)
    (account : BareAddress) (e : Entry) :
    e ∈ (performAll ops).sessionsFor account.toAddress ↔
      (performAll ops).find? e.session.address = some e ∧
        e.session.address.bare.text = account.text := by
  have consistent := (built_performAll ops).consistent
  rw [consistent.mem_sessionsFor, consistent.mem_find?]
  constructor
  · rintro ⟨member, own⟩
    have key := unambiguous.key_eq member
    exact ⟨⟨member, congrArg _ key⟩, by rwa [← key]⟩
  · rintro ⟨⟨member, _⟩, own⟩
    refine ⟨member, ?_⟩
    rwa [← unambiguous.key_eq member] at own

theorem shown_subset {ops others : List Operation} (one : Unambiguous ops)
    (other : Unambiguous others) (tells : Tells view)
    (same : binding view (performAll ops) = binding view (performAll others))
    (account : BareAddress) :
    shown view ((performAll ops).sessionsFor account.toAddress) ⊆
      shown view ((performAll others).sessionsFor account.toAddress) := by
  intro a member
  obtain ⟨e, there, rfl⟩ := List.mem_map.1 member
  obtain ⟨found, own⟩ := (one.mem_sessionsFor account e).1 there
  have here : binding view (performAll others) e.session.address = some (view e.session) := by
    rw [← same, binding, found]
    rfl
  obtain ⟨f, matching, alike⟩ := Option.map_eq_some_iff.1 here
  have address := (tells _ _ alike).1
  rw [← address] at matching own
  exact List.mem_map.2 ⟨f, (other.mem_sessionsFor account f).2 ⟨matching, own⟩, alike⟩

theorem shown_sessionsFor_eq {ops others : List Operation} (one : Unambiguous ops)
    (other : Unambiguous others) (tells : Tells view)
    (same : binding view (performAll ops) = binding view (performAll others)) (address : Address) :
    shown view ((performAll ops).sessionsFor address) =
      shown view ((performAll others).sessionsFor address) := by
  obtain ⟨account, _ | resource⟩ := address
  · apply tells.shown_eq
    · exact (built_performAll ops).consistent.sessionsFor_pairwise _
    · exact (built_performAll others).consistent.sessionsFor_pairwise _
    · exact fun a => ⟨fun member => shown_subset one other tells same account member,
        fun member => shown_subset other one tells same.symm account member⟩
  · have found := congrFun same ⟨account, resource⟩
    have listed (r : Registry) : shown view (r.sessionsFor ⟨account, some resource⟩) =
        (binding view r ⟨account, resource⟩).toList := by
      rw [binding, Option.toList_map]
      rfl
    rw [listed, listed, found]

theorem Tells.read_eq (tells : Tells view) {entries others : List Entry}
    (same : shown view entries = shown view others) :
    entries.map (fun e => (e.session.priority, view e.session)) =
      others.map fun e => (e.session.priority, view e.session) := by
  induction entries generalizing others with
  | nil => rw [List.map_eq_nil_iff.1 same.symm, List.map_nil]
  | cons e rest ih =>
    obtain ⟨f, more, rfl, alike, later⟩ := List.map_eq_cons_iff.1 same.symm
    rw [List.map_cons, List.map_cons, ih later.symm, alike, (tells _ _ alike).2]

theorem shown_query (view : Session → α) (r : Registry) (choice : Priority.Query)
    (address : Address) :
    shown view (r.query choice address) =
      Priority.candidates (choice.choose
        ((r.sessionsFor address).map fun e => (e.session.priority, view e.session))) := by
  have read : (r.sessionsFor address).map (fun e => (e.session.priority, view e.session)) =
      ((r.sessionsFor address).map fun e => (e.session.priority, e)).map
        (Prod.map id fun e => view e.session) := by
    rw [List.map_map]
    rfl
  rw [read, Priority.Query.choose_map, query_eq, shown, Priority.candidates, Priority.candidates,
    List.map_map, List.map_map]
  rfl

end Views

/-- A registry is the map that leads from each address to the session that was registered for it
last and not removed since. What happens to other sessions shows nowhere, addresses are counted
once, and a clean-up removes the sessions whose connection is gone, and no others. An account's
sessions are those whose entry is filed under it, in the canonical order. That is the account of
the session itself, and all that lookups show follows from the sessions that are bound, as long
as no two addresses that were registered are written the same. -/
theorem lookups_follow_bindings_unless_ambiguous (ops : List Operation) :
    (∀ (full : FullAddress) (id : SessionId),
      (∃ e, (performAll ops).find? full = some e ∧ e.id = id) ↔ Latest ops full.text id) ∧
    (∀ (full : FullAddress) (e : Entry), (performAll ops).find? full = some e →
      (performAll ops).session? e.id = some e.session ∧ e.session.address.text = full.text) ∧
    (∀ id, (∀ text, ¬Latest ops text id) → ∀ change,
      (∀ full, (performAll (ops ++ [.change id change])).find? full =
        (performAll ops).find? full) ∧
      ∀ address, (performAll (ops ++ [.change id change])).sessionsFor address =
        (performAll ops).sessionsFor address) ∧
    (performAll ops).count = {text | ∃ id, Latest ops text id}.ncard ∧
    ((performAll ops).cleanUp.1 =
        {text | ∃ id, Latest ops text id ∧ (performAll ops).isStale id = true}.ncard ∧
      ∀ full, (performAll ops).cleanUp.2.find? full =
        ((performAll ops).find? full).filter (·.session.connected)) ∧
    (∀ full : FullAddress, (performAll ops).sessionsFor full.toAddress =
      ((performAll ops).find? full).toList) ∧
    (∀ account : BareAddress,
      ((performAll ops).sessionsFor account.toAddress).Pairwise Entry.Before ∧
      ∀ e, e ∈ (performAll ops).sessionsFor account.toAddress ↔
        (performAll ops).find? e.key = some e ∧ e.key.bare.text = account.text) ∧
    (Unambiguous ops →
      (∀ (account : BareAddress) (e : Entry), e ∈ (performAll ops).sessionsFor account.toAddress ↔
        (performAll ops).find? e.session.address = some e ∧
          e.session.address.bare.text = account.text) ∧
      ∀ others, Unambiguous others → ∀ (α : Type) (view : Session → α), Tells view →
        (∀ full, binding view (performAll ops) full = binding view (performAll others) full) →
        ∀ address,
          shown view ((performAll ops).sessionsFor address) =
            shown view ((performAll others).sessionsFor address) ∧
          ∀ choice, shown view ((performAll ops).query choice address) =
            shown view ((performAll others).query choice address)) := by
  have consistent := (built_performAll ops).consistent
  refine ⟨?_, ?_, ?_, ?_, ⟨?_, consistent.find?_cleanUp⟩, fun full => rfl, ?_, ?_⟩
  · intro full id
    rw [← consistent.leads_iff, leads_iff_latest]
  · intro full e found
    obtain ⟨member, written⟩ := (consistent.mem_find? full e).1 found
    exact ⟨(mem_entries.1 member).2, (consistent.text_session member).trans written⟩
  · intro id unbound change
    rw [performAll_concat]
    exact lookups_congr (entries_update
      (fun text leads => unbound text ((leads_iff_latest ops text id).1 leads)) change.apply)
  · simp only [← leads_iff_latest]
    exact consistent.count_eq
  · simp only [← leads_iff_latest]
    exact consistent.cleanUp_fst
  · intro account
    refine ⟨consistent.sessionsFor_pairwise _, fun e => ?_⟩
    rw [consistent.mem_sessionsFor, consistent.mem_find?]
    exact ⟨fun ⟨member, own⟩ => ⟨⟨member, rfl⟩, own⟩, fun ⟨⟨member, _⟩, own⟩ => ⟨member, own⟩⟩
  · intro unambiguous
    refine ⟨fun account e => unambiguous.mem_sessionsFor account e, ?_⟩
    intro others distinct α view tells same address
    have alike := shown_sessionsFor_eq unambiguous distinct tells (funext same) address
    refine ⟨alike, fun choice => ?_⟩
    rw [shown_query, shown_query, tells.read_eq alike]

theorem binding_eq_of_entries {α : Type} {view : Session → α} {r q : Registry}
    (same : (r.entries.map fun e => (e.key.text, view e.session)) =
      q.entries.map fun e => (e.key.text, view e.session)) (full : FullAddress) :
    binding view r full = binding view q full := by
  have found (r : Registry) : binding view r full =
      ((r.entries.map fun e => (e.key.text, view e.session)).find?
        (·.1 == full.text)).map Prod.snd := by
    rw [List.find?_map, Option.map_map]
    rfl
  rw [found, found, same]

theorem lookups_follow_bindings_unless_ambiguous_when_back :
    ∃ ops others, ∃ phone : FullAddress, ops ≠ others ∧ Unambiguous ops ∧ Unambiguous others ∧
      shown (fun s => (s.address, s.priority))
        ((performAll ops).sessionsFor phone.bare.toAddress) = [(phone, 0)] := by
  let phone : FullAddress := ⟨⟨some "alice", "waddle.social"⟩, "phone"⟩
  let session : Session := ⟨phone, .authenticated, 0, 16, true, []⟩
  let ops : List Operation :=
    [.register session, .register session, .change 0 (.setPriority 9)]
  let others : List Operation := [.register session]
  let view (s : Session) : FullAddress × Int8 := (s.address, s.priority)
  have plain : phone.bare.Plain := by
    refine ⟨?_, by decide⟩
    rintro node ⟨⟩
    decide
  have unambiguous (list : List Operation) (only : ∀ s, .register s ∈ list → s = session) :
      Unambiguous list :=
    unambiguous_of_plain fun s member => by
      rw [only s member]
      exact plain
  have one : Unambiguous ops := unambiguous ops fun s member => by simpa [ops] using member
  have other : Unambiguous others :=
    unambiguous others fun s member => by simpa [others] using member
  have tells : Tells view := fun s t same => Prod.mk.inj same
  have same : ∀ full, binding view (performAll ops) full = binding view (performAll others) full :=
    binding_eq_of_entries (by decide +kernel)
  obtain ⟨_, _, _, _, _, _, _, clear⟩ := lookups_follow_bindings_unless_ambiguous ops
  obtain ⟨shows, _⟩ := (clear one).2 others other _ view tells same phone.bare.toAddress
  refine ⟨ops, others, phone, by decide, one, other, shows.trans ?_⟩
  decide +kernel

/-- The domain of a session is written like another domain and the begin of a resource. Where
that other address was registered before it, its entry takes the session; so a lookup for the
account of the session does not show it, though the same session is bound as otherwise. -/
theorem lookups_miss_session_of_ambiguous_account :
    ∃ ops others, ∃ s : Session, FullAddress.read "℀/x" = .ok s.address ∧
      (∀ full, binding (fun s => s) (performAll ops) full =
        binding (fun s => s) (performAll others) full) ∧
      binding (fun s => s) (performAll ops) s.address = some s ∧
      shown (fun s => s) ((performAll others).sessionsFor s.address.bare.toAddress) = [s] ∧
      shown (fun s => s) ((performAll ops).sessionsFor s.address.bare.toAddress) = [] := by
  let session (address : FullAddress) : Session := ⟨address, .authenticated, 0, 16, true, []⟩
  let s : Session := session ⟨⟨none, "a/c"⟩, "x"⟩
  refine ⟨[.register (session ⟨⟨none, "a"⟩, "c/x"⟩), .register s], [.register s], s, ?_,
    binding_eq_of_entries ?_, ?_, ?_, ?_⟩
  · decide +kernel
  · decide +kernel
  · decide +kernel
  · decide +kernel
  · decide +kernel

end StanzaDelivery.Registry

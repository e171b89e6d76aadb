import Mathlib.Data.List.Basic
import StanzaDelivery.Proofs.Address.Domains
import StanzaDelivery.Proofs.Session.Changes

/-! What a registry says of one account: the sessions to which its directory leads from
addresses under the account. Whoever looks an address of the account up reads nothing else. So
registries that agree on the account answer alike, and what changes other sessions only is
nothing to the account. -/

namespace StanzaDelivery.Registry

variable {r q t : Registry} {account other : BareAddress}

/-- The directory leads to the session of this number from an address under the account. -/
def LeadsUnder (r : Registry) (account : BareAddress) (id : SessionId) : Prop :=
  ∃ key, (key, id) ∈ r.directory ∧ key.isUnder account = true

theorem leadsUnder_congr (directory : q.directory = r.directory) (id : SessionId) :
    q.LeadsUnder account id ↔ r.LeadsUnder account id := by
  rw [LeadsUnder, LeadsUnder, directory]

theorem Consistent.not_leadsUnder (consistent : r.Consistent) (one : account.Unslashed)
    (another : other.Unslashed) (domain : account.domain = other.domain)
    (apart : account ≠ other) {id : SessionId} (leads : r.LeadsUnder account id) :
    ¬r.LeadsUnder other id := by
  rintro ⟨second, member, also⟩
  obtain ⟨first, here, under⟩ := leads
  obtain ⟨s, known, written⟩ := consistent.bound _ here
  obtain ⟨found, same, text⟩ := consistent.bound _ member
  rw [known] at same
  cases same
  have both : second.isUnder account = true := by
    rw [FullAddress.isUnder, ← text, written]
    exact under
  exact apart (one.eq_of_isUnder another domain both also)

structure AgreeOn (account : BareAddress) (r q : Registry) : Prop where
  directory : q.directory = r.directory
  sessions : ∀ id, r.LeadsUnder account id → q.session? id = r.session? id

structure AgreeOff (account : BareAddress) (r q : Registry) : Prop where
  directory : q.directory = r.directory
  sessions : ∀ id, ¬r.LeadsUnder account id → q.session? id = r.session? id

theorem AgreeOn.symm (agree : r.AgreeOn account q) : q.AgreeOn account r := by
  refine ⟨agree.directory.symm, ?_⟩
  intro id leads
  exact (agree.sessions id ((leadsUnder_congr agree.directory id).1 leads)).symm

theorem AgreeOn.trans (first : r.AgreeOn account q) (second : q.AgreeOn account t) :
    r.AgreeOn account t := by
  refine ⟨second.directory.trans first.directory, ?_⟩
  intro id leads
  rw [second.sessions id ((leadsUnder_congr first.directory id).2 leads), first.sessions id leads]

theorem AgreeOff.refl (account : BareAddress) (r : Registry) : r.AgreeOff account r :=
  ⟨rfl, fun _ _ => rfl⟩

theorem AgreeOff.trans (first : r.AgreeOff account q) (second : q.AgreeOff account t) :
    r.AgreeOff account t := by
  refine ⟨second.directory.trans first.directory, ?_⟩
  intro id others
  rw [second.sessions id (mt (leadsUnder_congr first.directory id).1 others),
    first.sessions id others]

theorem AgreeOff.on (agree : r.AgreeOff account q)
    (apart : ∀ id, r.LeadsUnder other id → ¬r.LeadsUnder account id) : r.AgreeOn other q :=
  ⟨agree.directory, fun id leads => agree.sessions id (apart id leads)⟩

theorem eq_of_session? (directory : q.directory = r.directory)
    (sessions : ∀ id, q.session? id = r.session? id) : q = r := by
  obtain ⟨bound, keys⟩ := r
  obtain ⟨bound', keys'⟩ := q
  cases directory
  have same : bound' = bound := List.ext_getElem? sessions
  rw [same]

theorem AgreeOff.eq {first second x y : Registry} (one : r.AgreeOff account first)
    (another : first.AgreeOff other x) (other' : r.AgreeOff other second)
    (one' : second.AgreeOff account y) (agree : x.AgreeOn account y) (also : x.AgreeOn other y) :
    x = y := by
  have directory : first.directory = r.directory := one.directory
  refine eq_of_session? agree.directory.symm ?_
  intro id
  by_cases here : x.LeadsUnder account id
  · exact (agree.sessions id here).symm
  by_cases there : x.LeadsUnder other id
  · exact (also.sessions id there).symm
  rw [leadsUnder_congr another.directory, leadsUnder_congr directory] at here there
  rw [another.sessions id (mt (leadsUnder_congr directory id).1 there), one.sessions id here,
    one'.sessions id (mt (leadsUnder_congr other'.directory id).1 here), other'.sessions id there]

theorem AgreeOn.entries (agree : r.AgreeOn account q) :
    q.entries.filter (·.key.isUnder account) = r.entries.filter (·.key.isUnder account) := by
  rw [Registry.entries, Registry.entries, List.filter_filterMap, List.filter_filterMap,
    agree.directory]
  apply List.filterMap_congr
  rintro ⟨key, id⟩ member
  unfold entry?
  by_cases under : key.isUnder account = true
  · rw [agree.sessions id ⟨key, member, under⟩]
  · have nothing : ∀ found : Option Session,
        (found.map (Entry.mk key id)).filter (·.key.isUnder account) = none := by
      intro found
      cases found with
      | none => rfl
      | some s => simp [Option.filter, under]
    rw [nothing, nothing]

theorem find?_eq_find?_filter (r : Registry) (full : FullAddress) :
    r.find? full =
      (r.entries.filter (·.key.isUnder full.bare)).find? (·.key.text == full.text) := by
  rw [find?, List.find?_filter]
  congr 1
  funext e
  by_cases same : e.key.text = full.text
  · have under : e.key.isUnder full.bare = true :=
      (FullAddress.isUnder_iff ..).2 ⟨full.resource, same⟩
    simp [same, under]
  · simp [same]

theorem ofAccount_eq_filter_filter (r : Registry) (account : BareAddress) :
    r.ofAccount account =
      (r.entries.filter (·.key.isUnder account)).filter (·.key.bare.text == account.text) := by
  rw [ofAccount, List.filter_filter]
  apply List.filter_congr
  intro e _
  by_cases same : e.key.bare.text = account.text
  · simp [same, FullAddress.isUnder_of_text same]
  · simp [same]

theorem AgreeOn.sessionsFor {address : Address} (agree : r.AgreeOn address.bare q) :
    q.sessionsFor address = r.sessionsFor address := by
  obtain ⟨bare, resource⟩ := address
  cases resource with
  | some resource =>
    change (q.find? ⟨bare, resource⟩).toList = (r.find? ⟨bare, resource⟩).toList
    rw [find?_eq_find?_filter, find?_eq_find?_filter, agree.entries]
  | none =>
    change sorted (q.ofAccount bare) = sorted (r.ofAccount bare)
    rw [ofAccount_eq_filter_filter, ofAccount_eq_filter_filter, agree.entries]

theorem AgreeOn.query {address : Address} (agree : r.AgreeOn address.bare q)
    (asked : Priority.Query) : q.query asked address = r.query asked address := by
  rw [Registry.query, Registry.query, agree.sessionsFor]

theorem leadsUnder_of_mem_sessionsFor {address : Address} {e : Entry}
    (member : e ∈ r.sessionsFor address) : r.LeadsUnder address.bare e.id := by
  have found : e ∈ r.entries ∧ e.key.isUnder address.bare = true := by
    obtain ⟨bare, resource⟩ := address
    cases resource with
    | some resource =>
      have first : r.find? ⟨bare, resource⟩ = some e := Option.mem_toList.1 member
      rw [find?_eq_find?_filter] at first
      exact List.mem_filter.1 (List.mem_of_find?_eq_some first)
    | none =>
      have sorted : e ∈ sorted (r.ofAccount bare) := member
      rw [Registry.sorted, List.mem_mergeSort, ofAccount_eq_filter_filter] at sorted
      exact List.mem_filter.1 (List.mem_filter.1 sorted).1
  exact ⟨e.key, (mem_entries.1 found.1).1, found.2⟩

end StanzaDelivery.Registry

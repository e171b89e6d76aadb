import StanzaDelivery.Pool
import StanzaDelivery.Proofs.Configuration.Usability

/-! Making a pool where there is a scheduler. Settings that fail their check are refused with the
reason. Settings that pass it make a pool without workers or jobs, however many workers they want
and however long an idle one waits; unless they want a queue that is larger than any queue can be.
The check does not look at that, and such settings end in a crash. -/

namespace StanzaDelivery.Pool

variable {J : Type} {s : Settings}

/-- The queue is to hold more than a queue can. -/
def Settings.Oversized (s : Settings) : Prop := Capacity.largest < s.queueCapacity.toNat

instance (s : Settings) : Decidable s.Oversized :=
  inferInstanceAs (Decidable (Capacity.largest < s.queueCapacity.toNat))

inductive Launched (s : Settings) : Launch J → Prop
  | refused {cause : Unusable} (failed : s.check = .error cause) :
      Launched s (.refused (.unusable cause))
  | launched (passed : s.check = .ok ()) (fits : ¬s.Oversized) : Launched s (.launched (empty s))
  | crashed (passed : s.check = .ok ()) (oversized : s.Oversized) : Launched s .crashed

theorem Launched.launch_eq {outcome : Launch J} (launched : Launched s outcome) :
    launch true s = outcome := by
  cases launched with
  | refused failed => rw [launch, failed]
  | launched passed fits =>
    have room : s.queueCapacity.toNat ≤ Capacity.largest := Nat.le_of_not_lt fits
    simp [launch, passed, room]
  | crashed passed oversized =>
    have full : ¬s.queueCapacity.toNat ≤ Capacity.largest := Nat.not_le_of_lt oversized
    simp [launch, passed, full]

theorem launched_launch (s : Settings) : Launched s (launch true s : Launch J) := by
  cases checked : s.check with
  | error cause =>
    have launched := Launched.refused (J := J) checked
    rwa [launched.launch_eq]
  | ok _ =>
    by_cases oversized : s.Oversized
    · have launched := Launched.crashed (J := J) checked oversized
      rwa [launched.launch_eq]
    · have launched := Launched.launched (J := J) checked oversized
      rwa [launched.launch_eq]

theorem launch_eq_iff {outcome : Launch J} : launch true s = outcome ↔ Launched s outcome :=
  ⟨fun same => same ▸ launched_launch s, Launched.launch_eq⟩

theorem launch_eq_launched_iff (passed : s.check = .ok ()) :
    launch true s = (.launched (empty s) : Launch J) ↔ ¬s.Oversized := by
  rw [launch_eq_iff]
  exact ⟨fun (.launched _ fits) => fits, .launched passed⟩

theorem launch_eq_crashed_iff (passed : s.check = .ok ()) :
    launch true s = (.crashed : Launch J) ↔ s.Oversized := by
  rw [launch_eq_iff]
  exact ⟨fun (.crashed _ oversized) => oversized, .crashed passed⟩

theorem check_poolSettings {c : Configuration} (passed : c.check = .ok ()) :
    c.poolSettings.check = .ok () := by
  unfold Configuration.check at passed
  split at passed
  · cases passed
  · exact passed

/-- Settings that pass their check make a pool, unless the queue is to be larger than a queue can
be: then, and only then, the attempt crashes. Settings that fail it are refused with the reason.
A configuration that passes its check makes a pool under the same condition on its queue, whatever
its number of workers and its keep-alive time are. -/
theorem usable_settings_make_pool_unless_oversized (J : Type) :
    (∀ s : Settings, s.check = .ok () →
      (launch true s = (.launched (empty s) : Launch J) ↔ ¬s.Oversized) ∧
      (launch true s = (.crashed : Launch J) ↔ s.Oversized)) ∧
    (∀ (s : Settings) (cause : Unusable), s.check = .error cause →
      launch true s = (.refused (.unusable cause) : Launch J)) ∧
    ∀ c : Configuration, c.check = .ok () →
      (launch true c.poolSettings = (.launched (empty c.poolSettings) : Launch J) ↔
        c.queueCapacity.toNat ≤ Capacity.largest) ∧
      (launch true c.poolSettings = (.crashed : Launch J) ↔
        Capacity.largest < c.queueCapacity.toNat) := by
  refine ⟨?_, ?_, ?_⟩
  · intro s passed
    exact ⟨launch_eq_launched_iff passed, launch_eq_crashed_iff passed⟩
  · intro s cause failed
    exact (Launched.refused failed).launch_eq
  · intro c passed
    have fits := launch_eq_launched_iff (J := J) (check_poolSettings passed)
    exact ⟨fits.trans Nat.not_lt, launch_eq_crashed_iff (check_poolSettings passed)⟩

/-- Two configurations with as many workers as can be named, and a queue at the limit: the largest
that there can be, and one more. -/
def greediest (queueCapacity : UInt64) : Configuration :=
  ⟨"waddle.social", false, 18446744073709551615, 18446744073709551615, queueCapacity⟩

theorem usable_settings_make_pool_unless_oversized_at_limit :
    (greediest 2305843009213693951).check = .ok () ∧
      launch true (greediest 2305843009213693951).poolSettings =
        (.launched (empty (greediest 2305843009213693951).poolSettings) : Launch Unit) := by
  have passed : (greediest 2305843009213693951).check = .ok () := by decide
  have made := (usable_settings_make_pool_unless_oversized Unit).2.2 _ passed
  exact ⟨passed, made.1.2 (by decide)⟩

/-- The second passes its check, and so do its settings, and still there is neither a pool nor a
fault. -/
theorem oversized_queue_crashes :
    (greediest 2305843009213693952).check = .ok () ∧
      (greediest 2305843009213693952).poolSettings.check = .ok () ∧
      launch true (greediest 2305843009213693952).poolSettings = (.crashed : Launch Unit) := by
  have passed : (greediest 2305843009213693952).check = .ok () := by decide
  exact ⟨passed, check_poolSettings passed,
    (launch_eq_crashed_iff (check_poolSettings passed)).2 (by decide)⟩

end StanzaDelivery.Pool

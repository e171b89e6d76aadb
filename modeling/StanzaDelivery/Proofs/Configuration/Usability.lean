import StanzaDelivery.Configuration
import StanzaDelivery.Proofs.Text.Trimming

/-! Which configurations can be used, as far as they are checked. The domain is looked at first,
then the number of workers, then the capacity of the queue; the most workers that there may be are
never below those that are kept. -/

namespace StanzaDelivery.Configuration

open Text

variable {c : Configuration} {cause : Unusable}

/-- There is something in the domain besides blanks. -/
def Named (c : Configuration) : Prop := ∃ ch ∈ c.localDomain.toList, isBlank ch = false

structure Usable (c : Configuration) : Prop where
  named : c.Named
  workers_pos : 1 ≤ c.workers
  queue_pos : 1 ≤ c.queueCapacity

inductive FirstDefect (c : Configuration) : Unusable → Prop
  | blankDomain (unnamed : ¬c.Named) : FirstDefect c .blankDomain
  | noCoreWorkers (named : c.Named) (nobody : ¬1 ≤ c.workers) : FirstDefect c .noCoreWorkers
  | noQueue (named : c.Named) (manned : 1 ≤ c.workers) (full : ¬1 ≤ c.queueCapacity) :
      FirstDefect c .noQueue

theorem trim_eq_nil_iff_not_named : trim c.localDomain.toList = [] ↔ ¬c.Named := by
  simp [trim_eq_nil_iff, Named]

theorem core_le_max_poolSettings (c : Configuration) :
    c.poolSettings.core ≤ c.poolSettings.max := le_doubled c.workers

theorem one_le_iff {n : UInt64} : 1 ≤ n ↔ n ≠ 0 := by
  rw [← UInt64.pos_iff_ne_zero]
  exact Nat.succ_le_iff

theorem check_eq (c : Configuration) :
    c.check =
      if trim c.localDomain.toList = [] then .error .blankDomain
      else if c.workers = 0 then .error .noCoreWorkers
      else if c.queueCapacity = 0 then .error .noQueue
      else .ok () := by
  have sizes : ¬c.poolSettings.max < c.poolSettings.core :=
    UInt64.not_lt.2 (core_le_max_poolSettings c)
  rw [check, Pool.Settings.check, if_neg sizes]
  rfl

theorem Usable.check_eq (usable : c.Usable) : c.check = .ok () := by
  have named := fun blank => trim_eq_nil_iff_not_named.1 blank usable.named
  rw [Configuration.check_eq, if_neg named, if_neg (one_le_iff.1 usable.workers_pos),
    if_neg (one_le_iff.1 usable.queue_pos)]

theorem FirstDefect.check_eq (defect : FirstDefect c cause) : c.check = .error cause := by
  have blank := trim_eq_nil_iff_not_named (c := c)
  cases defect with
  | blankDomain unnamed => rw [Configuration.check_eq, if_pos (blank.2 unnamed)]
  | noCoreWorkers named nobody =>
    rw [one_le_iff, not_not] at nobody
    rw [Configuration.check_eq, if_neg (fun none => blank.1 none named), if_pos nobody]
  | noQueue named manned full =>
    rw [one_le_iff, not_not] at full
    rw [Configuration.check_eq, if_neg (fun none => blank.1 none named),
      if_neg (one_le_iff.1 manned), if_pos full]

theorem usable_or_firstDefect (c : Configuration) : c.Usable ∨ ∃ cause, FirstDefect c cause := by
  by_cases named : c.Named
  · by_cases manned : 1 ≤ c.workers
    · by_cases room : 1 ≤ c.queueCapacity
      · exact .inl ⟨named, manned, room⟩
      · exact .inr ⟨_, .noQueue named manned room⟩
    · exact .inr ⟨_, .noCoreWorkers named manned⟩
  · exact .inr ⟨_, .blankDomain named⟩

theorem check_eq_ok_iff : c.check = .ok () ↔ c.Usable := by
  refine ⟨fun passed => ?_, Usable.check_eq⟩
  rcases usable_or_firstDefect c with usable | ⟨cause, defect⟩
  · exact usable
  · rw [defect.check_eq] at passed
    cases passed

end StanzaDelivery.Configuration

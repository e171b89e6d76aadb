import StanzaDelivery.Configuration.Fault
import StanzaDelivery.Text.Word

/-! Sizes of a pool of workers: how many it keeps while idle, how many it may have, how
many jobs may wait, and how long a worker above the core waits for work. -/

namespace StanzaDelivery.Pool

structure Settings where
  core : UInt64
  max : UInt64
  queueCapacity : UInt64
  keepAliveMs : Nat
  deriving DecidableEq, Repr

namespace Settings

def default : Settings := ⟨18, 36, 1024, 120000⟩

/-- The core size with twice as many workers at most. -/
def withMaxWorkers (s : Settings) (n : UInt64) : Settings :=
  { s with core := n, max := Text.doubled n }

def withKeepAliveSecs (s : Settings) (secs : UInt64) : Settings :=
  { s with keepAliveMs := secs.toNat * 1000 }

def withQueueCapacity (s : Settings) (capacity : UInt64) : Settings :=
  { s with queueCapacity := capacity }

def keepAliveSecs (s : Settings) : Nat := s.keepAliveMs / 1000

def check (s : Settings) : Except Unusable Unit :=
  if s.core = 0 then .error .noCoreWorkers
  else if s.max < s.core then .error (.maxBelowCore s.max s.core)
  else if s.queueCapacity = 0 then .error .noQueue
  else .ok ()

structure Usable (s : Settings) : Prop where
  core_pos : 0 < s.core
  core_le_max : s.core ≤ s.max
  queue_pos : 0 < s.queueCapacity

theorem check_eq_ok_iff (s : Settings) : s.check = .ok () ↔ s.Usable := by
  constructor
  · intro ok
    simp only [check] at ok
    split at ok
    · cases ok
    next core =>
      split at ok
      · cases ok
      next max =>
        split at ok
        · cases ok
        next queue =>
          exact ⟨UInt64.pos_iff_ne_zero.2 core, UInt64.not_lt.1 max, UInt64.pos_iff_ne_zero.2 queue⟩
  · intro usable
    have core := UInt64.pos_iff_ne_zero.1 usable.core_pos
    have queue := UInt64.pos_iff_ne_zero.1 usable.queue_pos
    simp [check, core, queue, UInt64.not_lt.2 usable.core_le_max]

end Settings
end StanzaDelivery.Pool

import StanzaDelivery.Proofs.Configuration.Spelling
import StanzaDelivery.Proofs.Configuration.Usability

/-! Loading a configuration from variables. What comes of it is told by the texts of the variables
alone: the first malformed one is the fault; without one, they give each field a value, and the
first thing that is wrong with those values is the fault; without that either, the values are the
configuration. So a usable configuration is loaded from whatever variables spell it. -/

namespace StanzaDelivery.Configuration

variable {α : Type} {small : SmallForms} {lookup : String → Option String} {c : Configuration}
  {cause : Unusable} {key raw : String}

/-- The value that a variable gives: the default if it is absent, else what its text spells. -/
def Gives (spells : String → α → Prop) (absent : α) : Option String → α → Prop
  | none, a => a = absent
  | some text, a => spells text a

section Single

variable {read? : String → Option α} {spells : String → α → Prop} {absent a : α}
  {value : Option String} (exact : ∀ {text a}, read? text = some a ↔ spells text a)

theorem gives_of_wellFormed (absent : α) (good : ∀ raw, value = some raw → ∃ a, spells raw a) :
    ∃ a, Gives spells absent value a := by
  cases value with
  | none => exact ⟨absent, rfl⟩
  | some text => exact good text rfl

include exact

theorem Gives.variableOr_eq (gives : Gives spells absent value a) :
    variableOr key read? absent value = .ok a := by
  cases value with
  | none => exact congrArg Except.ok (Eq.symm gives)
  | some text => rw [variableOr, exact.2 gives]

theorem variableOr_of_malformed (bad : ∀ a, ¬spells raw a) :
    variableOr key read? absent (some raw) = .error (.malformed key raw) := by
  have unread : read? raw = none :=
    Option.eq_none_iff_forall_ne_some.2 fun a read => bad a (exact.1 read)
  rw [variableOr, unread]

end Single

def Variable.inOrder : List String :=
  [Variable.highestOnly, Variable.workers, Variable.keepAliveSecs, Variable.queueCapacity]

structure Spells (small : SmallForms) (lookup : String → Option String) (c : Configuration) :
    Prop where
  localDomain : c.localDomain = (lookup Variable.localDomain).getD default.localDomain
  highestOnly : Gives (IsSwitch small) default.highestOnly (lookup Variable.highestOnly)
    c.highestOnly
  workers : Gives IsNumber default.workers (lookup Variable.workers) c.workers
  keepAliveSecs : Gives IsNumber default.keepAliveSecs (lookup Variable.keepAliveSecs)
    c.keepAliveSecs
  queueCapacity : Gives IsNumber default.queueCapacity (lookup Variable.queueCapacity)
    c.queueCapacity

def Malformed (small : SmallForms) (lookup : String → Option String) (key raw : String) : Prop :=
  lookup key = some raw ∧
    if key = Variable.highestOnly then ∀ on, ¬IsSwitch small raw on else ∀ n, ¬IsNumber raw n

def FirstMalformed (small : SmallForms) (lookup : String → Option String) (key raw : String) :
    Prop :=
  Malformed small lookup key raw ∧ ∃ before after, Variable.inOrder = before ++ key :: after ∧
    ∀ earlier ∈ before, ∀ text, ¬Malformed small lookup earlier text

theorem exists_switch (absent : Bool)
    (good : ∀ raw, ¬Malformed small lookup Variable.highestOnly raw) :
    ∃ on, Gives (IsSwitch small) absent (lookup Variable.highestOnly) on := by
  apply gives_of_wellFormed
  intro raw present
  by_contra bad
  exact good raw ⟨present, by simpa using bad⟩

theorem exists_number (number : key ≠ Variable.highestOnly) (absent : UInt64)
    (good : ∀ raw, ¬Malformed small lookup key raw) :
    ∃ n, Gives IsNumber absent (lookup key) n := by
  apply gives_of_wellFormed
  intro raw present
  by_contra bad
  exact good raw ⟨present, by simpa [number] using bad⟩

theorem variableOr_switch? {absent : Bool}
    (bad : Malformed small lookup Variable.highestOnly raw) :
    variableOr Variable.highestOnly switch? absent (lookup Variable.highestOnly) =
      .error (.malformed Variable.highestOnly raw) := by
  obtain ⟨present, bad⟩ := bad
  rw [present]
  exact variableOr_of_malformed (switch?_eq_some_iff small) (by simpa using bad)

theorem variableOr_word? (number : key ≠ Variable.highestOnly) {absent : UInt64}
    (bad : Malformed small lookup key raw) :
    variableOr key word? absent (lookup key) = .error (.malformed key raw) := by
  obtain ⟨present, bad⟩ := bad
  rw [present]
  exact variableOr_of_malformed word?_eq_some_iff (by simpa [number] using bad)

theorem Spells.ofVariables_eq (spells : Spells small lookup c) :
    ofVariables lookup = checked c := by
  have first : variableOr Variable.highestOnly switch? false (lookup Variable.highestOnly) =
      .ok c.highestOnly := spells.highestOnly.variableOr_eq (switch?_eq_some_iff small)
  rw [ofVariables, first, spells.workers.variableOr_eq word?_eq_some_iff,
    spells.keepAliveSecs.variableOr_eq word?_eq_some_iff,
    spells.queueCapacity.variableOr_eq word?_eq_some_iff, ← spells.localDomain]
  rfl

theorem FirstMalformed.ofVariables_eq (first : FirstMalformed small lookup key raw) :
    ofVariables lookup = .error (.malformed key raw) := by
  obtain ⟨bad, before, after, order, good⟩ := first
  rcases before with _ | ⟨_, _ | ⟨_, _ | ⟨_, _ | ⟨_, rest⟩⟩⟩⟩
  case nil =>
    obtain ⟨rfl, -⟩ := List.cons.inj order
    rw [ofVariables, variableOr_switch? bad]
    rfl
  all_goals
    simp only [Variable.inOrder, List.cons_append, List.nil_append, List.cons.injEq] at order
    obtain ⟨rfl, order⟩ := order
    simp only [List.forall_mem_cons] at good
    obtain ⟨on, highestOnly⟩ := exists_switch false good.1
    rw [ofVariables, highestOnly.variableOr_eq (switch?_eq_some_iff small)]
  case cons.nil =>
    obtain ⟨rfl, -⟩ := order
    rw [variableOr_word? (by decide) bad]
    rfl
  all_goals
    obtain ⟨rfl, order⟩ := order
    obtain ⟨workers, core⟩ := exists_number (by decide) default.workers good.2.1
    rw [core.variableOr_eq word?_eq_some_iff]
  case cons.cons.nil =>
    obtain ⟨rfl, -⟩ := order
    rw [variableOr_word? (by decide) bad]
    rfl
  all_goals
    obtain ⟨rfl, order⟩ := order
    obtain ⟨secs, keepAlive⟩ := exists_number (by decide) default.keepAliveSecs good.2.2.1
    rw [keepAlive.variableOr_eq word?_eq_some_iff]
  case cons.cons.cons.nil =>
    obtain ⟨rfl, -⟩ := order
    rw [variableOr_word? (by decide) bad]
    rfl
  case cons.cons.cons.cons => simp at order

theorem spells_or_firstMalformed (small : SmallForms) (lookup : String → Option String) :
    (∃ c, Spells small lookup c) ∨ ∃ key raw, FirstMalformed small lookup key raw := by
  classical
  cases found :
      Variable.inOrder.find? fun key => decide (∃ raw, Malformed small lookup key raw) with
  | none =>
    have good : ∀ key ∈ Variable.inOrder, ∀ raw, ¬Malformed small lookup key raw := by
      simpa using found
    simp only [Variable.inOrder, List.forall_mem_cons] at good
    obtain ⟨switch, first, second, third, -⟩ := good
    obtain ⟨on, highestOnly⟩ := exists_switch default.highestOnly switch
    obtain ⟨workers, core⟩ := exists_number (by decide) default.workers first
    obtain ⟨secs, keepAlive⟩ := exists_number (by decide) default.keepAliveSecs second
    obtain ⟨capacity, queue⟩ := exists_number (by decide) default.queueCapacity third
    exact .inl ⟨⟨_, on, workers, secs, capacity⟩, rfl, highestOnly, core, keepAlive, queue⟩
  | some key =>
    obtain ⟨bad, before, after, order, good⟩ := List.find?_eq_some_iff_append.1 found
    obtain ⟨raw, bad⟩ := of_decide_eq_true bad
    refine .inr ⟨key, raw, bad, before, after, order, ?_⟩
    simpa using good

inductive Loading (small : SmallForms) (lookup : String → Option String) :
    Except ConfigurationFault Configuration → Prop
  | malformed {key raw : String} (first : FirstMalformed small lookup key raw) :
      Loading small lookup (.error (.malformed key raw))
  | unusable {c : Configuration} {cause : Unusable} (spells : Spells small lookup c)
      (defect : FirstDefect c cause) : Loading small lookup (.error (.unusable cause))
  | loaded {c : Configuration} (spells : Spells small lookup c) (usable : c.Usable) :
      Loading small lookup (.ok c)

theorem Loading.ofVariables_eq {answer : Except ConfigurationFault Configuration}
    (loading : Loading small lookup answer) : ofVariables lookup = answer := by
  cases loading with
  | malformed first => exact first.ofVariables_eq
  | unusable spells defect => rw [spells.ofVariables_eq, checked, defect.check_eq]
  | loaded spells usable => rw [spells.ofVariables_eq, checked, usable.check_eq]

theorem loading_ofVariables (small : SmallForms) (lookup : String → Option String) :
    Loading small lookup (ofVariables lookup) := by
  rcases spells_or_firstMalformed small lookup with ⟨c, spells⟩ | ⟨key, raw, first⟩
  · rcases usable_or_firstDefect c with usable | ⟨cause, defect⟩
    · have loading := Loading.loaded spells usable
      rwa [loading.ofVariables_eq]
    · have loading := Loading.unusable spells defect
      rwa [loading.ofVariables_eq]
  · have loading := Loading.malformed first
    rwa [loading.ofVariables_eq]

theorem ofVariables_eq_iff (small : SmallForms) (lookup : String → Option String)
    (answer : Except ConfigurationFault Configuration) :
    ofVariables lookup = answer ↔ Loading small lookup answer :=
  ⟨fun same => same ▸ loading_ofVariables small lookup, Loading.ofVariables_eq⟩

/-- Every field in a variable of its own, in the plainest spelling. -/
def written (c : Configuration) (key : String) : Option String :=
  if key = Variable.localDomain then some c.localDomain
  else if key = Variable.highestOnly then some (if c.highestOnly then "true" else "false")
  else if key = Variable.workers then some (toString c.workers.toNat)
  else if key = Variable.keepAliveSecs then some (toString c.keepAliveSecs.toNat)
  else if key = Variable.queueCapacity then some (toString c.queueCapacity.toNat)
  else none

theorem isNumber_toString (n : UInt64) : IsNumber (toString n.toNat) n := by
  refine ⟨Nat.toDigits 10 n.toNat, ?_, .plain (Text.isNumeral_toDigits _)⟩
  rw [Nat.toString_eq_repr, Nat.toList_repr]
  exact (Text.isNumeral_toDigits _).trimsTo

theorem isSwitch_written (small : SmallForms) (on : Bool) :
    IsSwitch small (if on then "true" else "false") on := by
  cases on with
  | true => exact (switch?_eq_some_iff small).1 (by decide)
  | false => exact (switch?_eq_some_iff small).1 (by decide)

theorem spells_written (small : SmallForms) (c : Configuration) : Spells small c.written c where
  localDomain := rfl
  highestOnly := isSwitch_written small c.highestOnly
  workers := isNumber_toString c.workers
  keepAliveSecs := isNumber_toString c.keepAliveSecs
  queueCapacity := isNumber_toString c.queueCapacity

/-- Variables load a configuration exactly if they spell it and it can be used. Otherwise the fault
is the first malformed variable, in the order in which they are read, with its text as it stands;
or, if none is malformed, the first thing that is wrong with the configuration that they spell. A
configuration that passes its check can be written out, and is loaded from whatever spells it. -/
theorem loads_what_is_spelled (small : SmallForms) :
    (∀ lookup c, ofVariables lookup = .ok c ↔ Spells small lookup c ∧ c.Usable) ∧
    (∀ lookup key raw, ofVariables lookup = .error (.malformed key raw) ↔
      FirstMalformed small lookup key raw) ∧
    (∀ lookup cause, ofVariables lookup = .error (.unusable cause) ↔
      ∃ c, Spells small lookup c ∧ FirstDefect c cause) ∧
    (∀ lookup, ofVariables lookup ≠ .error .noScheduler) ∧
    ∀ c, c.check = .ok () → Spells small c.written c ∧
      ∀ lookup, Spells small lookup c → ofVariables lookup = .ok c := by
  refine ⟨?_, ?_, ?_, ?_, ?_⟩
  · intro lookup c
    rw [ofVariables_eq_iff small]
    exact ⟨fun (.loaded spells usable) => ⟨spells, usable⟩,
      fun ⟨spells, usable⟩ => .loaded spells usable⟩
  · intro lookup key raw
    rw [ofVariables_eq_iff small]
    exact ⟨fun (.malformed first) => first, .malformed⟩
  · intro lookup cause
    rw [ofVariables_eq_iff small]
    exact ⟨fun (.unusable spells defect) => ⟨_, spells, defect⟩,
      fun ⟨_, spells, defect⟩ => .unusable spells defect⟩
  · intro lookup none
    rw [ofVariables_eq_iff small] at none
    cases none
  · intro c passed
    refine ⟨spells_written small c, fun lookup spells => ?_⟩
    exact (Loading.loaded spells (check_eq_ok_iff.1 passed)).ofVariables_eq

/-- Small letters that know the Kelvin sign. -/
def kelvinForms : SmallForms where
  of cs := cs.map fun c => if c = '\u212A' then 'k' else c.toLower
  ascii cs inside := by
    apply List.map_congr_left
    intro c member
    apply if_neg
    rintro rfl
    exact absurd (inside _ member) (by decide)
  beyond cs outside := by
    obtain ⟨c, member, far⟩ := outside
    refine ⟨_, List.mem_map_of_mem member, ?_⟩
    split
    · exact .inr rfl
    · exact .inl (by rwa [toLower_of_beyond far])

/-- With blanks, capitals, a plus sign and leading zeros, the largest word, and one number left
out. -/
def paddedVariables (key : String) : Option String :=
  if key = Variable.localDomain then some " waddle.social"
  else if key = Variable.highestOnly then some "\u3000YES\n"
  else if key = Variable.workers then some " +0018"
  else if key = Variable.queueCapacity then some "18446744073709551615"
  else none

def paddedConfiguration : Configuration :=
  ⟨" waddle.social", true, 18, 120, 18446744073709551615⟩

theorem spells_paddedVariables : Spells kelvinForms paddedVariables paddedConfiguration where
  localDomain := rfl
  highestOnly := (switch?_eq_some_iff kelvinForms).1 (by decide)
  workers := word?_eq_some_iff.1 (by decide)
  keepAliveSecs := rfl
  queueCapacity := word?_eq_some_iff.1 (by decide)

theorem loads_what_is_spelled_with_blanks :
    paddedConfiguration.check = .ok () ∧
      Spells kelvinForms paddedVariables paddedConfiguration ∧
      ofVariables paddedVariables = .ok paddedConfiguration := by
  have passed : paddedConfiguration.check = .ok () := by decide
  exact ⟨passed, spells_paddedVariables,
    ((loads_what_is_spelled kelvinForms).2.2.2.2 paddedConfiguration passed).2
      paddedVariables spells_paddedVariables⟩

end StanzaDelivery.Configuration

import StanzaDelivery.Configuration.Document
import StanzaDelivery.Proofs.Json.Grammar

/-! The configuration as a document. An object may name some of the fields, in any order and among
other members; what is read from it has these fields as they are written and the others as they are
by default. A configuration that is written names all five, so it is read as it was. -/

namespace StanzaDelivery.Configuration

variable {c d : Configuration} {fields : List Field} {members : List Json.Member}

theorem eq_of_get (same : ∀ f : Field, f.get c = f.get d) : c = d := by
  obtain ⟨domain, highest, workers, keepAlive, queue⟩ := c
  obtain ⟨domain', highest', workers', keepAlive', queue'⟩ := d
  have first := same .localDomain
  have second := same .highestOnly
  have third := same .workers
  have fourth := same .keepAliveSecs
  have last := same .queueCapacity
  simp only [Field.get, Json.Value.text.injEq, Json.Value.bool.injEq, Json.Value.natural.injEq,
    UInt64.toNat_inj] at first second third fourth last
  rw [first, second, third, fourth, last]

theorem Field.set?_get (f : Field) (c d : Configuration) :
    ∃ e, f.set? (f.get c) d = some e ∧
      ∀ g : Field, g.get e = if g = f then g.get c else g.get d := by
  cases f with
  | localDomain => exact ⟨{ d with localDomain := c.localDomain }, rfl, fun g => by cases g <;> rfl⟩
  | highestOnly => exact ⟨{ d with highestOnly := c.highestOnly }, rfl, fun g => by cases g <;> rfl⟩
  | workers =>
    refine ⟨{ d with workers := c.workers }, ?_, fun g => by cases g <;> rfl⟩
    rw [Field.get, Field.set?, Text.wordOfNat?_toNat]
    rfl
  | keepAliveSecs =>
    refine ⟨{ d with keepAliveSecs := c.keepAliveSecs }, ?_, fun g => by cases g <;> rfl⟩
    rw [Field.get, Field.set?, Text.wordOfNat?_toNat]
    rfl
  | queueCapacity =>
    refine ⟨{ d with queueCapacity := c.queueCapacity }, ?_, fun g => by cases g <;> rfl⟩
    rw [Field.get, Field.set?, Text.wordOfNat?_toNat]
    rfl

theorem Field.ofName?_of_ne {name : String} (unknown : ∀ f : Field, f.name ≠ name) :
    Field.ofName? name = none := by
  apply List.find?_eq_none.2
  intro f _
  simp [unknown f]

/-- The members name these fields, each of them once and with the value that it has here, and
besides them whatever they like. -/
inductive Listing (c : Configuration) : List Field → List Json.Member → Prop
  | nil : Listing c [] []
  | field {f : Field} {fields : List Field} {members : List Json.Member} (fresh : f ∉ fields)
      (rest : Listing c fields members) :
      Listing c (f :: fields) ((some f.name, f.get c) :: members)
  | other {name : String} {value : Json.Value} {fields : List Field} {members : List Json.Member}
      (unknown : ∀ f : Field, f.name ≠ name) (rest : Listing c fields members) :
      Listing c fields ((some name, value) :: members)

theorem Listing.withMembers (listing : Listing c fields members) {seen : List Field}
    (unseen : ∀ f ∈ fields, f ∉ seen) (d : Configuration) :
    ∃ e, withMembers members seen d = some e ∧
      ∀ g : Field, g.get e = if g ∈ fields then g.get c else g.get d := by
  induction listing generalizing seen d with
  | nil => exact ⟨d, rfl, fun g => by simp⟩
  | @field f fields members fresh rest ih =>
    obtain ⟨set, placed, gets⟩ := f.set?_get c d
    have later : ∀ g ∈ fields, g ∉ f :: seen := by
      intro g member again
      rcases List.mem_cons.1 again with rfl | before
      · exact fresh member
      · exact unseen g (List.mem_cons_of_mem _ member) before
    obtain ⟨e, read, all⟩ := ih later set
    refine ⟨e, ?_, fun g => ?_⟩
    · rw [Configuration.withMembers, Field.ofName?_name]
      simp only [unseen f List.mem_cons_self, if_false, placed, Option.bind_some, read]
    · rw [all, gets]
      by_cases here : g ∈ fields <;> by_cases this : g = f <;> simp [here, this]
  | other unknown rest ih =>
    obtain ⟨e, read, all⟩ := ih unseen d
    refine ⟨e, ?_, all⟩
    rw [Configuration.withMembers, Field.ofName?_of_ne unknown]
    exact read

theorem listing_all (c : Configuration) :
    Listing c Field.all (Field.all.map fun f => (some f.name, f.get c)) :=
  .field (by decide) (.field (by decide) (.field (by decide) (.field (by decide)
    (.field (by decide) .nil))))

theorem Listing.ofDocument? (listing : Listing c fields members) {text : String}
    (spelled : Json.Spelled text.toList (.value (.object members))) :
    ∃ read, ofDocument? text = some read ∧
      ∀ f : Field, f.get read = if f ∈ fields then f.get c else f.get default := by
  have unseen : ∀ f ∈ fields, f ∉ ([] : List Field) := fun _ _ => List.not_mem_nil
  obtain ⟨read, found, gets⟩ := listing.withMembers unseen default
  refine ⟨read, ?_, gets⟩
  rw [Configuration.ofDocument?, Json.read_of_spelled spelled]
  exact found

theorem ofDocument?_document (c : Configuration) : ofDocument? c.document = some c := by
  have spelled : Json.Spelled c.document.toList (.value c.toJson) := by
    rw [document, String.toList_ofList]
    exact Json.spelled_write c.toJson
  obtain ⟨read, found, gets⟩ := (listing_all c).ofDocument? spelled
  have same : read = c := eq_of_get fun f => by
    rw [gets, if_pos (by cases f <;> decide)]
  rw [found, same]

/-- A configuration is read from its document as it was written. An object that names any of the
fields of a configuration, each once, in any order and among any other members, and that is spelled
in any way, is read as the configuration that has these fields as they are written and the others as
they are by default. -/
theorem documents_read_as_written (c : Configuration) :
    ofDocument? c.document = some c ∧
      ∀ (fields : List Field) (members : List Json.Member) (text : String),
        Listing c fields members → Json.Spelled text.toList (.value (.object members)) →
          ∃ read, ofDocument? text = some read ∧
            ∀ f : Field, f.get read = if f ∈ fields then f.get c else f.get default :=
  ⟨ofDocument?_document c, fun _ _ _ listing spelled => listing.ofDocument? spelled⟩

/-- A document that names two of the fields, the later one first, with blanks in it and with a
member that nobody looks at. -/
def busy : Configuration := { default with workers := 4, queueCapacity := 18446744073709551615 }

def busyText : String :=
  "\x7b\"queue_capacity\":18446744073709551615,\"notes\":[null,\"\\ud800\"], \"workers\" : 4\x7d"

def busyMembers : List Json.Member :=
  [(some "queue_capacity", .natural 18446744073709551615),
    (some "notes", .array [.null, .unpairedText]), (some "workers", .natural 4)]

theorem listing_busy : Listing busy [.queueCapacity, .workers] busyMembers :=
  .field (by decide) (.other (by intro f; cases f <;> decide) (.field (by decide) .nil))

theorem spelled_busyText : Json.Spelled busyText.toList (.value (.object busyMembers)) := by
  have blank : Json.IsBlank [' '] := List.forall_mem_singleton.2 (by decide)
  have queue := Json.spelled_named (some "queue_capacity")
    (Json.spelled_write (.natural 18446744073709551615))
  have notes := Json.spelled_named (some "notes")
    (Json.spelled_write (.array [.null, .unpairedText]))
  have workers := Json.Spelled.named blank (Json.isString_writeName (some "workers")) blank
    (.padded blank (Json.spelled_write (.natural 4)) Json.isBlank_nil)
  have spelled := Json.Spelled.object (.members queue (.members notes (.member workers)))
  have renamed : ∀ text, text = busyText.toList → Json.Spelled text (.value (.object busyMembers)) →
      Json.Spelled busyText.toList (.value (.object busyMembers)) := by
    rintro _ rfl spelled
    exact spelled
  exact renamed _ (by decide +kernel) spelled

theorem documents_read_as_written_of_busy :
    Listing busy [.queueCapacity, .workers] busyMembers ∧
      Json.Spelled busyText.toList (.value (.object busyMembers)) ∧
      ofDocument? busyText = some busy := by
  obtain ⟨read, found, gets⟩ :=
    (documents_read_as_written busy).2 _ _ busyText listing_busy spelled_busyText
  have same : read = busy := eq_of_get fun f => by
    rw [gets]
    cases f <;> rfl
  exact ⟨listing_busy, spelled_busyText, by rw [found, same]⟩

end StanzaDelivery.Configuration

import KafkaToNexus.AccessMessageMetadata.Extractors
import KafkaToNexus.Foundations.OrderedMap
import Mathlib.Data.String.Basic

/-!
# The registry of the flatbuffer readers

Each extractor is registered by a static object of its own source file.  In
which order these objects are constructed is left open by the language, so a
`StartUp` has an arbitrary order of all of them.  Whatever the order is, every
registration succeeds and the registry finds the same readers.
-/

namespace KafkaToNexus

open KafkaToNexus.Foundations
open KafkaToNexus.AccessMessageMetadata (ExternalCode Extractor Registered)

/-- The map from the flatbuffer ids to the readers. -/
abbrev FlatbufferReaderRegistry := OrderedMap String Extractor

namespace FlatbufferReaderRegistry

/-- Register a reader, unless this throws. -/
def addReader
    (readers : FlatbufferReaderRegistry) (flatbufferID : String)
    (item : Extractor) : Except String FlatbufferReaderRegistry :=
  if flatbufferID.length ≠ 4 then
    .error "FlatbufferReader ID must be a 4 character string."
  else if (readers.find flatbufferID).isSome then
    .error
      ("ERROR FlatbufferReader for ID [" ++ flatbufferID ++ "] exists already")
  else
    .ok (readers.insert flatbufferID item)

/-- The constructor of the registrar of an extractor. -/
def registrar
    (code : ExternalCode) (readers : FlatbufferReaderRegistry)
    (registered : Registered) : Except String FlatbufferReaderRegistry :=
  readers.addReader registered.flatbufferID (registered.extractor code)

/-- The registry finds the readers of these extractors and no others. -/
def Holds
    (code : ExternalCode) (done : List Registered)
    (readers : FlatbufferReaderRegistry) : Prop :=
  ∀ id extractor,
    readers.find id = some extractor ↔
      ∃ registered ∈ done,
        registered.flatbufferID = id ∧ registered.extractor code = extractor

theorem addReader_of_new
    {readers : FlatbufferReaderRegistry} {flatbufferID : String}
    (item : Extractor)
    (four : flatbufferID.length = 4)
    (new : readers.find flatbufferID = none) :
    readers.addReader flatbufferID item =
      .ok (readers.insert flatbufferID item) := by
  rw [addReader, if_neg (not_not.mpr four), new]
  rfl

/-- A registrar that has not run yet succeeds. -/
theorem Holds.registrar
    {code : ExternalCode} {done : List Registered}
    {readers : FlatbufferReaderRegistry} {registered : Registered}
    (holds : Holds code done readers) (new : registered ∉ done) :
    ∃ next, registrar code readers registered = .ok next ∧
      Holds code (done ++ [registered]) next := by
  have absent : readers.find registered.flatbufferID = none := by
    apply Option.eq_none_iff_forall_ne_some.mpr
    intro extractor found
    rcases (holds _ _).mp found with ⟨other, member, sameID, _⟩
    rw [Registered.flatbufferID_injective sameID] at member
    exact new member
  refine ⟨_, addReader_of_new _ registered.length_flatbufferID absent, ?_⟩
  intro id extractor
  by_cases own : id = registered.flatbufferID
  · rw [own, OrderedMap.find_insert_self absent]
    constructor
    · rintro ⟨⟩
      exact ⟨registered, by simp, rfl, rfl⟩
    · rintro ⟨other, _, sameID, rfl⟩
      rw [Registered.flatbufferID_injective sameID]
  · rw [OrderedMap.find_insert_of_ne own, holds id extractor]
    constructor
    · rintro ⟨other, member, found⟩
      exact ⟨other, List.mem_append_left _ member, found⟩
    · rintro ⟨other, member, sameID, same⟩
      rcases List.mem_append.mp member with earlier | last
      · exact ⟨other, earlier, sameID, same⟩
      · rw [List.mem_singleton.mp last] at sameID
        exact (own sameID.symm).elim

/-- Registrars that have not run yet succeed one after the other. -/
theorem Holds.registrars
    {code : ExternalCode} {done order : List Registered}
    {readers : FlatbufferReaderRegistry}
    (holds : Holds code done readers) (distinct : (done ++ order).Nodup) :
    ∃ final, order.foldlM (FlatbufferReaderRegistry.registrar code) readers =
        .ok final ∧
      Holds code (done ++ order) final := by
  induction order generalizing done readers with
  | nil =>
      refine ⟨readers, rfl, ?_⟩
      rw [List.append_nil]
      exact holds
  | cons registered order induction =>
      have new : registered ∉ done := by
        intro member
        exact (List.nodup_append.mp distinct).2.2 registered member registered
          List.mem_cons_self rfl
      rcases holds.registrar new with ⟨next, succeeded, nextHolds⟩
      rw [List.append_cons] at distinct ⊢
      rcases induction nextHolds distinct with ⟨final, rest, finalHolds⟩
      refine ⟨final, ?_, finalHolds⟩
      rw [List.foldlM_cons, succeeded]
      exact rest

end FlatbufferReaderRegistry

/-- The start of the program, with the order in which the registrars run. -/
structure StartUp where
  order : List Registered
  complete : order.Perm Registered.all

namespace StartUp

/-- The registry when every registrar has run. -/
def getReaders
    (startUp : StartUp) (code : ExternalCode) :
    Except String FlatbufferReaderRegistry :=
  startUp.order.foldlM (FlatbufferReaderRegistry.registrar code) []

/-- The reader of a flatbuffer id; a failed start has none. -/
def find
    (startUp : StartUp) (code : ExternalCode) (flatbufferID : String) :
    Option Extractor :=
  match startUp.getReaders code with
  | .ok readers => OrderedMap.find readers flatbufferID
  | .error _ => none

/-- No registration throws, and the registry has every extractor. -/
theorem getReaders_holds (startUp : StartUp) (code : ExternalCode) :
    ∃ readers, startUp.getReaders code = .ok readers ∧
      FlatbufferReaderRegistry.Holds code startUp.order readers := by
  have empty :
      FlatbufferReaderRegistry.Holds code []
        ([] : FlatbufferReaderRegistry) := by
    intro id extractor
    exact iff_of_false nofun nofun
  apply empty.registrars
  exact startUp.complete.nodup_iff.mpr (by decide)

theorem find_eq_some_iff
    {startUp : StartUp} {code : ExternalCode} {flatbufferID : String}
    {extractor : Extractor} :
    startUp.find code flatbufferID = some extractor ↔
      ∃ registered : Registered,
        registered.flatbufferID = flatbufferID ∧
          registered.extractor code = extractor := by
  rcases startUp.getReaders_holds code with ⟨readers, succeeded, holds⟩
  rw [find, succeeded]
  apply (holds flatbufferID extractor).trans
  constructor
  · rintro ⟨registered, _, found⟩
    exact ⟨registered, found⟩
  · rintro ⟨registered, found⟩
    exact ⟨registered, startUp.complete.mem_iff.mpr registered.mem_all, found⟩

end StartUp

end KafkaToNexus

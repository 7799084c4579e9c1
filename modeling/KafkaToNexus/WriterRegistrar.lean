import Std.Data.TreeMap.Lemmas

/-!
# The registry of the writer modules

A writer module is registered under the hash of its flatbuffer id and its name.
It is looked up by its name; if there is none with that name, the first one is
taken that has it as its flatbuffer id.  The checks of a registration are an
invariant of every registry: the flatbuffer ids have four bytes, and a name
belongs to one module only.
-/

namespace KafkaToNexus

abbrev WriterModuleHash := UInt64

structure ModuleFlatbufferID where
  id : String
  name : String
deriving DecidableEq, Repr

structure FactoryInfo (Factory : Type) where
  factoryPtr : Factory
  id : String
  name : String
deriving DecidableEq, Repr

/-- The registered modules by their hashes. -/
abbrev WriterRegistry (Factory : Type) :=
  Std.TreeMap WriterModuleHash (FactoryInfo Factory)

namespace WriterRegistry

variable {Factory : Type}

/-- `std::hash<std::string>` of the id and the name in a row. -/
def getWriterModuleHash
    (hash : String → WriterModuleHash) (id : ModuleFlatbufferID) :
    WriterModuleHash :=
  hash (id.id ++ id.name)

/-- The module with a name or, failing this, an id. -/
def findModule (factories : WriterRegistry Factory) (moduleName : String) :
    Except String (FactoryInfo Factory) :=
  match factories.toList.find? fun item => item.2.name = moduleName with
  | some item => .ok item.2
  | none =>
      match factories.toList.find? fun item => item.2.id = moduleName with
      | some item => .ok item.2
      | none =>
          .error
            ("Unable to find module with name/id \"" ++ moduleName ++ "\"")

/-- Register a module, unless this throws. -/
def addWriterModule
    (hash : String → WriterModuleHash) (factories : WriterRegistry Factory)
    (id : ModuleFlatbufferID) (value : Factory) :
    Except String (WriterRegistry Factory) :=
  let moduleHash := getWriterModuleHash hash id
  if id.id.utf8ByteSize ≠ 4 then
    .error "The number of characters in the Flatbuffer id string must be 4."
  else if id.name = "dataset" then
    .error
      ("The writer module name \"dataset\" has been reserved and can not " ++
        "be used.")
  else if moduleHash ∈ factories then
    .error
      ("Writer module with name \"" ++ id.name ++ "\" that processes \"" ++
        id.id ++ "\" flatbuffers already exists.")
  else if (factories.toList.find? fun item => item.2.name = id.name).isSome then
    .error ("Writer module with name \"" ++ id.name ++ "\" already exists.")
  else
    .ok
      (factories.insert moduleHash
        { factoryPtr := value, id := id.id, name := id.name })

variable {factories : WriterRegistry Factory} {moduleName : String}
  {info : FactoryInfo Factory}

/-- A module that is found is registered. -/
theorem mem_of_findModule
    (found : factories.findModule moduleName = .ok info) :
    info ∈ factories.toList.map Prod.snd := by
  rw [findModule] at found
  split at found
  · rename_i item there
    cases found
    exact List.mem_map_of_mem (List.mem_of_find?_eq_some there)
  · split at found
    · rename_i item there
      cases found
      exact List.mem_map_of_mem (List.mem_of_find?_eq_some there)
    · cases found

/-! ## What is registered -/

/-- The registries that calls of `addWriterModule` fill. -/
inductive Accepted (hash : String → WriterModuleHash) :
    WriterRegistry Factory → Prop
  | empty : Accepted hash ∅
  | add {factories next : WriterRegistry Factory}
      {id : ModuleFlatbufferID} {value : Factory}
      (earlier : Accepted hash factories)
      (added : factories.addWriterModule hash id value = .ok next) :
      Accepted hash next

/-- The module is one of those that are registered. -/
def Registered
    (factories : WriterRegistry Factory) (info : FactoryInfo Factory) : Prop :=
  ∃ moduleHash : WriterModuleHash, factories[moduleHash]? = some info

theorem registered_iff_mem :
    factories.Registered info ↔ info ∈ factories.toList.map Prod.snd := by
  rw [List.mem_map]
  constructor
  · rintro ⟨moduleHash, found⟩
    exact ⟨(moduleHash, info),
      Std.TreeMap.mem_toList_iff_getElem?_eq_some.mpr found, rfl⟩
  · rintro ⟨⟨moduleHash, _⟩, member, rfl⟩
    exact ⟨moduleHash, Std.TreeMap.mem_toList_iff_getElem?_eq_some.mp member⟩

theorem not_registered_empty :
    ¬ Registered (∅ : WriterRegistry Factory) info := by
  rintro ⟨moduleHash, found⟩
  rw [Std.TreeMap.getElem?_emptyc] at found
  cases found

/-- What is registered after an insertion is new, or was registered before. -/
theorem registered_of_insert
    {moduleHash : WriterModuleHash} {value : FactoryInfo Factory}
    (registered :
      Registered (Std.TreeMap.insert factories moduleHash value) info) :
    info = value ∨ factories.Registered info := by
  rcases registered with ⟨otherHash, found⟩
  rw [Std.TreeMap.getElem?_insert] at found
  split at found
  · exact Or.inl (Option.some.inj found).symm
  · exact Or.inr ⟨otherHash, found⟩

/-- What the checks of `addWriterModule` make of a registry. -/
structure WellRegistered (factories : WriterRegistry Factory) : Prop where
  fourBytes :
    ∀ info, factories.Registered info → info.id.utf8ByteSize = 4
  /-- A name belongs to one module only. -/
  named :
    ∀ info, factories.Registered info →
      ∀ other, factories.Registered other → info.name = other.name →
        info = other

/-- What a call that does not throw has checked and registered. -/
theorem exists_of_addWriterModule
    {hash : String → WriterModuleHash} {next : WriterRegistry Factory}
    {id : ModuleFlatbufferID} {value : Factory}
    (added : factories.addWriterModule hash id value = .ok next) :
    id.id.utf8ByteSize = 4 ∧
      (∀ info, factories.Registered info → info.name ≠ id.name) ∧
      next =
        factories.insert (getWriterModuleHash hash id)
          { factoryPtr := value, id := id.id, name := id.name } := by
  rw [addWriterModule] at added
  split at added
  · cases added
  · rename_i size
    split at added
    · cases added
    · split at added
      · cases added
      · split at added
        · cases added
        · rename_i unnamed
          cases added
          refine ⟨Decidable.not_not.mp size, ?_, rfl⟩
          rintro info ⟨moduleHash, registered⟩ same
          apply unnamed
          rw [List.find?_isSome]
          exact ⟨(moduleHash, info),
            Std.TreeMap.mem_toList_iff_getElem?_eq_some.mpr registered,
            decide_eq_true same⟩

theorem WellRegistered.empty :
    WellRegistered (∅ : WriterRegistry Factory) := by
  constructor
  · intro info registered
    exact absurd registered not_registered_empty
  · intro info registered
    exact absurd registered not_registered_empty

/-- A registration keeps what the earlier ones have made. -/
theorem WellRegistered.addWriterModule
    {hash : String → WriterModuleHash} {next : WriterRegistry Factory}
    {id : ModuleFlatbufferID} {value : Factory}
    (earlier : WellRegistered factories)
    (added : factories.addWriterModule hash id value = .ok next) :
    WellRegistered next := by
  rcases exists_of_addWriterModule added with ⟨size, unnamed, rfl⟩
  constructor
  · intro info registered
    rcases registered_of_insert registered with equal | old
    · rw [equal]
      exact size
    · exact earlier.fourBytes info old
  · intro info registered other otherRegistered same
    rcases registered_of_insert registered with equal | old
    · rcases registered_of_insert otherRegistered with otherEqual | otherOld
      · rw [equal, otherEqual]
      · rw [equal] at same
        exact absurd same.symm (unnamed other otherOld)
    · rcases registered_of_insert otherRegistered with otherEqual | otherOld
      · rw [otherEqual] at same
        exact absurd same (unnamed info old)
      · exact earlier.named info old other otherOld same

/-- The checks have been made for every registry that is filled in this way. -/
theorem Accepted.wellRegistered {hash : String → WriterModuleHash}
    (accepted : Accepted hash factories) : WellRegistered factories := by
  induction accepted with
  | empty => exact WellRegistered.empty
  | add _ added inductionHypothesis =>
      exact inductionHypothesis.addWriterModule added

end WriterRegistry

end KafkaToNexus

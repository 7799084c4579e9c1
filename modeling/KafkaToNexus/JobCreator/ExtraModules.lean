import KafkaToNexus.Foundations.Fallible
import KafkaToNexus.JobCreator.StreamSettings

/-!
# Extra modules of the streams

A module can only ask for modules that its class declares.  If no module is
among those that it leads to in this way, the loop over the streams ends, since
the registry has finitely many names.  The list at the end has the streams of
the job and behind them, in the order in which their parents stand in it, the
extra modules.  Each entry that can be opened again becomes one source.
-/

namespace KafkaToNexus.JobCreator

open Foundations HDFOperations JsonConfig

variable {Real Own World : Type}
  {registry : WriterRegistry (ModuleFactory Own)}
  {calls : ModuleCalls Own World}

/-! ## Declared modules -/

/-- The names of the modules that the class of a module declares. -/
def declaredExtras
    (registry : WriterRegistry (ModuleFactory Own)) (module_ : String) :
    List String :=
  match registry.findModule module_ with
  | .ok { factoryPtr := some class_, .. } =>
      foundExtraModules registry class_.extraModules
  | _ => []

/-- No module is declared by itself, directly or through others. -/
def AcyclicExtras (registry : WriterRegistry (ModuleFactory Own)) : Prop :=
  ∀ module_,
    ¬ Relation.TransGen
      (fun extra module_ => extra ∈ declaredExtras registry module_)
      module_ module_

theorem mem_names_of_declaredExtras {module_ extra : String}
    (declared : extra ∈ declaredExtras registry module_) :
    extra ∈ (registry.toList.map Prod.snd).map FactoryInfo.name := by
  rw [declaredExtras] at declared
  split at declared
  · rcases List.mem_filterMap.mp declared with ⟨searched, _, found⟩
    rcases Option.map_eq_some_iff.mp found with ⟨info, returned, rfl⟩
    apply List.mem_map_of_mem
    apply WriterRegistry.mem_of_findModule
    cases looked : registry.findModule searched with
    | error what =>
        rw [looked] at returned
        cases returned
    | ok other =>
        rw [looked] at returned
        cases returned
        rfl
  · cases declared

/-! ## One stream -/

variable {world next : World} {item processed : ModuleSettings Own}
  {more : List (ModuleSettings Own)} {writer : WriterInstance Own}

theorem nestedRuntimeError_eq_ok {Value : Type} {what : String → String}
    {value : Value} {code : Except JobFailure Value}
    (returned : nestedRuntimeError what code = .ok value) :
    code = .ok value := by
  rcases code with failure | other
  · cases failure <;> cases returned
  · cases returned
    rfl

/-- An instance has the extra modules that its class declares. -/
theorem generateWriterInstance_ok
    (generated : generateWriterInstance registry calls item = .ok writer) :
    (∃ info, registry.findModule item.module = .ok info) ∧
      writer.foundExtraModules = declaredExtras registry item.module := by
  rw [generateWriterInstance] at generated
  split at generated
  · cases generated
  · rename_i info found
    refine ⟨⟨info, found⟩, ?_⟩
    rcases info with ⟨_ | class_, id, name⟩
    · cases generated
    · rcases Fallible.bind_eq_ok.mp generated with ⟨parsed, _, made⟩
      cases made
      rw [declaredExtras, found]

/-- What a step makes of the settings, and what it appends for them. -/
theorem initialiseStream_ok
    (returned :
      initialiseStream registry calls world item =
        .ok (next, processed, more)) :
    ∃ writer own, generateWriterInstance registry calls item = .ok writer ∧
      processed = { item with writerModule := some { writer with own } } ∧
        more = item.extraSettings writer := by
  rcases Fallible.bind_eq_ok.mp returned with ⟨opened, _, afterGroup⟩
  rcases Fallible.bind_eq_ok.mp afterGroup with
    ⟨⟨initialised, writer, extras⟩, inner, afterInit⟩
  rcases Fallible.bind_eq_ok.mp (nestedRuntimeError_eq_ok inner) with
    ⟨generated, made, afterInstance⟩
  rcases Fallible.bind_eq_ok.mp afterInstance with ⟨attributed, _, afterAttr⟩
  rcases Fallible.bind_eq_ok.mp afterAttr with ⟨set_, _, last⟩
  cases last
  rcases Fallible.bind_eq_ok.mp afterInit with ⟨⟨ended, own⟩, _, done⟩
  cases done
  exact ⟨_, own, made, rfl, rfl⟩

/-! ## All streams -/

/-- The settings without the module that was made for them. -/
def forgetModule (settings : ModuleSettings Own) : ModuleSettings Own :=
  { settings with writerModule := none }

/-- The settings for the extra modules that the module of an entry enables. -/
def spawnedSettings (settings : ModuleSettings Own) :
    List (ModuleSettings Own) :=
  match settings.writerModule with
  | none => []
  | some writer => settings.extraSettings writer

/-- An entry of the list at the end: its module is known and was made. -/
def SetUp
    (registry : WriterRegistry (ModuleFactory Own))
    (settings : ModuleSettings Own) : Prop :=
  (∃ info, registry.findModule settings.module = .ok info) ∧
    settings.writerModule.isSome

/-- The loop ends, with an exception or without. -/
theorem exists_initialiseStreams
    (acyclic : AcyclicExtras registry)
    (calls : ModuleCalls Own World) (world : World)
    (streams : List (ModuleSettings Own)) :
    ∃ fuel outcome,
      initialiseStreams registry calls fuel world streams = some outcome := by
  rcases
      WorkList.exists_weight (declaredExtras registry)
        (WorkList.wellFounded_of_acyclic _
          (fun _ _ => mem_names_of_declaredExtras) acyclic)
    with ⟨weight, heavier⟩
  have weighs :
      WorkList.Weighs (initialiseStream registry calls)
        (fun settings => weight settings.module) := by
    intro world item next processed more returned
    rcases initialiseStream_ok returned with ⟨writer, _, made, _, rfl⟩
    have declared := (generateWriterInstance_ok made).2
    have enabled :
        (item.extraSettings writer).map (fun settings =>
            weight settings.module) =
          (writer.foundExtraModules.filter
            writer.extraModuleEnabled).map weight := by
      rw [ModuleSettings.extraSettings, List.map_map]
      rfl
    have fewer :
        ((writer.foundExtraModules.filter
            writer.extraModuleEnabled).map weight).sum ≤
          (writer.foundExtraModules.map weight).sum :=
      (List.filter_sublist.map weight).sum_le_sum fun _ _ => Nat.zero_le _
    rw [enabled]
    rw [declared] at fewer ⊢
    exact fewer.trans_lt (heavier item.module)
  refine ⟨_, WorkList.exists_run_of_weight weighs (Nat.lt_succ_self _)⟩

theorem forgetModule_spawnedSettings (settings : ModuleSettings Own) :
    (spawnedSettings settings).map forgetModule =
      spawnedSettings settings := by
  rw [spawnedSettings]
  split
  · rfl
  · rw [ModuleSettings.extraSettings, List.map_map]
    rfl

/-- The streams come first, and then the extra modules of every entry. -/
theorem initialiseStreams_ok
    {fuel : Nat} {streams final : List (ModuleSettings Own)}
    (returned :
      initialiseStreams registry calls fuel world streams =
        some (.ok (next, final))) :
    final.map forgetModule =
        streams.map forgetModule ++ final.flatMap spawnedSettings ∧
      ∀ settings ∈ final, SetUp registry settings := by
  have seeds :=
    @WorkList.run_eq_append_flatMap _ _ _ _ _ _ _ _ _ _ _ forgetModule
      spawnedSettings
      (by
        intro world item next processed more stepped
        rcases initialiseStream_ok stepped with ⟨writer, own, _, rfl, rfl⟩
        exact ⟨rfl, rfl⟩)
      returned
  have setUp :=
    @WorkList.run_forall _ _ _ _ _ _ _ _ _ _ (SetUp registry)
      (by
        intro world item next processed more stepped
        rcases initialiseStream_ok stepped with ⟨writer, own, made, rfl, _⟩
        exact ⟨(generateWriterInstance_ok made).1, rfl⟩)
      returned
  rw [List.drop_zero] at seeds setUp
  refine ⟨?_, setUp⟩
  have spawned :
      (final.flatMap spawnedSettings).map forgetModule =
        final.flatMap spawnedSettings := by
    rw [List.map_flatMap]
    exact List.flatMap_congr fun settings _ =>
      forgetModule_spawnedSettings settings
  rw [seeds, spawned]

/-- An entry spawns one entry for each extra module that it enables. -/
theorem spawnedSettings_fields (settings : ModuleSettings Own) :
    (spawnedSettings settings).map (fun extra =>
        (extra.topic, extra.source, extra.moduleHdfInfoObj, extra.module)) =
      (settings.writerModule.toList.flatMap
          WriterInstance.getEnabledExtraModules).map fun extraModule =>
        (settings.topic, settings.source, settings.moduleHdfInfoObj,
          extraModule) := by
  rw [spawnedSettings]
  cases settings.writerModule with
  | none => rfl
  | some writer =>
      show (settings.extraSettings writer).map _ = _
      rw [ModuleSettings.extraSettings, List.map_map, Option.toList_some,
        List.flatMap_singleton]
      rfl

/-! ## The streams of the structure -/

variable {library : JsonText Real}

theorem extractModuleInformationFromJsonForSource_ok
    {moduleInfo : ModuleHDFInfo} {settings : ModuleSettings Own}
    (returned :
      extractModuleInformationFromJsonForSource library moduleInfo =
        .ok settings) :
    settings.writerModule = none := by
  rw [extractModuleInformationFromJsonForSource] at returned
  split at returned
  · cases returned
  · rcases Fallible.bind_eq_ok.mp returned with ⟨_, _, afterParse⟩
    rcases Fallible.bind_eq_ok.mp afterParse with ⟨_, _, afterDump⟩
    rcases Fallible.bind_eq_ok.mp afterDump with ⟨_, _, afterSource⟩
    split at afterSource
    · rcases Fallible.bind_eq_ok.mp afterSource with ⟨_, _, last⟩
      cases last
      rfl
    · rcases Fallible.bind_eq_ok.mp afterSource with ⟨_, _, last⟩
      cases last
      rfl

theorem extractModuleInformationFromJson_ok
    {moduleInfos : List ModuleHDFInfo}
    {settingsList : List (ModuleSettings Own)}
    (returned :
      extractModuleInformationFromJson library moduleInfos =
        .ok settingsList) :
    ∀ settings ∈ settingsList, settings.writerModule = none := by
  induction moduleInfos generalizing settingsList with
  | nil =>
      cases returned
      exact List.forall_mem_nil _
  | cons moduleInfo moduleInfos induction =>
      rw [extractModuleInformationFromJson] at returned
      split at returned
      · rename_i settings read
        rcases Fallible.bind_eq_ok.mp returned with ⟨others, rest, last⟩
        cases last
        exact
          List.forall_mem_cons.mpr
            ⟨extractModuleInformationFromJsonForSource_ok read,
              induction rest⟩
      · exact induction returned
      · exact induction returned
      · cases returned

/-- No module has been made for the streams that the structure has. -/
theorem streamSettingsList_ok
    {moduleInfos : List ModuleHDFInfo} {streams : List (ModuleSettings Own)}
    (returned : streamSettingsList library moduleInfos = .ok streams) :
    streams.map forgetModule = streams := by
  rcases Fallible.bind_eq_ok.mp returned with ⟨settingsList, read, last⟩
  cases last
  have same :
      ∀ settings ∈ settingsList.filter fun item => !item.isLink,
        forgetModule settings = id settings := by
    intro settings member
    have fresh :=
      extractModuleInformationFromJson_ok read settings
        (List.mem_of_mem_filter member)
    rw [forgetModule, ← fresh]
    rfl
  rw [List.map_congr_left same, List.map_id]

/-! ## The sources -/

section Sources

variable (calls)

/-- What happens when the modules are opened again, one after the other. -/
def reopenOutcomes :
    List (ModuleSettings Own) → World →
      List (Except JobFailure (WriterInstance Own × InitResult))
  | [], _ => []
  | streamSettings :: others, world =>
      (reopenStream calls streamSettings world).2 ::
        reopenOutcomes others (reopenStream calls streamSettings world).1

/-- The module of a stream that could be opened again. -/
def reopenedModule :
    ModuleSettings Own ×
        Except JobFailure (WriterInstance Own × InitResult) →
      Option (ModuleSettings Own × WriterInstance Own)
  | (streamSettings, .ok (writer, .ok)) => some (streamSettings, writer)
  | _ => none

/-- The streams that can be opened again, with their modules. -/
def reopenedStreams (streams : List (ModuleSettings Own)) (world : World) :
    List (ModuleSettings Own × WriterInstance Own) :=
  (streams.zip (reopenOutcomes calls streams world)).filterMap reopenedModule

/-- A source has what it needs of the stream that it is for. -/
def IsSourceOf
    (registry : WriterRegistry (ModuleFactory Own))
    (context : MessageContext)
    (reopened : ModuleSettings Own × WriterInstance Own)
    (source : FileWriter.Source (WriterInstance Own)) : Prop :=
  ∃ info, registry.findModule reopened.1.module = .ok info ∧
    source = sourceOf context info reopened.1 reopened.2

/-- Only runtime errors are thrown when a module is opened again. -/
def ReopensSafely : Prop :=
  (∀ group world failure,
    calls.getGroup group world = .error failure →
      ∃ what, failure = .runtimeError what) ∧
  ∀ writer group world failure,
    (calls.reopen writer group world).2 = .error failure →
      ∃ what, failure = .runtimeError what

end Sources

variable {context : MessageContext}
  {sources : List (FileWriter.Source (WriterInstance Own))}

theorem reopenedStreams_cons
    (streamSettings : ModuleSettings Own)
    (others : List (ModuleSettings Own)) (world : World) :
    reopenedStreams calls (streamSettings :: others) world =
      (reopenedModule
          (streamSettings,
            (reopenStream calls streamSettings world).2)).toList ++
        reopenedStreams calls others
          (reopenStream calls streamSettings world).1 := by
  rw [reopenedStreams, reopenOutcomes, List.zip_cons_cons,
    List.filterMap_cons]
  split
  · rename_i skipped
    rw [skipped]
    rfl
  · rename_i reopened taken
    rw [taken]
    rfl

/-- There is one source for each stream that could be opened again. -/
theorem sources_of_addStreamSourceToWriterModule
    {streams : List (ModuleSettings Own)}
    (returned :
      addStreamSourceToWriterModule registry calls context streams world =
        .ok sources) :
    List.Forall₂ (IsSourceOf registry context)
      (reopenedStreams calls streams world) sources := by
  induction streams generalizing world sources with
  | nil =>
      cases returned
      exact .nil
  | cons streamSettings others induction =>
      rw [addStreamSourceToWriterModule] at returned
      rw [reopenedStreams_cons]
      split at returned
      · rename_i next _ reopened
        rw [reopened]
        exact induction returned
      · rename_i next _ reopened
        rw [reopened]
        exact induction returned
      · cases returned
      · rename_i next writer reopened
        rw [reopened]
        split at returned
        · cases returned
        · rename_i info found
          rcases Fallible.bind_eq_ok.mp returned with ⟨rest, added, last⟩
          cases last
          exact .cons ⟨info, found, rfl⟩ (induction added)

/-- Opening again a module that was made can only fail with its exceptions. -/
theorem reopenStream_runtimeError
    (safe : ReopensSafely calls) {settings : ModuleSettings Own}
    (setUp : SetUp registry settings) {failure : JobFailure}
    (threw : (reopenStream calls settings world).2 = .error failure) :
    ∃ what, failure = .runtimeError what := by
  rcases Option.isSome_iff_exists.mp setUp.2 with ⟨writer, made⟩
  rw [reopenStream] at threw
  split at threw
  · rename_i other missing
    cases threw
    exact safe.1 _ _ _ missing
  · rename_i opened there
    simp only [made] at threw
    split at threw
    · rename_i next other reopened
      cases threw
      exact safe.2 _ _ _ _ (congrArg Prod.snd reopened)
    · cases threw

theorem exists_addStreamSourceToWriterModule
    (safe : ReopensSafely calls) (context : MessageContext)
    {streams : List (ModuleSettings Own)}
    (setUp : ∀ settings ∈ streams, SetUp registry settings) (world : World) :
    ∃ sources,
      addStreamSourceToWriterModule registry calls context streams world =
        .ok sources := by
  induction streams generalizing world with
  | nil => exact ⟨[], rfl⟩
  | cons streamSettings others induction =>
      rcases List.forall_mem_cons.mp setUp with ⟨here, later⟩
      rcases here.1 with ⟨info, found⟩
      have runtime := @reopenStream_runtimeError _ _ _ calls world safe _ here
      rw [addStreamSourceToWriterModule]
      generalize reopenStream calls streamSettings world = reopened at *
      rcases reopened with ⟨next, failure | ⟨writer, _ | _⟩⟩
      · rcases runtime rfl with ⟨what, rfl⟩
        exact induction later next
      · exact induction later next
      · rcases induction later next with ⟨sources, added⟩
        refine ⟨sourceOf context info streamSettings writer :: sources, ?_⟩
        simp only [found, added]
        rfl

/-! ## From the structure to the sources -/

/--
If no module leads to itself, the loop over the streams ends.  Unless it
throws, the list at the end has the streams of the structure and then one entry
for each extra module that an entry enables, in the order of the list.  The
sources of the job are those of the entries that can be opened again.
-/
theorem extraModules_of_acyclic
    (acyclic : AcyclicExtras registry)
    (calls : ModuleCalls Own World) (library : JsonText Real)
    (context : MessageContext) :
    (∀ world (streams : List (ModuleSettings Own)), ∃ fuel outcome,
      initialiseStreams registry calls fuel world streams = some outcome) ∧
    ∀ moduleHdfInfoList streams,
      streamSettingsList library moduleHdfInfoList = .ok streams →
      ∀ fuel world next final,
        initialiseStreams registry calls fuel world streams =
            some (.ok (next, final)) →
          (final.map forgetModule =
              streams ++ final.flatMap spawnedSettings ∧
            ∀ settings ∈ final,
              (spawnedSettings settings).map (fun extra =>
                  (extra.topic, extra.source, extra.moduleHdfInfoObj,
                    extra.module)) =
                (settings.writerModule.toList.flatMap
                    WriterInstance.getEnabledExtraModules).map
                  fun extraModule =>
                    (settings.topic, settings.source,
                      settings.moduleHdfInfoObj, extraModule)) ∧
          ∀ later,
            (∀ sources,
              addStreamSourceToWriterModule registry calls context final
                  later = .ok sources →
                List.Forall₂ (IsSourceOf registry context)
                  (reopenedStreams calls final later) sources) ∧
            (ReopensSafely calls →
              ∃ sources,
                addStreamSourceToWriterModule registry calls context final
                  later = .ok sources) := by
  constructor
  · exact exists_initialiseStreams acyclic calls
  · intro moduleHdfInfoList streams read fuel world next final returned
    rcases initialiseStreams_ok returned with ⟨spawned, setUp⟩
    rw [streamSettingsList_ok read] at spawned
    constructor
    · exact ⟨spawned, fun settings _ => spawnedSettings_fields settings⟩
    · intro later
      constructor
      · intro sources added
        exact sources_of_addStreamSourceToWriterModule added
      · intro safe
        exact exists_addStreamSourceToWriterModule safe context setUp later

/-- Three of the modules; the first declares the other two. -/
def sampleRegistry : WriterRegistry (ModuleFactory Unit) :=
  (((∅ : WriterRegistry (ModuleFactory Unit)).insert 1
      { factoryPtr :=
          some { extraModules := ["epics_con_info", "alarm_info"], own := () }
        id := "f144", name := "f144" }).insert 2
      { factoryPtr := some { extraModules := [], own := () }
        id := "ep01", name := "epics_con_info" }).insert 3
      { factoryPtr := some { extraModules := [], own := () }
        id := "al00", name := "alarm_info" }

/-- Every call succeeds, and every extra module is enabled. -/
def sampleCalls : ModuleCalls Unit Unit where
  getGroup := fun _ world => .ok world
  parseConfig := fun own _ => .ok (fun _ => true, own)
  defaultNeXusClass := fun _ => "NXlog"
  writeAttributesList := fun _ _ world => .ok world
  initHdf := fun _ _ world => .ok (world, .ok)
  registerMetaData := fun writer _ world => .ok (world, writer.own)
  reopen := fun writer _ world => (world, .ok (writer.own, .ok))

def sampleLibrary : JsonText Empty where
  dump := fun _ => .ok "\x7b\x7d"
  parse := fun _ =>
    .ok (.object [("source", .string "PV"), ("topic", .string "motion")])

def sampleStreams : List ModuleHDFInfo :=
  [{ writerModule := "f144", hdfParentName := "/entry", configStream := "" }]

theorem sampleRegistry_entries :
    sampleRegistry.toList.map Prod.snd =
      [{ factoryPtr :=
          some { extraModules := ["epics_con_info", "alarm_info"], own := () }
         id := "f144", name := "f144" },
       { factoryPtr := some { extraModules := [], own := () }
         id := "ep01", name := "epics_con_info" },
       { factoryPtr := some { extraModules := [], own := () }
         id := "al00", name := "alarm_info" }] := rfl

theorem sampleRegistry_extras :
    foundExtraModules sampleRegistry ["epics_con_info", "alarm_info"] =
      ["epics_con_info", "alarm_info"] := by
  decide +kernel

theorem sampleRegistry_acyclic : AcyclicExtras sampleRegistry := by
  have leaf :
      ∀ module_ extra, extra ∈ declaredExtras sampleRegistry module_ →
        declaredExtras sampleRegistry extra = [] := by
    intro module_ extra declared
    rw [declaredExtras] at declared
    split at declared
    · rename_i class_ id name found
      have registered := WriterRegistry.mem_of_findModule found
      rw [sampleRegistry_entries] at registered
      simp only [List.mem_cons, List.not_mem_nil, or_false,
        FactoryInfo.mk.injEq, Option.some.injEq] at registered
      rcases registered with ⟨rfl, _⟩ | ⟨rfl, _⟩ | ⟨rfl, _⟩
      · rw [sampleRegistry_extras] at declared
        simp only [List.mem_cons, List.not_mem_nil, or_false] at declared
        rcases declared with rfl | rfl <;> rfl
      · cases declared
      · cases declared
    · cases declared
  intro module_ cycle
  rcases Relation.TransGen.head'_iff.mp cycle with ⟨above, declared, _⟩
  rcases Relation.TransGen.tail'_iff.mp cycle with ⟨below, _, declares⟩
  rw [leaf above module_ declared] at declares
  cases declares

theorem extraModules_of_acyclic_sample :
    ∃ final next,
      final.map ModuleSettings.module =
          ["f144", "epics_con_info", "alarm_info"] ∧
        ∃ streams, streamSettingsList sampleLibrary sampleStreams =
            .ok streams ∧
          final.map forgetModule =
              streams ++ final.flatMap spawnedSettings ∧
            ∃ sources,
              addStreamSourceToWriterModule sampleRegistry sampleCalls
                { findReader := fun _ => none, hash := fun _ => 0 }
                final next = .ok sources := by
  rcases
      extraModules_of_acyclic sampleRegistry_acyclic sampleCalls sampleLibrary
        { findReader := fun _ => none, hash := fun _ => 0 }
    with ⟨_, described⟩
  have ran := described sampleStreams _ rfl 4 () _ _ rfl
  have safe : ReopensSafely sampleCalls := by
    constructor
    · intro group world failure threw
      cases threw
    · intro writer group world failure threw
      cases threw
  exact ⟨_, (), rfl, _, rfl, ran.1.1, (ran.2 ()).2 safe⟩

end KafkaToNexus.JobCreator

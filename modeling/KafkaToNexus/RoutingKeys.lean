import KafkaToNexus.Foundations.Concatenation
import KafkaToNexus.Foundations.Fallible
import KafkaToNexus.JobCreator.StreamSettings
import KafkaToNexus.StreamController

/-!
# The keys under which messages are routed

The hash of a source is computed from its flatbuffer id and its name in a row,
its module hash from the name of its writer module and its name.  A partition
has one filter for each module hash, which gets the messages with the hash of
the source.  What the hashes tell apart therefore depends on which texts in a
row are the same: flatbuffer ids have four bytes, but the name of a module can
be the beginning of the name of another one.
-/

namespace KafkaToNexus.RoutingKeys

open Foundations Foundations.Concatenation
open KafkaToNexus.Stream
open WriterRegistry

/-- The `Source` of a job and not the one of the stream controller. -/
abbrev JobSource (Writer : Type) := FileWriter.Source Writer

variable {Factory Writer : Type}

/-! ## The sources and their keys -/

/-- The source is built from a registered module. -/
def Built
    (context : MessageContext) (factories : WriterRegistry Factory)
    (source : JobSource Writer) : Prop :=
  ∃ info, factories.Registered info ∧
    ∃ name topic writer,
      source = .create context name info.id info.name topic writer

/-- The texts that are hashed for a source. -/
def hashedTexts (source : JobSource Writer) : List String :=
  [source.schemaID ++ source.sourceName,
    source.writerModuleID ++ source.sourceName]

/-- The sources have the same module and the same source name. -/
def SameRoute (source other : JobSource Writer) : Prop :=
  source.schemaID = other.schemaID ∧
    source.writerModuleID = other.writerModuleID ∧
      source.sourceName = other.sourceName

instance (source other : JobSource Writer) :
    Decidable (SameRoute source other) :=
  inferInstanceAs (Decidable (_ ∧ _ ∧ _))

/-- What `StreamController::initStreams` appends to the map of a topic. -/
def srcDstKey
    (acceptsRepeatedTimestamps : Writer → Bool) (source : JobSource Writer) :
    SrcDstKey Writer where
  srcHash := source.srcHash
  writeHash := source.moduleHash
  destination := source.writerModule
  acceptsRepeatedTimestamps := acceptsRepeatedTimestamps source.writerModule

/-- The writers of the entries with the module and the name of a source. -/
def destinationsOf
    (entries : List (JobSource Writer)) (source : JobSource Writer) :
    List Writer :=
  (entries.filter fun entry => SameRoute source entry).map
    fun entry => entry.writerModule

/-! ## What the keys are for -/

/-- The filter has the hash of the source, and the writers for it only. -/
def Serves
    (entries : List (JobSource Writer)) (source : JobSource Writer)
    (item : SrcHash × SourceFilter Writer) : Prop :=
  item.1 = source.srcHash ∧ item.2.destIDs = destinationsOf entries source

/-- Every filter of the partition serves one source, and every entry has one. -/
structure PartitionSeparates
    (entries : List (JobSource Writer)) (partition : Partition Writer) :
    Prop where
  unmerged :
    ∀ item ∈ partition.msgFilters, ∃ source ∈ entries,
      Serves entries source item
  kept :
    ∀ source ∈ entries, ∃ item ∈ partition.msgFilters,
      Serves entries source item

/-- The keys of the sources separate them, also in every partition. -/
structure Separated
    (acceptsRepeatedTimestamps : Writer → Bool)
    (sources : List (JobSource Writer)) : Prop where
  moduleHash :
    ∀ source ∈ sources, ∀ other ∈ sources,
      source.moduleHash = other.moduleHash → SameRoute source other
  srcHash :
    ∀ source ∈ sources, ∀ other ∈ sources,
      source.srcHash = other.srcHash →
        source.schemaID = other.schemaID ∧
          source.sourceName = other.sourceName
  partition :
    ∀ entries : List (JobSource Writer), entries ⊆ sources →
      ∀ start stop stopLeeway kafkaErrorTimeout,
        PartitionSeparates entries
          (Partition.create
            (entries.map (srcDstKey acceptsRepeatedTimestamps)) start stop
            stopLeeway kafkaErrorTimeout)

/-! ## When module names do not overlap -/

/--
The name of one module begins with the name of the other, and the rest of it
stands before the name of one source in the name of the other.
-/
def Overlap (source other : JobSource Writer) : Prop :=
  ∃ rest, rest ≠ "" ∧
    other.writerModuleID = source.writerModuleID ++ rest ∧
      source.sourceName = rest ++ other.sourceName

/-- No two of the sources overlap. -/
def NoOverlap (sources : List (JobSource Writer)) : Prop :=
  ∀ source ∈ sources, ∀ other ∈ sources, ¬ Overlap source other

section Keys

variable {context : MessageContext} {factories : WriterRegistry Factory}
  {source other : JobSource Writer}

theorem Built.srcHash (built : Built context factories source) :
    source.srcHash = context.hash (source.schemaID ++ source.sourceName) := by
  rcases built with ⟨info, _, name, topic, writer, rfl⟩
  rfl

theorem Built.moduleHash (built : Built context factories source) :
    source.moduleHash =
      context.hash (source.writerModuleID ++ source.sourceName) := by
  rcases built with ⟨info, _, name, topic, writer, rfl⟩
  rfl

theorem Built.fourBytes
    (wellRegistered : WellRegistered factories)
    (built : Built context factories source) :
    source.schemaID.utf8ByteSize = 4 := by
  rcases built with ⟨info, registered, name, topic, writer, rfl⟩
  exact wellRegistered.fourBytes info registered

/-- The name of the module determines the flatbuffer id. -/
theorem Built.schemaID
    (wellRegistered : WellRegistered factories)
    (built : Built context factories source)
    (otherBuilt : Built context factories other)
    (same : source.writerModuleID = other.writerModuleID) :
    source.schemaID = other.schemaID := by
  rcases built with ⟨info, registered, name, topic, writer, rfl⟩
  rcases otherBuilt with ⟨otherInfo, otherRegistered, _, _, _, rfl⟩
  have equal :=
    wellRegistered.named info registered otherInfo otherRegistered same
  exact congrArg FactoryInfo.id equal

/-- Sources that overlap have the same module hash, whatever the hash is. -/
theorem Built.moduleHash_of_overlap
    (built : Built context factories source)
    (otherBuilt : Built context factories other)
    (overlap : Overlap source other) :
    source.moduleHash = other.moduleHash := by
  rcases overlap with ⟨rest, _, longer, name⟩
  rw [built.moduleHash, otherBuilt.moduleHash, longer, name,
    String.append_assoc]

/-- The hashes of sources with the same module and name are the same. -/
theorem SameRoute.srcHash
    (same : SameRoute source other)
    (built : Built context factories source)
    (otherBuilt : Built context factories other) :
    source.srcHash = other.srcHash := by
  rw [built.srcHash, otherBuilt.srcHash, same.1, same.2.2]

theorem SameRoute.moduleHash
    (same : SameRoute source other)
    (built : Built context factories source)
    (otherBuilt : Built context factories other) :
    source.moduleHash = other.moduleHash := by
  rw [built.moduleHash, otherBuilt.moduleHash, same.2.1, same.2.2]

/-- Of two sources that overlap the one has a longer name. -/
theorem Overlap.size (overlap : Overlap source other) :
    other.sourceName.utf8ByteSize < source.sourceName.utf8ByteSize := by
  rcases overlap with ⟨rest, notEmpty, _, name⟩
  have notZero : rest.utf8ByteSize ≠ 0 := by
    intro zero
    exact notEmpty (String.utf8ByteSize_eq_zero_iff.mp zero)
  rw [name, String.utf8ByteSize_append]
  omega

/-- Names in a row that are the same are those of one module and source. -/
theorem sameRoute_of_append
    (wellRegistered : WellRegistered factories)
    (built : Built context factories source)
    (otherBuilt : Built context factories other)
    (apart : ¬ Overlap source other) (otherApart : ¬ Overlap other source)
    (same :
      source.writerModuleID ++ source.sourceName =
        other.writerModuleID ++ other.sourceName) :
    SameRoute source other := by
  have names :
      source.writerModuleID = other.writerModuleID ∧
        source.sourceName = other.sourceName := by
    rcases exists_between same with ⟨rest, ⟨cut, name⟩ | ⟨cut, name⟩⟩
    · by_cases empty : rest = ""
      · exact same_cut empty cut name
      · exact absurd ⟨rest, empty, cut, name⟩ apart
    · by_cases empty : rest = ""
      · exact (same_cut empty cut name).imp Eq.symm Eq.symm
      · exact absurd ⟨rest, empty, cut, name⟩ otherApart
  exact ⟨built.schemaID wellRegistered otherBuilt names.1, names⟩

end Keys

/-! ## The filters of a partition -/

section Filters

variable {context : MessageContext} {factories : WriterRegistry Factory}
  {entries : List (JobSource Writer)}

/-- The entries that share the module hash of a source. -/
theorem groupOf_map
    (acceptsRepeatedTimestamps : Writer → Bool)
    (built : ∀ entry ∈ entries, Built context factories entry)
    (separate :
      ∀ source ∈ entries, ∀ other ∈ entries,
        source.moduleHash = other.moduleHash → SameRoute source other)
    {source : JobSource Writer} (member : source ∈ entries) :
    groupOf (entries.map (srcDstKey acceptsRepeatedTimestamps))
        source.moduleHash =
      (entries.filter fun entry => SameRoute source entry).map
        (srcDstKey acceptsRepeatedTimestamps) := by
  rw [groupOf, List.filter_map]
  congr 1
  apply List.filter_congr
  intro entry entryMember
  by_cases same : SameRoute source entry
  · rw [decide_eq_true same]
    exact beq_iff_eq.mpr
      (same.moduleHash (built source member) (built entry entryMember)).symm
  · rw [decide_eq_false same]
    apply beq_eq_false_iff_ne.mpr
    intro equal
    exact same (separate source member entry entryMember equal.symm)

/-- The maps that the constructor fills for the entries. -/
abbrev filterMaps
    (acceptsRepeatedTimestamps : Writer → Bool) (start stop : TimePoint)
    (entries : List (JobSource Writer)) : Partition.FilterMaps Writer :=
  Partition.buildFilterMaps start stop
    (entries.map (srcDstKey acceptsRepeatedTimestamps))

/-- The constructor makes a filter for each entry. -/
theorem exists_filter_of_entry
    (acceptsRepeatedTimestamps : Writer → Bool)
    {source : JobSource Writer} (member : source ∈ entries)
    (start stop : TimePoint) :
    ∃ filter,
      (filterMaps acceptsRepeatedTimestamps start stop
          entries).tempFilterMap[source.moduleHash]? = some filter := by
  rw [(buildFilterMaps_spec start stop _ source.moduleHash).1]
  have inGroup :
      srcDstKey acceptsRepeatedTimestamps source ∈
        groupOf (entries.map (srcDstKey acceptsRepeatedTimestamps))
          source.moduleHash :=
    mem_groupOf.mpr ⟨List.mem_map_of_mem member, rfl⟩
  cases first : (groupOf _ _).head? with
  | none =>
      rw [List.head?_eq_none_iff.mp first] at inGroup
      exact absurd inGroup List.not_mem_nil
  | some entry => exact ⟨_, rfl⟩

/-- A filter that the constructor has made is for the key of an entry. -/
theorem exists_entry_of_filter
    {acceptsRepeatedTimestamps : Writer → Bool} {start stop : TimePoint}
    {writeHash : SrcHash} {filter : SourceFilter Writer}
    (found :
      (filterMaps acceptsRepeatedTimestamps start stop
          entries).tempFilterMap[writeHash]? = some filter) :
    ∃ source ∈ entries, source.moduleHash = writeHash := by
  rw [(buildFilterMaps_spec start stop _ writeHash).1] at found
  rcases Option.map_eq_some_iff.mp found with ⟨first, isFirst, _⟩
  rcases mem_groupOf.mp (List.mem_of_head? isFirst) with ⟨member, same⟩
  rcases List.mem_map.mp member with ⟨source, sourceMember, rfl⟩
  exact ⟨source, sourceMember, same⟩

/-- The filter for the key of a source serves this source. -/
theorem serves_of_filter
    {acceptsRepeatedTimestamps : Writer → Bool}
    (built : ∀ entry ∈ entries, Built context factories entry)
    (separate :
      ∀ source ∈ entries, ∀ other ∈ entries,
        source.moduleHash = other.moduleHash → SameRoute source other)
    {start stop : TimePoint} {source : JobSource Writer}
    (member : source ∈ entries) {filter : SourceFilter Writer}
    (found :
      (filterMaps acceptsRepeatedTimestamps start stop
          entries).tempFilterMap[source.moduleHash]? = some filter) :
    Serves entries source
      ((filterMaps acceptsRepeatedTimestamps start stop
          entries).writerToSourceHashMap.getD source.moduleHash 0, filter) := by
  have spec :=
    buildFilterMaps_spec start stop
      (entries.map (srcDstKey acceptsRepeatedTimestamps)) source.moduleHash
  dsimp only at spec
  rw [groupOf_map acceptsRepeatedTimestamps built separate member] at spec
  rcases spec with ⟨filters, hashes⟩
  rw [filters] at found
  rcases Option.map_eq_some_iff.mp found with ⟨first, isFirst, rfl⟩
  constructor
  · have last :
        ∀ entry ∈
            (entries.filter fun entry => SameRoute source entry).map
              (srcDstKey acceptsRepeatedTimestamps),
          entry.srcHash = source.srcHash := by
      intro entry entryMember
      rcases List.mem_map.mp entryMember with ⟨other, chosen, rfl⟩
      rcases List.mem_filter.mp chosen with ⟨otherMember, same⟩
      exact
        ((of_decide_eq_true same).srcHash (built source member)
          (built other otherMember)).symm
    dsimp only
    rw [Std.TreeMap.getD_eq_getD_getElem?, hashes]
    cases isLast : (List.map _ _).getLast? with
    | none =>
        rw [List.getLast?_eq_none_iff.mp isLast] at isFirst
        cases isFirst
    | some entry => exact last entry (List.mem_of_getLast? isLast)
  · dsimp only
    rw [SourceFilter.addDestinationPtrs_eq, List.map_map]
    rfl

/-- A partition keeps the sources of its entries apart if their keys do. -/
theorem partitionSeparates
    (acceptsRepeatedTimestamps : Writer → Bool)
    (built : ∀ entry ∈ entries, Built context factories entry)
    (separate :
      ∀ source ∈ entries, ∀ other ∈ entries,
        source.moduleHash = other.moduleHash → SameRoute source other)
    (start stop : TimePoint) (stopLeeway kafkaErrorTimeout : Duration) :
    PartitionSeparates entries
      (Partition.create
        (entries.map (srcDstKey acceptsRepeatedTimestamps)) start stop
        stopLeeway kafkaErrorTimeout) := by
  constructor
  · intro item itemMember
    rcases List.mem_map.mp itemMember with ⟨⟨writeHash, filter⟩, listed, rfl⟩
    have found := Std.TreeMap.mem_toList_iff_getElem?_eq_some.mp listed
    rcases exists_entry_of_filter found with ⟨source, member, rfl⟩
    exact ⟨source, member, serves_of_filter built separate member found⟩
  · intro source member
    rcases exists_filter_of_entry acceptsRepeatedTimestamps member start
        stop with
      ⟨filter, found⟩
    refine ⟨_, ?_, serves_of_filter built separate member found⟩
    exact List.mem_map.mpr
      ⟨(source.moduleHash, filter),
        Std.TreeMap.mem_toList_iff_getElem?_eq_some.mpr found, rfl⟩

end Filters

/-! ## The separation -/

section Separation

variable {context : MessageContext} {factories : WriterRegistry Factory}
  {sources : List (JobSource Writer)}

/-- The texts that are hashed for the sources. -/
def keyTexts (sources : List (JobSource Writer)) : Set String :=
  {text | ∃ source ∈ sources, text ∈ hashedTexts source}

theorem injOn_keyTexts {hash : String → SrcHash}
    (apart :
      ∀ first ∈ sources.flatMap hashedTexts,
        ∀ second ∈ sources.flatMap hashedTexts,
          hash first = hash second → first = second) :
    Set.InjOn hash (keyTexts sources) := by
  intro first member second otherMember
  exact apart first (List.mem_flatMap.mpr member) second
    (List.mem_flatMap.mpr otherMember)

/-- Flatbuffer ids have four bytes, so that the source hashes separate. -/
theorem srcHash_separates
    (wellRegistered : WellRegistered factories)
    (built : ∀ source ∈ sources, Built context factories source)
    (injective : Set.InjOn context.hash (keyTexts sources))
    {source other : JobSource Writer}
    (member : source ∈ sources) (otherMember : other ∈ sources)
    (same : source.srcHash = other.srcHash) :
    source.schemaID = other.schemaID ∧
      source.sourceName = other.sourceName := by
  have sourceBuilt := built source member
  have otherBuilt := built other otherMember
  rw [sourceBuilt.srcHash, otherBuilt.srcHash] at same
  apply append_inj_of_size
  · rw [sourceBuilt.fourBytes wellRegistered,
      otherBuilt.fourBytes wellRegistered]
  · exact injective ⟨source, member, List.mem_cons_self⟩
      ⟨other, otherMember, List.mem_cons_self⟩ same

/-- If no two sources overlap, the module hashes separate. -/
theorem moduleHash_separates
    (wellRegistered : WellRegistered factories)
    (built : ∀ source ∈ sources, Built context factories source)
    (injective : Set.InjOn context.hash (keyTexts sources))
    (apart : NoOverlap sources) {source other : JobSource Writer}
    (member : source ∈ sources) (otherMember : other ∈ sources)
    (same : source.moduleHash = other.moduleHash) :
    SameRoute source other := by
  have sourceBuilt := built source member
  have otherBuilt := built other otherMember
  rw [sourceBuilt.moduleHash, otherBuilt.moduleHash] at same
  apply sameRoute_of_append wellRegistered sourceBuilt otherBuilt
  · exact apart source member other otherMember
  · exact apart other otherMember source member
  · exact injective
      ⟨source, member, List.mem_cons_of_mem _ List.mem_cons_self⟩
      ⟨other, otherMember, List.mem_cons_of_mem _ List.mem_cons_self⟩ same

/-- Module hashes that separate show that no two sources overlap. -/
theorem noOverlap_of_separates
    (built : ∀ source ∈ sources, Built context factories source)
    (separate :
      ∀ source ∈ sources, ∀ other ∈ sources,
        source.moduleHash = other.moduleHash → SameRoute source other) :
    NoOverlap sources := by
  intro source member other otherMember overlap
  have equal :=
    (built source member).moduleHash_of_overlap (built other otherMember)
      overlap
  have same := (separate source member other otherMember equal).2.1
  rcases overlap with ⟨rest, notEmpty, longer, _⟩
  rw [← same] at longer
  exact notEmpty (eq_empty_of_size (congrArg String.utf8ByteSize longer.symm))

/-- If no two sources overlap, their keys separate them. -/
theorem separated_of_noOverlap
    (wellRegistered : WellRegistered factories)
    (built : ∀ source ∈ sources, Built context factories source)
    (injective : Set.InjOn context.hash (keyTexts sources))
    (acceptsRepeatedTimestamps : Writer → Bool)
    (apart : NoOverlap sources) :
    Separated acceptsRepeatedTimestamps sources := by
  have moduleHash :
      ∀ source ∈ sources, ∀ other ∈ sources,
        source.moduleHash = other.moduleHash → SameRoute source other := by
    intro source member other otherMember same
    exact moduleHash_separates wellRegistered built injective apart member
      otherMember same
  constructor
  · exact moduleHash
  · intro source member other otherMember same
    exact srcHash_separates wellRegistered built injective member
      otherMember same
  · intro entries among start stop stopLeeway kafkaErrorTimeout
    apply partitionSeparates acceptsRepeatedTimestamps
    · intro entry member
      exact built entry (among member)
    · intro source member other otherMember same
      exact moduleHash source (among member) other (among otherMember) same

end Separation

/-! ## The sources of a job and its topics -/

section Jobs

/-- The sources of a job are built from registered modules. -/
theorem built_of_addStreamSourceToWriterModule
    {Own World : Type}
    (registry : WriterRegistry (JobCreator.ModuleFactory Own))
    (calls : JobCreator.ModuleCalls Own World)
    (context : MessageContext)
    (streams : List (JobCreator.ModuleSettings Own)) :
    ∀ {world sources},
      JobCreator.addStreamSourceToWriterModule registry calls context streams
          world = .ok sources →
        ∀ source ∈ sources, Built context registry source := by
  induction streams with
  | nil =>
      intro world sources done source member
      cases done
      exact absurd member List.not_mem_nil
  | cons streamSettings others inductionHypothesis =>
      intro world sources done
      rw [JobCreator.addStreamSourceToWriterModule] at done
      split at done
      · exact inductionHypothesis done
      · exact inductionHypothesis done
      · cases done
      · split at done
        · cases done
        · rename_i writer _ _ info found
          rcases Fallible.bind_eq_ok.mp done with ⟨rest, restDone, equal⟩
          cases equal
          intro source member
          rcases List.mem_cons.mp member with equal | later
          · rw [equal]
            exact ⟨info, registered_iff_mem.mpr (mem_of_findModule found),
              _, _, _, rfl⟩
          · exact inductionHypothesis restDone source later

/-- What is in the map of the topics after a key was appended. -/
theorem mem_pushBack {Entry : Type} {topic : String}
    {key : SrcDstKey Entry} {map : TopicSrcMap Entry}
    {item : String × SrcToDst Entry}
    (member : item ∈ StreamController.pushBack topic key map) :
    item ∈ map ∨ ∃ keys, item.2 = keys ++ [key] ∧
      (keys = [] ∨ (item.1, keys) ∈ map) := by
  induction map with
  | nil =>
      rw [StreamController.pushBack, List.mem_singleton] at member
      rw [member]
      exact Or.inr ⟨[], rfl, Or.inl rfl⟩
  | cons first rest inductionHypothesis =>
      rcases first with ⟨other, keys⟩
      rw [StreamController.pushBack] at member
      split at member
      · rcases List.mem_cons.mp member with equal | old
        · rw [equal]
          exact Or.inr ⟨keys, rfl, Or.inr List.mem_cons_self⟩
        · exact Or.inl (List.mem_cons_of_mem _ old)
      · split at member
        · rcases List.mem_cons.mp member with equal | old
          · rw [equal]
            exact Or.inr ⟨[], rfl, Or.inl rfl⟩
          · exact Or.inl old
        · rcases List.mem_cons.mp member with equal | later
          · rw [equal]
            exact Or.inl List.mem_cons_self
          · rcases inductionHypothesis later with old | ⟨before, same, known⟩
            · exact Or.inl (List.mem_cons_of_mem _ old)
            · exact Or.inr ⟨before, same,
                known.imp id (List.mem_cons_of_mem _)⟩

/-- The source as the loop of `initStreams` reads it. -/
def controllerSource
    (acceptsRepeatedTimestamps : Writer → Bool) (source : JobSource Writer) :
    KafkaToNexus.Source Writer where
  topic := source.topicName
  sourcename := source.sourceName
  key := srcDstKey acceptsRepeatedTimestamps source

/-- The map of each topic is made from sources of the job. -/
theorem exists_entries_of_topicSrcMap
    (acceptsRepeatedTimestamps : Writer → Bool)
    (sources : List (JobSource Writer)) :
    ∀ item ∈ StreamController.topicSrcMap
        (sources.map (controllerSource acceptsRepeatedTimestamps)),
      ∃ entries : List (JobSource Writer),
        entries ⊆ sources ∧
          item.2 = entries.map (srcDstKey acceptsRepeatedTimestamps) := by
  induction sources using List.reverseRecOn with
  | nil =>
      intro item member
      exact absurd member List.not_mem_nil
  | append_singleton sources source inductionHypothesis =>
      intro item member
      rw [StreamController.topicSrcMap, List.map_append, List.foldl_append]
        at member
      rcases mem_pushBack member with old | ⟨keys, same, known⟩
      · rcases inductionHypothesis item old with ⟨entries, among, equal⟩
        exact ⟨entries,
          List.Subset.trans among (List.subset_append_left _ _), equal⟩
      · have last : source ∈ sources ++ [source] :=
          List.mem_append_right _ List.mem_cons_self
        rcases known with empty | old
        · refine ⟨[source], List.cons_subset.mpr ⟨last, List.nil_subset _⟩, ?_⟩
          rw [same, empty]
          rfl
        · rcases inductionHypothesis _ old with ⟨entries, among, equal⟩
          refine ⟨entries ++ [source], ?_, ?_⟩
          · apply List.append_subset.mpr
            exact ⟨List.Subset.trans among (List.subset_append_left _ _),
              List.cons_subset.mpr ⟨last, List.nil_subset _⟩⟩
          · rw [same, List.map_append, ← equal]
            rfl

/-- Keys that separate do so in every partition of every topic. -/
theorem Separated.topic {acceptsRepeatedTimestamps : Writer → Bool}
    {sources : List (JobSource Writer)}
    (separated : Separated acceptsRepeatedTimestamps sources)
    {item : String × SrcToDst Writer}
    (member :
      item ∈ StreamController.topicSrcMap
        (sources.map (controllerSource acceptsRepeatedTimestamps)))
    (start stop : TimePoint) (stopLeeway kafkaErrorTimeout : Duration) :
    ∃ entries : List (JobSource Writer), entries ⊆ sources ∧
      PartitionSeparates entries
        (Partition.create item.2 start stop stopLeeway kafkaErrorTimeout) := by
  rcases exists_entries_of_topicSrcMap acceptsRepeatedTimestamps sources item
      member with
    ⟨entries, among, equal⟩
  refine ⟨entries, among, ?_⟩
  rw [equal]
  exact separated.partition entries among start stop stopLeeway
    kafkaErrorTimeout

end Jobs

/-! ## The names that a registry admits -/

section Names

variable {context : MessageContext} {factories : WriterRegistry Factory}

/-- The names of the registered modules. -/
def registeredNames (factories : WriterRegistry Factory) : Set String :=
  {name | ∃ info, factories.Registered info ∧ info.name = name}

/--
Whatever the sources are called, no two of them overlap exactly when no
registered name begins with another one.
-/
theorem never_overlap_iff_prefixFree (writer : Writer) :
    (∀ source other : JobSource Writer,
        Built context factories source → Built context factories other →
          ¬ Overlap source other) ↔
      PrefixFree (registeredNames factories) := by
  constructor
  · rintro apart _ ⟨info, registered, rfl⟩ rest
      ⟨other, otherRegistered, longer⟩
    by_contra notEmpty
    apply apart (.create context rest info.id info.name "" writer)
      (.create context "" other.id other.name "" writer)
    · exact ⟨info, registered, _, _, _, rfl⟩
    · exact ⟨other, otherRegistered, _, _, _, rfl⟩
    · exact ⟨rest, notEmpty, longer, String.append_empty.symm⟩
  · rintro free _ _ ⟨info, registered, _, _, _, rfl⟩
      ⟨other, otherRegistered, _, _, _, rfl⟩ ⟨rest, notEmpty, longer, _⟩
    apply notEmpty
    apply free info.name ⟨info, registered, rfl⟩ rest
    exact ⟨other, otherRegistered, longer⟩

/-- The keys separate all sources where no name begins with another one. -/
theorem separated_of_prefixFree
    (accepted : Accepted context.hash factories)
    (free : PrefixFree (registeredNames factories))
    {sources : List (JobSource Writer)}
    (built : ∀ source ∈ sources, Built context factories source)
    (injective : Set.InjOn context.hash (keyTexts sources))
    (acceptsRepeatedTimestamps : Writer → Bool) :
    Separated acceptsRepeatedTimestamps sources := by
  apply separated_of_noOverlap accepted.wellRegistered built injective
  intro source member other otherMember
  have writer : Writer := source.writerModule
  exact (never_overlap_iff_prefixFree writer).mpr free source other
    (built source member) (built other otherMember)

end Names

/-! ## When the keys separate -/

/--
For the sources of a registry that `addWriterModule` has filled, and a hash that
tells the texts apart that are hashed for them, the keys separate the sources
exactly when no two of them overlap.
-/
theorem separated_iff
    {context : MessageContext} {factories : WriterRegistry Factory}
    {sources : List (JobSource Writer)}
    (accepted : Accepted context.hash factories)
    (built : ∀ source ∈ sources, Built context factories source)
    (injective : Set.InjOn context.hash (keyTexts sources))
    (acceptsRepeatedTimestamps : Writer → Bool) :
    Separated acceptsRepeatedTimestamps sources ↔ NoOverlap sources := by
  constructor
  · intro separated
    exact noOverlap_of_separates built separated.moduleHash
  · intro apart
    exact separated_of_noOverlap accepted.wellRegistered built injective
      acceptsRepeatedTimestamps apart

/-! ## The modules `f142` and `f142_test` -/

section Sample

/-- A hash that tells the texts below apart. -/
def polynomialHash (text : String) : UInt64 :=
  text.toList.foldl (fun value letter => 31 * value + UInt64.ofNat letter.toNat)
    0

def polynomialContext : MessageContext where
  findReader := fun _ => none
  hash := polynomialHash

def f142 : FactoryInfo Unit where
  factoryPtr := ()
  id := "f142"
  name := "f142"

def f142Test : FactoryInfo Unit where
  factoryPtr := ()
  id := "f142"
  name := "f142_test"

/-- The registry with these two modules. -/
def f142Registry : WriterRegistry Unit :=
  Std.TreeMap.insert
    (Std.TreeMap.insert ∅ (polynomialHash "f142f142") f142)
    (polynomialHash "f142f142_test") f142Test

theorem f142Registry_accepted : Accepted polynomialHash f142Registry := by
  have first :
      addWriterModule polynomialHash (∅ : WriterRegistry Unit)
          ⟨"f142", "f142"⟩ () =
        .ok (Std.TreeMap.insert ∅ (polynomialHash "f142f142") f142) := by
    rfl
  have second :
      addWriterModule polynomialHash
          (Std.TreeMap.insert ∅ (polynomialHash "f142f142") f142)
          ⟨"f142", "f142_test"⟩ () = .ok f142Registry := by
    rfl
  exact .add (.add .empty first) second

def sampleSource (info : FactoryInfo Unit) (name : String) : JobSource Unit :=
  .create polynomialContext name info.id info.name "motion" ()

theorem built_sample
    {info : FactoryInfo Unit} (registered : f142Registry.Registered info)
    (name : String) :
    Built polynomialContext f142Registry (sampleSource info name) :=
  ⟨info, registered, name, "motion", (), rfl⟩

theorem built_samples (first second : String) :
    ∀ source ∈ [sampleSource f142 first, sampleSource f142Test second],
      Built polynomialContext f142Registry source := by
  intro source member
  rcases List.mem_cons.mp member with equal | later
  · rw [equal]
    exact built_sample ⟨polynomialHash "f142f142", rfl⟩ first
  · rw [List.mem_singleton.mp later]
    exact built_sample ⟨polynomialHash "f142f142_test", rfl⟩ second

theorem separated_sample :
    Separated (fun _ => false)
      [sampleSource f142 "motor:x", sampleSource f142Test "motor:y"] := by
  have injective :
      Set.InjOn polynomialHash
        (keyTexts
          [sampleSource f142 "motor:x", sampleSource f142Test "motor:y"]) :=
    injOn_keyTexts (by decide +kernel)
  refine
    (separated_iff f142Registry_accepted (built_samples "motor:x" "motor:y")
      injective _).mpr ?_
  have sizes :
      ∀ source ∈
          [sampleSource f142 "motor:x", sampleSource f142Test "motor:y"],
        source.sourceName.utf8ByteSize = 7 := by
    decide +kernel
  intro source member other otherMember overlap
  have size := overlap.size
  rw [sizes source member, sizes other otherMember] at size
  exact absurd size (lt_irrefl 7)

/--
The module `f142` with the source `_testX` has the module hash of `f142_test`
with the source `X`.
-/
theorem not_separated_sample :
    Accepted polynomialHash f142Registry ∧
      (∀ source ∈ [sampleSource f142 "_testX", sampleSource f142Test "X"],
        Built polynomialContext f142Registry source) ∧
      Set.InjOn polynomialHash
        (keyTexts [sampleSource f142 "_testX", sampleSource f142Test "X"]) ∧
      ¬ Separated (fun _ => false)
        [sampleSource f142 "_testX", sampleSource f142Test "X"] := by
  refine ⟨f142Registry_accepted, built_samples "_testX" "X",
    injOn_keyTexts (by decide +kernel), ?_⟩
  intro separated
  have same :
      SameRoute (sampleSource f142 "_testX") (sampleSource f142Test "X") := by
    apply separated.moduleHash
    · exact List.mem_cons_self
    · exact List.mem_cons_of_mem _ List.mem_cons_self
    · decide +kernel
  have different : ("f142" : String) ≠ "f142_test" := by decide
  exact different same.2.1

end Sample

end KafkaToNexus.RoutingKeys

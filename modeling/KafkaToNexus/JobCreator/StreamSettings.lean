import KafkaToNexus.Foundations.WorkList
import KafkaToNexus.HDFOperations.Structures
import KafkaToNexus.Source
import KafkaToNexus.WriterRegistrar

/-!
# The streams of a job

What the structure of the file says about the streams is read into settings.
For each of them a writer module is made and set up, which can ask for extra
modules on the same stream: their settings are appended to the list that is
being gone through.  At the end each module is opened again, and becomes a
source of the job if this is possible.

What HDF5 and the classes of the writer modules do are parameters: the state of
the file and of all that a module can change is the `World`, and what a class
adds to the base class of the modules is `Own`.
-/

namespace KafkaToNexus.JobCreator

open Foundations HDFOperations JsonConfig

variable {Real Own World : Type}

/-- The exceptions, as far as the handlers tell them apart. -/
inductive JobFailure where
  | runtimeError (what : String)
  | jsonParseError
  /-- Any other exception. -/
  | exception
  /-- A null pointer is followed. -/
  | undefined
deriving DecidableEq, Repr

/-! ## The writer modules -/

/-- What the factory of a class makes. -/
structure WriterClass (Own : Type) where
  /-- What is handed to the constructor of the base class. -/
  extraModules : List String
  own : Own

/-- The factory of a module; it may return a null pointer. -/
abbrev ModuleFactory (Own : Type) := Option (WriterClass Own)

/-- An instance of a writer module. -/
structure WriterInstance (Own : Type) where
  foundExtraModules : List String
  /-- The values of the fields that enable them. -/
  extraModuleEnabled : String → Bool
  own : Own

inductive InitResult where
  | error
  | ok
deriving DecidableEq, Repr

/-- The constructor of the base class keeps the modules that are found. -/
def foundExtraModules
    (registry : WriterRegistry (ModuleFactory Own))
    (extraModules : List String) : List String :=
  extraModules.filterMap fun module_ =>
    (registry.findModule module_).toOption.map FactoryInfo.name

def WriterInstance.getEnabledExtraModules
    (writer : WriterInstance Own) : List String :=
  writer.foundExtraModules.filter writer.extraModuleEnabled

/-! ## The settings -/

structure ModuleSettings (Own : Type) where
  moduleHdfInfoObj : ModuleHDFInfo
  name : String := ""
  topic : String := ""
  module : String := ""
  source : String := ""
  configStreamJson : String := "\x7b\x7d"
  writerModule : Option (WriterInstance Own) := none
  isLink : Bool

namespace ModuleSettings

def getCopyForExtraModule (settings : ModuleSettings Own) :
    ModuleSettings Own :=
  { moduleHdfInfoObj := settings.moduleHdfInfoObj
    name := settings.name
    topic := settings.topic
    source := settings.source
    isLink := false }

/-- The settings for the extra modules that an instance has enabled. -/
def extraSettings
    (settings : ModuleSettings Own) (writer : WriterInstance Own) :
    List (ModuleSettings Own) :=
  writer.getEnabledExtraModules.map fun extraModule =>
    { settings.getCopyForExtraModule with module := extraModule }

end ModuleSettings

def getRequiredValue (key : String) (json : JsonValue Real) :
    Except JobFailure String :=
  match json.memberAt key with
  | none =>
      .error (.runtimeError ("Missing key " ++ key ++ " from command JSON"))
  | some (.string text) => .ok text
  | some _ => .error .exception

def parseConfigStream (library : JsonText Real) (configStream : String) :
    Except JobFailure (JsonValue Real) :=
  match library.parse configStream with
  | .ok json => .ok json
  | .error .parseError => .error .jsonParseError
  | .error _ => .error .exception

def dumpConfigStream (library : JsonText Real) (json : JsonValue Real) :
    Except JobFailure String :=
  match library.dump json with
  | .ok text => .ok text
  | .error _ => .error .exception

def extractModuleInformationFromJsonForSource
    (library : JsonText Real) (moduleInfo : ModuleHDFInfo) :
    Except JobFailure (ModuleSettings Own) := do
  if moduleInfo.writerModule = "" then
    .error (.runtimeError "Empty writer module name encountered.")
  else
    let configStream ← parseConfigStream library moduleInfo.configStream
    let configStreamJson ← dumpConfigStream library configStream
    let source ← getRequiredValue "source" configStream
    if moduleInfo.writerModule = "link" then
      let name ← getRequiredValue "name" configStream
      .ok
        { moduleHdfInfoObj := moduleInfo
          name, module := moduleInfo.writerModule
          source, configStreamJson, isLink := true }
    else
      let topic ← getRequiredValue "topic" configStream
      .ok
        { moduleHdfInfoObj := moduleInfo
          topic, module := moduleInfo.writerModule
          source, configStreamJson, isLink := false }

/-- A stream that cannot be read is left out, unless something else fails. -/
def extractModuleInformationFromJson (library : JsonText Real) :
    List ModuleHDFInfo → Except JobFailure (List (ModuleSettings Own))
  | [] => .ok []
  | moduleInfo :: moduleInfos =>
      match extractModuleInformationFromJsonForSource library moduleInfo with
      | .ok settings => do
          let others ← extractModuleInformationFromJson library moduleInfos
          .ok (settings :: others)
      | .error .jsonParseError =>
          extractModuleInformationFromJson library moduleInfos
      | .error (.runtimeError _) =>
          extractModuleInformationFromJson library moduleInfos
      | .error failure => .error failure

/-- The settings of the streams: what is neither a link nor meta data. -/
def streamSettingsList
    (library : JsonText Real) (moduleHdfInfoList : List ModuleHDFInfo) :
    Except JobFailure (List (ModuleSettings Own)) := do
  let settingsList ←
    extractModuleInformationFromJson library
      (moduleHdfInfoList.filter fun info => info.writerModule ≠ "mdat")
  .ok (settingsList.filter fun item => !item.isLink)

/-! ## The loop -/

/-- What the classes of the modules and HDF5 do. -/
structure ModuleCalls (Own World : Type) where
  getGroup : String → World → Except JobFailure World
  /-- The values of the fields for extra modules, and what the class reads. -/
  parseConfig : Own → String → Except JobFailure ((String → Bool) × Own)
  defaultNeXusClass : Own → String
  writeAttributesList :
    String → List (String × String) → World → Except JobFailure World
  initHdf :
    WriterInstance Own → String → World → Except JobFailure (World × InitResult)
  registerMetaData :
    WriterInstance Own → String → World →
      Except JobFailure (World × Own)
  /-- Whatever happens, the file may have been changed. -/
  reopen :
    WriterInstance Own → String → World →
      World × Except JobFailure (Own × InitResult)

/-- A handler that turns any exception into another one. -/
def nested {Value : Type} (what : String) :
    Except JobFailure Value → Except JobFailure Value
  | .ok value => .ok value
  | .error .undefined => .error .undefined
  | .error _ => .error (.runtimeError what)

/-- A handler of runtime errors only. -/
def nestedRuntimeError {Value : Type} (what : String → String) :
    Except JobFailure Value → Except JobFailure Value
  | .error (.runtimeError failure) => .error (.runtimeError (what failure))
  | outcome => outcome

section Loop

variable (registry : WriterRegistry (ModuleFactory Own))
  (calls : ModuleCalls Own World)

def generateWriterInstance (streamInfo : ModuleSettings Own) :
    Except JobFailure (WriterInstance Own) :=
  match registry.findModule streamInfo.module with
  | .error what =>
      .error (.runtimeError
        ("Error while getting module with name/id \"" ++ streamInfo.module ++
          "\" for source \"" ++ streamInfo.source ++ "\". Message was: " ++
          what))
  | .ok info =>
      match info.factoryPtr with
      | none =>
          .error (.runtimeError
            ("Can not instantiate a writer module for module name/id '" ++
              streamInfo.module ++ "'"))
      | some class_ => do
          let (extraModuleEnabled, own) ←
            nested
              ("Exception encountered in WriterModule::Base::parse_config()" ++
                "  Module: \"" ++ streamInfo.module ++ "\" Source: \"" ++
                streamInfo.source ++ "\"")
              (calls.parseConfig class_.own streamInfo.configStreamJson)
          .ok
            { foundExtraModules :=
                foundExtraModules registry class_.extraModules
              extraModuleEnabled, own }

/-- The attributes of the group that a stream is written to. -/
def setWriterHDFAttributes
    (streamInfo : ModuleSettings Own) (writer : WriterInstance Own)
    (world : World) : Except JobFailure World := do
  let group := streamInfo.moduleHdfInfoObj.hdfParentName
  let world ← calls.getGroup group world
  calls.writeAttributesList group
    [("NX_class", calls.defaultNeXusClass writer.own),
      ("topic", streamInfo.topic), ("source", streamInfo.source),
      ("writer_module", streamInfo.module)] world

/-- The body of the loop, which does not look at the result of `init_hdf`. -/
def initialiseStream : WorkList.Step World (ModuleSettings Own) JobFailure :=
  fun world item => do
    let group := item.moduleHdfInfoObj.hdfParentName
    let world ← calls.getGroup group world
    let (world, writer, temporaryStreamSettings) ←
      nestedRuntimeError
        (fun what =>
          "Could not initialise stream at path \"" ++ group ++
            "\" with configuration JSON \"" ++
            item.moduleHdfInfoObj.configStream ++ "\". Error was: " ++ what)
        (do
          let writer ← generateWriterInstance registry calls item
          let world ← setWriterHDFAttributes calls item writer world
          let (world, _) ← calls.initHdf writer group world
          .ok (world, writer, item.extraSettings writer))
    let (world, own) ←
      nested
        ("Exception encountered in " ++
          "WriterModule::Base::register_meta_data(). Module: \"" ++
          item.module ++ "\" Source: \"" ++ item.source ++ "\"")
        (calls.registerMetaData writer group world)
    .ok
      (world, { item with writerModule := some { writer with own } },
        temporaryStreamSettings)

/-- The loop over the list of the streams, which grows. -/
def initialiseStreams
    (fuel : Nat) (world : World) (streams : List (ModuleSettings Own)) :
    Option (Except JobFailure (World × List (ModuleSettings Own))) :=
  WorkList.run (initialiseStream registry calls) fuel 0 world streams

/-! ## The sources -/

/-- The first part of the body, with a handler of its own. -/
def reopenStream (streamSettings : ModuleSettings Own) (world : World) :
    World × Except JobFailure (WriterInstance Own × InitResult) :=
  let group := streamSettings.moduleHdfInfoObj.hdfParentName
  match calls.getGroup group world with
  | .error failure => (world, .error failure)
  | .ok world =>
      match streamSettings.writerModule with
      | none => (world, .error .undefined)
      | some writer =>
          match calls.reopen writer group world with
          | (world, .error failure) => (world, .error failure)
          | (world, .ok (own, result)) =>
              (world, .ok ({ writer with own }, result))

/-- The source of a stream with the module that was reopened for it. -/
def sourceOf
    (context : MessageContext) (info : FactoryInfo (ModuleFactory Own))
    (streamSettings : ModuleSettings Own) (writer : WriterInstance Own) :
    FileWriter.Source (WriterInstance Own) :=
  .create context streamSettings.source info.id info.name
    streamSettings.topic writer

/-- The sources that are added to the task. -/
def addStreamSourceToWriterModule (context : MessageContext) :
    List (ModuleSettings Own) → World →
      Except JobFailure (List (FileWriter.Source (WriterInstance Own)))
  | [], _ => .ok []
  | streamSettings :: others, world =>
      match reopenStream calls streamSettings world with
      | (world, .ok (_, .error)) =>
          addStreamSourceToWriterModule context others world
      | (world, .error (.runtimeError _)) =>
          addStreamSourceToWriterModule context others world
      | (_, .error failure) => .error failure
      | (world, .ok (writer, .ok)) =>
          match registry.findModule streamSettings.module with
          | .error _ => .error .exception
          | .ok info => do
              let sources ←
                addStreamSourceToWriterModule context others world
              .ok (sourceOf context info streamSettings writer :: sources)

end Loop

end KafkaToNexus.JobCreator

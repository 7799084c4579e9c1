import KafkaToNexus.NeXusDataset.ExtensibleDataset
import Mathlib.Data.List.Induction

/-!
# Appending to datasets that were opened

Where an append writes to is counted by the object, while one way to append
extends the dataset by what is new and the other sets its extent from the
count.  They are the same as long as the count is the extent.  An object of the
base class begins to count at zero, whatever is in the dataset.
-/

namespace KafkaToNexus.NeXusDataset

variable {Element : Type*} [Inhabited Element]

/-- The classes through which a dataset of elements is opened. -/
inductive DatasetClass where
  | extensibleDataset
  | extensibleDatasetBase
deriving DecidableEq, Repr

def DatasetClass.open_ (datasetClass : DatasetClass)
    (content : List Element) : ExtensibleDataset Element :=
  match datasetClass with
  | .extensibleDataset => .opened content
  | .extensibleDatasetBase => .openedAsBase content

/-- The ways to append. -/
inductive Append (Element : Type*) where
  | element (newElement : Element)
  | container (newData : List Element)
  | arrayAdapter (newData : List Element)
deriving DecidableEq, Repr

def Append.data : Append Element → List Element
  | .element newElement => [newElement]
  | .container newData => newData
  | .arrayAdapter newData => newData

def ExtensibleDataset.append (dataset : ExtensibleDataset Element)
    (append : Append Element) : ExtensibleDataset Element :=
  match append with
  | .element newElement => dataset.appendElement newElement
  | .container newData => dataset.appendArray newData
  | .arrayAdapter newData => dataset.appendArrayAdapter newData

def ExtensibleDataset.appendAll (dataset : ExtensibleDataset Element)
    (appends : List (Append Element)) : ExtensibleDataset Element :=
  appends.foldl ExtensibleDataset.append dataset

/--
The content is followed by what was appended, the size is the extent after
every call, and wherever an array is appended both ways have the same effect.
-/
structure AppendsBehind (content : List Element)
    (dataset : ExtensibleDataset Element) (appends : List (Append Element)) :
    Prop where
  elements :
    (dataset.appendAll appends).elements =
      content ++ appends.flatMap Append.data
  size :
    ∀ before append after, appends = before ++ append :: after →
      (dataset.appendAll (before ++ [append])).nrOfElements =
        (dataset.appendAll (before ++ [append])).elements.length
  overloads :
    ∀ before, before <+: appends → ∀ newData,
      (dataset.appendAll before).appendArray newData =
        (dataset.appendAll before).appendArrayAdapter newData

namespace ExtensibleDataset

variable {dataset : ExtensibleDataset Element} {content : List Element}
  {appends : List (Append Element)}

/-- At the end every append goes to the end. -/
theorem AtEnd.append
    (atEnd : dataset.AtEnd) (append : Append Element) :
    (dataset.append append).AtEnd ∧
      (dataset.append append).elements = dataset.elements ++ append.data := by
  cases append with
  | element newElement =>
      exact ⟨atEnd.appendElement newElement,
        elements_appendElement atEnd newElement⟩
  | container newData =>
      exact ⟨atEnd.appendArray newData, elements_appendArray atEnd newData⟩
  | arrayAdapter newData =>
      exact ⟨atEnd.appendArrayAdapter newData,
        elements_appendArrayAdapter atEnd newData⟩

theorem AtEnd.appendAll
    (atEnd : dataset.AtEnd) (appends : List (Append Element)) :
    (dataset.appendAll appends).AtEnd ∧
      (dataset.appendAll appends).elements =
        dataset.elements ++ appends.flatMap Append.data := by
  induction appends generalizing dataset with
  | nil => exact ⟨atEnd, (List.append_nil _).symm⟩
  | cons append appends induction =>
      rcases atEnd.append append with ⟨next, appended⟩
      rcases induction next with ⟨last, all⟩
      refine ⟨last, ?_⟩
      show ((dataset.append append).appendAll appends).elements = _
      rw [all, appended, List.flatMap_cons, List.append_assoc]

theorem AtEnd.appendsBehind
    (atEnd : dataset.AtEnd) (appends : List (Append Element)) :
    AppendsBehind dataset.elements dataset appends := by
  constructor
  · exact (atEnd.appendAll appends).2
  · intro before append after _
    exact (atEnd.appendAll (before ++ [append])).1
  · intro before _ newData
    exact (appendArrayAdapter_eq (atEnd.appendAll before).1 newData).symm

/-- Through the base class the two ways to append differ. -/
theorem overloads_differ (first : Element) (rest : List Element) :
    (openedAsBase (first :: rest)).appendArray [first] ≠
      (openedAsBase (first :: rest)).appendArrayAdapter [first] := by
  intro same
  have lengths := congrArg (fun dataset => dataset.elements.length) same
  simp [openedAsBase, appendArray, appendArrayAdapter, writeAt, resize]
    at lengths

end ExtensibleDataset

/-- An object of the base class appends behind an empty dataset only. -/
theorem appendsBehind_open_iff
    (datasetClass : DatasetClass) (content : List Element)
    (appends : List (Append Element)) :
    AppendsBehind content (datasetClass.open_ content) appends ↔
      datasetClass ≠ .extensibleDatasetBase ∨ content = [] := by
  cases datasetClass with
  | extensibleDataset =>
      have atEnd : (ExtensibleDataset.opened content).AtEnd := rfl
      apply iff_of_true
      · exact atEnd.appendsBehind appends
      · exact Or.inl (fun same => by cases same)
  | extensibleDatasetBase =>
      cases content with
      | nil =>
          have atEnd :
              (ExtensibleDataset.openedAsBase ([] : List Element)).AtEnd := rfl
          apply iff_of_true
          · exact atEnd.appendsBehind appends
          · exact Or.inr rfl
      | cons first rest =>
          apply iff_of_false
          · intro behind
            exact
              ExtensibleDataset.overloads_differ first rest
                (behind.overloads [] (List.nil_prefix) [first])
          · rintro (other | nothing)
            · exact other rfl
            · cases nothing

/-! ## Strings of a fixed size -/

/-- A dataset of strings, as they are stored in the file. -/
structure FixedSizeString (Stored : Type*) where
  elements : List Stored := []
  nrOfStrings : Nat := 0
deriving DecidableEq, Repr

namespace FixedSizeString

variable {Stored : Type*} [Inhabited Stored]

/-- An opened dataset counts the strings it has. -/
def opened (content : List Stored) : FixedSizeString Stored :=
  { elements := content, nrOfStrings := content.length }

/-- The library stores the string in the type of the dataset. -/
def appendStringElement (stored : String → Stored)
    (dataset : FixedSizeString Stored) (inString : String) :
    FixedSizeString Stored :=
  { elements :=
      ExtensibleDataset.writeAt dataset.nrOfStrings [stored inString]
        (ExtensibleDataset.resize (dataset.elements.length + 1)
          dataset.elements)
    nrOfStrings := dataset.nrOfStrings + 1 }

def appendAll (stored : String → Stored)
    (dataset : FixedSizeString Stored) (inStrings : List String) :
    FixedSizeString Stored :=
  inStrings.foldl (appendStringElement stored) dataset

/-- The same elements, counted in the same way. -/
def asExtensible (dataset : FixedSizeString Stored) :
    ExtensibleDataset Stored :=
  { elements := dataset.elements, nrOfElements := dataset.nrOfStrings }

theorem asExtensible_appendStringElement
    (stored : String → Stored) (dataset : FixedSizeString Stored)
    (inString : String) :
    (dataset.appendStringElement stored inString).asExtensible =
      dataset.asExtensible.append (.element (stored inString)) :=
  rfl

theorem asExtensible_appendAll
    (stored : String → Stored) (dataset : FixedSizeString Stored)
    (inStrings : List String) :
    (dataset.appendAll stored inStrings).asExtensible =
      dataset.asExtensible.appendAll
        (inStrings.map (fun inString => .element (stored inString))) := by
  induction inStrings generalizing dataset with
  | nil => rfl
  | cons inString inStrings induction =>
      show
        ((dataset.appendStringElement stored inString).appendAll
          stored inStrings).asExtensible = _
      rw [induction, asExtensible_appendStringElement, List.map_cons]
      rfl

/-- The same for strings, of which there is one way to append. -/
structure AppendsBehind (content : List Stored) (stored : String → Stored)
    (inStrings : List String) : Prop where
  elements :
    ((opened content).appendAll stored inStrings).elements =
      content ++ inStrings.map stored
  nrOfStrings :
    ∀ before inString after, inStrings = before ++ inString :: after →
      ((opened content).appendAll stored (before ++ [inString])).nrOfStrings =
        ((opened content).appendAll stored
          (before ++ [inString])).elements.length

theorem appendsBehind_opened
    (content : List Stored) (stored : String → Stored)
    (inStrings : List String) :
    AppendsBehind content stored inStrings := by
  have atEnd : (opened content).asExtensible.AtEnd := rfl
  have appended (inStrings : List String) :
      (((opened content).appendAll stored inStrings).asExtensible).AtEnd ∧
        ((opened content).appendAll stored inStrings).elements =
          content ++ inStrings.map stored := by
    rcases
        atEnd.appendAll
          (inStrings.map (fun inString => .element (stored inString)))
      with ⟨last, all⟩
    rw [← asExtensible_appendAll] at last all
    refine ⟨last, all.trans ?_⟩
    rw [List.flatMap_map, List.map_eq_flatMap]
    rfl
  constructor
  · exact (appended inStrings).2
  · intro before inString after _
    exact (appended (before ++ [inString])).1

end FixedSizeString

/--
Every class but the base class appends behind what is in the dataset.  The base
class does so when there is nothing in it.
-/
theorem appends_behind_iff
    (datasetClass : DatasetClass) (content : List Element)
    (appends : List (Append Element)) (stored : String → Element)
    (inStrings : List String) :
    (AppendsBehind content (datasetClass.open_ content) appends ↔
      datasetClass ≠ .extensibleDatasetBase ∨ content = []) ∧
    FixedSizeString.AppendsBehind content stored inStrings := by
  constructor
  · exact appendsBehind_open_iff datasetClass content appends
  · exact FixedSizeString.appendsBehind_opened content stored inStrings

/-- An element is overwritten, and the place behind it stays empty. -/
theorem base_overwrites :
    ¬ AppendsBehind [1]
      (DatasetClass.extensibleDatasetBase.open_ [1]) [.element 2] := by
  intro behind
  have overwritten :
      ((DatasetClass.extensibleDatasetBase.open_ [1]).appendAll
        [.element 2]).elements = [2, 0] := by
    decide
  have expected := overwritten.symm.trans behind.elements
  exact absurd expected (by decide)

end KafkaToNexus.NeXusDataset

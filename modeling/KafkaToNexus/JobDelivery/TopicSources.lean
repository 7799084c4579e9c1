import KafkaToNexus.Foundations.OrderedMap
import KafkaToNexus.StreamController
import Mathlib.Data.String.Basic

/-!
# The sources of each topic

The loop of `initStreams` over the sources fills a map in the order of the
topics.  Under the name of a topic it holds the keys of the sources on the
topic, in the order of the sources.
-/

namespace KafkaToNexus.JobDelivery

open KafkaToNexus
open KafkaToNexus.Foundations
open KafkaToNexus.Stream

variable {Dest : Type*}

/-- The keys of the sources on a topic. -/
def keysOf (sources : List (Source Dest)) (topic : String) : SrcToDst Dest :=
  (sources.filter fun source => source.topic = topic).map (·.key)

/-- In an ordered map a key is appended to those that are found. -/
theorem pushBack_eq_assign
    (topic : String) (key : SrcDstKey Dest)
    {map : OrderedMap String (SrcToDst Dest)} (sorted : map.Sorted) :
    StreamController.pushBack topic key map =
      map.assign topic ((map.find topic).getD [] ++ [key]) := by
  induction map with
  | nil => rfl
  | cons entry rest induction =>
      rcases List.pairwise_cons.mp sorted with ⟨first, others⟩
      rcases entry with ⟨other, keys⟩
      rw [StreamController.pushBack, OrderedMap.find_cons]
      split
      · rename_i same
        subst same
        have kept (value : SrcToDst Dest) :
            OrderedMap.modify rest topic (fun _ => value) = rest := by
          rw [OrderedMap.modify]
          refine (List.map_congr_left ?_).trans (List.map_id rest)
          intro later member
          rw [if_neg (ne_of_gt (first later member))]
          rfl
        rw [OrderedMap.assign, OrderedMap.find_cons]
        simp [OrderedMap.modify_cons, kept]
      · rename_i differs
        split
        · rename_i before
          have absent : OrderedMap.find rest topic = none := by
            apply OrderedMap.find_eq_none.mpr
            intro later member
            exact ne_of_gt (lt_trans before (first later member))
          rw [OrderedMap.assign, OrderedMap.find_cons]
          simp [differs, absent, OrderedMap.insert, before]
        · rename_i behind
          rw [induction others, OrderedMap.assign, OrderedMap.assign,
            OrderedMap.find_cons]
          simp only [differs, if_false]
          cases found : OrderedMap.find rest topic with
          | none => simp [OrderedMap.insert, behind]
          | some old => simp [OrderedMap.modify_cons, Ne.symm differs]

/-- The map is in the order of the topics and holds the keys of each. -/
theorem topicSrcMap_spec (sources : List (Source Dest)) :
    OrderedMap.Sorted (StreamController.topicSrcMap sources) ∧
      ∀ topic,
        (OrderedMap.find (StreamController.topicSrcMap sources) topic).getD
          [] = keysOf sources topic := by
  induction sources using List.reverseRecOn with
  | nil => exact ⟨List.Pairwise.nil, fun _ => rfl⟩
  | append_singleton sources source induction =>
      rcases induction with ⟨sorted, found⟩
      have extended :
          StreamController.topicSrcMap (sources ++ [source]) =
            StreamController.pushBack source.topic source.key
              (StreamController.topicSrcMap sources) := by
        rw [StreamController.topicSrcMap, List.foldl_append]
        rfl
      rw [extended, pushBack_eq_assign _ _ sorted]
      refine ⟨sorted.assign, ?_⟩
      intro topic
      rw [OrderedMap.find_assign]
      by_cases same : topic = source.topic
      · subst same
        rw [if_pos rfl, Option.getD_some, found]
        simp [keysOf]
      · rw [if_neg same, found]
        simp [keysOf, Ne.symm same]

/-- What the map holds for a topic are the keys of its sources. -/
theorem eq_keysOf_of_mem
    {sources : List (Source Dest)} {item : String × SrcToDst Dest}
    (member : item ∈ StreamController.topicSrcMap sources) :
    item.2 = keysOf sources item.1 := by
  rcases topicSrcMap_spec sources with ⟨sorted, found⟩
  rw [← found item.1, sorted.find_of_mem member]
  rfl

end KafkaToNexus.JobDelivery

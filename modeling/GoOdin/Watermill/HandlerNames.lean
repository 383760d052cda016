import GoOdin.Text.Numbered
import GoOdin.Watermill.Transports

/-!
# The names of the handlers in the router

`Subscribe` names a handler after its topic and the number of subscriptions of that topic.
The subscription is counted before the SQL subscriber is created, so a failed `Subscribe`
uses its number up and no later one gets it again.
-/

namespace GoOdin.Watermill.EventBus

open Interaction Numbered

/-- The name of the handler with this number among those of its topic. -/
def handlerName (eventName : String) (n : Nat) : String :=
  numbered ("event_handler." ++ eventName) n

theorem handlerName_inj {eventName other : String} {n m : Nat} :
    handlerName eventName n = handlerName other m ↔ eventName = other ∧ n = m := by
  rw [handlerName, handlerName, numbered_inj, String.append_right_inj]

/-- The names are distinct, and each is the topic of its handler with a number that is
already counted. -/
structure Named (b : EventBus) : Prop where
  distinct : (b.router.map (·.name)).Nodup
  counted : ∀ reg ∈ b.router, ∃ n ≤ (b.subscribers reg.topic).length,
    reg.name = handlerName reg.topic n

variable {b : EventBus}

/-- `Subscribe` counts the subscription, and adds at most one handler, under the new
number. -/
theorem subscribe_names (b : EventBus) (eventName : String) (handler : EventHandler) :
    (b.subscribe eventName handler).1.subscribers =
        Function.update b.subscribers eventName (b.subscribers eventName ++ [handler]) ∧
      ((b.subscribe eventName handler).1.router = b.router ∨
        ∃ reg, reg.topic = eventName ∧
          reg.name = handlerName eventName ((b.subscribers eventName).length + 1) ∧
          (b.subscribe eventName handler).1.router = b.router ++ [reg]) := by
  have length : (Function.update b.subscribers eventName (b.subscribers eventName ++ [handler])
      eventName).length = (b.subscribers eventName).length + 1 := by simp
  unfold subscribe
  dsimp only
  split
  · split
    · exact ⟨rfl, .inl rfl⟩
    · exact ⟨rfl, .inr ⟨_, rfl, by rw [← length]; rfl, rfl⟩⟩
  · exact ⟨rfl, .inr ⟨_, rfl, by rw [← length]; rfl, rfl⟩⟩

theorem length_subscribers_le (b : EventBus) (eventName : String) (handler : EventHandler)
    (topic : String) :
    (b.subscribers topic).length ≤
      ((b.subscribe eventName handler).1.subscribers topic).length := by
  rw [(subscribe_names b eventName handler).1]
  by_cases same : topic = eventName
  · subst same
    simp
  · simp [same]

theorem named_subscribe (named : b.Named) (eventName : String) (handler : EventHandler) :
    (b.subscribe eventName handler).1.Named := by
  have grown := length_subscribers_le b eventName handler
  have counted : ∀ reg ∈ b.router,
      ∃ n ≤ ((b.subscribe eventName handler).1.subscribers reg.topic).length,
        reg.name = handlerName reg.topic n := by
    intro reg mem
    obtain ⟨n, bound, name⟩ := named.counted reg mem
    exact ⟨n, Nat.le_trans bound (grown reg.topic), name⟩
  obtain ⟨subscribers, same | ⟨reg, topic, name, added⟩⟩ := subscribe_names b eventName handler
  · constructor
    · rw [same]
      exact named.distinct
    · rw [same]
      exact counted
  · constructor
    · rw [added, List.map_append, List.nodup_append]
      refine ⟨named.distinct, List.pairwise_singleton _ _, ?_⟩
      intro old present new isNew clash
      obtain ⟨other, mem, rfl⟩ := List.mem_map.mp present
      obtain ⟨n, bound, otherName⟩ := named.counted other mem
      rw [List.map_singleton, List.mem_singleton] at isNew
      rw [isNew, otherName, name, handlerName_inj] at clash
      -- an earlier handler of the topic has a smaller number
      obtain ⟨sameTopic, sameNumber⟩ := clash
      rw [sameTopic] at bound
      omega
    · intro other mem
      rw [added] at mem
      obtain old | new := List.mem_append.mp mem
      · exact counted other old
      · rw [List.mem_singleton.mp new]
        refine ⟨(b.subscribers eventName).length + 1, ?_, by rw [topic, name]⟩
        rw [topic, subscribers]
        simp

theorem named_apply (named : b.Named) (call : BusCall) : (b.apply call).Named := by
  cases call with
  | setSQLBackend pub subFn => exact ⟨named.distinct, named.counted⟩
  | subscribe eventName handler => exact named_subscribe named eventName handler
  | publish carrier envelopes => exact named

theorem named_runFrom (named : b.Named) (calls : List BusCall) : (runFrom apply b calls).Named := by
  induction calls generalizing b with
  | nil => exact named
  | cons call calls ih => exact ih (named_apply named call)

/-- In every sequence of calls, with any topics and any failures of the SQL subscribers, no
two handlers are added to the router under one name. -/
theorem handler_names_distinct (gcPublisher : Publisher) (calls : List BusCall) :
    ((runFrom apply (.new gcPublisher) calls).router.map (·.name)).Nodup := by
  have empty : (EventBus.new gcPublisher).Named := ⟨List.nodup_nil, fun _ mem => nomatch mem⟩
  exact (named_runFrom empty calls).distinct

end GoOdin.Watermill.EventBus

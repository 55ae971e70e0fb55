import ScriptDesk.Bus

/-!
# Subscribers and channels

What publishing, taking and subscribing do to the subscribers of a script and to the channel with a
number. A channel gets a published event once for each of its subscriptions to the script
(`channel_publish`), and the first event that waits in a channel is the one that is taken (`Took`).

`Bus.Feeds` says that a channel is the one of a single subscription, to a given script. All three
actions keep this. Such a channel gets an event once if it is about that script and not at all
otherwise (`Feeds.queue_publish`).
-/

namespace ScriptDesk

theorem Table.get?_modify {κ α : Type} [DecidableEq κ] (table : Table κ α) (key other : κ)
    (change : α → α) :
    (table.modify key change).get? other =
      if other = key then (table.get? key).map change else table.get? other := by
  unfold modify
  split
  · rename_i value hkey
    rw [hkey, get?_set]
    rfl
  · rename_i hkey
    split
    · rename_i h
      rw [h, hkey]
      rfl
    · rfl

namespace Bus

/-! ### Subscribers -/

theorem get?_setSubscribers (topics : Table ScriptId (List Nat)) (script other : ScriptId)
    (numbers : List Nat) :
    ((setSubscribers topics script numbers).get? other).getD [] =
      if other = script then numbers else (topics.get? other).getD [] := by
  cases numbers with
  | nil =>
    unfold setSubscribers
    rw [Table.get?_erase]
    split <;> rfl
  | cons number numbers =>
    unfold setSubscribers
    rw [Table.get?_set]
    split <;> rfl

theorem subscribers_subscribe (bus : Bus) (script other : ScriptId) :
    (bus.subscribe script).1.subscribers other =
      if other = script then bus.subscribers script ++ [bus.next] else bus.subscribers other :=
  get?_setSubscribers bus.topics script other _

/-- The subscribers of a script who still receive. -/
def receivers (bus : Bus) (script : ScriptId) : List Nat :=
  (bus.subscribers script).filter fun number => (bus.channel number).receiving

theorem count_receivers (bus : Bus) (script : ScriptId) (number : Nat) :
    (bus.receivers script).count number =
      if (bus.channel number).receiving then (bus.subscribers script).count number else 0 := by
  unfold receivers
  split
  · rename_i hreceiving
    exact List.count_filter hreceiving
  · rename_i hreceiving
    apply List.count_eq_zero.mpr
    intro hmem
    exact hreceiving (List.mem_filter.mp hmem).2

theorem subscribers_publish (bus : Bus) (event : Event) (script : ScriptId) :
    (bus.publish event).1.subscribers script =
      if script = event.script then bus.receivers event.script else bus.subscribers script :=
  get?_setSubscribers bus.topics event.script script _

/-! ### Channels -/

theorem channel_subscribe (bus : Bus) (script : ScriptId) (number : Nat) :
    (bus.subscribe script).1.channel number =
      if number = bus.next then {} else bus.channel number := by
  unfold channel subscribe
  rw [Table.get?_set]
  split <;> rfl

theorem get?_foldl_push (event : Event) (number : Nat) (numbers : List Nat) :
    ∀ channels : Table Nat Channel,
      (numbers.foldl (fun channels number => push channels event number) channels).get? number =
        (channels.get? number).map fun channel =>
          { channel with
            queue := channel.queue ++ List.replicate (numbers.count number) event } := by
  induction numbers with
  | nil =>
    intro channels
    cases hget : channels.get? number with
    | none => simp [hget]
    | some channel => simp [hget]
  | cons first rest ih =>
    intro channels
    rw [List.foldl_cons, ih]
    unfold push
    rw [Table.get?_modify]
    by_cases h : number = first
    · subst h
      rw [if_pos rfl, List.count_cons_self, List.replicate_succ]
      cases channels.get? number with
      | none => rfl
      | some channel => simp
    · rw [if_neg h, List.count_cons_of_ne (Ne.symm h)]

/-- Publishing puts an event into a channel once for each of its subscriptions to the script. -/
theorem channel_publish (bus : Bus) (event : Event) (number : Nat) :
    (bus.publish event).1.channel number =
      { bus.channel number with
        queue := bus.queue number ++
          List.replicate ((bus.receivers event.script).count number) event } := by
  have hpush := get?_foldl_push event number (bus.receivers event.script) bus.channels
  cases hget : bus.channels.get? number with
  | none =>
    have hchannel : bus.channel number = { receiving := false } := by
      unfold channel
      rw [hget]
      rfl
    have hcount : (bus.receivers event.script).count number = 0 := by
      rw [count_receivers, hchannel]
      rfl
    rw [hget] at hpush
    unfold queue
    rw [hchannel, hcount]
    exact congrArg (·.getD { receiving := false }) hpush
  | some found =>
    have hchannel : bus.channel number = found := by
      unfold channel
      rw [hget]
      rfl
    rw [hget] at hpush
    unfold queue
    rw [hchannel]
    exact congrArg (·.getD { receiving := false }) hpush

/-- The bus after the first event was taken out of a channel. -/
structure Took (bus bus' : Bus) (number : Nat) (event : Event) : Prop where
  /-- The event was the first one. -/
  queue_eq : bus.queue number = event :: bus'.queue number
  /-- The other channels are as they were. -/
  others : ∀ other, other ≠ number → bus'.queue other = bus.queue other
  /-- Who receives goes on to receive. -/
  receiving : ∀ other, (bus'.channel other).receiving = (bus.channel other).receiving
  /-- Nobody subscribes, and no subscription is given up. -/
  subscribers : ∀ script, bus'.subscribers script = bus.subscribers script

theorem took_of_take {bus bus' : Bus} {number : Nat} {event : Event}
    (h : bus.take number = some (event, bus')) : bus.Took bus' number event := by
  unfold take at h
  split at h
  · cases h
  · rename_i first rest hqueue
    cases h
    have hchannel : ∀ other,
        (bus.channels.modify number fun channel => { channel with queue := rest }).get? other =
          if other = number then
            (bus.channels.get? number).map fun channel => { channel with queue := rest }
          else bus.channels.get? other :=
      fun other => Table.get?_modify bus.channels number other _
    cases hget : bus.channels.get? number with
    | none =>
      unfold queue channel at hqueue
      rw [hget] at hqueue
      cases hqueue
    | some found =>
      refine ⟨?_, fun other hother => ?_, fun other => ?_, fun script => rfl⟩
      · rw [hqueue]
        unfold queue channel
        rw [hchannel, if_pos rfl, hget]
        rfl
      · unfold queue channel
        rw [hchannel, if_neg hother]
      · unfold channel
        rw [hchannel]
        split
        · rename_i h
          rw [h, hget]
          rfl
        · rfl

theorem Took.channel_eq {bus bus' : Bus} {number other : Nat} {event : Event}
    (h : bus.Took bus' number event) (hother : other ≠ number) :
    bus'.channel other = bus.channel other := by
  have hqueue : (bus'.channel other).queue = (bus.channel other).queue := h.others other hother
  have hreceiving := h.receiving other
  generalize bus'.channel other = after at hqueue hreceiving
  generalize bus.channel other = before at hqueue hreceiving
  cases after
  cases before
  cases hqueue
  cases hreceiving
  rfl

/-! ### A channel with one subscription -/

/-- The channel is received on, and its number is that of one subscription, which is to the
script. -/
structure Feeds (bus : Bus) (script : ScriptId) (number : Nat) : Prop where
  /-- There is someone who takes the events. -/
  receiving : (bus.channel number).receiving = true
  /-- There is one subscription, and it is to the script. -/
  count : ∀ other, (bus.subscribers other).count number = if other = script then 1 else 0

theorem Feeds.script_eq {bus : Bus} {script other : ScriptId} {number : Nat}
    (h : bus.Feeds script number) (hother : bus.Feeds other number) : script = other := by
  have hone := h.count script
  rw [if_pos rfl, hother.count] at hone
  split at hone
  · assumption
  · cases hone

theorem Feeds.not_mem {bus : Bus} {script other : ScriptId} {number : Nat}
    (h : bus.Feeds script number) (hother : other ≠ script) : number ∉ bus.subscribers other := by
  have hcount := h.count other
  rw [if_neg hother] at hcount
  exact List.count_eq_zero.mp hcount

/-- What is published is put into such a channel once if it is about the script, and else not. -/
theorem Feeds.queue_publish {bus : Bus} {script : ScriptId} {number : Nat}
    (h : bus.Feeds script number) (event : Event) :
    (bus.publish event).1.queue number =
      bus.queue number ++ if event.script = script then [event] else [] := by
  unfold queue
  rw [channel_publish, count_receivers, h.receiving, if_pos rfl, h.count]
  split <;> rfl

theorem Feeds.publish {bus : Bus} {script : ScriptId} {number : Nat}
    (h : bus.Feeds script number) (event : Event) :
    (bus.publish event).1.Feeds script number := by
  refine ⟨?_, fun other => ?_⟩
  · rw [channel_publish]
    exact h.receiving
  · rw [subscribers_publish, ← h.count other]
    split
    · rename_i hother
      rw [count_receivers, h.receiving, if_pos rfl, hother]
    · rfl

theorem Feeds.took {bus bus' : Bus} {script : ScriptId} {number other : Nat} {event : Event}
    (h : bus.Feeds script number) (htook : bus.Took bus' other event) :
    bus'.Feeds script number := by
  refine ⟨?_, fun topic => ?_⟩
  · rw [htook.receiving]
    exact h.receiving
  · rw [htook.subscribers]
    exact h.count topic

/-- The numbers of the subscriptions are below the next one. -/
def IsNumbered (bus : Bus) : Prop :=
  ∀ script, ∀ number ∈ bus.subscribers script, number < bus.next

theorem IsNumbered.subscribe {bus : Bus} (h : bus.IsNumbered) (script : ScriptId) :
    (bus.subscribe script).1.IsNumbered := by
  intro other number hmem
  have hnext : (bus.subscribe script).1.next = bus.next + 1 := rfl
  rw [subscribers_subscribe] at hmem
  split at hmem
  · rcases List.mem_append.mp hmem with hold | hnew
    · have := h script number hold
      omega
    · have := List.mem_singleton.mp hnew
      omega
  · have := h other number hmem
    omega

/-- A new subscription has a channel of its own. -/
theorem IsNumbered.feeds_subscribe {bus : Bus} (h : bus.IsNumbered) (script : ScriptId) :
    (bus.subscribe script).1.Feeds script bus.next := by
  have habsent : ∀ other, (bus.subscribers other).count bus.next = 0 := by
    intro other
    apply List.count_eq_zero.mpr
    intro hmem
    have := h other _ hmem
    omega
  refine ⟨?_, fun other => ?_⟩
  · rw [channel_subscribe, if_pos rfl]
  · rw [subscribers_subscribe]
    split
    · rw [List.count_append, habsent]
      simp
    · exact habsent other

theorem Feeds.subscribe {bus : Bus} {script : ScriptId} {number : Nat}
    (h : bus.Feeds script number) (hnumbered : bus.IsNumbered) (other : ScriptId) :
    (bus.subscribe other).1.Feeds script number := by
  have hlt : number < bus.next := by
    apply hnumbered script
    apply List.count_pos_iff.mp
    rw [h.count, if_pos rfl]
    exact Nat.one_pos
  have hne : number ≠ bus.next := by omega
  refine ⟨?_, fun topic => ?_⟩
  · rw [channel_subscribe, if_neg hne]
    exact h.receiving
  · rw [subscribers_subscribe, ← h.count topic]
    split
    · rename_i htopic
      rw [htopic, List.count_append, List.count_singleton]
      simp [Ne.symm hne]
    · rfl

end Bus

end ScriptDesk

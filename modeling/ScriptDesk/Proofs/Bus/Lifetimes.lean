import Mathlib.Data.List.Nodup
import Mathlib.Logic.Function.Basic
import ScriptDesk.Proofs.Bus.Channels

/-!
# What a subscription gets while it lives

A history of the bus is a list of actions: subscribing, publishing, giving a subscription up,
ceasing to receive, and receiving. `Traffic` is the bus together with the subscriptions that were
made and the events that left the channels, so that an event which was ever put into a channel can
be found either there or among those that left it (`Traffic.queued`).

A subscription lives from when it is made until it is given up or its receiver is gone
(`Action.ends`). As long as it lives its channel feeds from the bus (`Bus.Feeds`), and afterwards
nothing is put into it any more (`Silent`). So what it gets is what was published about its script
meanwhile (`heard`), and whom publishing reaches are those that live (`living`).
-/

namespace ScriptDesk.Bus

/-! ### Histories -/

/-- Something that happens on the bus. A subscription is named by how many were made before it. -/
inductive Action where
  /-- Someone subscribes to a script. -/
  | subscribe (script : ScriptId)
  /-- An event is published. -/
  | publish (event : Event)
  /-- A subscription is given up: it is disposed, or nobody holds it any more. -/
  | unsubscribe (number : Nat)
  /-- The receiver of a subscription is gone. -/
  | stopReceiving (number : Nat)
  /-- The first event that waits for a subscription is received. -/
  | receive (number : Nat)

namespace Action

/-- The action ends the life of the subscription. -/
def ends (number : Nat) : Action → Bool
  | .unsubscribe other | .stopReceiving other => other == number
  | _ => false

/-- The event that the action publishes. -/
def published? : Action → Option Event
  | .publish event => some event
  | _ => none

/-- The script that the action subscribes to. -/
def subscribed? : Action → Option ScriptId
  | .subscribe script => some script
  | _ => none

end Action

/-- A bus, the subscriptions that were made to it, and the events that left its channels. -/
structure Traffic where
  /-- The bus. -/
  bus : Bus := {}
  /-- The subscriptions in the order in which they were made. -/
  subscriptions : List Subscription := []
  /-- The events that left a channel: they were received, or lost with the receiver. -/
  gone : Nat → List Event := fun _ => []

namespace Traffic

/-- The events that were ever put into the channel of a subscription, in order. -/
def queued (traffic : Traffic) (number : Nat) : List Event :=
  traffic.gone number ++ traffic.bus.queue number

/-- The events that left the channels, and some more that left one of them. -/
def goneWith (traffic : Traffic) (number : Nat) (events : List Event) : Nat → List Event :=
  Function.update traffic.gone number (traffic.gone number ++ events)

/-- The traffic after an action. -/
def act (traffic : Traffic) : Action → Traffic
  | .subscribe script =>
    let (bus, subscription) := traffic.bus.subscribe script
    { traffic with bus, subscriptions := traffic.subscriptions ++ [subscription] }
  | .publish event => { traffic with bus := (traffic.bus.publish event).1 }
  | .unsubscribe number =>
    match traffic.subscriptions[number]? with
    | none => traffic
    | some subscription => { traffic with bus := traffic.bus.unsubscribe subscription }
  | .stopReceiving number =>
    { traffic with
      bus := traffic.bus.stopReceiving number
      gone := traffic.goneWith number (traffic.bus.queue number) }
  | .receive number =>
    match traffic.bus.take number with
    | none => traffic
    | some (event, bus) => { traffic with bus, gone := traffic.goneWith number [event] }

/-- The traffic after actions in order. -/
def actAll (traffic : Traffic) (history : List Action) : Traffic :=
  history.foldl act traffic

end Traffic

/-- What is published about a script in the rest of a history while a subscription lives. -/
def heard (script : ScriptId) (number : Nat) (later : List Action) : List Event :=
  ((later.takeWhile (!·.ends number)).filterMap Action.published?).filter (·.script = script)

/-- The subscriptions that are made in a history and live at its end; the first one that is made has
the number `first`. -/
def living : (first : Nat) → List Action → List Subscription
  | _, [] => []
  | first, .subscribe script :: later =>
    if later.any (·.ends first) then living (first + 1) later
    else ⟨script, first⟩ :: living (first + 1) later
  | first, _ :: later => living first later

/-! ### What the actions do to subscribers and channels -/

theorem subscribers_unsubscribe (bus : Bus) (subscription : Subscription) (script : ScriptId) :
    (bus.unsubscribe subscription).subscribers script =
      if script = subscription.script then
        (bus.subscribers subscription.script).filter (· ≠ subscription.number)
      else bus.subscribers script :=
  get?_setSubscribers bus.topics subscription.script script _

theorem channel_stopReceiving (bus : Bus) (number other : Nat) :
    (bus.stopReceiving number).channel other =
      if other = number then { receiving := false } else bus.channel other := by
  unfold channel stopReceiving
  rw [Table.get?_modify]
  split
  · cases bus.channels.get? number with
    | none => rfl
    | some found => rfl
  · rfl

/-- Giving up another subscription does not concern a channel. -/
theorem Feeds.unsubscribe {bus : Bus} {script : ScriptId} {number : Nat}
    (h : bus.Feeds script number) {subscription : Subscription}
    (hne : number ≠ subscription.number) : (bus.unsubscribe subscription).Feeds script number := by
  refine ⟨h.receiving, fun topic => ?_⟩
  rw [subscribers_unsubscribe, ← h.count topic]
  split
  · rename_i htopic
    rw [htopic]
    exact List.count_filter (decide_eq_true hne)
  · rfl

/-- Nor does the end of another receiver. -/
theorem Feeds.stopReceiving {bus : Bus} {script : ScriptId} {number other : Nat}
    (h : bus.Feeds script number) (hne : number ≠ other) :
    (bus.stopReceiving other).Feeds script number := by
  refine ⟨?_, h.count⟩
  rw [channel_stopReceiving, if_neg hne]
  exact h.receiving

/-- Taking an event changes channels only. -/
theorem frame_of_take {bus bus' : Bus} {number : Nat} {event : Event}
    (h : bus.take number = some (event, bus')) : bus'.topics = bus.topics ∧ bus'.next = bus.next := by
  unfold take at h
  split at h
  · cases h
  · cases h
    exact ⟨rfl, rfl⟩

/-- No topic is kept without subscribers. -/
def HasSubscribers (bus : Bus) : Prop :=
  ∀ script numbers, bus.topics.get? script = some numbers → numbers ≠ []

/-- The topics of a script are set together with its subscribers, or erased. -/
theorem HasSubscribers.setSubscribers {bus : Bus} (h : bus.HasSubscribers) (script : ScriptId)
    (numbers : List Nat) {after : Bus}
    (hafter : after.topics = Bus.setSubscribers bus.topics script numbers) :
    after.HasSubscribers := by
  intro other found hget
  rw [hafter] at hget
  cases numbers with
  | nil =>
    unfold Bus.setSubscribers at hget
    rw [Table.get?_erase] at hget
    split at hget
    · cases hget
    · exact h other found hget
  | cons number numbers =>
    unfold Bus.setSubscribers at hget
    rw [Table.get?_set] at hget
    split at hget
    · cases hget
      exact List.cons_ne_nil _ _
    · exact h other found hget

/-- Nothing is put into the channel any more: it was that of a subscription, and is of none now. -/
structure Silent (bus : Bus) (number : Nat) : Prop where
  /-- The subscription was made. -/
  lt_next : number < bus.next
  /-- Publishing does not reach it. -/
  not_mem : ∀ script, number ∉ bus.receivers script

namespace Traffic

/-! ### What holds after every history -/

/-- The subscriptions are numbered in the order in which they were made, only they are in the topics
of the bus, and nothing was put into a channel before its subscription was made. -/
structure IsSound (traffic : Traffic) : Prop where
  /-- The subscriptions have the numbers up to the next one, in order. -/
  numbers_eq : traffic.subscriptions.map (·.number) = List.range traffic.bus.next
  /-- The subscribers of a script made a subscription to it. -/
  subscribed : ∀ {script number}, number ∈ traffic.bus.subscribers script →
    ⟨script, number⟩ ∈ traffic.subscriptions
  /-- A channel without a subscription had no events. -/
  fresh : ∀ {number}, traffic.bus.next ≤ number → traffic.queued number = []
  /-- Topics have subscribers. -/
  hasSubscribers : traffic.bus.HasSubscribers

theorem isSound_empty : IsSound {} where
  numbers_eq := rfl
  subscribed h := by cases h
  fresh _ := rfl
  hasSubscribers script numbers h := by cases h

theorem IsSound.length_eq {traffic : Traffic} (h : traffic.IsSound) :
    traffic.subscriptions.length = traffic.bus.next := by
  have hlength := congrArg List.length h.numbers_eq
  rwa [List.length_map, List.length_range] at hlength

/-- A subscription has its place as its number. -/
theorem IsSound.number_eq {traffic : Traffic} (h : traffic.IsSound) {number : Nat}
    {subscription : Subscription} (hget : traffic.subscriptions[number]? = some subscription) :
    subscription.number = number := by
  have hlt := (List.getElem?_eq_some_iff.mp hget).1
  have hnumber := congrArg (·[number]?) h.numbers_eq
  rw [h.length_eq] at hlt
  simp only [List.getElem?_map, hget, List.getElem?_range hlt] at hnumber
  exact Option.some.inj hnumber

theorem IsSound.getElem?_of_subscriber {traffic : Traffic} (h : traffic.IsSound)
    {script : ScriptId} {number : Nat} (hmem : number ∈ traffic.bus.subscribers script) :
    traffic.subscriptions[number]? = some ⟨script, number⟩ := by
  obtain ⟨place, hget⟩ := List.mem_iff_getElem?.mp (h.subscribed hmem)
  have hplace := h.number_eq hget
  subst hplace
  exact hget

theorem IsSound.isNumbered {traffic : Traffic} (h : traffic.IsSound) : traffic.bus.IsNumbered := by
  intro script number hmem
  have hlt := (List.getElem?_eq_some_iff.mp (h.getElem?_of_subscriber hmem)).1
  rwa [h.length_eq] at hlt

/-! ### One action -/

/-- What an action puts into a channel: nothing unless it publishes. -/
def put (traffic : Traffic) (number : Nat) : Action → List Event
  | .publish event => List.replicate ((traffic.bus.receivers event.script).count number) event
  | _ => []

theorem gone_goneWith (traffic : Traffic) (number other : Nat) (events : List Event) :
    traffic.goneWith number events other =
      traffic.gone other ++ if other = number then events else [] := by
  unfold goneWith
  rw [Function.update_apply]
  split
  · rename_i h
    rw [h]
  · exact (List.append_nil _).symm

/-- No action takes back what was put into a channel. -/
theorem IsSound.queued_act {traffic : Traffic} (h : traffic.IsSound) (action : Action)
    (number : Nat) :
    (traffic.act action).queued number = traffic.queued number ++ traffic.put number action := by
  cases action with
  | subscribe script =>
    have hchannel := channel_subscribe traffic.bus script number
    simp only [act, put, queued, queue, List.append_nil, hchannel]
    split
    · rename_i hnumber
      have hfresh := h.fresh (Nat.le_of_eq hnumber.symm)
      obtain ⟨hgone, hqueue⟩ := List.append_eq_nil_iff.mp hfresh
      rw [hgone]
      exact hqueue.symm
    · rfl
  | publish event =>
    simp only [act, put, queued, queue, channel_publish, List.append_assoc]
  | unsubscribe other =>
    simp only [act, put, List.append_nil]
    split
    · rfl
    · rfl
  | stopReceiving other =>
    have hchannel := channel_stopReceiving traffic.bus other number
    simp only [act, put, queued, queue, gone_goneWith, hchannel, List.append_nil]
    split
    · rename_i hnumber
      rw [hnumber]
      exact List.append_nil _
    · rw [List.append_nil]
  | receive other =>
    simp only [act, put, List.append_nil]
    split
    · rfl
    · rename_i event bus htake
      have htook := took_of_take htake
      simp only [queued, gone_goneWith]
      split
      · rename_i hnumber
        rw [hnumber, htook.queue_eq, List.append_assoc]
        rfl
      · rename_i hnumber
        rw [htook.others number hnumber, List.append_nil]

/-- A subscription is one to the script that has its number among the subscribers. -/
theorem IsSound.script_eq {traffic : Traffic} (h : traffic.IsSound) {number : Nat}
    {subscription : Subscription} (hget : traffic.subscriptions[number]? = some subscription)
    {script : ScriptId} (hmem : number ∈ traffic.bus.subscribers script) :
    script = subscription.script := by
  have hscript := h.getElem?_of_subscriber hmem
  rw [hget] at hscript
  cases hscript
  rfl

/-- Giving up a subscription takes its number away from every script that has it. -/
theorem IsSound.subscribers_unsubscribe {traffic : Traffic} (h : traffic.IsSound) (number : Nat)
    (script : ScriptId) :
    (traffic.act (.unsubscribe number)).bus.subscribers script =
      (traffic.bus.subscribers script).filter (· ≠ number) := by
  have hself : number ∉ traffic.bus.subscribers script →
      (traffic.bus.subscribers script).filter (· ≠ number) = traffic.bus.subscribers script := by
    intro hnot
    apply List.filter_eq_self.mpr
    intro other hmem
    exact decide_eq_true fun heq => hnot (heq ▸ hmem)
  simp only [act]
  split
  · rename_i hget
    refine (hself fun hmem => ?_).symm
    rw [h.getElem?_of_subscriber hmem] at hget
    cases hget
  · rename_i subscription hget
    simp only [Bus.subscribers_unsubscribe, h.number_eq hget]
    split
    · rename_i hscript
      rw [hscript]
    · rename_i hscript
      exact (hself fun hmem => hscript (h.script_eq hget hmem)).symm

/-- Of the subscribers that receive, those remain whose life the action does not end, and a new
subscription comes last. -/
theorem IsSound.receivers_act {traffic : Traffic} (h : traffic.IsSound) (action : Action)
    (script : ScriptId) :
    (traffic.act action).bus.receivers script =
      (traffic.bus.receivers script).filter (!action.ends ·) ++
        match action with
        | .subscribe other => if script = other then [traffic.bus.next] else []
        | _ => [] := by
  have hself : (∀ number, action.ends number = false) →
      (traffic.bus.receivers script).filter (!action.ends ·) = traffic.bus.receivers script := by
    intro hends
    apply List.filter_eq_self.mpr
    intro number _
    rw [hends]
    rfl
  cases action with
  | subscribe other =>
    rw [hself fun _ => rfl]
    have hold : (traffic.bus.subscribers script).filter
        (fun number => ((traffic.bus.subscribe other).1.channel number).receiving) =
          traffic.bus.receivers script := by
      apply List.filter_congr
      intro number hmem
      have hlt := h.isNumbered script number hmem
      rw [channel_subscribe, if_neg (Nat.ne_of_lt hlt)]
    simp only [act]
    unfold receivers at hold ⊢
    rw [subscribers_subscribe]
    split
    · rename_i hscript
      rw [hscript] at hold ⊢
      rw [List.filter_append, hold]
      simp [channel_subscribe]
    · rw [hold, List.append_nil]
  | publish event =>
    rw [hself fun _ => rfl, List.append_nil]
    simp only [act]
    unfold receivers
    simp only [subscribers_publish, channel_publish]
    split
    · rename_i hscript
      rw [hscript]
      unfold receivers
      rw [List.filter_filter]
      simp only [Bool.and_self]
    · rfl
  | unsubscribe number =>
    have hchannel : (traffic.act (.unsubscribe number)).bus.channel = traffic.bus.channel := by
      simp only [act]
      split
      · rfl
      · rfl
    unfold receivers
    rw [h.subscribers_unsubscribe, hchannel, List.append_nil, List.filter_filter,
      List.filter_filter]
    apply List.filter_congr
    intro other _
    by_cases hother : number = other
    · simp [Action.ends, hother]
    · simp [Action.ends, hother, Ne.symm hother]
  | stopReceiving number =>
    simp only [act]
    unfold receivers
    rw [List.append_nil, List.filter_filter]
    apply List.filter_congr
    intro other _
    rw [channel_stopReceiving]
    by_cases hother : other = number
    · simp [Action.ends, hother]
    · simp [Action.ends, hother, Ne.symm hother]
  | receive number =>
    rw [hself fun _ => rfl, List.append_nil]
    simp only [act]
    split
    · rfl
    · rename_i event bus htake
      have htook := took_of_take htake
      unfold receivers
      simp only [htook.subscribers, htook.receiving]

theorem IsSound.put_eq_nil {traffic : Traffic} (h : traffic.IsSound) {number : Nat}
    (hle : traffic.bus.next ≤ number) (action : Action) : traffic.put number action = [] := by
  cases action with
  | publish event =>
    have hcount : (traffic.bus.receivers event.script).count number = 0 := by
      apply List.count_eq_zero.mpr
      intro hmem
      have hlt := h.isNumbered _ _ (List.mem_filter.mp hmem).1
      omega
    simp only [put, hcount, List.replicate_zero]
  | subscribe _ => rfl
  | unsubscribe _ => rfl
  | stopReceiving _ => rfl
  | receive _ => rfl

/-- An action that makes no subscription keeps the traffic sound if it adds no subscribers. -/
theorem IsSound.act_of_fewer {traffic : Traffic} (h : traffic.IsSound) {action : Action}
    (hsubscriptions : (traffic.act action).subscriptions = traffic.subscriptions)
    (hnext : (traffic.act action).bus.next = traffic.bus.next)
    (hsubscribers : ∀ script, (traffic.act action).bus.subscribers script ⊆
      traffic.bus.subscribers script)
    (htopics : (traffic.act action).bus.HasSubscribers) : (traffic.act action).IsSound where
  numbers_eq := by rw [hsubscriptions, hnext, h.numbers_eq]
  subscribed hmem := by
    rw [hsubscriptions]
    exact h.subscribed (hsubscribers _ hmem)
  fresh hle := by
    rw [hnext] at hle
    rw [h.queued_act, h.fresh hle, h.put_eq_nil hle]
    rfl
  hasSubscribers := htopics

/-- Every action keeps the traffic sound. -/
theorem IsSound.act {traffic : Traffic} (h : traffic.IsSound) (action : Action) :
    (traffic.act action).IsSound := by
  cases action with
  | subscribe script =>
    refine ⟨?_, ?_, ?_, h.hasSubscribers.setSubscribers script _ rfl⟩
    · have hnext : (traffic.act (.subscribe script)).bus.next = traffic.bus.next + 1 := rfl
      rw [hnext, List.range_succ, ← h.numbers_eq]
      exact List.map_append
    · intro other number hmem
      simp only [Traffic.act, subscribers_subscribe] at hmem ⊢
      rw [List.mem_append]
      split at hmem
      · rename_i hother
        rcases List.mem_append.mp hmem with hold | hnew
        · rw [hother]
          exact .inl (h.subscribed hold)
        · rw [hother, List.mem_singleton.mp hnew]
          exact .inr (List.mem_singleton.mpr rfl)
      · exact .inl (h.subscribed hmem)
    · intro number hle
      have hold : traffic.bus.next ≤ number := Nat.le_of_succ_le hle
      rw [h.queued_act, h.fresh hold, h.put_eq_nil hold]
      rfl
  | publish event =>
    refine h.act_of_fewer rfl rfl (fun script => ?_)
      (h.hasSubscribers.setSubscribers event.script _ rfl)
    simp only [Traffic.act, subscribers_publish]
    split
    · rename_i hscript
      rw [hscript]
      exact List.filter_subset_self _
    · exact fun _ hmem => hmem
  | unsubscribe number =>
    refine h.act_of_fewer ?_ ?_ (fun script => ?_) ?_
    · simp only [Traffic.act]
      split <;> rfl
    · simp only [Traffic.act]
      split <;> rfl
    · rw [h.subscribers_unsubscribe]
      exact List.filter_subset_self _
    · simp only [Traffic.act]
      split
      · exact h.hasSubscribers
      · exact h.hasSubscribers.setSubscribers _ _ rfl
  | stopReceiving number =>
    exact h.act_of_fewer rfl rfl (fun _ _ hmem => hmem) h.hasSubscribers
  | receive number =>
    cases htake : traffic.bus.take number with
    | none =>
      simp only [Traffic.act, htake]
      exact h
    | some taken =>
      obtain ⟨htopics, hnext⟩ := frame_of_take htake
      refine h.act_of_fewer ?_ ?_ (fun script => ?_) ?_
      · simp only [Traffic.act, htake]
      · simp only [Traffic.act, htake, hnext]
      · simp only [Traffic.act, htake, (took_of_take htake).subscribers]
        exact fun _ hmem => hmem
      · unfold HasSubscribers
        simp only [Traffic.act, htake, htopics]
        exact h.hasSubscribers

/-! ### The life of a subscription -/

theorem IsSound.actAll {traffic : Traffic} (h : traffic.IsSound) (history : List Action) :
    (traffic.actAll history).IsSound := by
  induction history generalizing traffic with
  | nil => exact h
  | cons action later ih => exact ih (h.act action)

/-- A living subscription stays alive until an action ends its life. -/
theorem IsSound.feeds_act {traffic : Traffic} (h : traffic.IsSound) {script : ScriptId}
    {number : Nat} (hfeeds : traffic.bus.Feeds script number) {action : Action}
    (hends : action.ends number = false) : (traffic.act action).bus.Feeds script number := by
  cases action with
  | subscribe other => exact hfeeds.subscribe h.isNumbered other
  | publish event => exact hfeeds.publish event
  | unsubscribe other =>
    simp only [Traffic.act]
    split
    · exact hfeeds
    · rename_i subscription hget
      refine hfeeds.unsubscribe ?_
      rw [h.number_eq hget]
      rintro rfl
      simp [Action.ends] at hends
  | stopReceiving other =>
    refine hfeeds.stopReceiving ?_
    rintro rfl
    simp [Action.ends] at hends
  | receive other =>
    simp only [Traffic.act]
    split
    · exact hfeeds
    · rename_i htake
      exact hfeeds.took (took_of_take htake)

/-- A living subscription gets what is published about its script, once. -/
theorem put_of_feeds {traffic : Traffic} {script : ScriptId} {number : Nat}
    (hfeeds : traffic.bus.Feeds script number) (action : Action) :
    traffic.put number action = (action.published?.toList).filter (·.script = script) := by
  cases action with
  | publish event =>
    simp only [put, Action.published?, count_receivers, hfeeds.receiving, hfeeds.count]
    by_cases hscript : event.script = script
    · simp [hscript]
    · simp [hscript]
  | subscribe _ => rfl
  | unsubscribe _ => rfl
  | stopReceiving _ => rfl
  | receive _ => rfl

/-- Only subscribing uses up a number. -/
theorem next_act (traffic : Traffic) (action : Action) :
    (traffic.act action).bus.next =
      match action with
      | .subscribe _ => traffic.bus.next + 1
      | _ => traffic.bus.next := by
  cases action with
  | subscribe script => rfl
  | publish event => rfl
  | unsubscribe number =>
    simp only [act]
    split <;> rfl
  | stopReceiving number => rfl
  | receive number =>
    simp only [act]
    split
    · rfl
    · rename_i htake
      exact (frame_of_take htake).2

theorem next_le_act (traffic : Traffic) (action : Action) :
    traffic.bus.next ≤ (traffic.act action).bus.next := by
  rw [next_act]
  split <;> omega

/-- Once the life of a subscription has ended publishing never reaches it again. -/
theorem IsSound.silent_act {traffic : Traffic} (h : traffic.IsSound) {number : Nat}
    {action : Action} (hlt : number < traffic.bus.next)
    (hends : (∀ script, number ∉ traffic.bus.receivers script) ∨ action.ends number = true) :
    (traffic.act action).bus.Silent number := by
  refine ⟨Nat.lt_of_lt_of_le hlt (traffic.next_le_act action), fun script hmem => ?_⟩
  rw [h.receivers_act] at hmem
  rcases List.mem_append.mp hmem with hold | hnew
  · obtain ⟨hold, hgoes⟩ := List.mem_filter.mp hold
    rcases hends with hsilent | hends
    · exact hsilent script hold
    · simp [hends] at hgoes
  · split at hnew
    · split at hnew
      · exact absurd (List.mem_singleton.mp hnew) (Nat.ne_of_lt hlt)
      · cases hnew
    · cases hnew

theorem put_of_silent {traffic : Traffic} {number : Nat} (hsilent : traffic.bus.Silent number)
    (action : Action) : traffic.put number action = [] := by
  cases action with
  | publish event =>
    simp only [put, List.count_eq_zero.mpr (hsilent.not_mem event.script), List.replicate_zero]
  | subscribe _ => rfl
  | unsubscribe _ => rfl
  | stopReceiving _ => rfl
  | receive _ => rfl

/-- Whatever happens after the life of a subscription, it gets nothing more. -/
theorem IsSound.queued_of_silent {traffic : Traffic} (h : traffic.IsSound) {number : Nat}
    (hsilent : traffic.bus.Silent number) (later : List Action) :
    (traffic.actAll later).queued number = traffic.queued number := by
  induction later generalizing traffic with
  | nil => rfl
  | cons action later ih =>
    have hrest := ih (h.act action) (h.silent_act hsilent.lt_next (.inl hsilent.not_mem))
    refine hrest.trans ?_
    rw [h.queued_act, put_of_silent hsilent, List.append_nil]

theorem heard_cons (script : ScriptId) (number : Nat) (action : Action) (later : List Action) :
    heard script number (action :: later) =
      if action.ends number then []
      else action.published?.toList.filter (·.script = script) ++ heard script number later := by
  unfold heard
  rw [List.takeWhile_cons]
  cases hends : action.ends number with
  | true => rfl
  | false =>
    cases hpublished : action.published? with
    | none => simp [hpublished]
    | some event => by_cases hscript : event.script = script <;> simp [hpublished, hscript]

/-- What a living subscription gets from now on is what is published about its script while it
lives. -/
theorem IsSound.queued_of_feeds {traffic : Traffic} (h : traffic.IsSound) {script : ScriptId}
    {number : Nat} (hfeeds : traffic.bus.Feeds script number) (hlt : number < traffic.bus.next)
    (later : List Action) :
    (traffic.actAll later).queued number = traffic.queued number ++ heard script number later := by
  induction later generalizing traffic with
  | nil => exact (List.append_nil _).symm
  | cons action later ih =>
    have hact := h.queued_act action number
    rw [put_of_feeds hfeeds] at hact
    change ((traffic.act action).actAll later).queued number = _
    rw [heard_cons]
    cases hends : action.ends number with
    | true =>
      have hpublished : action.published? = none := by
        cases action with
        | publish event => cases hends
        | _ => rfl
      rw [(h.act action).queued_of_silent (h.silent_act hlt (.inr hends)), hact, hpublished]
      rfl
    | false =>
      have hnext := Nat.lt_of_lt_of_le hlt (traffic.next_le_act action)
      rw [ih (h.act action) (h.feeds_act hfeeds hends) hnext, hact, List.append_assoc]
      rfl

/-! ### Whom publishing reaches -/

/-- Those who receive after a history are those who received before and whose life did not end, and
those that were made in it and live. -/
theorem IsSound.receivers_actAll {traffic : Traffic} (h : traffic.IsSound) (history : List Action)
    (script : ScriptId) :
    (traffic.actAll history).bus.receivers script =
      (traffic.bus.receivers script).filter (fun number => !history.any (·.ends number)) ++
        ((living traffic.bus.next history).filter (·.script = script)).map (·.number) := by
  induction history generalizing traffic with
  | nil =>
    change traffic.bus.receivers script = _
    simp [living]
  | cons action later ih =>
    have hfilter : ((traffic.bus.receivers script).filter (!action.ends ·)).filter
        (fun number => !later.any (·.ends number)) =
          (traffic.bus.receivers script).filter
            (fun number => !(action :: later).any (·.ends number)) := by
      rw [List.filter_filter]
      apply List.filter_congr
      intro number _
      rw [List.any_cons, Bool.not_or, Bool.and_comm]
    change ((traffic.act action).actAll later).bus.receivers script = _
    rw [ih (h.act action), h.receivers_act, List.filter_append, hfilter, List.append_assoc,
      next_act]
    congr 1
    cases action with
    | subscribe other =>
      rw [living]
      by_cases hends : later.any (·.ends traffic.bus.next) = true
      · by_cases hscript : script = other <;> simp [hends, hscript]
      · by_cases hscript : script = other
        · simp [hends, hscript]
        · simp [hends, hscript, Ne.symm hscript]
    | publish event => rfl
    | unsubscribe number => rfl
    | stopReceiving number => rfl
    | receive number => rfl

/-! ### Exactly once, in order, and only while it lives -/

/-- The traffic after a history. -/
def ofHistory (history : List Action) : Traffic :=
  ({} : Traffic).actAll history

theorem isSound_ofHistory (history : List Action) : (ofHistory history).IsSound :=
  isSound_empty.actAll history

theorem ofHistory_append (earlier later : List Action) :
    ofHistory (earlier ++ later) = (ofHistory earlier).actAll later :=
  List.foldl_append

theorem subscriptions_act (traffic : Traffic) (action : Action) :
    (traffic.act action).subscriptions = traffic.subscriptions ++
      action.subscribed?.toList.map fun script => ⟨script, traffic.bus.next⟩ := by
  cases action with
  | subscribe script => rfl
  | publish event => exact (List.append_nil _).symm
  | unsubscribe number =>
    refine Eq.trans ?_ (List.append_nil _).symm
    simp only [act]
    split <;> rfl
  | stopReceiving number => exact (List.append_nil _).symm
  | receive number =>
    refine Eq.trans ?_ (List.append_nil _).symm
    simp only [act]
    split <;> rfl

/-- The subscriptions that were made are those of the history, in order. -/
theorem scripts_actAll (traffic : Traffic) (history : List Action) :
    (traffic.actAll history).subscriptions.map (·.script) =
      traffic.subscriptions.map (·.script) ++ history.filterMap Action.subscribed? := by
  induction history generalizing traffic with
  | nil => exact (List.append_nil _).symm
  | cons action later ih =>
    refine (ih (traffic.act action)).trans ?_
    rw [subscriptions_act, List.map_append, List.append_assoc]
    cases hsubscribed : action.subscribed? with
    | none => simp [hsubscribed]
    | some script => simp [hsubscribed]

theorem subscriptions_prefix_actAll (traffic : Traffic) (history : List Action) :
    traffic.subscriptions <+: (traffic.actAll history).subscriptions := by
  induction history generalizing traffic with
  | nil => exact List.prefix_rfl
  | cons action later ih =>
    refine List.IsPrefix.trans ?_ (ih (traffic.act action))
    rw [subscriptions_act]
    exact List.prefix_append _ _

/-- What the subscription gets that is made at some point of a history. -/
theorem queued_ofHistory (earlier : List Action) (script : ScriptId) (later : List Action) :
    let traffic := ofHistory (earlier ++ .subscribe script :: later)
    let number := (earlier.filterMap Action.subscribed?).length
    traffic.subscriptions[number]? = some ⟨script, number⟩ ∧
      traffic.queued number = heard script number later := by
  have hsound := isSound_ofHistory earlier
  have hnumber : (ofHistory earlier).bus.next = (earlier.filterMap Action.subscribed?).length := by
    have hscripts := congrArg List.length (scripts_actAll {} earlier)
    rw [List.length_map] at hscripts
    exact hsound.length_eq.symm.trans hscripts
  let made := (ofHistory earlier).act (.subscribe script)
  have hafter : ofHistory (earlier ++ .subscribe script :: later) = made.actAll later :=
    ofHistory_append earlier _
  intro traffic number
  refine ⟨?_, ?_⟩
  · obtain ⟨more, hmore⟩ := subscriptions_prefix_actAll made later
    have hlength : (ofHistory earlier).subscriptions.length = number :=
      hsound.length_eq.trans hnumber
    have hsubscriptions : traffic.subscriptions =
        (ofHistory earlier).subscriptions ++ (⟨script, number⟩ :: more) :=
      calc traffic.subscriptions
          = (made.actAll later).subscriptions := congrArg (·.subscriptions) hafter
        _ = made.subscriptions ++ more := hmore.symm
        _ = (ofHistory earlier).subscriptions ++ [⟨script, number⟩] ++ more := by
          rw [subscriptions_act, hnumber]
          rfl
        _ = (ofHistory earlier).subscriptions ++ (⟨script, number⟩ :: more) :=
          List.append_assoc _ _ _
    rw [hsubscriptions, List.getElem?_append_right (Nat.le_of_eq hlength), hlength, Nat.sub_self]
    rfl
  · have hfeeds : made.bus.Feeds script number := by
      have hfirst := hsound.isNumbered.feeds_subscribe script
      rwa [hnumber] at hfirst
    have hlt : number < made.bus.next := by
      rw [next_act, hnumber]
      exact Nat.lt_succ_self number
    have hempty : made.queued number = [] := by
      rw [hsound.queued_act, hsound.fresh (Nat.le_of_eq hnumber)]
      rfl
    have hlater := (hsound.act (.subscribe script)).queued_of_feeds hfeeds hlt later
    rw [hempty, List.nil_append] at hlater
    exact (congrArg (·.queued number) hafter).trans hlater

/-- The end of one subscription's life changes nothing about another one. -/
theorem IsSound.act_of_ends {traffic : Traffic} (h : traffic.IsSound) {action : Action}
    {number other : Nat} (hends : action.ends number = true) (hne : other ≠ number) :
    (traffic.act action).queued other = traffic.queued other ∧
      (traffic.act action).bus.channel other = traffic.bus.channel other ∧
      ∀ script, other ∈ (traffic.act action).bus.subscribers script ↔
        other ∈ traffic.bus.subscribers script := by
  have hqueued := h.queued_act action other
  cases action with
  | unsubscribe ended =>
    have hended : ended = number := beq_iff_eq.mp hends
    refine ⟨hqueued.trans (List.append_nil _), ?_, fun script => ?_⟩
    · simp only [Traffic.act]
      split <;> rfl
    · rw [h.subscribers_unsubscribe, List.mem_filter, hended]
      exact ⟨fun hmem => hmem.1, fun hmem => ⟨hmem, decide_eq_true hne⟩⟩
  | stopReceiving ended =>
    have hended : ended = number := beq_iff_eq.mp hends
    refine ⟨hqueued.trans (List.append_nil _), ?_, fun script => Iff.rfl⟩
    simp only [Traffic.act, channel_stopReceiving, hended, if_neg hne]
  | subscribe script => cases hends
  | publish event => cases hends
  | receive taken => cases hends

/-- As long as a counter of 64 bits can number them, the numbers are different. -/
theorem nodup_map_ofNat {count : Nat} (h : count ≤ UInt64.size) :
    ((List.range count).map UInt64.ofNat).Nodup := by
  apply List.Nodup.map_on _ List.nodup_range
  intro a ha b hb heq
  have htoNat := congrArg UInt64.toNat heq
  rw [List.mem_range] at ha hb
  rwa [UInt64.toNat_ofNat_of_lt' (by omega), UInt64.toNat_ofNat_of_lt' (by omega)] at htoNat

/-- **Exactly once, in order, and only while it lives.** After every history of the bus: what was
ever put into the channel of a subscription is what was published about its script after it was made
and before it was given up or its receiver was gone. Publishing reaches the subscriptions to the
script that live. The end of one subscription's life changes nothing about another one. The
subscriptions that were made have different numbers, also in a counter of 64 bits if there are no
more than that can count. No topic is kept without subscribers. -/
theorem delivered_while_living (history : List Action) :
    let traffic := ofHistory history
    (∀ earlier script later, history = earlier ++ .subscribe script :: later →
      let number := (earlier.filterMap Action.subscribed?).length
      traffic.subscriptions[number]? = some ⟨script, number⟩ ∧
        traffic.queued number = heard script number later) ∧
    (∀ event, (traffic.bus.publish event).2 =
      ((living 0 history).filter (·.script = event.script)).length) ∧
    (∀ action number other, Action.ends number action = true → other ≠ number →
      (traffic.act action).queued other = traffic.queued other ∧
        (traffic.act action).bus.channel other = traffic.bus.channel other ∧
        ∀ script, other ∈ (traffic.act action).bus.subscribers script ↔
          other ∈ traffic.bus.subscribers script) ∧
    traffic.subscriptions.map (·.script) = history.filterMap Action.subscribed? ∧
    (traffic.subscriptions.map (·.number)).Nodup ∧
    (traffic.subscriptions.length ≤ UInt64.size →
      (traffic.subscriptions.map fun s => UInt64.ofNat s.number).Nodup) ∧
    ∀ script numbers, traffic.bus.topics.get? script = some numbers → numbers ≠ [] := by
  have hsound := isSound_ofHistory history
  refine ⟨?_, fun event => ?_, fun _ _ _ => hsound.act_of_ends, scripts_actAll {} history, ?_, ?_,
    hsound.hasSubscribers⟩
  · rintro earlier script later rfl
    exact queued_ofHistory earlier script later
  · have hreceivers := isSound_empty.receivers_actAll history event.script
    refine (congrArg List.length hreceivers).trans ?_
    rw [List.length_append, List.length_map]
    exact Nat.zero_add _
  · rw [hsound.numbers_eq]
    exact List.nodup_range
  · intro hlength
    rw [hsound.length_eq] at hlength
    have hmap : (ofHistory history).subscriptions.map (fun s => UInt64.ofNat s.number) =
        (List.range (ofHistory history).bus.next).map UInt64.ofNat := by
      rw [← hsound.numbers_eq, List.map_map]
      rfl
    rw [hmap]
    exact nodup_map_ofNat hlength

end Traffic

end ScriptDesk.Bus

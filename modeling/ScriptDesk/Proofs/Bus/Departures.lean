import Mathlib.Data.List.Perm.Basic
import ScriptDesk.Proofs.Bus.Lifetimes

/-!
# Leaving the bus

Giving up a subscription and ceasing to receive take something out of the tables of the bus, and in
what order several do so does not matter (`unsubscribe_comm`, `stopReceiving_comm`). For tables keep
the order of their keys: two that come from one by taking keys out are the same if they have the
same values (`Table.eq_of_sublist`).
-/

namespace ScriptDesk

namespace Table

variable {κ α : Type}

theorem eq_of_entries_eq {table other : Table κ α} (h : table.entries = other.entries) :
    table = other := by
  cases table
  cases other
  cases h
  rfl

variable [DecidableEq κ]

/-- The entries are the keys in order with their values. -/
theorem entries_eq_filterMap (table : Table κ α) :
    table.entries = table.keys.filterMap fun key => (table.get? key).map (key, ·) := by
  have hvalues : ∀ entry ∈ table.entries,
      (table.get? entry.1).map (entry.1, ·) = some entry := by
    intro entry hentry
    rw [(table.mem_entries_iff entry.1 entry.2).mp hentry]
    rfl
  rw [keys, List.filterMap_map]
  exact ((List.filterMap_congr hvalues).trans List.filterMap_some).symm

/-- Two parts of a table that have the same values are the same. -/
theorem eq_of_sublist {whole table other : Table κ α} (h : table.keys.Sublist whole.keys)
    (hother : other.keys.Sublist whole.keys) (hvalues : table.get? = other.get?) :
    table = other := by
  have hkeys : table.keys = other.keys := by
    have hperm : table.keys.Perm other.keys := by
      refine (List.perm_ext_iff_of_nodup table.nodup other.nodup).mpr fun key => ?_
      rw [← keys, ← keys, mem_keys_iff, mem_keys_iff, hvalues]
    exact (List.Nodup.perm_iff_eq_of_sublist whole.nodup h hother).mp hperm
  refine eq_of_entries_eq ?_
  rw [entries_eq_filterMap, entries_eq_filterMap, hkeys, hvalues]

theorem keys_erase_sublist (table : Table κ α) (key : κ) :
    (table.erase key).keys.Sublist table.keys := by
  rw [keys_erase]
  exact List.filter_sublist

theorem erase_comm (table : Table κ α) (first second : κ) :
    (table.erase first).erase second = (table.erase second).erase first := by
  refine eq_of_sublist ((keys_erase_sublist _ _).trans (table.keys_erase_sublist first))
    ((keys_erase_sublist _ _).trans (table.keys_erase_sublist second)) (funext fun key => ?_)
  simp only [get?_erase]
  split
  · rw [ite_self]
  · rfl

theorem keys_set_of_mem {table : Table κ α} {key : κ} (h : key ∈ table.keys) (value : α) :
    (table.set key value).keys = table.keys := by
  rw [keys_set, if_pos h]

theorem keys_modify (table : Table κ α) (key : κ) (change : α → α) :
    (table.modify key change).keys = table.keys := by
  unfold modify
  split
  · rename_i value hvalue
    refine keys_set_of_mem ((table.mem_keys_iff key).mpr ?_) _
    rw [hvalue]
    rfl
  · rfl

/-- To replace values in another order is the same if those of one key are replaced alike. -/
theorem modify_comm (table : Table κ α) {change : α → α}
    (first second : κ) :
    (table.modify first change).modify second change =
      (table.modify second change).modify first change := by
  have hkeys : ∀ first second, ((table.modify first change).modify second change).keys.Sublist
      table.keys := by
    intro first second
    rw [keys_modify, keys_modify]
  refine eq_of_sublist (hkeys first second) (hkeys second first) (funext fun key => ?_)
  simp only [get?_modify]
  by_cases hsame : first = second
  · rw [hsame]
  · split
    · rename_i hsecond
      rw [if_neg (Ne.symm hsame), hsecond, if_neg (Ne.symm hsame)]
    · rfl

end Table

namespace Bus

/-- The topic of a script with these subscribers: without any there is none. -/
def topic? : List Nat → Option (List Nat)
  | [] => none
  | numbers => some numbers

theorem topic?_bind_filter (numbers : List Nat) (stays : Nat → Bool) :
    ((topic? numbers).bind fun others => topic? (others.filter stays)) =
      topic? (numbers.filter stays) := by
  cases numbers with
  | nil => rfl
  | cons number numbers => rfl

theorem topics_setSubscribers (topics : Table ScriptId (List Nat)) (script other : ScriptId)
    (numbers : List Nat) :
    (setSubscribers topics script numbers).get? other =
      if other = script then topic? numbers else topics.get? other := by
  cases numbers with
  | nil => exact Table.get?_erase _ _ _
  | cons number numbers => exact Table.get?_set _ _ _ _

/-- What is left of a topic when a subscription is given up. -/
def remaining (subscription : Subscription) (script : ScriptId) (numbers : List Nat) :
    Option (List Nat) :=
  if script = subscription.script then topic? (numbers.filter (· ≠ subscription.number))
  else some numbers

theorem remaining_of_ne {subscription : Subscription} {script : ScriptId}
    (h : script ≠ subscription.script) : remaining subscription script = some :=
  funext fun _ => if_neg h

theorem remaining_of_eq {subscription : Subscription} {script : ScriptId}
    (h : script = subscription.script) :
    remaining subscription script =
      fun numbers => topic? (numbers.filter (· ≠ subscription.number)) :=
  funext fun _ => if_pos h

theorem remaining_comm (first second : Subscription) (script : ScriptId) (numbers : List Nat) :
    (remaining first script numbers).bind (remaining second script) =
      (remaining second script numbers).bind (remaining first script) := by
  by_cases hfirst : script = first.script
  · by_cases hsecond : script = second.script
    · rw [remaining_of_eq hfirst, remaining_of_eq hsecond]
      simp only [topic?_bind_filter, List.filter_filter, Bool.and_comm]
    · rw [remaining_of_ne hsecond, Option.bind_fun_some, Option.bind_some]
  · rw [remaining_of_ne hfirst, Option.bind_fun_some, Option.bind_some]

theorem topics_unsubscribe (bus : Bus) (subscription : Subscription) (script : ScriptId) :
    (bus.unsubscribe subscription).topics.get? script =
      (bus.topics.get? script).bind (remaining subscription script) := by
  unfold unsubscribe
  rw [topics_setSubscribers]
  by_cases hscript : script = subscription.script
  · rw [if_pos hscript, remaining_of_eq hscript, hscript, subscribers]
    cases bus.topics.get? subscription.script with
    | none => rfl
    | some numbers => rfl
  · rw [if_neg hscript, remaining_of_ne hscript, Option.bind_fun_some]

/-- No topic is added, and those that are left keep their order. -/
theorem keys_unsubscribe_sublist (bus : Bus) (subscription : Subscription) :
    (bus.unsubscribe subscription).topics.keys.Sublist bus.topics.keys := by
  unfold unsubscribe setSubscribers
  split
  · exact Table.keys_erase_sublist _ _
  · rename_i numbers hne
    have htopic : subscription.script ∈ bus.topics.keys := by
      rw [Table.mem_keys_iff]
      by_contra hnone
      rw [Option.not_isSome_iff_eq_none] at hnone
      apply hne
      rw [subscribers, hnone]
      rfl
    rw [Table.keys_set_of_mem htopic]

/-- The order in which subscriptions are given up does not matter. -/
theorem unsubscribe_comm (bus : Bus) (first second : Subscription) :
    (bus.unsubscribe first).unsubscribe second = (bus.unsubscribe second).unsubscribe first := by
  have htopics : ((bus.unsubscribe first).unsubscribe second).topics =
      ((bus.unsubscribe second).unsubscribe first).topics := by
    refine Table.eq_of_sublist
      ((keys_unsubscribe_sublist _ _).trans (bus.keys_unsubscribe_sublist first))
      ((keys_unsubscribe_sublist _ _).trans (bus.keys_unsubscribe_sublist second))
      (funext fun script => ?_)
    rw [topics_unsubscribe, topics_unsubscribe, topics_unsubscribe, topics_unsubscribe,
      Option.bind_assoc, Option.bind_assoc]
    exact Option.bind_congr fun numbers _ => remaining_comm first second script numbers
  exact congrArg (fun topics => { bus with topics }) htopics

/-- Nor does the order in which receivers stop. -/
theorem stopReceiving_comm (bus : Bus) (first second : Nat) :
    (bus.stopReceiving first).stopReceiving second =
      (bus.stopReceiving second).stopReceiving first :=
  congrArg (fun channels => { bus with channels })
    (bus.channels.modify_comm first second)

end Bus

end ScriptDesk

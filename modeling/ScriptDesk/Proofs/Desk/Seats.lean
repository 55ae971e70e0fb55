import ScriptDesk.Proofs.Desk.Wiring

/-!
# What the steps do to seats

A step of the desk changes at most one seat. Giving up a subscription, stopping a pump and disposing
are described here by what they do to each seat and to the bus; files and register they leave alone.
-/

namespace ScriptDesk.Desk

/-! ### Giving up a subscription, stopping a pump, disposing -/

/-- Only what a change makes of the seat that is there matters. -/
theorem modifySeat_congr {desk : Desk} {seat : Nat} {change other : Seat → Seat}
    (h : ∀ s, desk.seat? seat = some s → change s = other s) :
    desk.modifySeat seat change = desk.modifySeat seat other := by
  have hseats : desk.seats.modify seat change = desk.seats.modify seat other := by
    apply List.ext_getElem?
    intro number
    rw [List.getElem?_modify, List.getElem?_modify]
    cases hnumber : desk.seats[number]? with
    | none => rfl
    | some s =>
      by_cases heq : seat = number
      · subst heq
        simp [h s hnumber]
      · simp [heq]
  unfold modifySeat
  rw [hseats]

theorem modifySeat_eq_self {desk : Desk} {seat : Nat} {change : Seat → Seat}
    (h : ∀ s, desk.seat? seat = some s → change s = s) : desk.modifySeat seat change = desk := by
  refine (modifySeat_congr h).trans ?_
  unfold modifySeat
  rw [show (fun s : Seat => s) = id from rfl, List.modify_id]

theorem setEnvironment_self {desk : Desk} {seat : Nat} {s : Seat}
    (h : desk.seat? seat = some s) : desk.setEnvironment seat s.environment = desk := by
  refine modifySeat_eq_self fun o ho => ?_
  cases h.symm.trans ho
  rfl

theorem modifySeat_modifySeat (desk : Desk) (seat : Nat) (first second : Seat → Seat) :
    (desk.modifySeat seat first).modifySeat seat second =
      desk.modifySeat seat (second ∘ first) := by
  unfold modifySeat
  simp only [List.modify_modify_eq]

/-- The bus after a seat gave up its subscription. -/
def busWithout (bus : Bus) : Option Subscription → Bus
  | none => bus
  | some subscription => bus.unsubscribe subscription

theorem dropSubscription_eq {desk : Desk} {seat : Nat} {s : Seat}
    (hseat : desk.seat? seat = some s) :
    desk.dropSubscription seat =
      { desk with bus := busWithout desk.bus s.subscription }.modifySeat seat
        fun s => { s with subscription := none } := by
  unfold dropSubscription
  simp only [hseat, Option.bind_some]
  cases hsubscription : s.subscription with
  | none =>
    refine (modifySeat_eq_self fun other hother => ?_).symm
    cases hseat.symm.trans hother
    rw [← hsubscription]
  | some subscription => rfl

/-- The bus after a pump was stopped. -/
def busStopped (bus : Bus) : Option Pump → Bus
  | none => bus
  | some pump => bus.stopReceiving pump.channel

theorem stopPump_eq {desk : Desk} {seat : Nat} {s : Seat} (hseat : desk.seat? seat = some s) :
    desk.stopPump seat =
      { desk with bus := busStopped desk.bus s.pump }.modifySeat seat
        fun s => { s with pump := none } := by
  unfold stopPump
  simp only [hseat, Option.bind_some]
  cases hpump : s.pump with
  | none =>
    refine (modifySeat_eq_self fun other hother => ?_).symm
    cases hseat.symm.trans hother
    rw [← hpump]
  | some pump => rfl

/-- A seat after its environment was disposed. -/
def retire (s : Seat) : Seat :=
  { s with
    environment := { s.environment with disposed := true }
    subscription := none
    pump := none }

/-- Disposing a live environment leaves its seat without subscription and pump. -/
theorem dispose_eq {desk : Desk} {seat : Nat} {s : Seat} (hseat : desk.seat? seat = some s)
    (hlive : s.environment.disposed = false) :
    desk.dispose seat =
      { desk with bus := busStopped (busWithout desk.bus s.subscription) s.pump }.modifySeat seat
        retire := by
  let disposed : Environment := { s.environment with disposed := true }
  let marked := (desk.dropSubscription seat).setEnvironment seat disposed
  have hmarked : marked =
      { desk with bus := busWithout desk.bus s.subscription }.modifySeat seat
        fun s => { s with environment := disposed, subscription := none } := by
    simp only [marked, dropSubscription_eq hseat, setEnvironment, modifySeat_modifySeat]
    rfl
  have hseat' : marked.seat? seat =
      some { s with environment := disposed, subscription := none } := by
    rw [hmarked, seat?_modifySeat, if_pos rfl]
    exact congrArg (Option.map _) hseat
  have hdispose : desk.dispose seat = marked.stopPump seat := by
    unfold dispose
    simp only [hseat, hlive, Bool.false_eq_true, if_false]
    rfl
  rw [hdispose, stopPump_eq hseat', hmarked]
  refine (modifySeat_modifySeat
    { desk with bus := busStopped (busWithout desk.bus s.subscription) s.pump } seat _ _).trans ?_
  refine modifySeat_congr fun other hother => ?_
  cases hseat.symm.trans hother
  rfl

/-- Disposing concerns neither the register nor the files, and the seats stay. -/
theorem frame_dispose (desk : Desk) (seat : Nat) :
    (desk.dispose seat).register = desk.register ∧ (desk.dispose seat).files = desk.files ∧
      (desk.dispose seat).seats.length = desk.seats.length := by
  have hdrop : ∀ desk : Desk, (desk.dropSubscription seat).register = desk.register ∧
      (desk.dropSubscription seat).files = desk.files ∧
        (desk.dropSubscription seat).seats.length = desk.seats.length := by
    intro desk
    unfold dropSubscription
    split
    · exact ⟨rfl, rfl, rfl⟩
    · exact ⟨rfl, rfl, List.length_modify ..⟩
  have hstop : ∀ desk : Desk, (desk.stopPump seat).register = desk.register ∧
      (desk.stopPump seat).files = desk.files ∧
        (desk.stopPump seat).seats.length = desk.seats.length := by
    intro desk
    unfold stopPump
    split
    · exact ⟨rfl, rfl, rfl⟩
    · exact ⟨rfl, rfl, List.length_modify ..⟩
  obtain ⟨hregister, hfiles, hlength⟩ := hdrop desk
  unfold dispose
  split
  · exact ⟨rfl, rfl, rfl⟩
  · rename_i s _
    split
    · exact ⟨hregister, hfiles, hlength⟩
    · obtain ⟨hregister', hfiles', hlength'⟩ := hstop
        ((desk.dropSubscription seat).setEnvironment seat { s.environment with disposed := true })
      refine ⟨hregister'.trans hregister, hfiles'.trans hfiles, hlength'.trans ?_⟩
      exact (List.length_modify ..).trans hlength

end ScriptDesk.Desk

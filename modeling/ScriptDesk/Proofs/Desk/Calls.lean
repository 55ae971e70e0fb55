import ScriptDesk.Proofs.Desk.Seats

/-!
# Calls in progress

Many calls to the environments of a desk may be on their way at once. An `Office` is a desk with the
calls that were ever made, and a `Turn` is what happens next: someone makes another call, a call
goes one step on, or it is abandoned; or an event is published, a pump makes a step, a seat is
attached.

The steps of a call are those between which others may have their turn (`Desk.step?`). Delivering an
event that renames a file takes the document first and waits for it while someone else uses that;
all the rest of a delivery is one step, as is a change of the status. Disposing gives up the
subscription, marks the environment, and then stops the pump. Whoever edits a document has it for
himself meanwhile. A pump delivers as a whole here; one that is interrupted after it took the
document is like a call to deliver the event, which may be abandoned when the pump is stopped.

A call that goes on without interruption does what the desk does at once (`turnAll_dispose`,
`turnAll_deliver`). Whenever a delivery has its turn it does all of what it is to do or nothing
(`wholeOrNothing_go`).
-/

namespace ScriptDesk.Desk

/-- The environment of a seat. -/
def environment? (desk : Desk) (seat : Nat) : Option Environment :=
  (desk.seat? seat).map (·.environment)

/-! ### Steps of calls -/

/-- What someone may want of an environment. -/
inductive Request where
  /-- That it takes an event into account. -/
  | deliver (event : Event)
  /-- That its status changes. -/
  | setStatus (target : Status)
  /-- That it is disposed. -/
  | dispose
  /-- To use its document, and change it. -/
  | edit (change : Document → Document)

/-- What a call does next. -/
inductive Stage where
  /-- Deliver the event, or take the document for it. -/
  | deliver (event : Event)
  /-- Deliver the event, for which it has the document. -/
  | deliverHolding (event : Event)
  /-- Change the status. -/
  | setStatus (target : Status)
  /-- Give up the subscription. -/
  | dispose
  /-- Mark the environment as disposed. -/
  | mark
  /-- Stop the pump. -/
  | stopPump
  /-- Take the document. -/
  | edit (change : Document → Document)
  /-- Change the document and give it back. -/
  | editHolding (change : Document → Document)

/-- How a call begins. -/
def Request.stage : Request → Stage
  | .deliver event => .deliver event
  | .setStatus target => .setStatus target
  | .dispose => .dispose
  | .edit change => .edit change

/-- The call has the document. -/
def Stage.isHolding : Stage → Bool
  | .deliverHolding _ | .editHolding _ => true
  | _ => false

/-- What a call gives back. -/
inductive Answer where
  /-- What became of the event. -/
  | delivered (result : Except EnvironmentError Delivery)
  /-- What became of the status. -/
  | statusSet (result : Except EnvironmentError (Option Transition))
  /-- The environment is disposed. -/
  | disposed
  /-- The document was changed. -/
  | edited

/-- How far a call has got. -/
inductive Progress where
  /-- It has something to do. -/
  | pending (stage : Stage)
  /-- It has come back. -/
  | answered (answer : Answer)
  /-- Nobody waits for it any more, and it will do nothing. -/
  | abandoned

/-- A call to an environment. -/
structure Call where
  /-- The seat of the environment. -/
  seat : Nat
  /-- How far it has got. -/
  progress : Progress

/-- The document of a seat is taken, unless someone has it. -/
def takeDocument? (desk : Desk) (seat : Nat) : Option Desk :=
  match desk.seat? seat with
  | none => none
  | some s => if s.documentHeld then none else some (desk.hold seat true)

/-- The environment of a seat is marked as disposed. -/
def markDisposed (desk : Desk) (seat : Nat) : Desk :=
  desk.modifySeat seat fun s => { s with environment := { s.environment with disposed := true } }

/-- The document of a seat is changed. -/
def changeDocument (desk : Desk) (seat : Nat) (change : Document → Document) : Desk :=
  desk.modifySeat seat fun s =>
    { s with environment := { s.environment with document := change s.environment.document } }

/-- The step of a call to the environment of a seat. There is none while it has to wait for the
document, or if there is no such seat to be marked. -/
def step? (desk : Desk) (seat : Nat) : Stage → Option (Desk × Progress)
  | .deliver event =>
    if (desk.environment? seat).any (·.needsDocument event) then
      (desk.takeDocument? seat).map fun taken => (taken, .pending (.deliverHolding event))
    else
      some ((desk.deliver seat event).2, .answered (.delivered (desk.deliver seat event).1))
  | .deliverHolding event =>
    some ((desk.deliver seat event).2.hold seat false,
      .answered (.delivered (desk.deliver seat event).1))
  | .setStatus target =>
    some ((desk.setStatus seat target).2, .answered (.statusSet (desk.setStatus seat target).1))
  | .dispose => some (desk.dropSubscription seat, .pending .mark)
  | .mark =>
    (desk.environment? seat).map fun environment =>
      if environment.disposed then (desk, .answered .disposed)
      else (desk.markDisposed seat, .pending .stopPump)
  | .stopPump => some (desk.stopPump seat, .answered .disposed)
  | .edit change =>
    (desk.takeDocument? seat).map fun taken => (taken, .pending (.editHolding change))
  | .editHolding change =>
    some ((desk.changeDocument seat change).hold seat false, .answered .edited)

/-! ### Turns -/

/-- A desk and the calls that were made. -/
structure Office where
  /-- The desk. -/
  desk : Desk
  /-- The calls in the order in which they were made. -/
  calls : List Call := []

/-- What happens next. A call is named by how many were made before it. -/
inductive Turn where
  /-- Someone makes a call to the environment of a seat. -/
  | ask (seat : Nat) (request : Request)
  /-- A call goes a step on, if it can. -/
  | go (number : Nat)
  /-- A call is abandoned; if it has the document it gives that back. -/
  | abandon (number : Nat)
  /-- An event is published. -/
  | publish (event : Event)
  /-- The pump of a seat takes an event and is interrupted. -/
  | take (seat : Nat)
  /-- The pump of a seat makes a step. -/
  | pump (seat : Nat)
  /-- A seat is attached to the bus. -/
  | attach (seat : Nat)

namespace Office

/-- A desk on which no calls were made. -/
def ofDesk (desk : Desk) : Office := { desk }

/-- The office after a turn. -/
def turn (office : Office) : Turn → Office
  | .ask seat request =>
    { office with calls := office.calls ++ [⟨seat, .pending request.stage⟩] }
  | .go number =>
    match office.calls[number]? with
    | some ⟨seat, .pending stage⟩ =>
      match office.desk.step? seat stage with
      | some (desk, progress) => { desk, calls := office.calls.set number ⟨seat, progress⟩ }
      | none => office
    | _ => office
  | .abandon number =>
    match office.calls[number]? with
    | some ⟨seat, .pending stage⟩ =>
      { desk := if stage.isHolding then office.desk.hold seat false else office.desk
        calls := office.calls.set number ⟨seat, .abandoned⟩ }
    | _ => office
  | .publish event => { office with desk := (office.desk.publish event).1 }
  | .take seat => { office with desk := (office.desk.takeNext? seat).getD office.desk }
  | .pump seat => { office with desk := ((office.desk.pumpStep? seat).map (·.1)).getD office.desk }
  | .attach seat => { office with desk := office.desk.attach seat }

/-- The office after turns in order. -/
def turnAll (office : Office) (turns : List Turn) : Office :=
  turns.foldl turn office

/-- The seat whose environment has the turn. -/
def seatOf? (office : Office) : Turn → Option Nat
  | .ask seat _ | .take seat | .pump seat | .attach seat => some seat
  | .go number | .abandon number => (office.calls[number]?).map (·.seat)
  | .publish _ => none

end Office

/-! ### Calls that are not interrupted -/

/-- A call that is made comes last. -/
theorem Office.turn_ask (office : Office) (seat : Nat) (request : Request) :
    office.turn (.ask seat request) =
      ⟨office.desk, office.calls ++ [⟨seat, .pending request.stage⟩]⟩ :=
  rfl

/-- The call that was made last goes a step on. -/
theorem Office.go_last {desk desk' : Desk} {calls : List Call} {seat : Nat} {stage : Stage}
    {progress : Progress} (h : desk.step? seat stage = some (desk', progress)) :
    (Office.mk desk (calls ++ [⟨seat, .pending stage⟩])).turn (.go calls.length) =
      ⟨desk', calls ++ [⟨seat, progress⟩]⟩ := by
  simp only [turn, List.getElem?_concat_length, h]
  simp

/-- A call that was made last and has come back does nothing more. -/
theorem Office.go_answered {desk : Desk} {calls : List Call} {seat : Nat} {answer : Answer} :
    (Office.mk desk (calls ++ [⟨seat, .answered answer⟩])).turn (.go calls.length) =
      ⟨desk, calls ++ [⟨seat, .answered answer⟩]⟩ := by
  simp only [turn, List.getElem?_concat_length]

/-- Disposing without interruption is what the desk does at once. -/
theorem Office.turnAll_dispose (office : Office) {seat : Nat} {s : Seat}
    (hseat : office.desk.seat? seat = some s) :
    let number := office.calls.length
    office.turnAll [.ask seat .dispose, .go number, .go number, .go number] =
      ⟨office.desk.dispose seat, office.calls ++ [⟨seat, .answered .disposed⟩]⟩ := by
  intro number
  have hdropped : (office.desk.dropSubscription seat).seat? seat =
      some { s with subscription := none } := by
    rw [dropSubscription_eq hseat, seat?_modifySeat, if_pos rfl]
    exact congrArg (Option.map _) hseat
  have henvironment : (office.desk.dropSubscription seat).environment? seat =
      some s.environment := congrArg (Option.map _) hdropped
  have hmarked : (office.desk.dropSubscription seat).markDisposed seat =
      (office.desk.dropSubscription seat).setEnvironment seat
        { s.environment with disposed := true } := by
    refine modifySeat_congr fun o ho => ?_
    cases hdropped.symm.trans ho
    rfl
  simp only [turnAll, List.foldl_cons, List.foldl_nil, turn_ask, Request.stage, number]
  have hfirst : office.desk.step? seat .dispose =
      some (office.desk.dropSubscription seat, .pending .mark) := rfl
  rw [go_last hfirst]
  unfold dispose
  simp only [hseat]
  cases hdisposed : s.environment.disposed with
  | true =>
    have hstep : (office.desk.dropSubscription seat).step? seat .mark =
        some (office.desk.dropSubscription seat, .answered .disposed) := by
      simp only [step?, henvironment, Option.map_some, hdisposed, if_true]
    rw [go_last hstep, go_answered]
    rfl
  | false =>
    have hstep : (office.desk.dropSubscription seat).step? seat .mark =
        some ((office.desk.dropSubscription seat).markDisposed seat, .pending .stopPump) := by
      simp only [step?, henvironment, Option.map_some, hdisposed, Bool.false_eq_true, if_false]
    rw [go_last hstep, go_last rfl, hmarked]
    rfl

/-- Who has the document makes no difference to a delivery. -/
theorem deliver_hold (desk : Desk) (seat : Nat) (held : Bool) (event : Event) :
    (desk.hold seat held).deliver seat event =
      ((desk.deliver seat event).1, (desk.deliver seat event).2.hold seat held) := by
  unfold deliver
  rw [seat?_hold, if_pos rfl]
  cases hseat : desk.seat? seat with
  | none => rfl
  | some s =>
    simp only [Option.map_some, hold]
    cases hdeliver : s.environment.deliver desk.files event with
    | error e =>
      simp only [modifySeat, hdeliver]
    | ok result =>
      simp only [modifySeat, setEnvironment, hdeliver, List.modify_modify_eq]
      rfl

/-- A document that nobody had is given back. -/
theorem hold_hold_false {desk : Desk} {seat : Nat} {s : Seat} (hseat : desk.seat? seat = some s)
    (hfree : s.documentHeld = false) : (desk.hold seat true).hold seat false = desk := by
  unfold hold
  rw [modifySeat_modifySeat]
  refine modifySeat_eq_self fun o ho => ?_
  cases hseat.symm.trans ho
  change { s with documentHeld := false } = s
  rw [← hfree]

/-- So is delivering an event, if nobody uses the document. -/
theorem Office.turnAll_deliver (office : Office) {seat : Nat} {s : Seat}
    (hseat : office.desk.seat? seat = some s) (hfree : s.documentHeld = false) (event : Event) :
    let number := office.calls.length
    office.turnAll [.ask seat (.deliver event), .go number, .go number] =
      ⟨(office.desk.deliver seat event).2,
        office.calls ++ [⟨seat, .answered (.delivered (office.desk.deliver seat event).1)⟩]⟩ := by
  intro number
  simp only [turnAll, List.foldl_cons, List.foldl_nil, turn_ask, Request.stage, number]
  have henvironment : office.desk.environment? seat = some s.environment :=
    congrArg (Option.map _) hseat
  cases hneeds : s.environment.needsDocument event with
  | false =>
    have hstep : office.desk.step? seat (.deliver event) =
        some ((office.desk.deliver seat event).2,
          .answered (.delivered (office.desk.deliver seat event).1)) := by
      simp only [step?, henvironment, Option.any_some, hneeds, Bool.false_eq_true, if_false]
    rw [go_last hstep, go_answered]
  | true =>
    have hstep : office.desk.step? seat (.deliver event) =
        some (office.desk.hold seat true, .pending (.deliverHolding event)) := by
      simp only [step?, henvironment, Option.any_some, hneeds, if_true, takeDocument?, hseat,
        hfree, Bool.false_eq_true, if_false, Option.map_some]
    rw [go_last hstep, go_last rfl, deliver_hold]
    have hdelivered := ((deliver_eq hseat event).2.2 seat).trans (if_pos rfl)
    rw [hold_hold_false hdelivered hfree]

/-- So is a change of the status. -/
theorem Office.turnAll_setStatus (office : Office) (seat : Nat) (target : Status) :
    office.turnAll [.ask seat (.setStatus target), .go office.calls.length] =
      ⟨(office.desk.setStatus seat target).2,
        office.calls ++ [⟨seat, .answered (.statusSet (office.desk.setStatus seat target).1)⟩]⟩ :=
  go_last rfl

/-! ### Deliveries on their way -/

/-- A change of one seat that leaves its environment. -/
theorem environment?_modifySeat {desk : Desk} {seat : Nat} {change : Seat → Seat}
    (h : ∀ s, (change s).environment = s.environment) :
    (desk.modifySeat seat change).environment? = desk.environment? := by
  funext other
  unfold environment?
  rw [seat?_modifySeat]
  split
  · rename_i hother
    rw [hother, Option.map_map]
    exact congrArg (Option.map · _) (funext h)
  · rfl

theorem environment?_hold (desk : Desk) (seat : Nat) (held : Bool) :
    (desk.hold seat held).environment? = desk.environment? :=
  environment?_modifySeat fun _ => rfl

theorem takeDocument?_eq {desk taken : Desk} {seat : Nat}
    (h : desk.takeDocument? seat = some taken) : taken = desk.hold seat true := by
  unfold takeDocument? at h
  split at h
  · cases h
  · split at h
    · cases h
    · cases h
      rfl

namespace Office

/-- A call has an event to deliver, and perhaps the document for it. -/
def IsDelivering (office : Office) (number seat : Nat) (event : Event) : Prop :=
  office.calls[number]? = some ⟨seat, .pending (.deliver event)⟩ ∨
    office.calls[number]? = some ⟨seat, .pending (.deliverHolding event)⟩

/-- All is done that delivering an event is to do, and the call comes back with what became of it;
or the environments and the files stay as they are, and the call does not come back. -/
def WholeOrNothing (office office' : Office) (number seat : Nat) (event : Event) : Prop :=
  (office'.calls[number]? =
      some ⟨seat, .answered (.delivered (office.desk.deliver seat event).1)⟩ ∧
    office'.desk.environment? = (office.desk.deliver seat event).2.environment? ∧
    office'.desk.files = (office.desk.deliver seat event).2.files) ∨
  ((∀ answer, office'.calls[number]? ≠ some ⟨seat, .answered answer⟩) ∧
    office'.desk.environment? = office.desk.environment? ∧
    office'.desk.files = office.desk.files)

theorem go_eq {office : Office} {number seat : Nat} {stage : Stage} {desk' : Desk}
    {progress : Progress} (hcall : office.calls[number]? = some ⟨seat, .pending stage⟩)
    (hstep : office.desk.step? seat stage = some (desk', progress)) :
    office.turn (.go number) = ⟨desk', office.calls.set number ⟨seat, progress⟩⟩ := by
  simp only [turn, hcall, hstep]

theorem go_of_none {office : Office} {number seat : Nat} {stage : Stage}
    (hcall : office.calls[number]? = some ⟨seat, .pending stage⟩)
    (hstep : office.desk.step? seat stage = none) : office.turn (.go number) = office := by
  simp only [turn, hcall, hstep]

theorem getElem?_set_of_call {calls : List Call} {number : Nat} {call : Call}
    (hcall : calls[number]? = some call) (after : Call) :
    (calls.set number after)[number]? = some after := by
  rw [List.getElem?_set_self (List.getElem?_eq_some_iff.mp hcall).1]

/-- A delivery that has its turn does all or nothing. -/
theorem IsDelivering.wholeOrNothing_go {office : Office} {number seat : Nat} {event : Event}
    (h : office.IsDelivering number seat event) :
    office.WholeOrNothing (office.turn (.go number)) number seat event := by
  have hwaits : ∀ {stage : Stage} {answer},
      office.calls[number]? = some ⟨seat, .pending stage⟩ →
        office.calls[number]? ≠ some ⟨seat, .answered answer⟩ := by
    intro stage answer hcall hanswered
    rw [hcall] at hanswered
    cases hanswered
  rcases h with hcall | hcall
  · cases hstep : office.desk.step? seat (.deliver event) with
    | none =>
      rw [go_of_none hcall hstep]
      exact .inr ⟨fun _ => hwaits hcall, rfl, rfl⟩
    | some result =>
      obtain ⟨desk', progress⟩ := result
      rw [go_eq hcall hstep]
      simp only [step?] at hstep
      split at hstep
      · obtain ⟨taken, htaken, hresult⟩ := Option.map_eq_some_iff.mp hstep
        cases hresult
        rw [takeDocument?_eq htaken]
        refine .inr ⟨fun answer hanswered => ?_, environment?_hold _ _ _, rfl⟩
        rw [getElem?_set_of_call hcall] at hanswered
        cases hanswered
      · cases hstep
        exact .inl ⟨getElem?_set_of_call hcall _, rfl, rfl⟩
  · rw [go_eq hcall rfl]
    exact .inl ⟨getElem?_set_of_call hcall _, environment?_hold _ _ _, rfl⟩

/-- A delivery that is abandoned does nothing. -/
theorem IsDelivering.wholeOrNothing_abandon {office : Office} {number seat : Nat} {event : Event}
    (h : office.IsDelivering number seat event) :
    office.WholeOrNothing (office.turn (.abandon number)) number seat event := by
  obtain ⟨stage, hcall⟩ : ∃ stage, office.calls[number]? = some ⟨seat, .pending stage⟩ := by
    rcases h with hcall | hcall
    · exact ⟨_, hcall⟩
    · exact ⟨_, hcall⟩
  simp only [turn, hcall]
  refine .inr ⟨fun answer hanswered => ?_, ?_, ?_⟩
  · rw [getElem?_set_of_call hcall] at hanswered
    cases hanswered
  · simp only
    split
    · exact environment?_hold _ _ _
    · rfl
  · simp only
    split
    · rfl
    · rfl

end Office

end ScriptDesk.Desk

import ScriptDesk.Proofs.Desk.Runs

/-!
# What each script has on the desk

The share of an open script (`Desk.share?`) is all that the desk keeps for it: its seat with the
environment, the document, the subscription and the pump, the subscribers and their channels, and
the tracked files. Every operation is about some scripts (`Operation.Concerns`), and nothing in the
shares of others changes (`Spares`, `Orderly.spares_perform`). One that is refused changes nothing
in any share, unless the backend rejected a program (`Orderly.perform_of_refused`). Opening a file
adds a share, or gives the environment that its script has already (`Orderly.openFile_cases`).

Besides the operations of the desk, those who know an open environment may use its document, keep
others from using it and set the status. Whatever of this is done (`Deed`), the desk is orderly.
-/

namespace ScriptDesk

/-- Whatever is done to a document, it is that of the same script. -/
theorem Document.id_act (document : Document) (action : Document.Action) :
    (document.act action).id = document.id := by
  cases action with
  | code code => rfl
  | namespaces namespaces => rfl
  | kind kind => rfl
  | path path => rfl
  | save disk way =>
    rcases document.act_save disk way with hsame | ⟨path, ⟨-, hsaved⟩ | hsaved⟩
    · rw [hsame]
    · rw [hsaved]
    · rw [hsaved]
      rfl

namespace Desk

/-! ### Deeds -/

/-- What is done on the desk, and with the environments of open scripts. -/
inductive Deed where
  /-- An operation of the desk. -/
  | perform (operation : Operation)
  /-- A document is opened that was made outside. -/
  | enter (document : Document)
  /-- A program is handed to the backend. -/
  | submit (script : ScriptId) (program : Text)
  /-- Someone begins to use the document of a seat, or ceases to. -/
  | hold (seat : Nat) (held : Bool)
  /-- Whoever uses the document of a seat does something to it. -/
  | edit (seat : Nat) (action : Document.Action)
  /-- The status of a seat is set from outside. -/
  | setStatus (seat : Nat) (target : Status)

/-- The desk after a deed. -/
def work (desk : Desk) : Deed → Desk
  | .perform operation => desk.perform operation
  | .enter document => (desk.getOrCreate document).1
  | .submit script program => (desk.submit script program).1
  | .hold seat held => desk.hold seat held
  | .edit seat action =>
    desk.modifySeat seat fun s =>
      { s with
        environment := { s.environment with document := s.environment.document.act action } }
  | .setStatus seat target => (desk.setStatus seat target).2

/-- The desk after deeds in order. -/
def workAll (desk : Desk) (deeds : List Deed) : Desk :=
  deeds.foldl work desk

theorem Orderly.work {desk : Desk} (h : desk.Orderly desk.register.get?) (deed : Deed) :
    (desk.work deed).Orderly (desk.work deed).register.get? := by
  have hproceeds : ∀ {desk'}, desk.Proceeds desk' → desk'.Orderly desk'.register.get? := by
    intro desk' hproceeds
    rw [hproceeds.register_eq]
    exact h.proceeds hproceeds
  cases deed with
  | perform operation => exact (h.perform operation).1
  | enter document => exact h.getOrCreate document
  | submit script program => exact hproceeds (desk.proceeds_submit script program)
  | hold seat held =>
    exact hproceeds (proceeds_modifySeat fun s _ => ⟨.refl _, rfl, rfl⟩)
  | edit seat action =>
    exact hproceeds (proceeds_modifySeat fun s _ => ⟨⟨rfl, Document.id_act _ _, rfl⟩, rfl, rfl⟩)
  | setStatus seat target => exact hproceeds (proceeds_setStatus desk seat target)

/-- Whatever is done, the desk is orderly. -/
theorem Orderly.workAll (deeds : List Deed) :
    ∀ {desk : Desk}, desk.Orderly desk.register.get? →
      (desk.workAll deeds).Orderly (desk.workAll deeds).register.get? := by
  induction deeds with
  | nil => intro desk h; exact h
  | cons deed deeds ih => intro desk h; exact ih (h.work deed)

/-! ### Shares -/

/-- What the desk keeps for an open script. -/
structure Share where
  /-- The number of its seat. -/
  seat : Nat
  /-- The seat: the environment with its document, results and notices, the subscription, and the
  pump with the event that waits in it. -/
  occupant : Seat
  /-- The numbers of the subscriptions to the script. -/
  subscribers : List Nat
  /-- The channels of these subscriptions, with the events that wait in them. -/
  channels : List Channel
  /-- The tracked files of the script. -/
  files : Table Text TrackedFile

/-- The share of a script, if it is open. -/
def share? (desk : Desk) (script : ScriptId) : Option Share := do
  let seat ← desk.register.get? script
  let occupant ← desk.seat? seat
  let subscribers := desk.bus.subscribers script
  return {
    seat, occupant, subscribers
    channels := subscribers.map desk.bus.channel
    files := desk.files.ofScript script }

/-- Nothing that a script has on the desk is changed. -/
structure Spares (desk desk' : Desk) (script : ScriptId) : Prop where
  /-- It is open as before. -/
  register_eq : desk'.register.get? script = desk.register.get? script
  /-- Its seat is the same. -/
  seat_eq : ∀ {seat}, desk.register.get? script = some seat → desk'.seat? seat = desk.seat? seat
  /-- Nobody subscribes to it or gives a subscription up. -/
  subscribers_eq : desk'.bus.subscribers script = desk.bus.subscribers script
  /-- The same events wait. -/
  channel_eq : ∀ number ∈ desk.bus.subscribers script,
    desk'.bus.channel number = desk.bus.channel number
  /-- Its files are the same. -/
  files_eq : desk'.files.ofScript script = desk.files.ofScript script

variable {desk desk' : Desk} {script : ScriptId}

theorem Spares.share?_eq (h : desk.Spares desk' script) :
    desk'.share? script = desk.share? script := by
  unfold share?
  rw [h.register_eq]
  cases hopen : desk.register.get? script with
  | none => rfl
  | some seat =>
    simp only [Option.bind_eq_bind, Option.bind_some]
    rw [h.seat_eq hopen, h.subscribers_eq, h.files_eq, List.map_congr_left h.channel_eq]

theorem Spares.refl (desk : Desk) (script : ScriptId) : desk.Spares desk script :=
  ⟨rfl, fun _ => rfl, rfl, fun _ _ => rfl, rfl⟩

theorem Spares.trans {first second third : Desk} (h : first.Spares second script)
    (hlater : second.Spares third script) : first.Spares third script where
  register_eq := hlater.register_eq.trans h.register_eq
  seat_eq hopen := (hlater.seat_eq (h.register_eq.trans hopen)).trans (h.seat_eq hopen)
  subscribers_eq := hlater.subscribers_eq.trans h.subscribers_eq
  channel_eq number hmem :=
    (hlater.channel_eq number (h.subscribers_eq ▸ hmem)).trans (h.channel_eq number hmem)
  files_eq := hlater.files_eq.trans h.files_eq

/-- A change of what no share holds. -/
theorem spares_of_eq (hregister : desk'.register = desk.register) (hbus : desk'.bus = desk.bus)
    (hfiles : desk'.files = desk.files) (hseats : desk'.seats = desk.seats) :
    desk.Spares desk' script where
  register_eq := by rw [hregister]
  seat_eq _ := by
    unfold seat?
    rw [hseats]
  subscribers_eq := by rw [hbus]
  channel_eq _ _ := by rw [hbus]
  files_eq := by rw [hfiles]

/-- A change of another seat. -/
theorem spares_modifySeat {seat : Nat} (h : desk.register.get? script ≠ some seat)
    (change : Seat → Seat) : desk.Spares (desk.modifySeat seat change) script where
  register_eq := rfl
  seat_eq {other} hopen := by
    rw [seat?_modifySeat, if_neg]
    rintro rfl
    exact h hopen
  subscribers_eq := rfl
  channel_eq _ _ := rfl
  files_eq := rfl

/-! ### What an operation is about -/

/-- The operation is about the script: it names the script, or the file of the script, or one of its
events, or the seat where it is open. -/
def Operation.Concerns (desk : Desk) (script : ScriptId) : Operation → Prop
  | .create other _ | .close other | .updateCode other _ | .setNamespaces other _ | .save other
  | .run other => other = script
  | .openFile path => ∃ document, Document.load desk.disk path = .ok document ∧ document.id = script
  | .closeAll => True
  | .publish event => event.script = script
  | .pump seat => desk.register.get? script = some seat
  | .setRejection _ | .setDisk _ => False

/-- Another script is open elsewhere. -/
theorem Orderly.get?_ne (h : desk.Orderly desk.register.get?) {other : ScriptId} {seat : Nat}
    (hopen : desk.register.get? other = some seat) (hne : other ≠ script) :
    desk.register.get? script ≠ some seat :=
  fun hscript => hne (h.script_eq hopen hscript)

/-- Nobody subscribes to two scripts at once. -/
theorem Orderly.not_mem_subscribers (h : desk.Orderly desk.register.get?) {other : ScriptId}
    (hne : other ≠ script) {number : Nat} (hnumber : number ∈ desk.bus.subscribers script) :
    number ∉ desk.bus.subscribers other := by
  intro hmem
  cases hopen : desk.register.get? other with
  | none =>
    rw [h.silent hopen] at hmem
    cases hmem
  | some seat =>
    obtain ⟨s, number', hs⟩ := h.serving hopen
    rw [hs.subscribers_eq, List.mem_singleton] at hmem
    subst hmem
    exact hs.feeds.not_mem (Ne.symm hne) hnumber

theorem Orderly.spares_getOrCreate (h : desk.Orderly desk.register.get?) {document : Document}
    (hne : document.id ≠ script) : desk.Spares (desk.getOrCreate document).1 script := by
  cases hopen : desk.register.get? document.id with
  | some seat =>
    rw [getOrCreate_of_open hopen]
    exact .refl desk script
  | none =>
    obtain ⟨hbus, hregister, hfiles, hseats⟩ := getOrCreate_new hopen
    refine ⟨?_, fun {seat} hscript => ?_, ?_, fun number hnumber => ?_, by rw [hfiles]⟩
    · rw [hregister, Table.get?_set_of_ne _ (Ne.symm hne)]
    · obtain ⟨s, number, hs⟩ := h.serving hscript
      have hseat : seat ≠ desk.seats.length :=
        Nat.ne_of_lt (List.getElem?_eq_some_iff.mp hs.seat_eq).1
      rw [hseats, if_neg hseat]
    · rw [hbus, Bus.subscribers_subscribe, if_neg (Ne.symm hne)]
    · rw [hbus, Bus.channel_subscribe, if_neg (Nat.ne_of_lt (h.numbered script number hnumber))]

theorem Orderly.spares_remove (h : desk.Orderly desk.register.get?) {other : ScriptId}
    (hne : other ≠ script) : desk.Spares (desk.remove other).1 script := by
  cases hopen : desk.register.get? other with
  | none =>
    rw [remove_of_none hopen]
    exact .refl desk script
  | some seat =>
    obtain ⟨s, number, hs⟩ := h.serving hopen
    rw [remove_of_some hopen, hs.closed_eq]
    refine ⟨?_, fun {place} hscript => ?_, ?_, fun number' hnumber' => ?_, ?_⟩
    · exact Table.get?_erase_of_ne desk.register (Ne.symm hne)
    · refine (seat?_modifySeat _ seat place retire).trans (if_neg ?_)
      rintro rfl
      exact h.get?_ne hopen hne hscript
    · exact (Bus.subscribers_unsubscribe desk.bus ⟨other, number⟩ script).trans
        (if_neg (Ne.symm hne))
    · refine (Bus.channel_stopReceiving _ number number').trans (if_neg ?_)
      rintro rfl
      refine h.not_mem_subscribers hne hnumber' ?_
      rw [hs.subscribers_eq]
      exact List.mem_singleton_self _
    · exact (Files.ofScript_forget desk.files other script).trans (if_neg (Ne.symm hne))

theorem Orderly.spares_editDocument (h : desk.Orderly desk.register.get?) {other : ScriptId}
    (hne : other ≠ script) (edit : Document → Document) :
    desk.Spares ((desk.editDocument other edit).toOption.getD desk) script := by
  unfold editDocument
  cases hopen : desk.openSeat other with
  | error e => exact .refl desk script
  | ok seat => exact spares_modifySeat (h.get?_ne (openSeat_eq_ok_iff.mp hopen) hne) _

theorem Orderly.spares_save (h : desk.Orderly desk.register.get?) {other : ScriptId}
    (hne : other ≠ script) : desk.Spares (desk.save other).2 script := by
  have hdisk : ∀ disk, desk.Spares { desk with disk } script :=
    fun _ => spares_of_eq rfl rfl rfl rfl
  rcases desk.save_cases other with
    ⟨error, disk, hsave⟩ | ⟨seat, s, saved, disk, hopen, -, -, hsave⟩
  · rw [hsave]
    exact hdisk disk
  · rw [hsave]
    have hother : { desk with disk }.register.get? script ≠ some seat := h.get?_ne hopen hne
    exact (hdisk disk).trans (spares_modifySeat hother _)

theorem spares_setStatus {seat : Nat} (hseat : desk.register.get? script ≠ some seat)
    (target : Status) : desk.Spares (desk.setStatus seat target).2 script := by
  unfold setStatus
  split
  · exact .refl desk script
  · split
    · exact .refl desk script
    · exact spares_modifySeat hseat _

theorem spares_submit (other : ScriptId) (program : Text) :
    desk.Spares (desk.submit other program).1 script := by
  unfold submit
  split
  · exact .refl desk script
  · exact spares_of_eq rfl rfl rfl rfl

theorem Orderly.spares_run (h : desk.Orderly desk.register.get?) {other : ScriptId}
    (hne : other ≠ script) : desk.Spares (desk.run other).2 script := by
  refine run_preserves (P := (desk.Spares · script)) (fun target hregister hopen hspares => ?_)
    (fun program hspares => hspares.trans (spares_submit other program)) (.refl desk script)
  refine hspares.trans (spares_setStatus ?_ target)
  rw [hregister]
  exact h.get?_ne hopen hne

theorem Orderly.spares_publish (h : desk.Orderly desk.register.get?) {event : Event}
    (hne : event.script ≠ script) : desk.Spares (desk.publish event).1 script where
  register_eq := rfl
  seat_eq _ := rfl
  subscribers_eq := (Bus.subscribers_publish desk.bus event script).trans (if_neg (Ne.symm hne))
  channel_eq number hnumber := by
    have hcount : (desk.bus.receivers event.script).count number = 0 :=
      List.count_eq_zero.mpr fun hmem =>
        h.not_mem_subscribers hne hnumber (List.mem_filter.mp hmem).1
    refine (Bus.channel_publish desk.bus event number).trans ?_
    rw [hcount, List.replicate_zero, List.append_nil]
    rfl
  files_eq := rfl

theorem Orderly.spares_of_pumpStep? (h : desk.Orderly desk.register.get?) {seat : Nat}
    {refusal : Option Refusal} (hstep : desk.pumpStep? seat = some (desk', refusal))
    (hseat : desk.register.get? script ≠ some seat) : desk.Spares desk' script := by
  obtain ⟨s, pump, pump', delivered, hadvance⟩ := advance_of_pumpStep? hstep
  obtain ⟨o, p, event, ho, hnext, hframe⟩ := frame_of_pumpStep? hstep
  obtain ⟨rfl, rfl⟩ := hadvance.attached.unique ho
  have hopen := h.opened_of_attached ho
  have hne : o.environment.id ≠ script := fun heq => hseat (heq ▸ hopen)
  refine ⟨congrArg (·.register.get? script) hframe, fun {place} hscript => ?_, ?_,
    fun number hnumber => ?_, ?_⟩
  · rw [hadvance.seat?_eq, if_neg]
    rintro rfl
    exact hseat hscript
  · unfold Bus.subscribers
    rw [(frame_of_nextEvent? hnext).1]
  · unfold nextEvent? at hnext
    split at hnext
    · have hbus : desk.bus = desk'.bus := congrArg Prod.snd (Option.some.inj hnext)
      rw [hbus]
    · refine (Bus.took_of_take hnext).channel_eq ?_
      rintro rfl
      exact (h.wired.feeds ho).not_mem (Ne.symm hne) hnumber
  · rw [hadvance.files_eq]
    exact Environment.ofScript_deliverAll_of_ne _ _ _ (Ne.symm hne)

/-- **What an operation is not about it leaves alone.** -/
theorem Orderly.spares_perform (h : desk.Orderly desk.register.get?) {operation : Operation}
    (hother : ¬operation.Concerns desk script) : desk.Spares (desk.perform operation) script := by
  cases operation with
  | create other name => exact h.spares_getOrCreate hother
  | openFile path =>
    simp only [Desk.perform, openFile]
    cases hload : Document.load desk.disk path with
    | error e => exact .refl desk script
    | ok document => exact h.spares_getOrCreate fun hid => hother ⟨document, hload, hid⟩
  | close other =>
    rw [perform_close]
    exact h.spares_remove hother
  | closeAll => exact absurd trivial hother
  | updateCode other code => exact h.spares_editDocument hother _
  | setNamespaces other namespaces => exact h.spares_editDocument hother _
  | save other => exact h.spares_save hother
  | run other => exact h.spares_run hother
  | publish event => exact h.spares_publish hother
  | pump seat =>
    simp only [Desk.perform]
    cases hstep : desk.pumpStep? seat with
    | none => exact .refl desk script
    | some result => exact h.spares_of_pumpStep? hstep hother
  | setRejection reasons => exact spares_of_eq rfl rfl rfl rfl
  | setDisk disk => exact spares_of_eq rfl rfl rfl rfl

/-! ### Operations that are refused -/

/-- Whether an operation is done or refused. -/
def outcome (desk : Desk) : Operation → Except SessionError Unit
  | .openFile path => (desk.openFile path).map fun _ => ()
  | .close script => (desk.close script).map fun _ => ()
  | .updateCode script code => (desk.updateCode script code).map fun _ => ()
  | .setNamespaces script namespaces => (desk.setNamespaces script namespaces).map fun _ => ()
  | .save script => (desk.save script).1.map fun _ => ()
  | .run script => (desk.run script).1
  | .create .. | .closeAll | .publish _ | .pump _ | .setRejection _ | .setDisk _ => .ok ()

/-- Without a result the default is taken. -/
theorem getD_toOption_of_map_eq_error {α : Type} {result : Except SessionError α}
    {error : SessionError} (h : result.map (fun _ => ()) = .error error) (default : α) :
    result.toOption.getD default = default := by
  cases result with
  | error e => rfl
  | ok value => cases h

/-- **What is refused leaves everything as it was**, unless the backend rejects a program. Only a
document that cannot be written may have come some way to the disk. -/
theorem Orderly.perform_of_refused (h : desk.Orderly desk.register.get?) {operation : Operation}
    {error : SessionError} (herror : desk.outcome operation = .error error)
    (hcause : ∀ script reason, error ≠ .rejected script reason) :
    ∃ disk, desk.perform operation = { desk with disk } := by
  cases operation with
  | openFile path =>
    refine ⟨desk.disk, ?_⟩
    simp only [outcome] at herror
    cases hopen : desk.openFile path with
    | error e => simp only [Desk.perform, hopen]; rfl
    | ok opened => rw [hopen] at herror; cases herror
  | close script => exact ⟨desk.disk, getD_toOption_of_map_eq_error herror desk⟩
  | updateCode script code => exact ⟨desk.disk, getD_toOption_of_map_eq_error herror desk⟩
  | setNamespaces script namespaces =>
    exact ⟨desk.disk, getD_toOption_of_map_eq_error herror desk⟩
  | save script =>
    rcases desk.save_cases script with ⟨error, disk, hsave⟩ | ⟨seat, s, saved, disk, -, -, -, hsave⟩
    · exact ⟨disk, congrArg Prod.snd hsave⟩
    · simp only [outcome, hsave] at herror
      cases herror
  | run script =>
    rcases h.run_of_error herror with ⟨reason, rfl⟩ | hsame
    · exact absurd rfl (hcause script reason)
    · exact ⟨desk.disk, hsame⟩
  | create | closeAll | publish | pump | setRejection | setDisk => cases herror

/-! ### Opening files -/

/-- The share of a script that was just opened. -/
def newShare (desk : Desk) (document : Document) : Share where
  seat := desk.seats.length
  occupant := desk.newSeat document
  subscribers := [desk.bus.next]
  channels := [{}]
  files := .empty

theorem Orderly.share?_getOrCreate (h : desk.Orderly desk.register.get?) {document : Document}
    (hclosed : desk.register.get? document.id = none) :
    (desk.getOrCreate document).1.share? document.id = some (desk.newShare document) := by
  obtain ⟨hbus, hregister, hfiles, hseats⟩ := getOrCreate_new hclosed
  unfold share?
  rw [hregister, Table.get?_set_self, hbus, Bus.subscribers_subscribe, if_pos rfl,
    h.silent hclosed, hfiles, h.fileless hclosed]
  simp only [Option.bind_eq_bind, Option.bind_some]
  rw [hseats, if_pos rfl]
  simp only [List.nil_append, List.map_cons, List.map_nil, Bus.channel_subscribe, if_pos]
  rfl

/-- One environment was added, that of a script which was not open. -/
structure Adds (desk opened : Desk) (document : Document) : Prop where
  /-- The script was not open. -/
  get?_eq : desk.register.get? document.id = none
  /-- It has a share of its own now. -/
  share?_eq : opened.share? document.id = some (desk.newShare document)
  /-- There is one seat more. -/
  seat?_eq : ∀ seat, opened.seat? seat =
    if seat = desk.seats.length then some (desk.newSeat document) else desk.seat? seat
  /-- Other scripts have what they had. -/
  others : ∀ script, script ≠ document.id → opened.share? script = desk.share? script

theorem Orderly.adds_getOrCreate (h : desk.Orderly desk.register.get?) {document : Document}
    (hclosed : desk.register.get? document.id = none) :
    desk.Adds (desk.getOrCreate document).1 document where
  get?_eq := hclosed
  share?_eq := h.share?_getOrCreate hclosed
  seat?_eq := (getOrCreate_new hclosed).2.2.2
  others _ hne := (h.spares_getOrCreate (Ne.symm hne)).share?_eq

/-- To open a file fails and changes nothing; or it adds one environment; or it gives that of a
script which is open already, and changes nothing, whatever the file says. -/
theorem Orderly.openFile_cases (h : desk.Orderly desk.register.get?) (path : Path) :
    (∃ error, desk.openFile path = .error error ∧ desk.perform (.openFile path) = desk) ∨
      ∃ document, Document.load desk.disk path = .ok document ∧
        ((∃ opened, desk.openFile path = .ok (opened, desk.seats.length) ∧
            desk.Adds opened document) ∨
          ∃ seat, desk.register.get? document.id = some seat ∧
            desk.openFile path = .ok (desk, seat)) := by
  simp only [Desk.perform, openFile]
  cases hload : Document.load desk.disk path with
  | error e => exact .inl ⟨_, rfl, rfl⟩
  | ok document =>
    refine .inr ⟨document, rfl, ?_⟩
    cases hopen : desk.register.get? document.id with
    | none =>
      refine .inl ⟨(desk.getOrCreate document).1, ?_, h.adds_getOrCreate hopen⟩
      rw [← seat_getOrCreate_new hopen]
    | some seat => exact .inr ⟨seat, rfl, congrArg _ (getOrCreate_of_open hopen)⟩

/-- **Operations do not disturb other scripts, and fail without a trace.** Whatever was done before:
an operation leaves all that a script has on the desk as it was, unless it is about this script. An
operation that is refused leaves everything as it was, up to the disk, unless the backend rejected a
program. And to open a file fails without a trace, or adds one environment, or gives the one that
its script has already and changes nothing. -/
theorem operations_stay_apart (settings : Settings) (backend : Option Backend) (disk : Disk)
    (deeds : List Deed) :
    let desk := (fresh settings backend disk).workAll deeds
    (∀ operation script, ¬Operation.Concerns desk script operation →
      (desk.perform operation).share? script = desk.share? script) ∧
    (∀ operation error, desk.outcome operation = .error error →
      (∀ script reason, error ≠ .rejected script reason) →
        ∃ disk, desk.perform operation = { desk with disk }) ∧
    ∀ path,
      (∃ error, desk.openFile path = .error error ∧ desk.perform (.openFile path) = desk) ∨
        ∃ document, Document.load desk.disk path = .ok document ∧
          ((∃ opened, desk.openFile path = .ok (opened, desk.seats.length) ∧
              desk.Adds opened document) ∨
            ∃ seat, desk.register.get? document.id = some seat ∧
              desk.openFile path = .ok (desk, seat)) := by
  have h := (orderly_fresh settings backend disk).workAll deeds
  exact ⟨fun _ _ hother => (h.spares_perform hother).share?_eq,
    fun _ _ herror hcause => h.perform_of_refused herror hcause, h.openFile_cases⟩

end Desk

end ScriptDesk

import ScriptDesk.Desk.Holders
import ScriptDesk.Proofs.Desk.Disposal
import ScriptDesk.Proofs.Environment.Replay

/-!
# Observing an environment from the beginning

Events are delivered to the environment of a seat, its status is set, it is disposed, files of other
scripts change, and now and then an observer reads what it can (`Happening`). A `Watch` is the desk
with what the observer has seen so far.

Each of these steps tells all that it does to the environment (`Environment.Tells`), so all that was
done since the beginning can be read off the notices that the environment ever sent, and an observer
that missed none has seen them all (`IsFaithful`). When it has read the last of them, its picture of
the environment is right (`replay_shows`).
-/

namespace ScriptDesk

namespace Sighting

/-- The notice that was seen. -/
def notice? : Sighting → Option Notice
  | .notice told => some told
  | _ => none

/-- Some notices are lost. -/
def isLagged : Sighting → Bool
  | .lagged _ => true
  | _ => false

end Sighting

namespace Desk

/-- What happens while an environment is observed. -/
inductive Happening where
  /-- An event is delivered to the environment. -/
  | deliver (event : Event)
  /-- The status of the environment is set. -/
  | setStatus (target : Status)
  /-- The environment is disposed. -/
  | dispose
  /-- Something is done to tracked files from elsewhere. -/
  | elsewhere (action : Files.Action)
  /-- The observer reads the notices that it can. -/
  | look

/-- A desk and an observer of one of its environments. -/
structure Watch where
  /-- The desk. -/
  desk : Desk
  /-- What the observer has seen. -/
  seen : List Sighting := []
  /-- How many notices it has read. -/
  read : Nat := 0

namespace Watch

/-- The watch after something happened to the environment of a seat, or its observer looked. -/
def happen (seat : Nat) (watch : Watch) : Happening → Watch
  | .deliver event => { watch with desk := (watch.desk.deliver seat event).2 }
  | .setStatus target => { watch with desk := (watch.desk.setStatus seat target).2 }
  | .dispose => { watch with desk := watch.desk.dispose seat }
  | .elsewhere action =>
    { watch with desk := { watch.desk with files := watch.desk.files.act action } }
  | .look =>
    let (sightings, read) := watch.desk.observe seat watch.read
    { watch with seen := watch.seen ++ sightings, read }

/-- The watch after things happened in order. -/
def happenAll (seat : Nat) (watch : Watch) (happenings : List Happening) : Watch :=
  happenings.foldl (happen seat) watch

/-- The notices that the observer has seen. -/
def notices (watch : Watch) : List Notice :=
  watch.seen.filterMap Sighting.notice?

/-- The observer missed some notices. -/
def missed (watch : Watch) : Bool :=
  watch.seen.any Sighting.isLagged

/-- What an observer of a script makes of the notices that it has seen; at first the document had
the given name. -/
def picture (watch : Watch) (script : ScriptId) (name : Text) : Picture :=
  Picture.seeAll script { name } watch.notices

end Watch

/-! ### Steps of the environment -/

section Steps

variable {desk : Desk} {seat : Nat} {environment : Environment}

theorem exists_tells_deliver (h : desk.environment? seat = some environment) (event : Event) :
    ∃ after notices, (desk.deliver seat event).2.environment? seat = some after ∧
      environment.Tells after desk.files (desk.deliver seat event).2.files notices := by
  obtain ⟨s, hseat, rfl⟩ := exists_seat? h
  obtain ⟨-, hfiles, hseats⟩ := deliver_eq hseat event
  obtain ⟨notices, htells⟩ := s.environment.exists_tells_afterEvent desk.files event
  refine ⟨_, notices, ?_, hfiles ▸ htells⟩
  unfold environment?
  rw [hseats, if_pos rfl]
  rfl

theorem exists_tells_setStatus (h : desk.environment? seat = some environment) (target : Status) :
    ∃ after notices, (desk.setStatus seat target).2.environment? seat = some after ∧
      environment.Tells after desk.files (desk.setStatus seat target).2.files notices := by
  obtain ⟨s, hseat, rfl⟩ := exists_seat? h
  unfold setStatus
  simp only [hseat]
  cases hstatus : s.environment.setStatus target with
  | error e => exact ⟨s.environment, [], h, .refl _ _⟩
  | ok result =>
    obtain ⟨notices, htells⟩ := Environment.exists_tells_setStatus hstatus desk.files
    refine ⟨result.1, notices, ?_, htells⟩
    unfold environment? setEnvironment
    rw [seat?_modifySeat, if_pos rfl, hseat]
    rfl

theorem tells_dispose (h : desk.environment? seat = some environment) :
    (desk.dispose seat).environment? seat = some { environment with disposed := true } ∧
      environment.Tells { environment with disposed := true } desk.files
        (desk.dispose seat).files [] := by
  refine ⟨environment?_dispose h, Environment.tells_of_same true ?_⟩
  rw [(desk.frame_dispose seat).2.1]

end Steps

/-! ### What an observer sees -/

/-- An observer that misses nothing sees the notices that it has not read, and has read all. -/
theorem observe_of_not_missed {desk : Desk} {seat : Nat} {environment : Environment}
    (h : desk.environment? seat = some environment) {read : Nat}
    (hmissed : (desk.observe seat read).1.any Sighting.isLagged = false) :
    (desk.observe seat read).1.filterMap Sighting.notice? = environment.log.drop read ∧
      (desk.observe seat read).2 = environment.log.length := by
  obtain ⟨s, hseat, rfl⟩ := exists_seat? h
  have hclosed : ∀ sightings : List Sighting,
      (if desk.isKnown seat then sightings else sightings ++ [.closed]).any Sighting.isLagged =
          sightings.any Sighting.isLagged ∧
        (if desk.isKnown seat then sightings else sightings ++ [.closed]).filterMap
          Sighting.notice? = sightings.filterMap Sighting.notice? := by
    intro sightings
    split
    · exact ⟨rfl, rfl⟩
    · simp [Sighting.isLagged, Sighting.notice?]
  have hnotices : ∀ notices : List Notice,
      (notices.map Sighting.notice).filterMap Sighting.notice? = notices := by
    intro notices
    rw [List.filterMap_map]
    exact List.filterMap_some (l := notices)
  unfold observe at hmissed ⊢
  simp only [hseat] at hmissed ⊢
  refine ⟨?_, trivial⟩
  rw [(hclosed _).1] at hmissed
  rw [(hclosed _).2]
  unfold Observer.unread at hmissed ⊢
  simp only at hmissed ⊢
  split
  · rename_i hnone
    rw [hnone, Nat.add_zero]
    exact hnotices _
  · rename_i hsome
    rw [if_neg hsome] at hmissed
    cases hmissed

namespace Watch

/-- All that was done to the environment of a document is told by the notices that it sent, and an
observer that missed none has seen those that it has read. -/
def IsFaithful (seat : Nat) (document : Document) (files : Files) (watch : Watch) : Prop :=
  ∃ environment, watch.desk.environment? seat = some environment ∧
    (Environment.ofDocument document).Tells environment files watch.desk.files environment.log ∧
      (watch.missed = false → watch.read ≤ environment.log.length ∧
        watch.notices = environment.log.take watch.read)

variable {seat : Nat} {document : Document} {files : Files} {watch : Watch}

/-- A step that tells all it does, without the observer. -/
theorem IsFaithful.step (h : watch.IsFaithful seat document files) {desk : Desk}
    (hstep : ∀ environment, watch.desk.environment? seat = some environment →
      ∃ after notices, desk.environment? seat = some after ∧
        environment.Tells after watch.desk.files desk.files notices) :
    IsFaithful seat document files { watch with desk } := by
  obtain ⟨environment, henvironment, htells, hseen⟩ := h
  obtain ⟨after, notices, hafter, hmore⟩ := hstep environment henvironment
  refine ⟨after, hafter, ?_, fun hmissed => ?_⟩
  · rw [hmore.log_eq]
    exact htells.trans hmore
  · obtain ⟨hread, hnotices⟩ := hseen hmissed
    rw [hmore.log_eq, List.length_append, List.take_append_of_le_length hread]
    exact ⟨Nat.le_add_right_of_le hread, hnotices⟩

/-- After a look, an observer that missed nothing has seen all notices. -/
theorem IsFaithful.look (h : watch.IsFaithful seat document files) :
    (watch.happen seat .look).IsFaithful seat document files ∧
      ((watch.happen seat .look).missed = false → ∃ environment,
        watch.desk.environment? seat = some environment ∧
          (watch.happen seat .look).notices = environment.log) := by
  obtain ⟨environment, henvironment, htells, hseen⟩ := h
  have hall : (watch.happen seat .look).missed = false →
      (watch.happen seat .look).read = environment.log.length ∧
        (watch.happen seat .look).notices = environment.log := by
    intro hmissed
    simp only [missed, happen, List.any_append, Bool.or_eq_false_iff] at hmissed
    obtain ⟨hbefore, hnow⟩ := hmissed
    obtain ⟨hread, hnotices⟩ := hseen hbefore
    obtain ⟨hsaw, hnow⟩ := observe_of_not_missed henvironment hnow
    refine ⟨hnow, ?_⟩
    calc (watch.happen seat .look).notices
        = watch.notices ++ (watch.desk.observe seat watch.read).1.filterMap Sighting.notice? :=
          List.filterMap_append
      _ = environment.log.take watch.read ++ environment.log.drop watch.read := by
          rw [hnotices, hsaw]
      _ = environment.log := List.take_append_drop _ _
  refine ⟨⟨environment, henvironment, htells, fun hmissed => ?_⟩,
    fun hmissed => ⟨environment, henvironment, (hall hmissed).2⟩⟩
  obtain ⟨hread, hnotices⟩ := hall hmissed
  rw [hread, List.take_length]
  exact ⟨Nat.le_refl _, hnotices⟩

/-- Whatever happens, an observer that missed no notice has seen those that it has read. -/
theorem IsFaithful.happen (h : watch.IsFaithful seat document files) {happening : Happening}
    (hother : ∀ action, happening = .elsewhere action → action.script ≠ document.id) :
    (watch.happen seat happening).IsFaithful seat document files := by
  cases happening with
  | deliver event => exact h.step fun environment he => exists_tells_deliver he event
  | setStatus target => exact h.step fun environment he => exists_tells_setStatus he target
  | dispose => exact h.step fun environment he => ⟨_, [], tells_dispose he⟩
  | elsewhere action =>
    obtain ⟨environment, henvironment, htells, -⟩ := id h
    refine h.step fun environment' he => ⟨environment', [], he, ?_⟩
    cases henvironment.symm.trans he
    refine Environment.tells_of_same environment.disposed (Files.ofScript_act_of_ne _ ?_)
    rw [htells.id_eq]
    exact (hother action rfl).symm
  | look => exact h.look.1

theorem IsFaithful.happenAll {happenings : List Happening}
    (hothers : ∀ action, .elsewhere action ∈ happenings → action.script ≠ document.id) :
    ∀ {watch : Watch}, watch.IsFaithful seat document files →
      (watch.happenAll seat happenings).IsFaithful seat document files := by
  induction happenings with
  | nil => intro watch h; exact h
  | cons happening happenings ih =>
    intro watch h
    refine ih (fun action hmem => hothers action (.tail _ hmem)) (h.happen fun action heq => ?_)
    exact hothers action (heq ▸ .head _)

/-- **What observers are told is all that happens.** Someone observes the environment of a document
from the beginning, when there are no files of the script; events are delivered, the status is set,
the environment is disposed, and meanwhile only files of other scripts are touched from elsewhere.
If the observer missed no notice until its last look, then its picture of the environment is right:
the status, the output, the diagnostics, the name of the document and the tracked files of the
script. And the changes of the status that it saw lead from the first one to the present one. -/
theorem replay_shows {desk : Desk} (hfresh : desk.environment? seat = some (.ofDocument document))
    (hfiles : desk.files.ofScript document.id = .empty) (happenings : List Happening)
    (hothers : ∀ action, .elsewhere action ∈ happenings → action.script ≠ document.id)
    (hmissed : ((Watch.mk desk [] 0).happenAll seat (happenings ++ [.look])).missed = false) :
    let watch := (Watch.mk desk [] 0).happenAll seat (happenings ++ [.look])
    ∃ environment, watch.desk.environment? seat = some environment ∧
      (watch.picture document.id document.name).Shows environment watch.desk.files ∧
        Status.idle.Leads (watch.notices.filterMap Notice.change?) environment.status := by
  intro watch
  have hstart : (Watch.mk desk [] 0).IsFaithful seat document desk.files :=
    ⟨_, hfresh, .refl _ _, fun _ => ⟨Nat.le_refl 0, rfl⟩⟩
  have hlast : watch = ((Watch.mk desk [] 0).happenAll seat happenings).happen seat .look :=
    List.foldl_append
  obtain ⟨environment, henvironment, htells, -⟩ := hstart.happenAll hothers
  obtain ⟨environment', he, hnotices⟩ := (hstart.happenAll hothers).look.2 (hlast ▸ hmissed)
  cases henvironment.symm.trans he
  rw [← hlast] at hnotices
  refine ⟨environment, ?_, ?_, ?_⟩
  · rw [hlast]
    exact henvironment
  · unfold picture
    rw [hnotices, hlast]
    exact htells.shows ⟨rfl, rfl, rfl, rfl, hfiles.symm⟩
  · rw [hnotices]
    exact htells.leads

/-- A document with a file. -/
def observedDocument : Document :=
  { id := ⟨1⟩, name := ['a'], path := some "/a.spad".toList }

/-- A desk with its environment, and room for four notices. -/
def observedDesk : Desk :=
  (Desk.empty { scriptsDirectory := [] }).addSeat observedDocument 4

/-- The script runs and its file is renamed, while another script has files of its own. The status
cannot become idle again, and what comes after the disposal is dropped. -/
def observedRun : List Happening :=
  [.deliver ⟨⟨1⟩, .status .running⟩, .look, .deliver ⟨⟨1⟩, .output (some ['o'])⟩,
    .elsewhere (.apply ⟨2⟩ (.opened ['x'])),
    .deliver ⟨⟨1⟩, .file (.renamed "a.spad".toList "c.spad".toList)⟩, .setStatus .idle, .dispose,
    .deliver ⟨⟨1⟩, .output (some ['p'])⟩]

/-- Of five notices two are read when they come. -/
theorem replay_shows_renamed :
    let watch := (Watch.mk observedDesk [] 0).happenAll 0 (observedRun ++ [.look])
    watch.missed = false ∧ watch.notices.length = 5 ∧
      ∃ environment, watch.desk.environment? 0 = some environment ∧
        environment.status = .running ∧ environment.output = [['o']] ∧
          environment.document.name = ['c'] ∧
            (watch.desk.files.ofScript environment.id).keys = ["c.spad".toList] := by
  have hfresh : observedDesk.environment? 0 = some (.ofDocument observedDocument) := rfl
  have hothers : ∀ action, .elsewhere action ∈ observedRun →
      action.script ≠ observedDocument.id := by
    simp [observedRun, observedDocument, Files.Action.script]
  obtain ⟨environment, henvironment, hshows, -⟩ :=
    replay_shows hfresh rfl observedRun hothers rfl
  refine ⟨rfl, rfl, environment, henvironment, hshows.status_eq.symm, hshows.output_eq.symm,
    hshows.name_eq.symm, ?_⟩
  rw [← hshows.files_eq]
  exact congrArg _ (congrArg _ (congrArg _ (Option.some.inj henvironment.symm)))

end Watch

end Desk

end ScriptDesk

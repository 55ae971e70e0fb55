import ScriptDesk.Proofs.Environment.Delivery

/-!
# What an environment accumulates

Events are delivered to an environment and its status is set from outside, in any order. Whatever
of this is about the script is news (`newsOf`): to set the status has the effect of an event with
that status.

The status follows the requests, those that are not allowed being passed over. A request to run
starts the script anew if it does not run (`Status.begins`). One piece of news is absorbed
(`Absorbed`): a start clears the output, other news add to it, and of the diagnostics the latest are
kept. So in the end the output is what came in since the last start (`sinceStart`), and the results
were cleared as often as the script was started (`countStarts`).
-/

namespace ScriptDesk

namespace Status

/-- The status after another one was requested: every script may begin to run, and one that runs may
complete or fail. Other requests change nothing. -/
def next : (source target : Status) → Status
  | _, .running => .running
  | .running, .completed => .completed
  | .running, .error => .error
  | source, _ => source

/-- The request starts a script that does not run. -/
def begins (source target : Status) : Bool :=
  target == .running && source != .running

/-- A change is made if it is allowed, and it clears the results if it starts the script. -/
theorem next_of_clears? (source target : Status) :
    match clears? source target with
    | none => source.next target = source ∧ source.begins target = false
    | some cleared => source.next target = target ∧ source.begins target = cleared := by
  cases source <;> cases target <;> exact ⟨rfl, rfl⟩

/-- No request leads back to the first status. -/
theorem eq_idle_of_next {source target : Status} (h : source.next target = .idle) :
    source = .idle := by
  cases source <;> cases target <;> first | rfl | cases h

/-- What runs is not started again. -/
theorem begins_self (source : Status) : source.begins source = false := by
  cases source <;> rfl

/-- The status after news. -/
def afterNews (status : Status) : News → Status
  | .status target => status.next target
  | _ => status

end Status

namespace News

/-- The status that is requested. -/
def status? : News → Option Status
  | .status target => some target
  | _ => none

/-- The piece of output, if there is something in it. -/
def chunk? : News → Option Text
  | .output (some text) => if text.isEmpty then none else some text
  | _ => none

/-- The diagnostics. -/
def diagnostics? : News → Option Json.Value
  | .diagnostics value => some value
  | _ => none

/-- The news start a script that has the status `source`. -/
def starts (source : Status) : News → Bool
  | .status target => source.begins target
  | _ => false

/-- What came in after the last start, if the script was started; at first it had the status
`source`. -/
def sinceStart : (source : Status) → List News → Option (List News)
  | _, [] => none
  | source, first :: later =>
    (sinceStart (source.afterNews first) later).or
      (if first.starts source then some later else none)

/-- How often the script was started; at first it had the status `source`. -/
def countStarts : (source : Status) → List News → Nat
  | _, [] => 0
  | source, first :: later =>
    (if first.starts source then 1 else 0) + countStarts (source.afterNews first) later

end News

/-- Observers are told that the results were cleared. -/
def Notice.isCleared : Notice → Bool
  | .resultsCleared => true
  | _ => false

namespace Environment

/-- Something that is done to an environment. -/
inductive Action where
  /-- An event is delivered; the tracked files may be any at that time. -/
  | deliver (files : Files) (event : Event)
  /-- The status is set from outside. -/
  | setStatus (target : Status)

/-- The environment after an action; what is refused changes nothing. -/
def act (environment : Environment) : Action → Environment
  | .deliver files event => (environment.afterEvent files event).1
  | .setStatus target =>
    match environment.setStatus target with
    | .ok (changed, _) => changed
    | .error _ => environment

/-- The environment after actions in order. -/
def actAll (environment : Environment) (actions : List Action) : Environment :=
  actions.foldl act environment

/-- What is new about a script with an action. -/
def Action.news? (script : ScriptId) : Action → Option News
  | .deliver _ event => if event.script = script then some event.news else none
  | .setStatus target => some (.status target)

/-- What is new about a script with some actions, in order. -/
def newsOf (script : ScriptId) (actions : List Action) : List News :=
  actions.filterMap (Action.news? script)

/-! ### One piece of news -/

/-- What one piece of news does to an environment. -/
structure Absorbed (before after : Environment) (news : News) : Prop where
  /-- The script stays the same. -/
  id_eq : after.id = before.id
  /-- The environment is disposed if it was. -/
  disposed_eq : after.disposed = before.disposed
  /-- The status follows a request. -/
  status_eq : after.status = before.status.afterNews news
  /-- A start clears the output, and a piece of output is added to it. -/
  output_eq : after.output =
    if news.starts before.status then [] else before.output ++ news.chunk?.toList
  /-- The latest diagnostics are kept. -/
  diagnostics_eq : after.diagnostics = news.diagnostics?.or before.diagnostics
  /-- Observers are told that the results were cleared when the script is started. -/
  cleared_eq : after.log.countP Notice.isCleared =
    before.log.countP Notice.isCleared + if news.starts before.status then 1 else 0

/-- News that neither start the script nor bring anything leave the environment as it is. -/
theorem absorbed_of_idle {environment : Environment} {news : News}
    (hstatus : environment.status.afterNews news = environment.status)
    (hstarts : news.starts environment.status = false) (hchunk : news.chunk? = none)
    (hdiagnostics : news.diagnostics? = none) : Absorbed environment environment news where
  id_eq := rfl
  disposed_eq := rfl
  status_eq := hstatus.symm
  output_eq := by simp [hstarts, hchunk]
  diagnostics_eq := by simp [hdiagnostics]
  cleared_eq := by simp [hstarts]

/-- Another notice makes no difference unless it says that the results were cleared. -/
theorem Absorbed.emit {before after : Environment} {news : News} (h : Absorbed before after news)
    (notice : Notice) (hnotice : notice.isCleared = false) :
    Absorbed before (after.emit notice) news where
  id_eq := h.id_eq
  disposed_eq := h.disposed_eq
  status_eq := h.status_eq
  output_eq := h.output_eq
  diagnostics_eq := h.diagnostics_eq
  cleared_eq := by
    rw [← h.cleared_eq]
    simp [Environment.emit, hnotice]

theorem absorbed_changeStatus (environment : Environment) (target : Status) :
    Absorbed environment
      (match environment.changeStatus target with
        | .ok (changed, _) => changed
        | .error _ => environment)
      (.status target) := by
  have hnext := Status.next_of_clears? environment.status target
  simp only [changeStatus]
  cases hclears : Status.clears? environment.status target with
  | none =>
    rw [hclears] at hnext
    exact absorbed_of_idle hnext.1 hnext.2 rfl rfl
  | some cleared =>
    rw [hclears] at hnext
    obtain ⟨hstatus, hbegins⟩ := hnext
    by_cases hsame : environment.status = target
    · simp only [hsame, if_true]
      refine absorbed_of_idle (hstatus.trans hsame.symm) ?_ rfl rfl
      rw [← hsame]
      exact Status.begins_self environment.status
    · simp only [hsame, if_false]
      cases cleared with
      | true =>
        constructor <;>
          simp [Status.afterNews, News.starts, News.diagnostics?, Notice.isCleared,
            Environment.emit, hstatus, hbegins]
      | false =>
        constructor <;>
          simp [Status.afterNews, News.starts, News.chunk?, News.diagnostics?, Notice.isCleared,
            Environment.emit, hstatus, hbegins]

/-- A response about a file may rename the document, and of what accumulates nothing changes. -/
theorem absorbed_applyResponse (environment : Environment) (response : Response) :
    Absorbed environment (environment.applyResponse response) (.file response) := by
  have hidle : Absorbed environment environment (.file response) := absorbed_of_idle rfl rfl rfl rfl
  have hrenamed : ∀ document, Absorbed environment { environment with document } (.file response) :=
    fun _ => ⟨rfl, rfl, rfl, hidle.output_eq, rfl, hidle.cleared_eq⟩
  unfold applyResponse
  refine Absorbed.emit ?_ (.fileApplied response) rfl
  split
  · unfold renameDocument
    split
    · rename_i document _
      exact (hrenamed document).emit (.documentRenamed document.name) rfl
    · exact hidle
  · exact hidle

theorem absorbed_afterNews (environment : Environment) (files : Files) (news : News) :
    Absorbed environment (environment.afterNews files news).1 news := by
  cases news with
  | output text =>
    cases text with
    | none => exact absorbed_of_idle rfl rfl rfl rfl
    | some text =>
      by_cases hempty : text.isEmpty = true
      · simp only [afterNews, applyNews, hempty, if_true]
        exact absorbed_of_idle rfl rfl (if_pos hempty) rfl
      · have hadded : Absorbed environment
            { environment with output := environment.output ++ [text] } (.output (some text)) :=
          ⟨rfl, rfl, rfl, by simp [News.starts, News.chunk?, hempty], rfl, rfl⟩
        simp only [afterNews, applyNews, hempty]
        exact hadded.emit (.outputAppended text) rfl
  | diagnostics value =>
    have hkept : Absorbed environment { environment with diagnostics := some value }
        (.diagnostics value) :=
      ⟨rfl, rfl, rfl, (List.append_nil _).symm, rfl, rfl⟩
    exact hkept.emit (.diagnosticsUpdated value) rfl
  | status target =>
    have h := absorbed_changeStatus environment target
    simp only [afterNews, applyNews]
    cases hchange : environment.changeStatus target with
    | error e =>
      rw [hchange] at h
      exact h
    | ok result =>
      rw [hchange] at h
      exact h
  | file response =>
    simp only [afterNews, applyNews]
    cases files.apply environment.id response with
    | error e => exact absorbed_of_idle rfl rfl rfl rfl
    | ok result => exact absorbed_applyResponse environment response

/-- An action brings news about the script or leaves the environment as it is. -/
theorem absorbed_act {environment : Environment} (hlive : environment.disposed = false)
    (action : Action) :
    match action.news? environment.id with
    | some news => Absorbed environment (environment.act action) news
    | none => environment.act action = environment := by
  cases action with
  | deliver files event =>
    simp only [act, Action.news?, afterEvent_eq, hlive]
    by_cases hscript : event.script = environment.id
    · simp only [hscript, if_true, ne_eq, not_true_eq_false, Bool.false_eq_true, or_self, if_false]
      exact absorbed_afterNews environment files event.news
    · simp [hscript]
  | setStatus target =>
    simp only [act, Action.news?, setStatus, hlive, Bool.false_eq_true, if_false]
    exact absorbed_changeStatus environment target

/-! ### Any number of actions -/

/-- What news in order do to an environment. -/
structure Accumulated (before after : Environment) (news : List News) : Prop where
  /-- The environment is disposed if it was. -/
  disposed_eq : after.disposed = before.disposed
  /-- The status follows the requests. -/
  status_eq : after.status = news.foldl Status.afterNews before.status
  /-- The output is what came in since the last start. -/
  output_eq : after.output =
    match News.sinceStart before.status news with
    | some later => later.filterMap News.chunk?
    | none => before.output ++ news.filterMap News.chunk?
  /-- The latest diagnostics are kept. -/
  diagnostics_eq : after.diagnostics =
    (news.filterMap News.diagnostics?).getLast?.or before.diagnostics
  /-- Observers are told of each start that the results were cleared. -/
  cleared_eq : after.log.countP Notice.isCleared =
    before.log.countP Notice.isCleared + News.countStarts before.status news

theorem accumulated_nil (environment : Environment) : Accumulated environment environment [] where
  disposed_eq := rfl
  status_eq := rfl
  output_eq := (List.append_nil _).symm
  diagnostics_eq := rfl
  cleared_eq := rfl

/-- One piece of news before the others. -/
theorem Accumulated.cons {before middle after : Environment} {first : News} {later : List News}
    (hfirst : Absorbed before middle first) (hlater : Accumulated middle after later) :
    Accumulated before after (first :: later) where
  disposed_eq := hlater.disposed_eq.trans hfirst.disposed_eq
  status_eq := by
    rw [hlater.status_eq, hfirst.status_eq]
    rfl
  output_eq := by
    rw [hlater.output_eq, hfirst.output_eq, hfirst.status_eq, News.sinceStart]
    cases News.sinceStart (before.status.afterNews first) later with
    | some rest => rfl
    | none =>
      cases hstarts : first.starts before.status with
      | true => rfl
      | false =>
        cases hchunk : first.chunk? with
        | none => simp [hchunk]
        | some chunk => simp [hchunk]
  diagnostics_eq := by
    rw [hlater.diagnostics_eq, hfirst.diagnostics_eq]
    cases hdiagnostics : first.diagnostics? with
    | none => simp [hdiagnostics]
    | some value =>
      cases hlast : (later.filterMap News.diagnostics?).getLast? with
      | none => simp [hdiagnostics, List.getLast?_cons, hlast]
      | some last => simp [hdiagnostics, List.getLast?_cons, hlast]
  cleared_eq := by
    rw [hlater.cleared_eq, hfirst.cleared_eq, hfirst.status_eq, News.countStarts, Nat.add_assoc]

/-- Whatever is done to an environment that is not disposed, it accumulates the news. -/
theorem accumulated_actAll (actions : List Action) :
    ∀ {environment : Environment}, environment.disposed = false →
      Accumulated environment (environment.actAll actions) (newsOf environment.id actions) := by
  induction actions with
  | nil => intro environment _; exact accumulated_nil environment
  | cons action actions ih =>
    intro environment hlive
    have hact := absorbed_act hlive action
    unfold newsOf at ih ⊢
    cases hnews : action.news? environment.id with
    | none =>
      rw [hnews] at hact
      rw [List.filterMap_cons_none hnews]
      have hrest := ih (hact.symm ▸ hlive : (environment.act action).disposed = false)
      rw [hact] at hrest
      change Accumulated environment ((environment.act action).actAll actions) _
      rw [hact]
      exact hrest
    | some news =>
      rw [hnews] at hact
      rw [List.filterMap_cons_some hnews]
      have hrest := ih (hact.disposed_eq.trans hlive)
      rw [hact.id_eq] at hrest
      exact .cons hact hrest

theorem foldl_afterNews (news : List News) (status : Status) :
    news.foldl Status.afterNews status = (news.filterMap News.status?).foldl Status.next status := by
  induction news generalizing status with
  | nil => rfl
  | cons first later ih =>
    cases first with
    | status target => exact ih (status.next target)
    | output text => exact ih status
    | diagnostics value => exact ih status
    | file response => exact ih status

theorem eq_idle_of_foldl {targets : List Status} {source : Status}
    (h : targets.foldl Status.next source = .idle) : source = .idle := by
  induction targets generalizing source with
  | nil => exact h
  | cons target targets ih => exact Status.eq_idle_of_next (ih h)

/-- **What an environment accumulates.** After any actions on the environment of a document that was
just opened: its status is what the requests lead to, and it is idle only if it always was. Its
output is what came in since the last start, in order, without empty pieces; its diagnostics are the
latest ones. Observers were told once for each start that the results were cleared. -/
theorem accumulates_news (document : Document) (actions : List Action) :
    let environment := (ofDocument document).actAll actions
    let news := newsOf document.id actions
    environment.status = (news.filterMap News.status?).foldl Status.next .idle ∧
      (∀ later, (environment.actAll later).status = .idle → environment.status = .idle) ∧
      environment.output =
        ((News.sinceStart .idle news).getD news).filterMap News.chunk? ∧
      environment.diagnostics = (news.filterMap News.diagnostics?).getLast? ∧
      environment.log.countP Notice.isCleared = News.countStarts .idle news := by
  intro environment news
  have h : Accumulated (ofDocument document) environment news := accumulated_actAll actions rfl
  refine ⟨h.status_eq.trans (foldl_afterNews news .idle), fun later hidle => ?_, ?_, ?_, ?_⟩
  · have hlater := (accumulated_actAll later h.disposed_eq).status_eq
    rw [hidle, foldl_afterNews] at hlater
    exact eq_idle_of_foldl hlater.symm
  · refine h.output_eq.trans ?_
    change (match News.sinceStart .idle news with
      | some later => later.filterMap News.chunk?
      | none => [] ++ news.filterMap News.chunk?) = _
    cases News.sinceStart .idle news with
    | none => rfl
    | some later => rfl
  · exact h.diagnostics_eq.trans Option.or_none
  · exact h.cleared_eq.trans (Nat.zero_add _)

/-- The first piece of output belongs to a run that another one followed; it is cleared, and the
request to complete a script that does not run is passed over. -/
example :
    ((ofDocument { id := ⟨1⟩, name := [] }).actAll
      [.setStatus .completed, .setStatus .running, .deliver {} ⟨⟨1⟩, .output (some ['a'])⟩,
        .deliver {} ⟨⟨1⟩, .status .completed⟩, .deliver {} ⟨⟨2⟩, .output (some ['b'])⟩,
        .setStatus .running, .deliver {} ⟨⟨1⟩, .output (some ['c'])⟩,
        .setStatus .running]).output = [['c']] := rfl

end Environment

end ScriptDesk

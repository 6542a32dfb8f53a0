import OpenJax.Stdio.Dispatch

set_option autoImplicit false

namespace OpenJax.Stdio

open Shared Protocol

def Message.isResponse : Message → Bool
  | .response _ => true
  | .event _ => false

def requestIdOf (parse : String → Except String Json) (text : String) : String :=
  match parse text with
  | .error _ => "unknown"
  | .ok raw =>
      match RequestEnvelope.fromValue raw with
      | none => rawRequestId raw
      | some request => request.requestId

inductive LoopTask where
  | idle
  | answering (messages : List Message)
  | shuttingDown (requestId : String)

def LoopTask.isIdle : LoopTask → Bool
  | .idle => true
  | _ => false

def WorkerPhase.isEnded : WorkerPhase → Bool
  | .ended => true
  | _ => false

variable {task : LoopTask}

theorem LoopTask.idle_of (idle : task.isIdle = true) : task = .idle := by
  cases task <;> first | rfl | cases idle

theorem WorkerPhase.ended_of {phase : WorkerPhase} (ended : phase.isEnded = true) :
    phase = .ended := by
  cases phase <;> first | rfl | cases ended

namespace Daemon

def loopTask (daemon : Daemon) (line : Nat) : LoopTask :=
  match daemon.phase with
  | .writing busy messages => if busy = line then .answering messages else .idle
  | .locking _ (.respond busy requestId) | .shutting _ (.respond busy requestId) =>
      if busy = line then .shuttingDown requestId else .idle
  | _ => .idle

def outputOf (daemon : Daemon) (line : Nat) : List Written :=
  daemon.output.filter fun written => written.line = line

def responses (daemon : Daemon) (line : Nat) : List Written :=
  (daemon.outputOf line).filter fun written => written.message.isResponse

def handledLine (daemon : Daemon) (line : Nat) : Bool :=
  (daemon.loopTask line).isIdle &&
    (daemon.workers.lookup line).all fun worker => worker.phase.isEnded

end Daemon

def repliesIn (output : List Written) : List Written :=
  output.filter fun written => written.message.isResponse

def AnsweredOnce (requestId : String) (output : List Written) : Prop :=
  ∃ line response works,
    repliesIn output = [⟨line, .response response, works⟩] ∧ response.requestId = requestId

def Delivered (output : List Written) : Prop :=
  ∃ line response, (⟨line, .response response, true⟩ : Written) ∈ output

def Ordered (output : List Written) : Prop :=
  ∀ before line event works after,
    output = before ++ ⟨line, .event event, works⟩ :: after → event.turnId.isSome →
      Delivered before

variable {output : List Written}

theorem Ordered.append {written : Written} (ordered : Ordered output)
    (allowed : ∀ event, written.message = .event event → event.turnId.isSome →
      Delivered output) :
    Ordered (output ++ [written]) := by
  intro before line event works after split named
  -- The event is the new one or one of those before it.
  rcases List.eq_nil_or_concat after with rfl | ⟨earlier, last, rfl⟩
  · obtain ⟨rfl, same⟩ := List.append_inj' split rfl
    exact allowed event (by rw [(List.cons.inj same).1]) named
  · have shifted : output ++ [written] =
        (before ++ ⟨line, .event event, works⟩ :: earlier) ++ [last] := by
      simpa using split
    exact ordered before line event works earlier (List.append_inj' shifted rfl).1 named

def Unnamed (events : List Event) : Prop :=
  ∀ event ∈ events, turnIdFromEvent event = none

instance (events : List Event) : Decidable (Unnamed events) :=
  inferInstanceAs (Decidable (∀ event ∈ events, turnIdFromEvent event = none))

inductive Answering (requestId : String) (sent : List Event) :
    WorkerPhase → List Written → Prop where
  | receiving (output : List Written) :
      repliesIn output = [] → Answering requestId sent (.receiving false) output
  | responding (event : Event) (turnId : Nat) (output : List Written) :
      event ∈ sent → turnIdFromEvent event = some turnId → repliesIn output = [] →
        Answering requestId sent (.responding event turnId) output
  | skipping (event : Event) (output : List Written) :
      turnIdFromEvent event = none → repliesIn output = [] →
        Answering requestId sent (.forwarding false event) output
  | joining (output : List Written) :
      repliesIn output = [] → Answering requestId sent (.joining false) output
  | replying (response : ResponseEnvelope) (output : List Written) :
      response.requestId = requestId → repliesIn output = [] →
        Answering requestId sent (.replying response) output
  | answered (phase : WorkerPhase) (output : List Written) :
      phase = .receiving true ∨ (∃ event, phase = .forwarding true event) ∨
        phase = .joining true →
      ¬ Unnamed sent → AnsweredOnce requestId output → Delivered output →
        Answering requestId sent phase output
  | ended (output : List Written) :
      AnsweredOnce requestId output → Answering requestId sent .ended output

structure WorkerOk (requestId : String) (worker : Worker) (output : List Written) : Prop where
  carries : worker.requestId = requestId
  received : ∀ event ∈ worker.channel, event ∈ worker.sent
  panicked : worker.turn = .panicked → worker.phase = .ended ∨ Unnamed worker.sent
  ordered : Ordered output
  answering : Answering requestId worker.sent worker.phase output

inductive Stage : Option String → LoopTask → Option Worker → List Written → Prop where
  | unread : Stage none .idle none []
  | shuttingDown (requestId : String) :
      Stage (some requestId) (.shuttingDown requestId) none []
  | answering (requestId : String) (response : ResponseEnvelope) (events : List Message) :
      response.requestId = requestId → (∀ message ∈ events, message.isResponse = false) →
        Stage (some requestId) (.answering (.response response :: events)) none []
  | streaming (requestId : String) (events : List Message) (output : List Written) :
      AnsweredOnce requestId output → (∀ message ∈ events, message.isResponse = false) →
        Stage (some requestId) (.answering events) none output
  | handled (requestId : String) (output : List Written) :
      AnsweredOnce requestId output → Stage (some requestId) .idle none output
  | working (requestId : String) (worker : Worker) (output : List Written) :
      WorkerOk requestId worker output → Stage (some requestId) .idle (some worker) output

def Served (parse : String → Except String Json) (daemon : Daemon) : Prop :=
  ∀ line, Stage (daemon.lines[line]?.map (requestIdOf parse)) (daemon.loopTask line)
    (daemon.workers.lookup line) (daemon.outputOf line)

/-- A turn that panics has sent no event that names it, or nothing is left to do for its line. -/
def NoLatePanic (daemon : Daemon) : DaemonInput → Prop
  | .turn line .panic =>
      ((daemon.workers.lookup line).all fun worker =>
        worker.phase.isEnded || Unnamed worker.sent) = true
  | _ => True

instance (daemon : Daemon) (input : DaemonInput) : Decidable (NoLatePanic daemon input) := by
  unfold NoLatePanic
  split <;> infer_instance

theorem served_new (parse : String → Except String Json) : Served parse .new :=
  fun _ => Stage.unread

theorem outputOf_record (daemon : Daemon) (line other : Nat) (message : Message) (works : Bool) :
    (daemon.record line message works).outputOf other =
      if line = other then daemon.outputOf other ++ [⟨line, message, works⟩]
      else daemon.outputOf other := by
  by_cases same : line = other <;> simp [Daemon.record, Daemon.outputOf, same]

theorem repliesIn_append (output : List Written) (written : Written) :
    repliesIn (output ++ [written]) =
      repliesIn output ++ if written.message.isResponse then [written] else [] := by
  cases kind : written.message.isResponse <;> simp [repliesIn, kind]

variable {requestId : String}

theorem AnsweredOnce.append {written : Written} (answered : AnsweredOnce requestId output)
    (event : written.message.isResponse = false) :
    AnsweredOnce requestId (output ++ [written]) := by
  obtain ⟨line, response, works, once, carries⟩ := answered
  exact ⟨line, response, works, by simp [repliesIn_append, event, once], carries⟩

theorem answeredOnce_first (line : Nat) (response : ResponseEnvelope) (works : Bool)
    (unanswered : repliesIn output = []) :
    AnsweredOnce response.requestId (output ++ [⟨line, .response response, works⟩]) :=
  ⟨line, response, works, by simp [repliesIn_append, Message.isResponse, unanswered], rfl⟩

theorem Delivered.append (delivered : Delivered output) (written : Written) :
    Delivered (output ++ [written]) := by
  obtain ⟨line, response, member⟩ := delivered
  exact ⟨line, response, List.mem_append_left _ member⟩

inductive TurnMoved : Option Worker → Option Worker → Prop where
  | same (worker : Option Worker) : TurnMoved worker worker
  | answered (worker : Worker) (turn : TurnPhase) :
      turn ≠ .panicked → TurnMoved (some worker) (some { worker with turn := turn })

variable {worker : Option Worker}

theorem Stage.nothing (stage : Stage none task worker output) : worker = none ∧ output = [] := by
  cases stage
  exact ⟨rfl, rfl⟩

theorem Stage.turnMoved {requestId : Option String} {worker next : Option Worker}
    (stage : Stage requestId task worker output) (moved : TurnMoved worker next) :
    Stage requestId task next output := by
  cases moved with
  | same => exact stage
  | answered worker turn unhurt =>
    cases stage with
    | working requestId _ _ ok =>
      exact .working _ _ _ { ok with panicked := fun panicked => absurd panicked unhurt }

structure SameWork (daemon next : Daemon) : Prop where
  lines : next.lines = daemon.lines
  output : next.output = daemon.output
  workers : ∀ line, TurnMoved (daemon.workers.lookup line) (next.workers.lookup line)

theorem SameWork.refl (daemon : Daemon) : SameWork daemon daemon :=
  ⟨rfl, rfl, fun _ => .same _⟩

structure LineTaken (requestId : String) (line : Nat) (daemon next : Daemon) : Prop where
  lines : next.lines = daemon.lines
  output : next.output = daemon.output
  workers : ∀ other, other ≠ line →
    TurnMoved (daemon.workers.lookup other) (next.workers.lookup other)
  idle : ∀ other, other ≠ line → daemon.loopTask other = .idle → next.loopTask other = .idle
  own : daemon.loopTask line = .idle → daemon.workers.lookup line = none →
    Stage (some requestId) (next.loopTask line) (next.workers.lookup line) []

section Requests

variable {daemon next : Daemon} {line : Nat} {requestId : String}

theorem moved_none {worker : Option Worker} (moved : TurnMoved none worker) : worker = none := by
  cases moved
  rfl

theorem taken_respond (same : SameWork daemon next) (response : ResponseEnvelope)
    (carries : response.requestId = requestId) :
    LineTaken requestId line daemon (next.respond line response) where
  lines := same.lines
  output := same.output
  workers other _ := same.workers other
  idle other apart _ := by simp [Daemon.respond, Daemon.loopTask, apart.symm]
  own _ unknown := by
    have none := moved_none (unknown ▸ same.workers line)
    simp only [Daemon.respond, Daemon.loopTask, if_true, none]
    exact .answering _ response [] carries (by simp)

theorem taken_refuse (same : SameWork daemon next) (code message : String) (details : Json) :
    LineTaken requestId line daemon (next.refuse line requestId code message details) :=
  taken_respond same _ rfl

theorem taken_withSession {sessionId : String} {handle : SessionCell → Daemon}
    (handled : ∀ cell, LineTaken requestId line daemon (handle cell)) :
    LineTaken requestId line daemon (daemon.withSession line requestId sessionId handle) := by
  unfold Daemon.withSession
  split
  · split
    next cell _ => exact handled cell
    · exact taken_refuse (.refl daemon) _ _ _
  · exact taken_refuse (.refl daemon) _ _ _

theorem taken_spawnTurn (sessionId : String) :
    LineTaken requestId line daemon (daemon.spawnTurn line sessionId requestId) where
  lines := rfl
  output := rfl
  workers other apart := by
    rw [Daemon.spawnTurn, Daemon.setWorker, Table.lookup_insert_eq, if_neg apart]
    exact .same _
  idle _ _ idle := idle
  own idle _ := by
    rw [Daemon.spawnTurn, Daemon.setWorker, Table.lookup_insert_eq, if_pos rfl]
    change Stage _ (daemon.loopTask line) _ _
    rw [idle]
    refine .working _ _ _ ⟨rfl, by simp, by simp, ?_, .receiving _ rfl⟩
    intro before number event works after split
    simp at split

theorem sameWork_sendApproval {cell : SessionCell} {approvalId : String} {approved : Bool}
    (sent : daemon.sendApproval cell approvalId approved = some next) : SameWork daemon next := by
  unfold Daemon.sendApproval at sent
  split at sent
  next holder _ =>
    split at sent
    next worker found =>
      split at sent
      · split at sent <;> cases sent
        refine ⟨rfl, rfl, fun other => ?_⟩
        rw [Daemon.setWorker, Table.lookup_insert_eq]
        split
        next same =>
          rw [same, found]
          exact .answered _ _ (by simp)
        · exact .same _
      · cases sent
    · cases sent
  · cases sent

theorem sameWork_resolve (sessionId approvalId : String) (cell : SessionCell) (approved : Bool) :
    SameWork daemon (daemon.resolve sessionId cell approvalId approved).1 := by
  unfold Daemon.resolve
  split
  · dsimp only
    split
    next delivered sent =>
      have moved := sameWork_sendApproval sent
      exact ⟨moved.lines, moved.output, moved.workers⟩
    · exact ⟨rfl, rfl, fun _ => .same _⟩
  · exact .refl daemon

theorem taken_lockAgent {sessionId : String} {cell : SessionCell} (same : SameWork daemon next) :
    LineTaken requestId line daemon
      (next.lockAgent sessionId cell (.respond line requestId)) := by
  have locked : ∀ other,
      (next.lockAgent sessionId cell (.respond line requestId)).loopTask other =
        if line = other then .shuttingDown requestId else .idle := by
    intro other
    unfold Daemon.lockAgent
    split <;> rfl
  have kept : SameWork daemon (next.lockAgent sessionId cell (.respond line requestId)) := by
    unfold Daemon.lockAgent
    split <;> exact ⟨same.lines, same.output, same.workers⟩
  refine ⟨kept.lines, kept.output, fun other _ => kept.workers other, ?_, ?_⟩
  · intro other apart _
    rw [locked, if_neg apart.symm]
  · intro _ unknown
    have none := moved_none (unknown ▸ kept.workers line)
    rw [locked, if_pos rfl, none]
    exact .shuttingDown requestId

theorem taken_handleRequest (request : RequestEnvelope) (sessionId createdAt : String) :
    LineTaken request.requestId line daemon
      (daemon.handleRequest line request sessionId createdAt) := by
  unfold Daemon.handleRequest
  split
  · exact taken_refuse (.refl daemon) _ _ _
  split
  · refine taken_respond ?_ _ rfl
    exact ⟨rfl, rfl, fun _ => .same _⟩
  split
  · unfold Daemon.streamEvents
    split
    · exact taken_refuse (.refl daemon) _ _ _
    · refine taken_withSession fun cell => ?_
      refine taken_respond ?_ _ rfl
      exact ⟨rfl, rfl, fun _ => .same _⟩
  split
  · unfold Daemon.submitTurn
    split
    · exact taken_refuse (.refl daemon) _ _ _
    · split
      · exact taken_refuse (.refl daemon) _ _ _
      · exact taken_withSession fun _ => taken_spawnTurn _
  split
  · unfold Daemon.resolveApproval
    split
    · exact taken_refuse (.refl daemon) _ _ _
    · split
      · exact taken_refuse (.refl daemon) _ _ _
      · split
        · exact taken_refuse (.refl daemon) _ _ _
        next sessionId _ _ approvalId _ _ approved _ =>
          refine taken_withSession fun cell => ?_
          have kept := @sameWork_resolve daemon sessionId approvalId cell approved
          unfold Daemon.answerApproval
          split
          next found =>
            rw [found] at kept
            exact taken_respond kept _ rfl
          next found =>
            rw [found] at kept
            exact taken_refuse kept _ _ _
  split
  · unfold Daemon.shutdownSession
    split
    · exact taken_refuse (.refl daemon) _ _ _
    · refine taken_withSession fun cell => ?_
      exact taken_lockAgent ⟨rfl, rfl, fun _ => .same _⟩
  · exact taken_refuse (.refl daemon) _ _ _

theorem taken_handleLine (parse : String → Except String Json) (describe : Json → String)
    (text sessionId createdAt : String) :
    LineTaken (requestIdOf parse text) line daemon
      (daemon.handleLine parse describe line text sessionId createdAt) := by
  unfold Daemon.handleLine requestIdOf
  cases read : parse text with
  | error err => exact taken_refuse (.refl daemon) _ _ _
  | ok raw =>
    dsimp only
    cases RequestEnvelope.fromValue raw with
    | none => exact taken_refuse (.refl daemon) _ _ _
    | some request => exact taken_handleRequest request sessionId createdAt

end Requests

section Loop

variable {parse : String → Except String Json} {daemon next : Daemon}

theorem served_taken {text : String} (served : Served parse daemon)
    (reading : daemon.phase = .reading)
    (taken : LineTaken (requestIdOf parse text) daemon.lines.length
      { daemon with lines := daemon.lines ++ [text] } next) : Served parse next := by
  have idle : ∀ other, daemon.loopTask other = .idle := fun other => by
    rw [Daemon.loopTask, reading]
  intro other
  have before := served other
  have output : next.outputOf other = daemon.outputOf other := by
    rw [Daemon.outputOf, taken.output, Daemon.outputOf]
  rw [taken.lines, output]
  by_cases new : other = daemon.lines.length
  · subst new
    -- Nothing was there of the line before it was read.
    rw [List.getElem?_eq_none (Nat.le_refl _), Option.map_none] at before
    obtain ⟨unknown, silent⟩ := before.nothing
    rw [silent, List.getElem?_concat_length, Option.map_some]
    exact taken.own (idle _) unknown
  · have same : (daemon.lines ++ [text])[other]? = daemon.lines[other]? := by
      rcases Nat.lt_or_ge other daemon.lines.length with inside | outside
      · exact List.getElem?_append_left inside
      · rw [List.getElem?_eq_none outside, List.getElem?_eq_none]
        rw [List.length_append, List.length_singleton]
        omega
    rw [same, taken.idle other new (idle other)]
    rw [idle other] at before
    exact before.turnMoved (taken.workers other new)

theorem served_loop (served : Served parse daemon) (lines : next.lines = daemon.lines)
    (output : next.output = daemon.output) (workers : next.workers = daemon.workers)
    (tasks : ∀ line, next.loopTask line = daemon.loopTask line) : Served parse next := by
  intro line
  have before := served line
  rw [lines, workers, tasks line, Daemon.outputOf, output]
  exact before

theorem served_write {line : Nat} {message : Message} {rest : List Message} (works : Bool)
    (served : Served parse daemon) (writing : daemon.phase = .writing line (message :: rest)) :
    Served parse (({ daemon with
      phase := if rest.isEmpty then .reading else .writing line rest } : Daemon).record line
        message works) := by
  intro other
  have before := served other
  have task : daemon.loopTask other =
      if line = other then .answering (message :: rest) else .idle := by
    rw [Daemon.loopTask, writing]
  have after : (({ daemon with
      phase := if rest.isEmpty then .reading else .writing line rest } : Daemon).record line
        message works).loopTask other =
          if line = other ∧ rest ≠ [] then .answering rest else .idle := by
    cases rest with
    | nil => simp [Daemon.record, Daemon.loopTask]
    | cons first more => simp [Daemon.record, Daemon.loopTask]
  rw [after, outputOf_record]
  rw [task] at before
  change Stage (daemon.lines[other]?.map _) _ (daemon.workers.lookup other)
    (if line = other then daemon.outputOf other ++ _ else daemon.outputOf other)
  by_cases same : line = other
  · simp only [same, if_true, true_and] at before ⊢
    generalize daemon.workers.lookup other = worker at before ⊢
    generalize daemon.outputOf other = output at before ⊢
    generalize daemon.lines[other]?.map (requestIdOf parse) = requestId at before ⊢
    -- What is left for the line after the message, whose response is there by now.
    have left : ∀ requestId, AnsweredOnce requestId (output ++ [⟨other, message, works⟩]) →
        (∀ later ∈ rest, later.isResponse = false) →
          Stage (some requestId) (if rest ≠ [] then .answering rest else .idle) none
            (output ++ [⟨other, message, works⟩]) := by
      intro requestId answered events
      by_cases more : rest = []
      · rw [if_neg (not_not.mpr more)]
        exact .handled _ _ answered
      · rw [if_pos more]
        exact .streaming _ _ _ answered events
    cases before with
    | answering requestId response _ carries events =>
      exact left _ (carries ▸ answeredOnce_first other response works rfl) events
    | streaming requestId _ _ answered events =>
      have event := events message List.mem_cons_self
      exact left _ (answered.append event) fun later member =>
        events later (List.mem_cons_of_mem _ member)
  · simp only [same, if_false, false_and] at before ⊢
    exact before

theorem loopTask_lockAgent (sessionId : String) (cell : SessionCell) (remaining : List String)
    (line : Nat) :
    (daemon.lockAgent sessionId cell (.cleanUp remaining)).loopTask line = .idle := by
  unfold Daemon.lockAgent
  split <;> rfl

theorem served_afterShutdown {sessionId : String} {after : AfterShutdown}
    (served : Served parse daemon) (shutting : daemon.phase = .shutting sessionId after)
    (cell : SessionCell) (events : List Event) :
    Served parse ((daemon.setCell sessionId cell.release).afterShutdown sessionId cell events
      after) := by
  intro other
  have before := served other
  cases after with
  | cleanUp remaining =>
    rw [Daemon.loopTask, shutting] at before
    exact before
  | respond line requestId =>
    have task : daemon.loopTask other =
        if line = other then .shuttingDown requestId else .idle := by
      rw [Daemon.loopTask, shutting]
    rw [task] at before
    change Stage (daemon.lines[other]?.map _) (if line = other then .answering (_ :: _) else .idle)
      (daemon.workers.lookup other) (daemon.outputOf other)
    by_cases same : line = other
    · simp only [same, if_true] at before ⊢
      generalize daemon.workers.lookup other = worker at before ⊢
      generalize daemon.outputOf other = output at before ⊢
      generalize daemon.lines[other]?.map (requestIdOf parse) = id at before ⊢
      cases before with
      | shuttingDown =>
        refine .answering _ _ _ rfl fun message member => ?_
        split at member
        · obtain ⟨event, _, rfl⟩ := List.mem_map.mp member
          rfl
        · cases member
    · simp only [same, if_false] at before ⊢
      exact before

end Loop

section Work

variable {parse : String → Except String Json} {daemon next : Daemon} {line : Nat}
  {worker : Worker}

variable {requestId : String}

theorem WorkerOk.moved {output : List Written} (ok : WorkerOk requestId worker output)
    (turn : TurnPhase) (panics : turn = .panicked → worker.phase = .ended ∨ Unnamed worker.sent) :
    WorkerOk requestId { worker with turn := turn } output :=
  { ok with panicked := panics }

theorem served_setWorker (changed : Worker) (served : Served parse daemon)
    (found : daemon.workers.lookup line = some worker) (lines : next.lines = daemon.lines)
    (tasks : ∀ other, next.loopTask other = daemon.loopTask other)
    (workers : next.workers = daemon.workers.insert line changed)
    (others : ∀ other, line ≠ other → next.outputOf other = daemon.outputOf other)
    (kept : ∀ requestId, WorkerOk requestId worker (daemon.outputOf line) →
      WorkerOk requestId changed (next.outputOf line)) : Served parse next := by
  intro other
  have before := served other
  rw [lines, tasks, workers, Table.lookup_insert_eq]
  by_cases same : other = line
  · subst same
    rw [if_pos rfl]
    rw [found] at before
    generalize daemon.lines[other]?.map (requestIdOf parse) = requestId at before ⊢
    generalize daemon.loopTask other = task at before ⊢
    generalize held : daemon.outputOf other = output at before
    cases before with
    | working requestId _ _ ok => exact .working _ _ _ (kept requestId (held ▸ ok))
  · rw [if_neg same, others other (Ne.symm same)]
    exact before

theorem Answering.named_or {sent : List Event} {phase : WorkerPhase} {output : List Written}
    (answering : Answering requestId sent phase output) (event : Event) :
    Answering requestId (sent ++ [event]) phase output := by
  cases answering with
  | receiving _ silent => exact .receiving _ silent
  | responding event turnId _ member named silent =>
    exact .responding _ _ _ (List.mem_append_left _ member) named silent
  | skipping _ _ unnamed silent => exact .skipping _ _ unnamed silent
  | joining _ silent => exact .joining _ silent
  | replying _ _ carries silent => exact .replying _ _ carries silent
  | answered _ _ phases named once delivered =>
    refine .answered _ _ phases (fun unnamed => named fun event member => ?_) once delivered
    exact unnamed event (List.mem_append_left _ member)
  | ended _ once => exact .ended _ once

theorem WorkerOk.emit {output : List Written} (ok : WorkerOk requestId worker output)
    (event : Event) (running : worker.turn = .running) :
    WorkerOk requestId { worker with
      channel := worker.channel ++ [event], sent := worker.sent ++ [event] } output where
  carries := ok.carries
  received other member := by
    rcases List.mem_append.mp member with old | new
    · exact List.mem_append_left _ (ok.received other old)
    · exact List.mem_append_right _ new
  panicked panicked := by
    rw [running] at panicked
    cases panicked
  ordered := ok.ordered
  answering := ok.answering.named_or event

theorem served_turnStep {cell : SessionCell} {act : TurnAct} (served : Served parse daemon)
    (found : daemon.workers.lookup line = some worker)
    (allowed : NoLatePanic daemon (.turn line act))
    (stepped : daemon.turnStep line worker cell act = some next) : Served parse next := by
  have moves : ∀ (moved : Daemon) (turn : TurnPhase),
      moved.lines = daemon.lines → moved.output = daemon.output → moved.phase = daemon.phase →
      moved.workers = daemon.workers →
      (turn = .panicked → worker.phase = .ended ∨ Unnamed worker.sent) →
        Served parse (moved.setWorker line { worker with turn := turn }) := by
    intro moved turn lines output phase workers panics
    refine served_setWorker { worker with turn := turn } served found lines (fun other => ?_) ?_ (fun other _ => ?_) ?_
    · rw [Daemon.loopTask, Daemon.setWorker, phase, Daemon.loopTask]
    · rw [Daemon.setWorker, workers]
    · rw [Daemon.outputOf, Daemon.setWorker, output, Daemon.outputOf]
    · intro requestId ok
      rw [Daemon.outputOf, Daemon.setWorker, output]
      exact ok.moved turn panics
  cases act with
  | lock =>
    simp only [Daemon.turnStep] at stepped
    split at stepped
    · split at stepped <;> cases stepped
      · exact moves _ .running rfl rfl rfl rfl (by simp)
      · exact moves _ .queued rfl rfl rfl rfl (by simp)
    · cases stepped
  | acquire =>
    simp only [Daemon.turnStep] at stepped
    split at stepped
    · split at stepped <;> cases stepped
      exact moves _ .running rfl rfl rfl rfl (by simp)
    · cases stepped
  | emit event =>
    simp only [Daemon.turnStep] at stepped
    split at stepped
    next running =>
      cases stepped
      exact served_setWorker _ served found rfl (fun _ => rfl) rfl (fun _ _ => rfl)
        fun requestId ok => ok.emit event running
    · cases stepped
  | ask requestId =>
    simp only [Daemon.turnStep] at stepped
    split at stepped <;> cases stepped
    exact moves _ (.waiting requestId none) rfl rfl rfl rfl (by simp)
  | decide =>
    simp only [Daemon.turnStep] at stepped
    split at stepped <;> cases stepped
    exact moves _ .running rfl rfl rfl rfl (by simp)
  | timeout cleared =>
    simp only [Daemon.turnStep] at stepped
    split at stepped <;> cases stepped
    exact moves _ .running rfl rfl rfl rfl (by simp)
  | finish events =>
    simp only [Daemon.turnStep] at stepped
    split at stepped <;> cases stepped
    exact moves _ (.finished events) rfl rfl rfl rfl (by simp)
  | panic =>
    simp only [Daemon.turnStep] at stepped
    split at stepped <;> cases stepped
    refine moves _ .panicked rfl rfl rfl rfl fun _ => ?_
    simp only [NoLatePanic, found, Option.all_some, Bool.or_eq_true, decide_eq_true_iff] at allowed
    exact allowed.imp_left WorkerPhase.ended_of

theorem Answering.silent {sent : List Event} {phase : WorkerPhase} {output : List Written}
    (answering : Answering requestId sent phase output)
    (owes : phase = .receiving false ∨ phase = .joining false) : repliesIn output = [] := by
  cases answering with
  | receiving _ silent => exact silent
  | joining _ silent => exact silent
  | answered _ _ phases => grind
  | _ => grind

inductive WorkerMove (worker : Worker) (works : Bool) : Worker → Option Message → Prop where
  | take (responseSent : Bool) (event : Event) (rest : List Event) :
      worker.phase = .receiving responseSent → worker.channel = event :: rest →
        responseSent = true ∨ turnIdFromEvent event = none →
          WorkerMove worker works
            { worker with channel := rest, phase := .forwarding responseSent event } none
  | name (event : Event) (turnId : Nat) (rest : List Event) :
      worker.phase = .receiving false → worker.channel = event :: rest →
        turnIdFromEvent event = some turnId →
          WorkerMove worker works
            { worker with channel := rest, phase := .responding event turnId } none
  | close (responseSent : Bool) :
      worker.phase = .receiving responseSent →
        WorkerMove worker works { worker with phase := .joining responseSent } none
  | accept (event : Event) (turnId : Nat) :
      worker.phase = .responding event turnId →
        WorkerMove worker works
          { worker with phase := if works then .forwarding true event else .ended }
          (some (.response (acceptedResponse worker.requestId turnId)))
  | forward (responseSent : Bool) (event : Event) (envelope : EventEnvelope) :
      worker.phase = .forwarding responseSent event →
        mapLiveEvent worker.sessionId event = some envelope →
          WorkerMove worker works { worker with phase := .receiving responseSent }
            (some (.event envelope))
  | skip (responseSent : Bool) (event : Event) :
      worker.phase = .forwarding responseSent event →
        WorkerMove worker works { worker with phase := .receiving responseSent } none
  | stop : worker.phase = .joining true → worker.turn ≠ .panicked →
      WorkerMove worker works { worker with phase := .ended } none
  | reply (responseSent : Bool) (response : ResponseEnvelope) :
      worker.phase = .joining responseSent → responseSent = false ∨ worker.turn = .panicked →
        response.requestId = worker.requestId →
          WorkerMove worker works { worker with phase := .replying response } none
  | last (response : ResponseEnvelope) :
      worker.phase = .replying response →
        WorkerMove worker works { worker with phase := .ended } (some (.response response))

def moved (daemon : Daemon) (line : Nat) (changed : Worker) (works : Bool) :
    Option Message → Daemon
  | none => daemon.setWorker line changed
  | some message => (daemon.setWorker line changed).record line message works

theorem workerStep_moves {streaming works : Bool}
    (stepped : daemon.workerStep line worker streaming works = some next) :
    ∃ changed message, WorkerMove worker works changed message ∧
      next = moved daemon line changed works message := by
  unfold Daemon.workerStep at stepped
  split at stepped
  next responseSent receiving =>
    split at stepped
    next event rest channel =>
      cases named : turnIdFromEvent event with
      | none =>
        cases responseSent <;> simp only [named] at stepped <;> cases stepped
        · exact ⟨_, none, .take false event rest receiving channel (.inr named), rfl⟩
        · exact ⟨_, none, .take true event rest receiving channel (.inl rfl), rfl⟩
      | some turnId =>
        cases responseSent <;> simp only [named] at stepped <;> cases stepped
        · exact ⟨_, none, .name event turnId rest receiving channel named, rfl⟩
        · exact ⟨_, none, .take true event rest receiving channel (.inl rfl), rfl⟩
    · split at stepped <;> cases stepped
      exact ⟨_, none, .close responseSent receiving, rfl⟩
  next event turnId responding =>
    cases stepped
    exact ⟨_, some _, .accept event turnId responding, rfl⟩
  next responseSent event forwarding =>
    dsimp only at stepped
    split at stepped
    next envelope mapped =>
      cases stepped
      split at mapped
      · exact ⟨_, some _, .forward responseSent event envelope forwarding mapped, rfl⟩
      · cases mapped
    · cases stepped
      exact ⟨_, none, .skip responseSent event forwarding, rfl⟩
  next responseSent joining =>
    obtain ⟨phase, concluded, rfl⟩ := Option.map_eq_some_iff.mp stepped
    unfold Daemon.joined at concluded
    split at concluded
    next finished =>
      split at concluded
      next sent =>
        cases concluded
        exact ⟨_, none, .stop (sent ▸ joining) (by simp [finished]), rfl⟩
      next unsent =>
        have owes := Bool.eq_false_iff.mpr unsent
        split at concluded <;> cases concluded
        · exact ⟨_, none, .reply responseSent _ joining (.inl owes) rfl, rfl⟩
        · exact ⟨_, none, .reply responseSent _ joining (.inl owes) rfl, rfl⟩
    next panicked =>
      cases concluded
      exact ⟨_, none, .reply responseSent _ joining (.inr panicked) rfl, rfl⟩
    · cases concluded
  next response replying =>
    cases stepped
    exact ⟨_, some _, .last response replying, rfl⟩
  · cases stepped

theorem WorkerOk.step {works : Bool} {changed : Worker} {message : Option Message}
    {output : List Written} (ok : WorkerOk requestId worker output)
    (move : WorkerMove worker works changed message) :
    WorkerOk requestId changed
      (output ++ (message.map fun message => ⟨line, message, works⟩).toList) := by
  have answering := ok.answering
  cases move with
  | take responseSent event rest receiving channel either =>
    rw [receiving] at answering
    refine ⟨ok.carries, ?_, fun panicked => .inr ?_, by simpa using ok.ordered, ?_⟩
    · intro other member
      exact ok.received other (channel ▸ List.mem_cons_of_mem _ member)
    · exact (ok.panicked panicked).resolve_left (by simp [receiving])
    · rw [Option.map_none, Option.toList_none, List.append_nil]
      cases answering with
      | receiving _ silent => exact .skipping _ _ (either.resolve_left (by simp)) silent
      | answered _ _ phases named once delivered =>
        obtain rfl : responseSent = true := by simpa using phases
        exact .answered _ _ (.inr (.inl ⟨event, rfl⟩)) named once delivered
  | name event turnId rest receiving channel named =>
    have silent := answering.silent (.inl receiving)
    refine ⟨ok.carries, ?_, fun panicked => .inr ?_, by simpa using ok.ordered, ?_⟩
    · intro other member
      exact ok.received other (channel ▸ List.mem_cons_of_mem _ member)
    · exact (ok.panicked panicked).resolve_left (by simp [receiving])
    · have member := ok.received event (channel ▸ List.mem_cons_self)
      exact .responding _ _ _ member named (by simpa using silent)
  | close responseSent receiving =>
    rw [receiving] at answering
    refine ⟨ok.carries, ok.received, fun panicked => .inr ?_, by simpa using ok.ordered, ?_⟩
    · exact (ok.panicked panicked).resolve_left (by simp [receiving])
    · rw [Option.map_none, Option.toList_none, List.append_nil]
      cases answering with
      | receiving _ silent => exact .joining _ silent
      | answered _ _ phases named once delivered =>
        obtain rfl : responseSent = true := by simpa using phases
        exact .answered _ _ (.inr (.inr rfl)) named once delivered
  | accept event turnId responding =>
    rw [responding] at answering
    cases answering with
    | responding _ _ _ member named silent =>
      have sent : ¬ Unnamed worker.sent := fun unnamed => by
        rw [unnamed event member] at named
        cases named
      refine ⟨ok.carries, ok.received, fun panicked => absurd ?_ sent, ?_, ?_⟩
      · exact (ok.panicked panicked).resolve_left (by simp [responding])
      · exact ok.ordered.append (by simp)
      · have once := answeredOnce_first line (acceptedResponse worker.requestId turnId) works silent
        rw [show (acceptedResponse worker.requestId turnId).requestId = requestId from ok.carries]
          at once
        cases works with
        | true =>
          refine .answered _ _ (.inr (.inl ⟨event, rfl⟩)) sent once
            ⟨line, acceptedResponse worker.requestId turnId, ?_⟩
          exact List.mem_append_right _ (List.mem_singleton.mpr rfl)
        | false => exact .ended _ once
    | answered _ _ phases => simp at phases
  | forward responseSent event envelope forwarding mapped =>
    rw [forwarding] at answering
    refine ⟨ok.carries, ok.received, fun panicked => .inr ?_, ?_, ?_⟩
    · exact (ok.panicked panicked).resolve_left (by simp [forwarding])
    · refine ok.ordered.append fun other same named => ?_
      obtain rfl : envelope = other := by simpa using same
      have carried := turnId_of_mapped (mapEvent_of_live mapped) named
      cases answering with
      | skipping _ _ unnamed => simp [unnamed] at carried
      | answered _ _ _ _ _ delivered => exact delivered
    · cases answering with
      | skipping _ _ unnamed silent =>
        exact .receiving _ (by simp [repliesIn_append, Message.isResponse, silent])
      | answered _ _ phases named once delivered =>
        obtain rfl : responseSent = true := by simpa using phases
        exact .answered _ _ (.inl rfl) named (once.append rfl) (delivered.append _)
  | skip responseSent event forwarding =>
    rw [forwarding] at answering
    refine ⟨ok.carries, ok.received, fun panicked => .inr ?_, by simpa using ok.ordered, ?_⟩
    · exact (ok.panicked panicked).resolve_left (by simp [forwarding])
    · rw [Option.map_none, Option.toList_none, List.append_nil]
      cases answering with
      | skipping _ _ _ silent => exact .receiving _ silent
      | answered _ _ phases named once delivered =>
        obtain rfl : responseSent = true := by simpa using phases
        exact .answered _ _ (.inl rfl) named once delivered
  | stop joining finished =>
    rw [joining] at answering
    cases answering with
    | answered _ _ _ _ once =>
      exact ⟨ok.carries, ok.received, fun _ => .inl rfl, by simpa using ok.ordered,
        .ended _ (by simpa using once)⟩
  | reply responseSent response joining either carries =>
    -- A response was not sent yet: a turn that names itself does not panic.
    have owes : responseSent = false := by
      rcases either with unsent | panicked
      · exact unsent
      · have unnamed := (ok.panicked panicked).resolve_left (by simp [joining])
        rw [joining] at answering
        cases answering with
        | joining => rfl
        | answered _ _ _ named => exact absurd unnamed named
    have silent := answering.silent (.inr (owes ▸ joining))
    refine ⟨ok.carries, ok.received, fun panicked => .inr ?_, by simpa using ok.ordered, ?_⟩
    · exact (ok.panicked panicked).resolve_left (by simp [joining])
    · exact .replying _ _ (carries.trans ok.carries) (by simpa using silent)
  | last response replying =>
    rw [replying] at answering
    cases answering with
    | replying _ _ carries silent =>
      refine ⟨ok.carries, ok.received, fun _ => .inl rfl, ok.ordered.append (by simp), ?_⟩
      exact .ended _ (carries ▸ answeredOnce_first line response works silent)
    | answered _ _ phases => simp at phases

theorem served_workerStep {streaming works : Bool} (served : Served parse daemon)
    (found : daemon.workers.lookup line = some worker)
    (stepped : daemon.workerStep line worker streaming works = some next) :
    Served parse next := by
  obtain ⟨changed, message, move, rfl⟩ := workerStep_moves stepped
  have step := fun requestId ok => @WorkerOk.step line worker requestId works changed message
    (daemon.outputOf line) ok move
  cases message with
  | none =>
    refine served_setWorker changed served found rfl (fun _ => rfl) rfl (fun _ _ => rfl) ?_
    intro requestId ok
    have kept := step requestId ok
    rw [Option.map_none, Option.toList_none, List.append_nil] at kept
    exact kept
  | some message =>
    refine served_setWorker changed served found rfl (fun _ => rfl) rfl (fun other apart => ?_) ?_
    · rw [moved, outputOf_record, if_neg apart]
      rfl
    · intro requestId ok
      rw [moved, outputOf_record, if_pos rfl]
      exact step requestId ok

end Work

variable {parse : String → Except String Json} {describe : Json → String}

theorem served_preserved : Preserves (Daemon.step parse describe) NoLatePanic (Served parse) := by
  intro daemon input next served allowed stepped
  cases input with
  | line text sessionId createdAt =>
    simp only [Daemon.step] at stepped
    split at stepped
    next reading =>
      split at stepped
      · cases stepped
        exact served
      · split at stepped <;> cases stepped
        exact served_taken served reading (taken_handleLine parse describe _ _ _)
    · cases stepped
  | endOfInput =>
    simp only [Daemon.step] at stepped
    split at stepped <;> cases stepped
    next reading =>
      exact served_loop served rfl rfl rfl fun line => by
        rw [Daemon.loopTask, Daemon.loopTask, reading]
  | readFails =>
    simp only [Daemon.step] at stepped
    split at stepped <;> cases stepped
    next reading =>
      exact served_loop served rfl rfl rfl fun line => by
        rw [Daemon.loopTask, Daemon.loopTask, reading]
  | write works =>
    simp only [Daemon.step] at stepped
    split at stepped <;> cases stepped
    next line message rest writing => exact served_write works served writing
  | acquire =>
    simp only [Daemon.step] at stepped
    split at stepped
    next sessionId after locking =>
      split at stepped <;> cases stepped
      exact served_loop served rfl rfl rfl fun line => by
        rw [Daemon.loopTask, Daemon.loopTask, locking]
        cases after <;> rfl
    · cases stepped
  | shutDown =>
    simp only [Daemon.step] at stepped
    split at stepped
    next sessionId after shutting =>
      obtain ⟨cell, _, rfl⟩ := Option.map_eq_some_iff.mp stepped
      exact served_afterShutdown served shutting cell _
    · cases stepped
  | clean sessionId =>
    simp only [Daemon.step] at stepped
    split at stepped
    next remaining cleaning =>
      split at stepped
      · obtain ⟨cell, _, rfl⟩ := Option.map_eq_some_iff.mp stepped
        have idle : ∀ line, daemon.loopTask line = .idle := fun line => by
          rw [Daemon.loopTask, cleaning]
        refine served_loop served ?_ ?_ ?_ fun line => ?_
        all_goals try (unfold Daemon.lockAgent; split <;> rfl)
        rw [loopTask_lockAgent, idle]
      · cases stepped
    · cases stepped
  | exit =>
    simp only [Daemon.step] at stepped
    split at stepped <;> cases stepped
    next cleaning =>
      exact served_loop served rfl rfl rfl fun line => by
        rw [Daemon.loopTask, Daemon.loopTask, cleaning]
  | worker line works =>
    simp only [Daemon.step] at stepped
    split at stepped
    · cases stepped
    · obtain ⟨worker, found, stepped⟩ := Option.bind_eq_some_iff.mp stepped
      obtain ⟨cell, _, stepped⟩ := Option.bind_eq_some_iff.mp stepped
      exact served_workerStep served found stepped
  | turn line act =>
    simp only [Daemon.step] at stepped
    split at stepped
    · cases stepped
    · obtain ⟨worker, found, stepped⟩ := Option.bind_eq_some_iff.mp stepped
      obtain ⟨cell, _, stepped⟩ := Option.bind_eq_some_iff.mp stepped
      exact served_turnStep served found allowed stepped

theorem Answering.replies {sent : List Event} {phase : WorkerPhase}
    (answering : Answering requestId sent phase output) :
    repliesIn output = [] ∨ AnsweredOnce requestId output := by
  cases answering with
  | receiving _ silent => exact .inl silent
  | responding _ _ _ _ _ silent => exact .inl silent
  | skipping _ _ _ silent => exact .inl silent
  | joining _ silent => exact .inl silent
  | replying _ _ _ silent => exact .inl silent
  | answered _ _ _ _ once => exact .inr once
  | ended _ once => exact .inr once

theorem Stage.replies (stage : Stage (some requestId) task worker output) :
    repliesIn output = [] ∨ AnsweredOnce requestId output := by
  cases stage with
  | shuttingDown => exact .inl rfl
  | answering => exact .inl rfl
  | streaming _ _ _ once => exact .inr once
  | handled _ _ once => exact .inr once
  | working _ _ _ ok => exact ok.answering.replies

theorem Stage.finished (stage : Stage (some requestId) .idle worker output)
    (ended : ∀ left, worker = some left → left.phase = .ended) : AnsweredOnce requestId output := by
  cases stage with
  | handled _ _ once => exact once
  | working _ worker _ ok =>
    have answering := ok.answering
    rw [ended worker rfl] at answering
    cases answering with
    | answered _ _ _ _ once => exact once
    | ended _ once => exact once

theorem Stage.ordered {requestId : Option String} {worker : Worker}
    (stage : Stage requestId task (some worker) output) : Ordered output := by
  cases stage with
  | working _ _ _ ok => exact ok.ordered

def startLine : String :=
  "\x7b\"protocol_version\":\"v1\",\"kind\":\"request\",\"request_id\":\"1\",\"method\":\"start_session\"\x7d"

def submitLine : String :=
  "\x7b\"protocol_version\":\"v1\",\"kind\":\"request\",\"request_id\":\"2\",\"session_id\":\"s\",\"method\":\"submit_turn\",\"params\":\x7b\"input\":\"hi\"\x7d\x7d"

def shutdownLine : String :=
  "\x7b\"protocol_version\":\"v1\",\"kind\":\"request\",\"request_id\":\"3\",\"session_id\":\"s\",\"method\":\"shutdown_session\"\x7d"

def readSample (text : String) : Except String Json :=
  if text = startLine then
    .ok (.obj [("protocol_version", .str "v1"), ("kind", .str "request"),
      ("request_id", .str "1"), ("method", .str "start_session")])
  else if text = submitLine then
    .ok (.obj [("protocol_version", .str "v1"), ("kind", .str "request"),
      ("request_id", .str "2"), ("session_id", .str "s"), ("method", .str "submit_turn"),
      ("params", .obj [("input", .str "hi")])])
  else if text = shutdownLine then
    .ok (.obj [("protocol_version", .str "v1"), ("kind", .str "request"),
      ("request_id", .str "3"), ("session_id", .str "s"), ("method", .str "shutdown_session")])
  else .error "expected value at line 1 column 1"

def beginTurn : List DaemonInput :=
  [.line startLine "s" "0", .write true, .line submitLine "t" "0", .turn 1 .lock,
    .turn 1 (.emit (.turnStarted 1)), .worker 1 true, .worker 1 true, .worker 1 true]

def endTurn : List DaemonInput := [.turn 1 (.finish []), .worker 1 true, .worker 1 true]

end OpenJax.Stdio

import PgLlmBatch.Observability

/-! The observed client beside the client it observes: the same operations of the base client with
the same outcomes whatever the telemetry does, and one span, one count and one duration for each
operation that is not inside another. -/
namespace PgLlmBatch
open Base

namespace OpenTelemetryBatchAPIClient

section
variable {S : Type} {Reply : S → Type} {Obj Clock V σ : Type}

def baseEvents (log : List (ObservedEvent S Reply Obj Clock V)) : List (BaseEvent S Reply V) :=
  log.filterMap (fun | .base e => some e | .telemetry _ => none)

def unobserved : Observed S Reply Obj Clock V σ → Nested.Config S Reply BaseCall ExceptionObject V σ
  | ⟨.running st,frames,_,log⟩ => ⟨st,frames.map Frame.resume,baseEvents log⟩
  | ⟨.opening st _ _,frames,_,log⟩ => ⟨st,frames.map Frame.resume,baseEvents log⟩
  | ⟨.closing out resume _ _,frames,_,log⟩ => ⟨resume out,frames.map Frame.resume,baseEvents log⟩

theorem baseEventsBase (log : List (ObservedEvent S Reply Obj Clock V)) (e : BaseEvent S Reply V) :
    baseEvents (log ++ [.base e]) = baseEvents log ++ [e] := by
  rw [baseEvents,List.filterMap_append]
  rfl

theorem baseEventsTelemetry (log : List (ObservedEvent S Reply Obj Clock V)) (e : TelemetryEvent Obj Clock) :
    baseEvents (log ++ [.telemetry e]) = baseEvents log := by
  rw [baseEvents,List.filterMap_append]
  exact List.append_nil _

end

section
variable {Obj Clock V α : Type}

def RaisesIsolated (reply : Except ExceptionObject α) : Prop := ∀ e, reply = .error e → e.isolated = true

-- Whatever a call raises is an Exception or a CancelledError.
def Isolated : (t : TelemetryCall Obj Clock) → TelemetryReply t → Prop
  | .perfCounter, _ => True
  | .startAsCurrentSpan _ _ _, reply => RaisesIsolated reply
  | .enter _, reply => RaisesIsolated reply
  | .signal _, reply => RaisesIsolated reply

def Working : (t : TelemetryCall Obj Clock) → TelemetryReply t → Prop
  | .perfCounter, _ => True
  | .startAsCurrentSpan _ _ _, reply => ∃ spanContext, reply = .ok (some spanContext)
  | .enter _, reply => ∃ span, reply = .ok (some span)
  | .signal _, reply => reply = .ok ()

def isolating : Program.Spec (TelemetryCall Obj Clock) TelemetryReply Unit :=
  fun t g Q => ∀ reply, Isolated t reply → Q reply g

theorem isolatingMono : Program.Monotone (@isolating Obj Clock) :=
  fun _ _ _ _ h weaker reply isolated => weaker _ _ (h reply isolated)

def Contained (p : TelemetryProgram Obj Clock α) : Prop :=
  p.wp isolating () (fun r _ => RaisesIsolated r)

def Returns (p : TelemetryProgram Obj Clock α) : Prop :=
  p.wp isolating () (fun r _ => ∃ a, r = .ok a)

def Keeps (out : Except ExceptionObject α) (p : TelemetryProgram Obj Clock α) : Prop :=
  p.wp isolating () (fun r _ => r = out)

theorem retReturns (a : α) : Returns (.ret a : TelemetryProgram Obj Clock α) := ⟨a,rfl⟩

theorem retContained (a : α) : Contained (.ret a : TelemetryProgram Obj Clock α) := fun _ h => nomatch h

theorem ofExceptContained {reply : Except ExceptionObject α} (isolated : RaisesIsolated reply) :
    Contained (Program.ofExcept reply : TelemetryProgram Obj Clock α) := by
  cases reply with
  | ok a => exact fun e h => nomatch h
  | error e => exact isolated

theorem callContained {t : TelemetryCall Obj Clock} {next : TelemetryReply t → TelemetryProgram Obj Clock α}
    (rest : ∀ reply, Isolated t reply → Contained (next reply)) : Contained (.call t next) :=
  rest

theorem tellContained (s : TelemetrySignal Obj Clock) : Contained (tell s) :=
  callContained (fun _ isolated => ofExceptContained isolated)

theorem defaultReturns {p : TelemetryProgram Obj Clock α} (contained : Contained p) (default : α) :
    Returns (telemetryOrDefault p default) := by
  refine Program.wpHandle isolatingMono (Program.wpMono isolatingMono contained (fun r _ isolated => ?_))
  cases r with
  | ok a => exact ⟨a,rfl⟩
  | error e =>
    have caught : e.isolated = true := isolated e rfl
    simp only [caught,if_true]
    exact ⟨default,rfl⟩

theorem bindReturns {β : Type} {p : TelemetryProgram Obj Clock α} {f : α → TelemetryProgram Obj Clock β}
    (first : Returns p) (rest : ∀ a, Returns (f a)) : Returns (p >>= f) := by
  refine Program.wpBind isolatingMono (Program.wpMono isolatingMono first (fun r _ returned => ?_))
  obtain ⟨a,rfl⟩ := returned
  exact rest a

theorem enterReturns (spanContext : Option Obj) : Returns (enterSpanContext spanContext : TelemetryProgram Obj Clock _) := by
  cases spanContext with
  | none => exact retReturns _
  | some spanContext =>
    refine defaultReturns (callContained (fun reply isolated => ?_)) _
    cases reply with
    | ok span => exact retContained _
    | error e => exact fun e' h => isolated e' (by cases h; rfl)

theorem useReturns (span : Option Obj) (s : Obj → TelemetrySignal Obj Clock) : Returns (useSpan span (fun o => tell (s o))) := by
  cases span with
  | none => exact retReturns _
  | some span => exact defaultReturns (tellContained _) _

theorem markReturns (span : Option Obj) : Returns (markErrorSpanStatus span : TelemetryProgram Obj Clock Unit) := by
  cases span with
  | none => exact retReturns _
  | some span => exact defaultReturns (tellContained _) _

theorem closeReturns (spanContext : Option Obj) : Returns (closeSpanContext spanContext : TelemetryProgram Obj Clock Unit) := by
  cases spanContext with
  | none => exact retReturns _
  | some spanContext => exact defaultReturns (tellContained _) _

theorem enteredReturns (o : OperationObservation Obj Clock) : Returns (closeEntered o) := by
  unfold closeEntered
  split
  · exact closeReturns _
  · exact retReturns _

theorem createReturns : Returns (createInstruments : TelemetryProgram Obj Clock Instruments) := by
  have created (s : TelemetrySignal Obj Clock) : Contained (tell s >>= fun _ => pure Instrument.injected) := by
    refine callContained (fun reply isolated => ?_)
    cases reply with
    | ok done => exact retContained _
    | error e => exact fun e' h => isolated e' (by cases h; rfl)
  exact bindReturns (defaultReturns (created _) _) (fun operationCount =>
    bindReturns (defaultReturns (created _) _) (fun operationDuration => retReturns _))

theorem openReturns (name : String) : Returns (openObservation name : TelemetryProgram Obj Clock (OperationObservation Obj Clock)) := by
  intro startedAt _
  have started : Contained (.call (.startAsCurrentSpan (instrumentationScopeName ++ "." ++ name) false false)
      Program.ofExcept : TelemetryProgram Obj Clock (Option Obj)) :=
    callContained (fun _ isolated => ofExceptContained isolated)
  exact bindReturns (defaultReturns started _) (fun spanContext => bindReturns (enterReturns spanContext)
    (fun entered => bindReturns (useReturns entered.1 _) (fun _ => retReturns _)))

theorem bindKeeps {p : TelemetryProgram Obj Clock Unit} {f : Unit → TelemetryProgram Obj Clock V}
    {out : Except ExceptionObject V} (first : Returns p) (rest : Keeps out (f ())) : Keeps out (p >>= f) := by
  refine Program.wpBind isolatingMono (Program.wpMono isolatingMono first (fun r _ returned => ?_))
  obtain ⟨a,rfl⟩ := returned
  exact rest

theorem endKeeps (out : Except ExceptionObject V) :
    Keeps out (Program.ofExcept out : TelemetryProgram Obj Clock V) := by
  cases out <;> rfl

variable [Sub Clock]

theorem emitReturns (instruments : Instruments) (startedAt : Clock) (attributes : Attributes) :
    Returns (emitMeasurements instruments startedAt attributes : TelemetryProgram Obj Clock Unit) := by
  refine bindReturns (defaultReturns ?_ _) (fun _ => defaultReturns (callContained (fun now _ => ?_)) _)
  · cases instruments.operationCount with
    | noOp => exact retContained _
    | injected => exact tellContained _
  · cases instruments.operationDuration with
    | noOp => exact retContained _
    | injected => exact tellContained _

theorem closeKeeps (instruments : Instruments) (o : OperationObservation Obj Clock) (out : Except ExceptionObject V) :
    Keeps out (closeObservation instruments o out) := by
  cases out with
  | error exc =>
    exact bindKeeps (useReturns o.span _) (bindKeeps (markReturns o.span) (bindKeeps (emitReturns _ _ _)
      (bindKeeps (enteredReturns o) (endKeeps (.error exc)))))
  | ok result => exact bindKeeps (emitReturns _ _ _) (bindKeeps (enteredReturns o) (endKeeps (.ok result)))

end

section
variable {S : Type} {Reply : S → Type} {Obj Clock V σ : Type}

def Isolating (behaves : Telemetry S Reply Obj Clock V) : Prop := ∀ log t reply, behaves log t reply → Isolated t reply

def Responsive (behaves : Telemetry S Reply Obj Clock V) : Prop := ∀ log t, ∃ reply, behaves log t reply

variable (ops : Nested.Operations S Reply PublicCall BaseCall ExceptionObject V σ) in
def Ready : Control Obj Clock V σ → Prop
  | .running _ => True
  | .opening st _ p => (∃ op resume, ops.next st = .dispatch op resume) ∧ Returns p
  | .closing out _ _ p => Keeps out p

variable [Sub Clock] {ops : Nested.Operations S Reply PublicCall BaseCall ExceptionObject V σ}
  {instruments : Instruments} {behaves : Telemetry S Reply Obj Clock V}

theorem stepReady (isolated : Isolating behaves) {c c' : Observed S Reply Obj Clock V σ}
    (step : Step ops instruments behaves c c') (ready : Ready ops c.control) : Ready ops c'.control := by
  cases step with
  | observe here outside => exact ⟨⟨_,_,here⟩,openReturns _⟩
  | opening reply behaved => exact ⟨ready.1,ready.2 reply (isolated _ _ _ behaved)⟩
  | close here => exact closeKeeps instruments _ _
  | closing reply behaved => exact ready reply (isolated _ _ _ behaved)
  | _ => trivial

theorem stepUnobserved {c c' : Observed S Reply Obj Clock V σ} (step : Step ops instruments behaves c c')
    (ready : Ready ops c.control) :
    Nested.Reaches BatchAPIClient.receive ops (unobserved c) (unobserved c') := by
  cases step with
  | internal here => exact .single (.internal here)
  | call here reply =>
    simp only [unobserved,baseEventsBase]
    exact .single (.call here reply)
  | nested here inside =>
    simp only [unobserved,baseEventsBase,sameOperation]
    exact .single (.dispatch here)
  | observe here outside => exact .refl
  | opening reply behaved =>
    simp only [unobserved,baseEventsTelemetry]
    exact .refl
  | opened here =>
    simp only [unobserved,baseEventsBase,sameOperation]
    exact .single (.dispatch here)
  | openingRaised here =>
    obtain ⟨o,impossible⟩ := ready.2
    cases impossible
  | finish here =>
    simp only [unobserved,baseEventsBase]
    exact .single (.finish here)
  | close here =>
    simp only [unobserved,baseEventsBase]
    exact .single (.finish here)
  | closing reply behaved =>
    simp only [unobserved,baseEventsTelemetry]
    exact .refl
  | closed =>
    have same : Except.ok _ = _ := ready
    rw [same]
    exact .refl
  | closingRaised =>
    have same : Except.error _ = _ := ready
    rw [same]
    exact .refl

def started (host : σ) (depth : Nat) : Observed S Reply Obj Clock V σ := ⟨.running host,[],depth,[]⟩

theorem runUnobserved (isolated : Isolating behaves) {host : σ} {depth : Nat} {c : Observed S Reply Obj Clock V σ}
    (run : Reaches ops instruments behaves (started host depth) c) :
    Ready ops c.control ∧ Nested.Reaches BatchAPIClient.receive ops ⟨host,[],[]⟩ (unobserved c) := by
  induction run with
  | refl => exact ⟨trivial,.refl⟩
  | tail _ step ih => exact ⟨stepReady isolated step ih.1,ih.2.trans (stepUnobserved step ih.1)⟩

theorem openingRuns (isolated : Isolating behaves) (responsive : Responsive behaves) {st : σ} {token : Nat}
    {p : TelemetryProgram Obj Clock (OperationObservation Obj Clock)} (returns : Returns p) {frames : List (Frame Obj Clock V σ)}
    {depth : Nat} (log : List (ObservedEvent S Reply Obj Clock V)) :
    ∃ o log', Reaches ops instruments behaves ⟨.opening st token p,frames,depth,log⟩
      ⟨.opening st token (.ret o),frames,depth,log'⟩ ∧ baseEvents log' = baseEvents log := by
  induction p generalizing log with
  | ret o => exact ⟨o,log,.refl,rfl⟩
  | raise e =>
    obtain ⟨o,impossible⟩ := returns
    cases impossible
  | call t next ih =>
    obtain ⟨reply,behaved⟩ := responsive log t
    obtain ⟨o,log',run,same⟩ := ih reply (returns reply (isolated _ _ _ behaved)) (log ++ [.telemetry ⟨t,reply⟩])
    exact ⟨o,log',.head (.opening reply behaved) run,same.trans (baseEventsTelemetry log _)⟩

theorem closingRuns (isolated : Isolating behaves) (responsive : Responsive behaves) {out : Except ExceptionObject V}
    {resume : Except ExceptionObject V → σ} {token : Nat} {p : TelemetryProgram Obj Clock V} (keeps : Keeps out p)
    {frames : List (Frame Obj Clock V σ)} {depth : Nat} (log : List (ObservedEvent S Reply Obj Clock V)) :
    ∃ log', Reaches ops instruments behaves ⟨.closing out resume token p,frames,depth,log⟩
      ⟨.running (resume out),frames,token,log'⟩ ∧ baseEvents log' = baseEvents log := by
  induction p generalizing log with
  | ret v =>
    have same : Except.ok v = out := keeps
    exact ⟨log,same ▸ .single .closed,rfl⟩
  | raise e =>
    have same : Except.error e = out := keeps
    exact ⟨log,same ▸ .single .closingRaised,rfl⟩
  | call t next ih =>
    obtain ⟨reply,behaved⟩ := responsive log t
    obtain ⟨log',run,same⟩ := ih reply (keeps reply (isolated _ _ _ behaved)) (log ++ [.telemetry ⟨t,reply⟩])
    exact ⟨log',.head (.closing reply behaved) run,same.trans (baseEventsTelemetry log _)⟩

theorem stepObserved (isolated : Isolating behaves) (responsive : Responsive behaves) {st : σ}
    {frames : List (Frame Obj Clock V σ)} {depth : Nat} {log : List (ObservedEvent S Reply Obj Clock V)}
    {d : Nested.Config S Reply BaseCall ExceptionObject V σ}
    (step : Nested.Step BatchAPIClient.receive ops (unobserved ⟨.running st,frames,depth,log⟩) d) :
    ∃ st' frames' depth' log', Reaches ops instruments behaves ⟨.running st,frames,depth,log⟩
      ⟨.running st',frames',depth',log'⟩ ∧ unobserved ⟨.running st',frames',depth',log'⟩ = d := by
  generalize view : unobserved ⟨.running st,frames,depth,log⟩ = c at step
  cases step with
  | internal here =>
    cases view
    exact ⟨_,frames,depth,log,.single (.internal here),rfl⟩
  | call here reply =>
    cases view
    exact ⟨_,frames,depth,_,.single (.call here reply),by simp only [unobserved,baseEventsBase]⟩
  | dispatch here =>
    cases view
    by_cases inside : 0 < depth
    · exact ⟨_,_,depth,_,.single (.nested here inside),by simp [unobserved,baseEventsBase,sameOperation]⟩
    · obtain ⟨o,log',run,same⟩ := @openingRuns _ _ _ _ _ _ _ ops instruments behaves isolated responsive st depth _
        (openReturns _) frames 1 log
      exact ⟨_,_,1,_,.head (.observe here inside) (run.tail (.opened here)),
        by simp [unobserved,baseEventsBase,sameOperation,same]⟩
  | @finish _ out resume _ _ here =>
    cases frames with
    | nil => cases view
    | cons frame frames =>
      cases view
      obtain ⟨resume,observed⟩ := frame
      cases observed with
      | none => exact ⟨_,frames,depth,_,.single (.finish here),by simp only [unobserved,baseEventsBase]⟩
      | some observed =>
        obtain ⟨o,token⟩ := observed
        obtain ⟨log',run,same⟩ := @closingRuns _ _ _ _ _ _ _ ops instruments behaves isolated responsive out resume token
          _ (closeKeeps instruments o out) frames depth (log ++ [.base (.ended out)])
        exact ⟨_,frames,token,log',.head (.close here) run,by simp [unobserved,baseEventsBase,same]⟩

theorem runObserved (isolated : Isolating behaves) (responsive : Responsive behaves) {host : σ} (depth : Nat)
    {d : Nested.Config S Reply BaseCall ExceptionObject V σ}
    (run : Nested.Reaches BatchAPIClient.receive ops ⟨host,[],[]⟩ d) :
    ∃ st frames depth' log, Reaches ops instruments behaves (started host depth) ⟨.running st,frames,depth',log⟩ ∧
      unobserved ⟨.running st,frames,depth',log⟩ = d := by
  induction run with
  | refl => exact ⟨host,[],depth,[],.refl,rfl⟩
  | tail _ step ih =>
    obtain ⟨st,frames,depth',log,reached,rfl⟩ := ih
    obtain ⟨st',frames',depth'',log',further,same⟩ := stepObserved isolated responsive step
    exact ⟨st',frames',depth'',log',reached.trans further,same⟩

def Nesting (depth₀ : Nat) : List (Frame Obj Clock V σ) → Nat → Prop
  | [], depth => depth = depth₀
  | ⟨_,none⟩ :: frames, depth => 0 < depth ∧ Nesting depth₀ frames depth
  | ⟨_,some (_,token)⟩ :: frames, depth => depth = 1 ∧ token = 0 ∧ Nesting depth₀ frames token

def Depths (depth₀ : Nat) : Observed S Reply Obj Clock V σ → Prop
  | ⟨.running _,frames,depth,_⟩ => Nesting depth₀ frames depth
  | ⟨.opening _ token _,frames,depth,_⟩ => depth = 1 ∧ token = 0 ∧ Nesting depth₀ frames token
  | ⟨.closing _ _ token _,frames,depth,_⟩ => depth = 1 ∧ token = 0 ∧ Nesting depth₀ frames token

omit [Sub Clock] in
theorem nestingDepth {depth₀ depth : Nat} {frames : List (Frame Obj Clock V σ)} (nesting : Nesting depth₀ frames depth) :
    depth = if frames = [] then depth₀ else max depth₀ 1 := by
  induction frames generalizing depth with
  | nil => exact nesting
  | cons frame frames ih =>
    rw [if_neg (List.cons_ne_nil _ _)]
    obtain ⟨resume,observed⟩ := frame
    cases observed with
    | none =>
      have below := ih nesting.2
      have positive := nesting.1
      split at below <;> omega
    | some observed =>
      obtain ⟨one,zero,nested⟩ := nesting
      have below := ih nested
      split at below <;> omega

theorem stepDepths {depth₀ : Nat} {c c' : Observed S Reply Obj Clock V σ} (step : Step ops instruments behaves c c')
    (depths : Depths depth₀ c) : Depths depth₀ c' := by
  cases step with
  | nested here inside => exact ⟨inside,depths⟩
  | observe here outside => exact ⟨rfl,by omega,depths⟩
  | openingRaised here => exact depths.2.2
  | finish here => exact depths.2
  | closed => exact depths.2.2
  | closingRaised => exact depths.2.2
  | _ => exact depths

theorem runDepths {host : σ} {depth₀ : Nat} {c : Observed S Reply Obj Clock V σ}
    (run : Reaches ops instruments behaves (started host depth₀) c) : Depths depth₀ c := by
  induction run with
  | refl => exact rfl
  | tail _ step ih => exact stepDepths step ih

def telling : Program.Spec (TelemetryCall Obj Clock) TelemetryReply (List (TelemetryEvent Obj Clock)) :=
  fun t told Q => ∀ reply, Working t reply → Q reply (told ++ [⟨t,reply⟩])

structure Spanned (Obj Clock : Type) where
  op : PublicCall
  startedAt : Clock
  spanContext : Obj
  span : Obj

namespace Spanned

def observation (s : Spanned Obj Clock) : OperationObservation Obj Clock :=
  ⟨operationName s.op,s.startedAt,some s.spanContext,some s.span,true⟩

def opening (s : Spanned Obj Clock) : List (TelemetryEvent Obj Clock) :=
  [⟨.perfCounter,s.startedAt⟩,
   ⟨.startAsCurrentSpan ("pg_llm_batch." ++ operationName s.op) false false,.ok (some s.spanContext)⟩,
   ⟨.enter s.spanContext,.ok (some s.span)⟩,
   ⟨.signal (.setAttribute s.span "pg_llm_batch.operation.name" (operationName s.op)),.ok ()⟩]

def measured (s : Spanned Obj Clock) (now : Clock) (attributes : Attributes) : List (TelemetryEvent Obj Clock) :=
  [⟨.signal (.add 1 attributes),.ok ()⟩,⟨.perfCounter,now⟩,⟨.signal (.record (now - s.startedAt) attributes),.ok ()⟩,
   ⟨.signal (.exit s.spanContext),.ok ()⟩]

def closing (s : Spanned Obj Clock) (now : Clock) : Except ExceptionObject V → List (TelemetryEvent Obj Clock)
  | .ok _ => s.measured now [("pg_llm_batch.operation.name",operationName s.op),
      ("pg_llm_batch.operation.outcome","success")]
  | .error exc =>
      ⟨.signal (.setAttribute s.span "error.type" (boundedErrorType exc)),.ok ()⟩ ::
      ⟨.signal (.setErrorStatus s.span),.ok ()⟩ ::
      s.measured now [("pg_llm_batch.operation.name",operationName s.op),("pg_llm_batch.operation.outcome","error"),
        ("error.type",boundedErrorType exc)]

end Spanned

omit [Sub Clock] in
theorem openTells (op : PublicCall) :
    (openObservation (operationName op) : TelemetryProgram Obj Clock (OperationObservation Obj Clock)).wp telling []
      (fun r told => ∃ s : Spanned Obj Clock, s.op = op ∧ r = .ok s.observation ∧ told = s.opening) := by
  intro startedAt _ reply working
  obtain ⟨spanContext,rfl⟩ := working
  intro reply working
  obtain ⟨span,rfl⟩ := working
  intro reply working
  cases working
  exact ⟨⟨op,startedAt,spanContext,span⟩,rfl,rfl,rfl⟩

theorem closeTells (s : Spanned Obj Clock) (out : Except ExceptionObject V) :
    (closeObservation ⟨.injected,.injected⟩ s.observation out).wp telling []
      (fun r told => r = out ∧ ∃ now, told = s.closing now out) := by
  cases out with
  | error exc =>
    intro reply working
    cases working
    intro reply working
    cases working
    intro reply working
    cases working
    intro now _ reply working
    cases working
    intro reply working
    cases working
    exact ⟨rfl,now,rfl⟩
  | ok result =>
    intro reply working
    cases working
    intro now _ reply working
    cases working
    intro reply working
    cases working
    exact ⟨rfl,now,rfl⟩

def Silent (log : List (ObservedEvent S Reply Obj Clock V)) : Prop := ∀ e ∈ log, ∃ b, e = .base b

-- Where no operation runs: each one so far has its own span, count and duration, and what it ran
-- inside has none.
inductive Measured : List (ObservedEvent S Reply Obj Clock V) → Prop where
  | nil : Measured []
  | external {log} (earlier : Measured log) (e : Loop.Event S Reply) : Measured (log ++ [.base (.external e)])
  | operation {log inside} (earlier : Measured log) (s : Spanned Obj Clock) (silent : Silent inside) (now : Clock)
      (out : Except ExceptionObject V) :
      Measured (log ++ s.opening.map .telemetry ++ .base (.began (operation s.op)) :: inside ++
        .base (.ended out) :: (s.closing now out).map .telemetry)

def Begun (s : Spanned Obj Clock) (log : List (ObservedEvent S Reply Obj Clock V)) : Prop :=
  ∃ before inside, Measured before ∧ Silent inside ∧
    log = before ++ s.opening.map .telemetry ++ .base (.began (operation s.op)) :: inside

omit [Sub Clock] in
theorem silentJoined {log : List (ObservedEvent S Reply Obj Clock V)} (silent : Silent log) (b : BaseEvent S Reply V) :
    Silent (log ++ [.base b]) := by
  intro e here
  rcases List.mem_append.mp here with earlier | last
  · exact silent e earlier
  · exact ⟨b,List.mem_singleton.mp last⟩

theorem begunJoined {s : Spanned Obj Clock} {log : List (ObservedEvent S Reply Obj Clock V)} (begun : Begun s log)
    (b : BaseEvent S Reply V) : Begun s (log ++ [.base b]) := by
  obtain ⟨before,inside,measured,silent,rfl⟩ := begun
  exact ⟨before,inside ++ [.base b],measured,silentJoined silent b,by simp⟩

def outermost (frames : List (Frame Obj Clock V σ)) : Option (OperationObservation Obj Clock) :=
  frames.getLast?.bind (fun frame => frame.observed.map Prod.fst)

variable (ops) in
inductive Measuring : Observed S Reply Obj Clock V σ → Prop where
  | outside {st depth log} (measured : Measured log) : Measuring ⟨.running st,[],depth,log⟩
  | opening {st op resume token p depth log before told} (here : ops.next st = .dispatch op resume)
      (measured : Measured before) (rest : p.wp telling told
        (fun r told => ∃ s : Spanned Obj Clock, s.op = op ∧ r = .ok s.observation ∧ told = s.opening))
      (so : log = before ++ told.map .telemetry) : Measuring ⟨.opening st token p,[],depth,log⟩
  | inside {st frames depth log} (s : Spanned Obj Clock) (last : outermost frames = some s.observation)
      (begun : Begun s log) : Measuring ⟨.running st,frames,depth,log⟩
  | closing {out resume token p depth log before told} (s : Spanned Obj Clock) (begun : Begun s before)
      (rest : p.wp telling told (fun r told => r = out ∧ ∃ now, told = s.closing now out))
      (so : log = before ++ .base (.ended out) :: told.map .telemetry) :
      Measuring ⟨.closing out resume token p,[],depth,log⟩

omit [Sub Clock] in
theorem insideDeep {frames : List (Frame Obj Clock V σ)} {depth : Nat} {o : OperationObservation Obj Clock}
    (nesting : Nesting 0 frames depth) (last : outermost frames = some o) : 0 < depth := by
  have depth_ := nestingDepth nesting
  cases frames with
  | nil => cases last
  | cons frame frames =>
    rw [if_neg (List.cons_ne_nil _ _)] at depth_
    omega

omit [Sub Clock] in
theorem outermostBelow {frames : List (Frame Obj Clock V σ)} (frame : Frame Obj Clock V σ) (below : frames ≠ []) :
    outermost (frame :: frames) = outermost frames := by
  cases frames with
  | nil => exact absurd rfl below
  | cons next frames => rw [outermost,outermost,List.getLast?_cons_cons]

omit [Sub Clock] in
theorem noneBelow {frames : List (Frame Obj Clock V σ)} (nesting : Nesting 0 frames 0) : frames = [] := by
  by_contra below
  have depth_ := nestingDepth nesting
  rw [if_neg below] at depth_
  omega

theorem stepMeasuring (working : ∀ log t reply, behaves log t reply → Working t reply)
    {c c' : Observed S Reply Obj Clock V σ} (step : Step ops ⟨.injected,.injected⟩ behaves c c') (depths : Depths 0 c)
    (measuring : Measuring ops c) : Measuring ops c' := by
  cases step with
  | internal here =>
    cases measuring with
    | outside measured => exact .outside measured
    | inside s last begun => exact .inside s last begun
  | call here reply =>
    cases measuring with
    | outside measured => exact .outside (.external measured _)
    | inside s last begun => exact .inside s last (begunJoined begun _)
  | nested here inside =>
    cases measuring with
    | outside measured =>
      have zero : _ = 0 := depths
      omega
    | inside s last begun =>
      refine .inside s ((outermostBelow _ ?_).trans last) (begunJoined begun _)
      rintro rfl
      cases last
  | observe here outside =>
    cases measuring with
    | outside measured => exact .opening here measured (openTells _) (List.append_nil _).symm
    | inside s last begun => exact absurd (insideDeep depths last) outside
  | opening reply behaved =>
    cases measuring with
    | opening here measured rest so =>
      subst so
      exact .opening here measured (rest reply (working _ _ _ behaved)) (by simp)
  | opened here =>
    cases measuring with
    | opening here' measured rest so =>
      obtain ⟨s,rfl,same,rfl⟩ := rest
      cases same
      injection here.symm.trans here' with same
      subst same so
      exact .inside s rfl ⟨_,[],measured,fun e none_ => absurd none_ List.not_mem_nil,rfl⟩
  | openingRaised here =>
    cases measuring with
    | opening here' measured rest so =>
      obtain ⟨s,-,same,-⟩ := rest
      cases same
  | finish here =>
    cases measuring with
    | inside s last begun =>
      refine .inside s ((outermostBelow _ ?_).symm.trans last) (begunJoined begun _)
      rintro rfl
      have zero : _ = 0 := depths.2
      exact absurd depths.1 (by omega)
  | close here =>
    cases measuring with
    | inside s last begun =>
      obtain ⟨-,rfl,nesting⟩ := depths
      cases noneBelow nesting
      cases Option.some.inj last
      exact .closing s begun (closeTells s _) rfl
  | closing reply behaved =>
    cases measuring with
    | closing s begun rest so =>
      subst so
      exact .closing s begun (rest reply (working _ _ _ behaved)) (by simp)
  | closed =>
    cases measuring with
    | closing s begun rest so =>
      obtain ⟨rfl,now,rfl⟩ := rest
      obtain ⟨before,inside,measured,silent,rfl⟩ := begun
      subst so
      exact .outside (.operation measured s silent now _)
  | closingRaised =>
    cases measuring with
    | closing s begun rest so =>
      obtain ⟨rfl,now,rfl⟩ := rest
      obtain ⟨before,inside,measured,silent,rfl⟩ := begun
      subst so
      exact .outside (.operation measured s silent now _)

theorem runMeasuring (working : ∀ log t reply, behaves log t reply → Working t reply) {host : σ}
    {c : Observed S Reply Obj Clock V σ} (run : Reaches ops ⟨.injected,.injected⟩ behaves (started host 0) c) :
    Measuring ops c := by
  induction run with
  | refl => exact .outside .nil
  | tail run step ih => exact stepMeasuring working step (runDepths run) ih

theorem measuredOutside {st : σ} {depth : Nat} {log : List (ObservedEvent S Reply Obj Clock V)}
    (measuring : Measuring ops ⟨.running st,[],depth,log⟩) : Measured log := by
  cases measuring with
  | outside measured => exact measured
  | inside s last begun => cases last

theorem begunInside {st : σ} {frames : List (Frame Obj Clock V σ)} {depth : Nat}
    {log : List (ObservedEvent S Reply Obj Clock V)} (measuring : Measuring ops ⟨.running st,frames,depth,log⟩)
    (inside : frames ≠ []) : ∃ s, Begun s log := by
  cases measuring with
  | outside measured => exact absurd rfl inside
  | inside s last begun => exact ⟨s,begun⟩

end

theorem instrumentsCreated {Obj Clock : Type} :
    (createInstruments : TelemetryProgram Obj Clock Instruments).wp telling [] (fun r _ => r = .ok ⟨.injected,.injected⟩) := by
  intro reply working
  cases working
  intro reply working
  cases working
  rfl

structure Transparent {S : Type} {Reply : S → Type} {V σ : Type} (Obj Clock : Type) [Sub Clock]
    (ops : Nested.Operations S Reply PublicCall BaseCall ExceptionObject V σ) : Prop where
  constructed : Returns (createInstruments : TelemetryProgram Obj Clock Instruments)
  observes : ∀ (instruments : Instruments) (behaves : Telemetry S Reply Obj Clock V), Isolating behaves →
    ∀ host depth c, Reaches ops instruments behaves (started host depth) c →
      Nested.Reaches BatchAPIClient.receive ops ⟨host,[],[]⟩ (unobserved c)
  follows : ∀ (instruments : Instruments) (behaves : Telemetry S Reply Obj Clock V), Isolating behaves →
    Responsive behaves → ∀ host depth d, Nested.Reaches BatchAPIClient.receive ops ⟨host,[],[]⟩ d →
      ∃ st frames depth' log, Reaches ops instruments behaves (started host depth) ⟨.running st,frames,depth',log⟩ ∧
        unobserved ⟨.running st,frames,depth',log⟩ = d
  restored : ∀ (instruments : Instruments) (behaves : Telemetry S Reply Obj Clock V) (host : σ) depth st frames depth' log,
    Reaches ops instruments behaves (started host depth) ⟨.running st,frames,depth',log⟩ →
      depth' = if frames = [] then depth else max depth 1
  instrumented : (createInstruments : TelemetryProgram Obj Clock Instruments).wp telling []
    (fun r _ => r = .ok ⟨.injected,.injected⟩)
  measured : ∀ (behaves : Telemetry S Reply Obj Clock V), (∀ log t reply, behaves log t reply → Working t reply) →
    ∀ (host : σ) st depth log,
      Reaches ops ⟨.injected,.injected⟩ behaves (started host 0) ⟨.running st,[],depth,log⟩ → Measured log
  unfinished : ∀ (behaves : Telemetry S Reply Obj Clock V), (∀ log t reply, behaves log t reply → Working t reply) →
    ∀ (host : σ) st frames depth log, frames ≠ [] →
      Reaches ops ⟨.injected,.injected⟩ behaves (started host 0) ⟨.running st,frames,depth,log⟩ → ∃ s, Begun s log

end OpenTelemetryBatchAPIClient

theorem telemetryTransparent {S : Type} {Reply : S → Type} {V σ : Type} (Obj Clock : Type) [Sub Clock]
    (ops : Nested.Operations S Reply PublicCall BaseCall ExceptionObject V σ) :
    OpenTelemetryBatchAPIClient.Transparent Obj Clock ops where
  constructed := OpenTelemetryBatchAPIClient.createReturns
  observes _ _ isolated _ _ _ run := (OpenTelemetryBatchAPIClient.runUnobserved isolated run).2
  follows _ _ isolated responsive _ depth _ run := OpenTelemetryBatchAPIClient.runObserved isolated responsive depth run
  restored _ _ _ _ _ _ _ _ run := OpenTelemetryBatchAPIClient.nestingDepth (OpenTelemetryBatchAPIClient.runDepths run)
  instrumented := OpenTelemetryBatchAPIClient.instrumentsCreated
  measured _ working _ _ _ _ run :=
    OpenTelemetryBatchAPIClient.measuredOutside (OpenTelemetryBatchAPIClient.runMeasuring working run)
  unfinished _ working _ _ _ _ _ inside run :=
    OpenTelemetryBatchAPIClient.begunInside (OpenTelemetryBatchAPIClient.runMeasuring working run) inside

inductive PollingTask where | before | polling | after

def pollOnce : Nested.Operations Empty (fun _ => Unit) PublicCall BaseCall ExceptionObject Unit PollingTask where
  start _ := .polling
  next
    | .before => .dispatch (.getBatchStatus (py "batch-1") (py "primary")) (fun _ => .after)
    | .polling => .finish (.ok ())
    | .after => .finish (.ok ())

open OpenTelemetryBatchAPIClient in
theorem pollMeasured : ∃ log, Reaches pollOnce ⟨.injected,.injected⟩ (fun _ t reply => @Working Unit Int t reply)
    (started .before 0) ⟨.running .after,[],0,log⟩ ∧ Measured log ∧
      baseEvents log = [.began (.getBatchStatus (py "batch-1") (py "primary")),.ended (.ok ())] := by
  have isolated : Isolating (fun (_ : List (ObservedEvent Empty (fun _ => Unit) Unit Int Unit)) t reply =>
      @Working Unit Int t reply) := by
    intro _ t reply working
    cases t with
    | perfCounter => trivial
    | startAsCurrentSpan name recordException setStatusOnException =>
      obtain ⟨spanContext,rfl⟩ := working
      exact nofun
    | enter spanContext =>
      obtain ⟨span,rfl⟩ := working
      exact nofun
    | signal s =>
      cases working
      exact nofun
  have responsive : Responsive (fun (_ : List (ObservedEvent Empty (fun _ => Unit) Unit Int Unit)) t reply =>
      @Working Unit Int t reply) := by
    intro _ t
    cases t with
    | perfCounter => exact ⟨(0 : Int),trivial⟩
    | startAsCurrentSpan name recordException setStatusOnException => exact ⟨.ok (some ()),(),rfl⟩
    | enter spanContext => exact ⟨.ok (some ()),(),rfl⟩
    | signal s => exact ⟨.ok (),rfl⟩
  have transparent := telemetryTransparent Unit Int pollOnce
  have polled : pollOnce.next .before = .dispatch (.getBatchStatus (py "batch-1") (py "primary")) (fun _ => .after) := rfl
  have began : Nested.Step BatchAPIClient.receive pollOnce ⟨.before,[],[]⟩ ⟨.polling,[fun _ => .after],
      [.began (.getBatchStatus (py "batch-1") (py "primary"))]⟩ := .dispatch polled
  have ended : Nested.Step BatchAPIClient.receive pollOnce ⟨.polling,[fun _ => .after],
      [.began (.getBatchStatus (py "batch-1") (py "primary"))]⟩ ⟨.after,[],
      [.began (.getBatchStatus (py "batch-1") (py "primary")),.ended (.ok ())]⟩ := .finish rfl
  obtain ⟨st,frames,depth,log,run,same⟩ := transparent.follows ⟨.injected,.injected⟩ _ isolated responsive .before 0 _
    ((Relation.ReflTransGen.single began).tail ended)
  obtain ⟨rfl,none_,base⟩ := Nested.Config.mk.inj same
  cases List.map_eq_nil_iff.mp none_
  cases transparent.restored _ _ _ _ _ _ _ _ run
  exact ⟨log,run,transparent.measured _ (fun _ _ _ working => working) _ _ _ _ run,base⟩

end PgLlmBatch

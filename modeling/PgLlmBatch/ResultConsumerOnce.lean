import PgLlmBatch.ResultConsumer

/-! A consumer that starts again from its durable checkpoint after any stop. Over all its runs every
record of the first file is applied once and in order; an item of a second file is refused for good. -/
namespace PgLlmBatch
open Base
open Base.RowLocking

theorem firstHolds {α : Type} {p : α → Bool} {xs : List α} {n : Nat} {x : α} (here : xs[n]? = some x)
    (reached : n ≤ (xs.takeWhile p).length) : p x = true ↔ n < (xs.takeWhile p).length := by
  induction xs generalizing n with
  | nil => cases here
  | cons y ys ih =>
    by_cases holds : p y = true
    · rw [List.takeWhile_cons_of_pos holds,List.length_cons] at reached ⊢
      cases n with
      | zero =>
        cases here
        exact iff_of_true holds (Nat.succ_pos _)
      | succ n => exact (ih here (Nat.le_of_succ_le_succ reached)).trans Nat.succ_lt_succ_iff.symm
    · rw [List.takeWhile_cons_of_neg holds] at reached ⊢
      cases Nat.le_zero.mp reached
      cases here
      exact iff_of_false holds (Nat.lt_irrefl _)

def firstFile : Items → Items
  | [] => []
  | first::later => first::later.takeWhile (fun item => sameFile first.checkpoint item.checkpoint)

def previousOf (items : Items) (n : Nat) : Option BatchResultCheckpoint := (items.take n).getLast?.map (·.checkpoint)

theorem previousNext {items : Items} {n : Nat} {item : CheckpointedBatchResultRecord} (here : items[n]? = some item) :
    previousOf items (n + 1) = some item.checkpoint := by
  unfold previousOf
  rw [List.take_add_one,here,Option.toList_some,List.getLast?_concat]
  rfl

theorem previousHere {items : Items} {n : Nat} {c : BatchResultCheckpoint} (h : previousOf items n = some c)
    (within : n ≤ items.length) : ∃ k item, n = k + 1 ∧ items[k]? = some item ∧ item.checkpoint = c := by
  cases n with
  | zero => cases h
  | succ k =>
    have here := List.getElem?_eq_getElem within
    rw [previousNext here] at h
    exact ⟨k,_,rfl,here,Option.some.inj h⟩

theorem sameFileIff {a b : BatchResultCheckpoint} : sameFile a b = true ↔
    a.batchId = b.batchId ∧ a.endpointAlias = b.endpointAlias ∧ a.fileKind = b.fileKind ∧ a.fileId = b.fileId := by
  unfold sameFile
  simp only [Bool.and_eq_true,beq_iff_eq,and_assoc]

theorem firstFileWithin (items : Items) : firstFile items <+: items := by
  cases items with
  | nil => exact List.prefix_rfl
  | cons first later => exact List.cons_prefix_cons.mpr ⟨rfl,List.takeWhile_prefix _⟩

theorem firstFileShares {first item : CheckpointedBatchResultRecord} {later : Items} {n : Nat}
    (here : (first::later)[n]? = some item) (within : n < (firstFile (first::later)).length) :
    sameFile first.checkpoint item.checkpoint = true := by
  cases n with
  | zero =>
    cases here
    exact sameFileIff.mpr ⟨rfl,rfl,rfl,rfl⟩
  | succ n =>
    have later_ : later[n]? = some item := here
    have reached : n < (later.takeWhile (fun item => sameFile first.checkpoint item.checkpoint)).length :=
      Nat.lt_of_succ_lt_succ within
    exact (firstHolds later_ (Nat.le_of_lt reached)).mpr reached

theorem admittedFirst {items : Items} {n : Nat} {item : CheckpointedBatchResultRecord} (here : items[n]? = some item)
    (reached : n ≤ (firstFile items).length) :
    admits item (previousOf items n) = true ↔ n < (firstFile items).length := by
  cases items with
  | nil => cases here
  | cons first later =>
    cases n with
    | zero => exact iff_of_true rfl (Nat.succ_pos _)
    | succ n =>
      have before : n < (first::later).length := lt_of_lt_of_le reached (firstFileWithin _).length_le
      have shares := firstFileShares (List.getElem?_eq_getElem before) reached
      obtain ⟨batch,endpoint,kind,fileId⟩ := sameFileIff.mp shares
      have chained : admits item (previousOf (first::later) (n + 1)) = sameFile first.checkpoint item.checkpoint := by
        rw [previousNext (List.getElem?_eq_getElem before)]
        refine Bool.eq_iff_iff.mpr ((sameFileIff.trans ?_).trans sameFileIff.symm)
        rw [batch,endpoint,kind,fileId]
      have later_ : later[n]? = some item := here
      rw [chained]
      exact (firstHolds later_ (Nat.le_of_succ_le_succ reached)).trans Nat.succ_lt_succ_iff.symm

section
variable {w : ResultConsumer} {p : Provider}

abbrev ResultConsumer.items (w : ResultConsumer) (p : Provider) : Items := (w.stream p none).yields

-- `rows` are those of the start, and `bad` says that some callback has not returned None.
structure Consumed (w : ResultConsumer) (items : Items) (rows : CheckpointRows) (bad : Prop) (n : Nat) (s : ConsumerState) :
    Prop where
  row : s.rows w.key = (previousOf items n).map checkpointValues
  others : ∀ k, k ≠ w.key → s.rows k = rows k
  effects : s.effects = (items.take n).map (·.record)
  reading : s.reading = none ∨ s.reading = some ⟨items.drop n,.ok ()⟩
  within : n ≤ (firstFile items).length
  failures : ∀ e ∈ s.failures, bad ∨ e = .resultApplication "checkpoint_load" ∧ n = (firstFile items).length ∧
    n < items.length
  finished : s.finished = true → n = items.length

theorem streamNamed {batchId endpointAlias : PyStr} {start : StreamStart}
    (h : streamStart p batchId endpointAlias none = .ok start) :
    validateRemoteResourceId (.str batchId) "batch_id" = .ok batchId ∧
      validateEndpointAlias (.str endpointAlias) = .ok endpointAlias ∧ bindText endpointAlias = .ok endpointAlias := by
  have header := (streamStarted h).hashed
  unfold newCheckpointHasher at header
  obtain ⟨domain,-,header⟩ := Fallible.bindOk.mp header
  obtain ⟨batchBytes,-,header⟩ := Fallible.bindOk.mp header
  obtain ⟨hashed,-,header⟩ := Fallible.bindOk.mp header
  obtain ⟨aliasBytes,encoded,-⟩ := Fallible.bindOk.mp header
  unfold streamStart at h
  obtain ⟨validated,valid,checked⟩ := Fallible.bindOk.mp h
  obtain ⟨normalized,trimmed,named⟩ := Fallible.bindOk.mp checked
  have own : validated = batchId := Json.str.inj (validIdentifier valid).1.symm
  subst own
  dsimp only at named
  split at named
  · cases named
  · rename_i same
    have own : normalized = endpointAlias := not_not.mp same
    subst own
    refine ⟨valid,trimmed,?_⟩
    unfold encodeText at encoded
    unfold bindText
    split at encoded
    · rename_i bytes spelled
      rw [spelled]
      rfl
    · cases encoded

theorem namedConsumer (consumer : validateCheckpointConsumerName (.str w.consumerName) = .ok w.consumerName)
    (completes : (w.stream p none).ended = .ok ()) : NamedConsumer w := by
  unfold ResultConsumer.stream at completes
  cases started : streamStart p w.batchId w.endpointAlias none with
  | error e =>
    rw [checkpointedStarts,started] at completes
    cases completes
  | ok start =>
    obtain ⟨batch,endpoint,text⟩ := streamNamed started
    refine ⟨consumer,?_,?_,text⟩
    · unfold validatedBatchId
      rw [batch]
    · unfold validatedExactEndpointAlias
      rw [endpoint]
      exact if_neg (not_not.mpr rfl)

theorem itemAdvances (fits : (w.limits.maxJsonlPhysicalLines : Int) ≤ postgresBigintMax) {n : Nat}
    {item : CheckpointedBatchResultRecord} (here : (w.items p)[n]? = some item) :
    Advances w (previousOf (w.items p) n) item.checkpoint := by
  have placed := Generator.goodAt itemsPlaced here
  obtain ⟨batch,endpoint,count,-⟩ := checkpointDigests here
  refine ⟨batch,endpoint,le_trans placed.bounded fits,?_,?_⟩
  · intro before standing
    obtain ⟨k,earlier,rfl,there,rfl⟩ := previousHere standing (List.getElem?_eq_some_iff.mp here).1.le
    exact le_trans (Generator.goodAt itemsPlaced there).bounded fits
  · intro before standing
    obtain ⟨k,earlier,rfl,there,rfl⟩ := previousHere standing (List.getElem?_eq_some_iff.mp here).1.le
    obtain ⟨-,-,count',-⟩ := checkpointDigests there
    refine ⟨by omega,placed.later earlier ?_⟩
    show earlier ∈ [] ++ (w.items p).take (k + 1)
    rw [List.nil_append,List.take_add_one,there]
    exact List.mem_append_right _ (List.mem_singleton.mpr rfl)

theorem consumedStanding {rows : CheckpointRows} {bad : Prop} {n : Nat} {s : ConsumerState}
    (consumed : Consumed w (w.items p) rows bad n s) : Standing w s.rows (previousOf (w.items p) n) where
  row := consumed.row
  own c standing := by
    have within := le_trans consumed.within (firstFileWithin (w.items p)).length_le
    obtain ⟨k,item,-,there,rfl⟩ := previousHere standing within
    obtain ⟨batch,endpoint,-⟩ := checkpointDigests there
    exact ⟨batch,endpoint⟩

section
variable {rows : CheckpointRows} {bad : Prop} {n : Nat} {s : ConsumerState}

theorem consumedFailed (consumed : Consumed w (w.items p) rows bad n s) {e : PyError}
    (why : bad ∨ e = .resultApplication "checkpoint_load" ∧ n = (firstFile (w.items p)).length ∧ n < (w.items p).length) :
    Consumed w (w.items p) rows bad n (s.failed e) where
  row := consumed.row
  others := consumed.others
  effects := consumed.effects
  reading := .inl rfl
  within := consumed.within
  failures e' here := by
    rcases List.mem_append.mp here with old | new
    · exact consumed.failures e' old
    · rw [List.mem_singleton.mp new]
      exact why
  finished := consumed.finished

theorem resumedItems (completes : (w.stream p none).ended = .ok ()) (within : n ≤ (w.items p).length) {q : Provider}
    (rechunked : p.Rechunked q) : w.stream q (previousOf (w.items p) n) = ⟨(w.items p).drop n,.ok ()⟩ := by
  have own : w.stream p (previousOf (w.items p) n) = ⟨(w.items p).drop n,.ok ()⟩ := by
    cases n with
    | zero =>
      show w.stream p none = ⟨(w.stream p none).yields,.ok ()⟩
      rw [← completes]
    | succ k =>
      have here := List.getElem?_eq_getElem within
      rw [previousNext here,← completes]
      exact resumedStream here
  rw [← own]
  exact rechunkedStream rechunked (congrArg Generator.ended own)

variable (named : NamedConsumer w) (completes : (w.stream p none).ended = .ok ())
  (fits : (w.limits.maxJsonlPhysicalLines : Int) ≤ postgresBigintMax)

include named completes in
theorem begun (consumed : Consumed w (w.items p) rows bad n s) {q : Provider} (rechunked : p.Rechunked q) :
    w.begin q s = {s with reading := some ⟨(w.items p).drop n,.ok ()⟩} := by
  have within := le_trans consumed.within (firstFileWithin (w.items p)).length_le
  unfold ResultConsumer.begin
  rw [loadTransacted _ named (consumedStanding consumed)]
  simp only [resumedItems completes within rechunked]

theorem consumedBegun (consumed : Consumed w (w.items p) rows bad n s) :
    Consumed w (w.items p) rows bad n {s with reading := some ⟨(w.items p).drop n,.ok ()⟩} :=
  {consumed with reading := .inr rfl}

section
variable {item : CheckpointedBatchResultRecord} (later : Generator CheckpointedBatchResultRecord PyError Unit)
  (here : (w.items p)[n]? = some item)
include named fits here

theorem takenRefused (consumed : Consumed w (w.items p) rows bad n s) (last : n = (firstFile (w.items p)).length)
    (answer : EffectAnswer) : w.take answer item later s = s.failed (.resultApplication "checkpoint_load") := by
  have refused : admits item (previousOf (w.items p) n) = false := by
    rw [Bool.eq_false_iff,ne_eq,admittedFirst here consumed.within]
    exact not_lt.mpr last.ge
  unfold ResultConsumer.take
  rw [refusedTransacted answer named (consumedStanding consumed) (itemAdvances fits here)
    (Generator.goodAt itemsPlaced here).own refused]

theorem takenFailed (consumed : Consumed w (w.items p) rows bad n s) (more : n < (firstFile (w.items p)).length)
    {answer : EffectAnswer} (raised : answer ≠ .returnedNone) : ∃ e, w.take answer item later s = s.failed e := by
  obtain ⟨e,failed⟩ := failedTransacted answer named (consumedStanding consumed) (itemAdvances fits here)
    (Generator.goodAt itemsPlaced here).own ((admittedFirst here consumed.within).mpr more) raised
  refine ⟨e,?_⟩
  unfold ResultConsumer.take
  rw [failed]

theorem takenApplied (consumed : Consumed w (w.items p) rows bad n s) (more : n < (firstFile (w.items p)).length) :
    w.take .returnedNone item later s = {s with
      rows := Function.update s.rows w.key (some (checkpointValues item.checkpoint))
      effects := s.effects ++ [item.record]
      reading := some later} := by
  unfold ResultConsumer.take
  rw [appliedTransacted named (consumedStanding consumed) (itemAdvances fits here)
    (Generator.goodAt itemsPlaced here).own ((admittedFirst here consumed.within).mpr more)]

end

theorem consumedApplied (consumed : Consumed w (w.items p) rows bad n s) {item : CheckpointedBatchResultRecord}
    (here : (w.items p)[n]? = some item) (more : n < (firstFile (w.items p)).length) :
    Consumed w (w.items p) rows bad (n + 1) {s with
      rows := Function.update s.rows w.key (some (checkpointValues item.checkpoint))
      effects := s.effects ++ [item.record]
      reading := some ⟨(w.items p).drop (n + 1),.ok ()⟩} where
  row := by
    rw [previousNext here]
    exact Function.update_self _ _ _
  others k other := (Function.update_of_ne other _ _).trans (consumed.others k other)
  effects := by
    rw [consumed.effects,List.take_add_one,here,List.map_append]
    rfl
  reading := .inr rfl
  within := more
  failures e mem := by
    rcases consumed.failures e mem with known | ⟨-,last,-⟩
    · exact .inl known
    · exact absurd more (not_lt.mpr last.ge)
  finished done := by
    have last := consumed.finished done
    have shorter := (firstFileWithin (w.items p)).length_le
    omega

theorem consumedFinished (consumed : Consumed w (w.items p) rows bad n s) (last : n = (w.items p).length) :
    Consumed w (w.items p) rows bad n {s with reading := none, finished := true} :=
  {consumed with reading := .inl rfl, finished := fun _ => last}

theorem itemsLeft (items : Items) (n : Nat) : items.length ≤ n ∧ items.drop n = [] ∨
    ∃ item, items[n]? = some item ∧ items.drop n = item::items.drop (n + 1) := by
  by_cases more : n < items.length
  · exact .inr ⟨_,List.getElem?_eq_getElem more,List.drop_eq_getElem_cons more⟩
  · exact .inl ⟨not_lt.mp more,List.drop_eq_nil_of_le (not_lt.mp more)⟩

include named fits in
theorem consumedNext (consumed : Consumed w (w.items p) rows bad n s) {answer : EffectAnswer}
    (honest : answer ≠ .returnedNone → bad) :
    ∃ n', n ≤ n' ∧ Consumed w (w.items p) rows bad n' (w.step s (.next answer)) := by
  unfold ResultConsumer.step
  rcases consumed.reading with idle | reading
  · rw [idle]
    exact ⟨n,le_rfl,consumed⟩
  rw [reading]
  have shorter := (firstFileWithin (w.items p)).length_le
  obtain ⟨past,none_⟩ | ⟨item,here,some_⟩ := itemsLeft (w.items p) n
  · rw [none_]
    have within := consumed.within
    exact ⟨n,le_rfl,consumedFinished consumed (by omega)⟩
  · rw [some_]
    dsimp only
    by_cases more : n < (firstFile (w.items p)).length
    · by_cases fine : answer = .returnedNone
      · subst fine
        rw [takenApplied named fits _ here consumed more]
        exact ⟨n + 1,n.le_succ,consumedApplied consumed here more⟩
      · obtain ⟨e,failed⟩ := takenFailed named fits ⟨(w.items p).drop (n + 1),.ok ()⟩ here consumed more fine
        rw [failed]
        exact ⟨n,le_rfl,consumedFailed consumed (.inl (honest fine))⟩
    · have last := le_antisymm consumed.within (not_lt.mp more)
      rw [takenRefused named fits _ here consumed last]
      exact ⟨n,le_rfl,consumedFailed consumed (.inr ⟨rfl,last,(List.getElem?_eq_some_iff.mp here).1⟩)⟩

def ConsumerEvent.fair (p : Provider) (bad : Prop) : ConsumerEvent → Prop
  | .start q => p.Rechunked q
  | .next answer => answer ≠ .returnedNone → bad
  | .stop => True

include named completes fits in
theorem consumedStep (consumed : Consumed w (w.items p) rows bad n s) {event : ConsumerEvent} (fair : event.fair p bad) :
    ∃ n', n ≤ n' ∧ Consumed w (w.items p) rows bad n' (w.step s event) := by
  cases event with
  | start q =>
    refine ⟨n,le_rfl,?_⟩
    show Consumed w (w.items p) rows bad n (w.begin q s)
    rw [begun named completes consumed fair]
    exact consumedBegun consumed
  | next answer => exact consumedNext named fits consumed fair
  | stop => exact ⟨n,le_rfl,{consumed with reading := .inl rfl}⟩

include named completes fits in
theorem consumedRun {events : List ConsumerEvent} (fair : ∀ event ∈ events, event.fair p bad) (n : Nat) (s : ConsumerState)
    (consumed : Consumed w (w.items p) rows bad n s) : ∃ n', Consumed w (w.items p) rows bad n' (w.run events s) := by
  induction events generalizing n s with
  | nil => exact ⟨n,consumed⟩
  | cons event events ih =>
    obtain ⟨n',-,next⟩ := consumedStep named completes fits consumed (fair event List.mem_cons_self)
    exact ih (fun event mem => fair event (List.mem_cons_of_mem _ mem)) n' _ next

theorem idleRun (idle : s.reading = none) (m : Nat) : w.run (List.replicate m (.next .returnedNone)) s = s := by
  induction m with
  | zero => rfl
  | succ m ih =>
    have same : w.step s (.next .returnedNone) = s := by
      unfold ResultConsumer.step
      rw [idle]
    show w.run (List.replicate m _) (w.step s _) = s
    rw [same,ih]

structure RunDrained (w : ResultConsumer) (items : Items) (rows : CheckpointRows) (bad : Prop) (s : ConsumerState) : Prop where
  consumed : Consumed w items rows bad (firstFile items).length s
  finished : (firstFile items).length = items.length → s.finished = true

include named fits in
theorem runDrained (consumed : Consumed w (w.items p) rows bad n s)
    (reading : s.reading = some ⟨(w.items p).drop n,.ok ()⟩) (m : Nat) (enough : (w.items p).length < n + m) :
    RunDrained w (w.items p) rows bad (w.run (List.replicate m (.next .returnedNone)) s) := by
  have shorter := (firstFileWithin (w.items p)).length_le
  induction m generalizing n s with
  | zero =>
    have within := consumed.within
    omega
  | succ m ih =>
    show RunDrained w (w.items p) rows bad (w.run (List.replicate m _) (w.step s (.next .returnedNone)))
    unfold ResultConsumer.step
    rw [reading]
    obtain ⟨past,none_⟩ | ⟨item,here,some_⟩ := itemsLeft (w.items p) n
    · rw [none_]
      have within := consumed.within
      have last : n = (firstFile (w.items p)).length := by omega
      have done := consumedFinished consumed (show n = (w.items p).length by omega)
      rw [idleRun rfl]
      exact ⟨last ▸ done,fun _ => rfl⟩
    · rw [some_]
      dsimp only
      by_cases more : n < (firstFile (w.items p)).length
      · rw [takenApplied named fits _ here consumed more]
        exact ih (consumedApplied consumed here more) rfl (by omega)
      · have last := le_antisymm consumed.within (not_lt.mp more)
        have left := (List.getElem?_eq_some_iff.mp here).1
        rw [takenRefused named fits _ here consumed last,idleRun rfl]
        exact ⟨last ▸ consumedFailed consumed (.inr ⟨rfl,last,left⟩),fun whole => by omega⟩

end
end

def callbackFailed (events : List ConsumerEvent) : Prop := ∃ answer, .next answer ∈ events ∧ answer ≠ .returnedNone

def oneRun (p : Provider) (m : Nat) : List ConsumerEvent := .start p::List.replicate m (.next .returnedNone)

/-- Whatever stops a consumer, and however often it starts again, each record of the stream's first file is applied at
most once and in order; one run to the end applies them all, and stops for good at an item of a second file. -/
theorem consumerAppliesOnce (w : ResultConsumer) (p : Provider) (rows : CheckpointRows) (events : List ConsumerEvent)
    (named : validateCheckpointConsumerName (.str w.consumerName) = .ok w.consumerName)
    (completes : (w.stream p none).ended = .ok ())
    (fits : (w.limits.maxJsonlPhysicalLines : Int) ≤ postgresBigintMax)
    (fresh : rows w.key = none)
    (same : ∀ q, .start q ∈ events → p.Rechunked q) :
    (∃ n, Consumed w (w.items p) rows (callbackFailed events) n (w.run events (.initial rows))) ∧
      ∀ q m, p.Rechunked q → (w.items p).length < m →
        (w.run (events ++ oneRun q m) (.initial rows)).effects = (firstFile (w.items p)).map (·.record) ∧
          ((w.run (events ++ oneRun q m) (.initial rows)).finished = true ↔ firstFile (w.items p) = w.items p) := by
  have ready := namedConsumer named completes
  have start : Consumed w (w.items p) rows (callbackFailed events) 0 (.initial rows) := {
    row := fresh
    others := fun _ _ => rfl
    effects := rfl
    reading := .inl rfl
    within := Nat.zero_le _
    failures := fun _ here => absurd here List.not_mem_nil
    finished := fun done => absurd done Bool.false_ne_true}
  have fair : ∀ event ∈ events, event.fair p (callbackFailed events) := by
    intro event here
    cases event with
    | start q => exact same q here
    | next answer => exact fun raised => ⟨answer,here,raised⟩
    | stop => trivial
  obtain ⟨n,consumed⟩ := consumedRun ready completes fits fair 0 _ start
  refine ⟨⟨n,consumed⟩,fun q m rechunked enough => ?_⟩
  have ran : w.run (events ++ oneRun q m) (.initial rows) =
      w.run (List.replicate m (.next .returnedNone)) (w.begin q (w.run events (.initial rows))) :=
    List.foldl_append
  have ended : RunDrained w (w.items p) rows (callbackFailed events) (w.run (events ++ oneRun q m) (.initial rows)) := by
    rw [ran,begun ready completes consumed rechunked]
    exact runDrained ready fits (consumedBegun consumed) rfl m (by omega)
  have first := firstFileWithin (w.items p)
  refine ⟨ended.consumed.effects.trans ?_,fun done => ?_,fun whole => ended.finished (congrArg List.length whole)⟩
  · rw [← List.prefix_iff_eq_take.mp first]
  · exact first.eq_of_length (ended.consumed.finished done)

def sampleConsumer : ResultConsumer :=
  ⟨tenByteLimits,streamInterpreter,⟨defaultTenantScope,defaultScopeAccepted⟩,py "worker-1",py "batch-1",py "default"⟩

theorem sampleEnds : (sampleConsumer.stream twoRecords none).ended.isOk = true := by decide +kernel

theorem sampleCompletes : (sampleConsumer.stream twoRecords none).ended = .ok () := by
  have ends := sampleEnds
  cases ended : (sampleConsumer.stream twoRecords none).ended with
  | ok done => rfl
  | error e =>
    rw [ended] at ends
    cases ends

theorem unchangedRechunked (p : Provider) : p.Rechunked p := ⟨rfl,fun _ _ => .inl rfl⟩

theorem stoppedConsumerAppliesOnce :
    (∃ n, Consumed sampleConsumer (sampleConsumer.items twoRecords) (fun _ => none)
        (callbackFailed [.start twoRecords,.next .returnedNone,.next .raised,.stop]) n
        (sampleConsumer.run [.start twoRecords,.next .returnedNone,.next .raised,.stop] (.initial fun _ => none))) ∧
      ∀ q m, twoRecords.Rechunked q → (sampleConsumer.items twoRecords).length < m →
        (sampleConsumer.run ([.start twoRecords,.next .returnedNone,.next .raised,.stop] ++ oneRun q m)
            (.initial fun _ => none)).effects = (firstFile (sampleConsumer.items twoRecords)).map (·.record) ∧
          ((sampleConsumer.run ([.start twoRecords,.next .returnedNone,.next .raised,.stop] ++ oneRun q m)
            (.initial fun _ => none)).finished = true ↔
              firstFile (sampleConsumer.items twoRecords) = sampleConsumer.items twoRecords) :=
  consumerAppliesOnce sampleConsumer twoRecords (fun _ => none) [.start twoRecords,.next .returnedNone,.next .raised,.stop]
    (identifierAccepted _ (by decide)) sampleCompletes (by decide) rfl (fun q here => by
      have own : q = twoRecords := by simpa using here
      exact own ▸ unchangedRechunked twoRecords)

end PgLlmBatch

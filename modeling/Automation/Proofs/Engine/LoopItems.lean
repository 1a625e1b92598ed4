import Automation.Proofs.Engine.ClosingOnce
import Automation.Proofs.Engine.Halting
import Automation.Proofs.Json.Members
import Automation.Proofs.Step.Position
import Automation.Proofs.Store.Served
import Automation.Proofs.Store.Update

/-!
What a loop runs its body on: items as they are when it starts. No more records are fetched than the loop
may visit and one besides, but neither the visits nor what is told of them show that.
-/
namespace Automation

open Json (Value)

/-- A record that is not archived and meets the filters. -/
def LoopSettings.finds (settings : LoopSettings) (workspaceId objectTypeId : String)
    (doc : Document) : Bool :=
  doc.getText? "workspaceId" == some workspaceId && doc.getText? "objectTypeId" == some objectTypeId &&
    doc.get? "archived" != some (.bool true) &&
      Condition.allHold settings.filters ((doc.get? "data").getD .null)

/-- The items that a loop has in a store, however many there are. -/
inductive LoopSettings.Gives (settings : LoopSettings) (ctx : Context) (store : MemoryStore) :
    List Value → Prop
  | array {items : List Value} (source : settings.source = .array)
      (written : settings.items = some (.array items)) : Gives settings ctx store items
  | field {name id : String} {record : Document} {items : List Value}
      (source : settings.source = .field) (named : Command.nonBlank? settings.field = some name)
      (target : (Command.nonBlank? settings.recordId <|> ctx.recordId?) = some id)
      (stored : store.get? .records id = some record) (own : record.inWorkspace ctx.workspaceId)
      (held : (record.get? "data").bind (·.member? name) = some (.array items)) :
      Gives settings ctx store items
  | noField {name id : String} {record : Document} (source : settings.source = .field)
      (named : Command.nonBlank? settings.field = some name)
      (target : (Command.nonBlank? settings.recordId <|> ctx.recordId?) = some id)
      (stored : store.get? .records id = some record) (own : record.inWorkspace ctx.workspaceId)
      (absent : ((record.get? "data").bind (·.member? name)).getD .null = .null) :
      Gives settings ctx store []
  | query {objectTypeId : String} (source : settings.source = .query)
      (named : Command.nonBlank? settings.objectTypeId = some objectTypeId) :
      Gives settings ctx store
        (((store.docs .records).filter (settings.finds ctx.workspaceId objectTypeId)).map
          fun doc => (RecordSnapshot.ofDocument doc).toValue)

/-- What a loop asks the store for its items, if it asks for anything. -/
def LoopSettings.asks? (settings : LoopSettings) (ctx : Context) : Option StoreOp :=
  match settings.source with
  | .array => none
  | .field => (Command.nonBlank? settings.recordId <|> ctx.recordId?).map (.get .records)
  | .query => (Command.nonBlank? settings.objectTypeId).map fun objectTypeId =>
    .query .records (.byText [("workspaceId", ctx.workspaceId), ("objectTypeId", objectTypeId)])

/-- The steps did not all come to their end. -/
def Trace.Fails (trace : Trace) : Prop :=
  (∃ r ∈ trace.results, r.isFailed = true) ∨ ∀ ctx, trace.ending ≠ .finished ctx

/-- Rounds over items, each in the state that the one before left: all but the last went well, and so did
the last one only if the items were exhausted. -/
structure Rounds {σ : Type} (round : Value → Nat → σ → Trace × σ) (items : List Value)
    (traces : List Trace) (states : Nat → σ) : Prop where
  ran : ∀ i trace, traces[i]? = some trace →
    ∃ item, items[i]? = some item ∧ round item i (states i) = (trace, states (i + 1))
  unfailed : ∀ i trace, traces[i]? = some trace → i + 1 < traces.length → ¬ trace.Fails
  few : traces.length ≤ items.length
  exhausted : (∀ trace ∈ traces, ¬ trace.Fails) → traces.length = items.length

/-- What the output of a loop tells of its rounds. -/
structure LoopReport (truncated : Bool) (traces : List Trace) (output : Value) : Prop where
  count : output.member? "count" = some (.ofNat traces.length)
  truncated : output.member? "truncated" = some (.bool truncated)
  iterations : ∃ entries : List Value, output.member? "iterations" = some (.array entries) ∧
    entries.length = traces.length ∧ ∀ (i : Nat) (trace : Trace), traces[i]? = some trace →
      ∃ entry, entries[i]? = some entry ∧ entry.member? "index" = some (.ofNat i) ∧
        entry.member? "stepResults" = some (StepResult.encodeAll trace.results)

namespace Engine

variable {σ τ : Type} {environment : Program.Environment σ} {around : Surroundings τ}
  {engine : Engine} {ctx : Context} {settings : LoopSettings} {store : MemoryStore} {t : τ}
  {items : List Value}

theorem loopOutput_reports (truncated : Bool) (traces : List Trace) :
    LoopReport truncated traces (loopOutput truncated (traces.map (·.results))) := by
  have shown (key : String) : (loopOutput truncated (traces.map (·.results))).member? key =
      List.lookup key [("count", .ofNat (traces.map (·.results)).length),
        ("truncated", .bool truncated), ("iterations", .array ((traces.map (·.results)).mapIdx
          fun index results => .ofPairs
            [("index", .ofNat index), ("stepResults", StepResult.encodeAll results)]))] :=
    Json.Members.member?_ofPairs (by simp)
  refine ⟨?_, shown "truncated", _, shown "iterations", by simp, fun i trace there => ?_⟩
  · rw [shown, List.length_map]
    rfl
  · refine ⟨.ofPairs [("index", .ofNat i), ("stepResults", StepResult.encodeAll trace.results)],
      by simp [there], ?_, ?_⟩
    · exact Json.Members.member?_ofPairs (by simp)
    · exact Json.Members.member?_ofPairs (by simp)

/-- A loop goes on after just the iterations that do not fail. -/
theorem iterationStop_eq_none {index : Nat} {trace : Trace} :
    iterationStop index trace = none ↔ ¬ trace.Fails := by
  obtain ⟨results, ending⟩ := trace
  cases ending with
  | finished ctx =>
    simp [iterationStop, Trace.Fails, halted?_eq_none]
  | aborted e => simp [iterationStop, Trace.Fails]
  | crashed c => simp [iterationStop, Trace.Fails]

/-- The states of more rounds, after one that began in a state. -/
private def shifted (s : σ) (states : Nat → σ) : Nat → σ
  | 0 => s
  | i + 1 => states i

section Rounds

variable {round : Value → Nat → σ → Trace × σ} {item : Value} {rest : List Value} {trace : Trace}
  {traces : List Trace} {states : Nat → σ} {s : σ}

private theorem rounds_stopped (ran : round item 0 s = (trace, states 0)) (fails : trace.Fails) :
    Rounds round (item :: rest) [trace] (shifted s states) where
  ran i _ there := by
    cases i with
    | zero =>
      cases there
      exact ⟨item, rfl, ran⟩
    | succ i => cases there
  unfailed i _ _ more := absurd more (by simp)
  few := Nat.succ_le_succ (Nat.zero_le _)
  exhausted none := absurd fails (none trace List.mem_cons_self)

private theorem rounds_next (ran : round item 0 s = (trace, states 0)) (goes : ¬ trace.Fails)
    (others : Rounds (fun item i => round item (i + 1)) rest traces states) :
    Rounds round (item :: rest) (trace :: traces) (shifted s states) where
  ran i _ there := by
    cases i with
    | zero =>
      cases there
      exact ⟨item, rfl, ran⟩
    | succ i => exact others.ran i _ there
  unfailed i _ there more := by
    cases i with
    | zero =>
      cases there
      exact goes
    | succ i => exact others.unfailed i _ there (Nat.lt_of_succ_lt_succ more)
  few := Nat.succ_le_succ others.few
  exhausted none := congrArg Nat.succ (others.exhausted fun other among =>
    none other (List.mem_cons_of_mem _ among))

end Rounds

/-- A loop over items runs its body in rounds, and stops for what the last of them stops it. -/
theorem run_iterate (environment : Program.Environment σ) (body : Value → Nat → Program Trace)
    (items : List Value) (index : Nat) (s : σ) :
    ∃ traces states, states 0 = s ∧
      Rounds (fun item i => (body item (index + i)).run environment) items traces states ∧
      (iterate body index items).run environment s =
        (⟨traces.map (·.results),
          traces.getLast?.bind (iterationStop (index + (traces.length - 1)))⟩, states traces.length) := by
  induction items generalizing index s with
  | nil => exact ⟨[], fun _ => s, rfl, ⟨nofun, nofun, Nat.le_refl _, fun _ => rfl⟩, rfl⟩
  | cons item rest ih =>
    cases ran : (body item index).run environment s with
    | mk trace after =>
    rw [iterate, Program.run_bind, ran]
    cases stops : iterationStop index trace with
    | some stop =>
      have fails : trace.Fails := by
        by_contra goes
        rw [iterationStop_eq_none.mpr goes] at stops
        cases stops
      refine ⟨[trace], shifted s fun _ => after, rfl, rounds_stopped ran fails, ?_⟩
      simp only [stops, List.map_cons, List.map_nil, List.getLast?_singleton, Option.bind_some,
        List.length_singleton, Nat.sub_self, Nat.add_zero]
      rfl
    | none =>
      obtain ⟨traces, states, rfl, rounds, ends⟩ := ih (index + 1) after
      have goes := iterationStop_eq_none.mp stops
      refine ⟨trace :: traces, shifted s states, rfl, rounds_next ran goes ?_, ?_⟩
      · simpa only [Nat.add_assoc, Nat.add_comm 1] using rounds
      · have last : (trace :: traces).getLast?.bind
            (iterationStop (index + ((trace :: traces).length - 1))) =
              traces.getLast?.bind (iterationStop (index + 1 + (traces.length - 1))) := by
          cases traces with
          | nil => exact stops
          | cons other more =>
            rw [List.getLast?_cons_cons, List.length_cons, List.length_cons]
            congr 2
            omega
        rw [last]
        dsimp only
        rw [Program.run_bind, ends]
        rfl

section Items

private theorem run_ownRecord (engine : Engine) {recordId : Option String} {id : String}
    {record : Document} (calm : (around.fault (.get .records id) t).1 = none)
    (target : (Command.nonBlank? recordId <|> ctx.recordId?) = some id)
    (stored : store.get? .records id = some record) (own : record.inWorkspace ctx.workspaceId) :
    ∃ t', (engine.targetRecord ctx recordId).run.run around.environment (store, t) =
      (.ok record, store, t') := by
  obtain ⟨t', looked⟩ := engine.run_targetRecord store calm target
  have required : store.requiredIn engine.records ctx.workspaceId .records id = .ok record := by
    rw [MemoryStore.requiredIn, stored]
    exact if_pos own
  exact ⟨t', by rw [looked, required]; rfl⟩

private theorem getText?_eq_some {doc : Document} {path text : String} :
    doc.getText? path = some text ↔ doc.get? path = some (.string text) := by
  rw [Document.getText?]
  cases doc.get? path with
  | none => simp
  | some v => cases v <;> simp [Value.asString?]

private theorem isArchived_iff {doc : Document} :
    RecordSearch.isArchived doc ↔ doc.get? "archived" = some (.bool true) := by
  rw [RecordSearch.isArchived]
  cases doc.get? "archived" with
  | none => simp
  | some v => cases v <;> simp [Value.asBool?]

/-- The search for records finds those that a loop is meant to have. -/
theorem search_finds (settings : LoopSettings) (workspaceId objectTypeId : String)
    (docs : List Document) :
    let search : RecordSearch := ⟨workspaceId, objectTypeId, settings.filters⟩
    (search.query.select docs).filter search.accepts =
      docs.filter (settings.finds workspaceId objectTypeId) := by
  intro search
  have select : search.query.select docs = docs.filter search.query.accepts := rfl
  rw [select, List.filter_filter]
  congr 1
  funext doc
  have kept : (!RecordSearch.isArchived doc) = true ↔ doc.get? "archived" ≠ some (.bool true) := by
    rw [Ne, ← isArchived_iff]
    simp
  have asked : search.query.accepts doc = true ↔ doc.get? "workspaceId" = some (.string workspaceId) ∧
      doc.get? "objectTypeId" = some (.string objectTypeId) := by
    simp [RecordSearch.query, Query.accepts_byText, search]
  rw [Bool.eq_iff_iff]
  simp only [Bool.and_eq_true, RecordSearch.accepts, LoopSettings.finds, kept, asked, bne_iff_ne,
    beq_iff_eq, getText?_eq_some]
  exact and_comm.trans and_assoc.symm

/-- Of its items a loop has as many at hand as it may visit, and knows whether there are more. -/
theorem run_loopItems (engine : Engine) (given : settings.Gives ctx store items)
    (answers : ∀ op ∈ settings.asks? ctx, (around.fault op t).1 = none) (max : Nat) :
    ∃ read t', (engine.loopItems ctx settings max).run.run around.environment (store, t) =
        (.ok read, store, t') ∧
      read.take max = items.take max ∧ (max < read.length ↔ max < items.length) := by
  cases given with
  | array source written =>
    refine ⟨items, t, ?_, rfl, Iff.rfl⟩
    rw [loopItems, source, written]
    rfl
  | field source named target stored own held =>
    have calm := answers _ (by rw [LoopSettings.asks?, source, target]; rfl)
    obtain ⟨t', found⟩ := run_ownRecord engine calm target stored own
    refine ⟨items, t', ?_, rfl, Iff.rfl⟩
    rw [loopItems, source, named]
    refine (Work.run_next found).trans ?_
    rw [fieldValue, held]
    rfl
  | noField source named target stored own absent =>
    have calm := answers _ (by rw [LoopSettings.asks?, source, target]; rfl)
    obtain ⟨t', found⟩ := run_ownRecord engine calm target stored own
    refine ⟨[], t', ?_, rfl, Iff.rfl⟩
    rw [loopItems, source, named]
    refine (Work.run_next found).trans ?_
    rw [fieldValue, absent]
    rfl
  | @query objectTypeId source named =>
    let search : RecordSearch := ⟨ctx.workspaceId, objectTypeId, settings.filters⟩
    have calm := answers (.query .records search.query)
      (by rw [LoopSettings.asks?, source, named]; rfl)
    obtain ⟨now, t', asked⟩ := Surroundings.environment_calm calm store
    have found : (engine.records.query .records search.query).run.run around.environment (store, t) =
        (.ok (store.query .records search.query), store, t') := Connection.run_answered asked
    let docs := (store.docs .records).filter (settings.finds ctx.workspaceId objectTypeId)
    have finds : (store.query .records search.query).filter search.accepts = docs :=
      search_finds settings ctx.workspaceId objectTypeId (store.docs .records)
    refine ⟨(docs.take (max + 1)).map fun doc => (RecordSnapshot.ofDocument doc).toValue, t',
      ?_, ?_, ?_⟩
    · rw [loopItems, source, named, ← finds]
      exact (Work.run_next (Work.run_next found)).trans rfl
    · rw [← List.map_take, ← List.map_take, List.take_take, Nat.min_eq_left (Nat.le_succ max)]
    · rw [List.length_map, List.length_map, List.length_take]
      change max < min (max + 1) docs.length ↔ max < docs.length
      omega

end Items

/-- A loop that is admitted goes through as many of its items as it may visit. -/
theorem runLoop_eq {stepId : String} {loopDepth m : Nat} {body : Context → Program Trace}
    (bound : settings.maxIterations = some m) (least : 1 ≤ m)
    (most : m ≤ engine.config.maxLoopIterations) (deep : 1 ≤ loopDepth)
    (nested : ctx.nestingDepth + loopDepth ≤ engine.config.maxLoopNesting) :
    engine.runLoop ctx stepId loopDepth settings body =
      (engine.loopItems ctx settings m).run >>= fun
        | .error stop => pure (StepOutcome.ofStop stop)
        | .ok items => iterate (fun item i => body (ctx.atItem item i (ctx.nestingDepth + 1))) 0
            (items.take m) >>= fun iterations =>
              pure (loopOutcome ctx (m < items.length) iterations) := by
  obtain ⟨n, rfl⟩ := Nat.exists_eq_succ_of_ne_zero (Nat.ne_of_gt least)
  have admitted : engine.loopBounds ctx stepId loopDepth (some (n + 1)) =
      .ok (n + 1, ctx.nestingDepth + 1) := by
    rw [loopBounds_eq]
    dsimp only
    rw [if_neg (by omega), if_neg (by omega), if_neg (by omega)]
  rw [← bound] at admitted
  unfold runLoop
  generalize engine.loopBounds ctx stepId loopDepth settings.maxIterations = bounds at admitted ⊢
  subst admitted
  rfl

theorem runStep_eq_runLoop {step : Step}
    (parsed : Command.parse step.type step.id (Template.resolve ctx step.config) =
      .ok (.loop settings)) :
    engine.runStep step ctx = engine.runLoop ctx step.id step.loopDepth settings fun ctx =>
      engine.runSequence step.steps ctx := by
  obtain ⟨id, type, name, config, thenSteps, elseSteps, steps⟩ := step
  dsimp only at parsed
  unfold runStep
  rw [parsed]

private theorem not_fails_of_last {round : Value → Nat → σ → Trace × σ} {traces : List Trace}
    {states : Nat → σ} (rounds : Rounds round items traces states)
    (last : ∀ trace ∈ traces.getLast?, ¬ trace.Fails) : ∀ trace ∈ traces, ¬ trace.Fails := by
  intro trace among
  obtain ⟨i, there⟩ := List.mem_iff_getElem?.mp among
  by_cases more : i + 1 < traces.length
  · exact rounds.unfailed i trace there more
  · obtain ⟨within, -⟩ := List.getElem?_eq_some_iff.mp there
    refine last trace ?_
    rw [List.getLast?_eq_getElem?, show traces.length - 1 = i by omega]
    exact there

private theorem ending_of_iterationStop {index : Nat} {trace : Trace} {c : Crash}
    (stops : iterationStop index trace = some (.crashed c)) : trace.ending = .crashed c := by
  obtain ⟨results, ending⟩ := trace
  cases ending with
  | finished ctx => simp [iterationStop] at stops
  | aborted e => cases stops
  | crashed crash =>
    cases stops
    rfl

/-- What comes of a loop is told by the last of its rounds. -/
theorem loopOutcome_rounds {round : Value → Nat → σ → Trace × σ} {traces : List Trace}
    {states : Nat → σ} (rounds : Rounds round items traces states) (truncated : Bool) (index : Nat) :
    let output := loopOutput truncated (traces.map (·.results))
    let outcome := loopOutcome ctx truncated
      ⟨traces.map (·.results), traces.getLast?.bind (iterationStop index)⟩
    outcome = .completed output ctx ∧ (∀ trace ∈ traces, ¬ trace.Fails) ∨
      ∃ last ∈ traces.getLast?, last.Fails ∧ ((∃ e, outcome = .failed e (some output)) ∨
        ∃ c, last.ending = .crashed c ∧ outcome = .crashed c) := by
  intro output outcome
  cases stop : traces.getLast?.bind (iterationStop index) with
  | none =>
    refine .inl ⟨by simp only [outcome, stop]; rfl, not_fails_of_last rounds fun trace last => ?_⟩
    rw [Option.mem_def.mp last, Option.bind_some] at stop
    exact iterationStop_eq_none.mp stop
  | some cause =>
    obtain ⟨last, there, stops⟩ := Option.bind_eq_some_iff.mp stop
    have fails : last.Fails := by
      by_contra goes
      rw [iterationStop_eq_none.mpr goes] at stops
      cases stops
    refine .inr ⟨last, there, fails, ?_⟩
    cases cause with
    | failed e => exact .inl ⟨e, by simp only [outcome, stop]; rfl⟩
    | crashed c =>
      exact .inr ⟨c, ending_of_iterationStop stops, by simp only [outcome, stop]; rfl⟩

/-- A loop that is admitted visits its items as they are when it starts. It runs its body on one after
another, each in the state that the one before left, until an iteration fails or as many are done as it may
visit or has. Its output counts and numbers the iterations and says whether there were more items. -/
theorem runStep_visits (engine : Engine) (around : Surroundings τ) (t : τ) {step : Step} {m : Nat}
    (parsed : Command.parse step.type step.id (Template.resolve ctx step.config) = .ok (.loop settings))
    (bound : settings.maxIterations = some m) (least : 1 ≤ m)
    (most : m ≤ engine.config.maxLoopIterations)
    (nested : ctx.nestingDepth + step.loopDepth ≤ engine.config.maxLoopNesting)
    (given : settings.Gives ctx store items)
    (answers : ∀ op ∈ settings.asks? ctx, (around.fault op t).1 = none) :
    ∃ traces t' states output, states 0 = (store, t') ∧
      Rounds (fun item i => (engine.runSequence step.steps
        (ctx.atItem item i (ctx.nestingDepth + 1))).run around.environment) (items.take m) traces
          states ∧
      LoopReport (decide (m < items.length)) traces output ∧
      let run := (engine.runStep step ctx).run around.environment (store, t)
      run.2 = states traces.length ∧
        (run.1 = .completed output ctx ∧ (∀ trace ∈ traces, ¬ trace.Fails) ∨
          ∃ last ∈ traces.getLast?, last.Fails ∧ ((∃ e, run.1 = .failed e (some output)) ∨
            ∃ c, last.ending = .crashed c ∧ run.1 = .crashed c)) := by
  have loop : step.type = .loop := Command.suits_of_parse parsed
  obtain ⟨read, t', found, same, more⟩ := run_loopItems engine given answers m
  obtain ⟨traces, states, start, rounds, ends⟩ := run_iterate around.environment
    (fun item i => engine.runSequence step.steps (ctx.atItem item i (ctx.nestingDepth + 1)))
    (items.take m) 0 (store, t')
  simp only [Nat.zero_add] at rounds
  have ran : (engine.runStep step ctx).run around.environment (store, t) =
      (loopOutcome ctx (m < items.length) ⟨traces.map (·.results),
        traces.getLast?.bind (iterationStop (0 + (traces.length - 1)))⟩, states traces.length) := by
    rw [runStep_eq_runLoop parsed, runLoop_eq bound least most (Step.loopDepth_pos loop) nested,
      Program.run_bind, found]
    dsimp only
    rw [same, Program.run_bind, ends]
    simp only [more]
    rfl
  refine ⟨traces, t', states, _, start, rounds, loopOutput_reports _ traces, ?_⟩
  rw [ran]
  exact ⟨rfl, loopOutcome_rounds rounds _ _⟩

section

private def staged (id stage : String) (more : Json.Members) : Document :=
  ⟨id, 0, more ++ [("data", .object [("stage", .string stage)]), ("objectTypeId", .string "deal"),
    ("workspaceId", .string "w")]⟩

/-- Three open deals, one that is archived and one that is won. -/
private def deals : MemoryStore where
  records := [staged "a" "open" [], staged "b" "open" [("archived", .bool true)], staged "c" "won" [],
    staged "d" "open" [], staged "e" "open" []]

/-- A loop over two open deals, whose body wins the second of them each time. -/
private def eachOpen : Step :=
  let isOpen : Value := .object [("field", .string "stage"), ("operator", .string "equals"),
    ("value", .string "open")]
  let win : Step := ⟨"win", .updateField, none, .object [("field", .string "stage"),
    ("recordId", .string "d"), ("value", .string "won")], [], [], []⟩
  ⟨"each", .loop, none, .object [("filters", .array [isOpen]), ("maxIterations", .ofInt 2),
    ("objectTypeId", .string "deal"), ("source", .string "query")], [], [], [win]⟩

private def inW : Context := .initial "w" none none none

private def openDeals : LoopSettings where
  source := .query
  items := none
  field := none
  objectTypeId := some "deal"
  filters := [⟨"stage", .equals, some (.string "open"), none⟩]
  maxIterations := some 2
  recordId := none

private def isOpenDeals : Except StepError Command → Bool
  | .ok (.loop settings) => settings.source = .query && settings.objectTypeId = some "deal" &&
    settings.filters = openDeals.filters && settings.maxIterations = some 2
  | _ => false

private def isCompleted : StepOutcome → Bool
  | .completed _ _ => true
  | .failed _ _ | .crashed _ => false

/-- Both deals are visited as they were when the loop started, and it is told that there are more. -/
theorem runStep_visits_deals :
    let run := (bareEngine.runStep eachOpen inW).run Surroundings.still.environment (deals, ())
    ∃ traces states output, states 0 = (deals, ()) ∧
      Rounds (fun item i => (bareEngine.runSequence eachOpen.steps (inW.atItem item i 1)).run
        Surroundings.still.environment) ([staged "a" "open" [], staged "d" "open" []].map fun doc =>
          (RecordSnapshot.ofDocument doc).toValue) traces states ∧
      traces.length = 2 ∧ LoopReport true traces output ∧ run.1 = .completed output inW := by
  intro run
  have read : isOpenDeals (Command.parse eachOpen.type eachOpen.id
      (Template.resolve inW eachOpen.config)) = true := by decide +kernel
  have completed : isCompleted run.1 = true := by decide +kernel
  cases parsed : Command.parse eachOpen.type eachOpen.id (Template.resolve inW eachOpen.config) with
  | error e =>
    rw [parsed] at read
    cases read
  | ok command =>
  rw [parsed] at read
  cases command with
  | primitive p => cases read
  | condition conditions subject => cases read
  | loop settings =>
    simp only [isOpenDeals, Bool.and_eq_true, decide_eq_true_eq] at read
    obtain ⟨⟨⟨source, objectType⟩, filters⟩, bound⟩ := read
    have found : (deals.records.filter (settings.finds "w" "deal")).map (fun doc =>
        (RecordSnapshot.ofDocument doc).toValue) = [staged "a" "open" [], staged "d" "open" [],
          staged "e" "open" []].map fun doc => (RecordSnapshot.ofDocument doc).toValue := by
      have same : settings.finds "w" "deal" = openDeals.finds "w" "deal" := by
        funext doc
        rw [LoopSettings.finds, filters]
        rfl
      rw [same]
      decide +kernel
    have named : Command.nonBlank? settings.objectTypeId = some "deal" := by
      rw [objectType]
      decide +kernel
    have given : settings.Gives inW deals (([staged "a" "open" [], staged "d" "open" [],
        staged "e" "open" []]).map fun doc => (RecordSnapshot.ofDocument doc).toValue) :=
      found ▸ .query source named
    obtain ⟨traces, t', states, output, start, rounds, report, -, ends⟩ := runStep_visits
      bareEngine Surroundings.still () parsed bound (by decide) (by decide)
      (by decide) given (fun _ _ => rfl)
    rcases ends with ⟨ran, unfailed⟩ | ⟨last, -, -, ⟨e, failed⟩ | ⟨c, -, crashed⟩⟩
    · exact ⟨traces, states, output, start, rounds, rounds.exhausted unfailed, report, ran⟩
    · rw [show run.1 = _ from failed] at completed
      cases completed
    · rw [show run.1 = _ from crashed] at completed
      cases completed

end

end Engine
end Automation

import Automation.Proofs.Engine.Plan
import Automation.Proofs.Program.Asks
import Automation.Proofs.Store.Entries

/-!
What steps intend. What a step plans is right for the store that it finds, and what comes of the step is
that its plan is carried out, or that it fails before it was.
-/
namespace Automation

open Json (Value)

namespace Engine

/-- The record that a step works on, as it is stored. -/
structure IsTarget (ctx : Context) (s : MemoryStore) (recordId : Option String) (record : Document) :
    Prop where
  named : targetId ctx recordId = .ok record.id
  stored : s.get? .records record.id = some record

/-- The list and the record of a step, and the entry that the list has for the record. -/
structure IsMembership (ctx : Context) (s : MemoryStore) (listId : String) (recordId : Option String)
    (m : Membership) : Prop where
  list : m.listId = listId
  stored : (s.get? .lists m.listId).isSome
  named : targetId ctx recordId = .ok m.recordId
  entry : m.entry = (s.query .listEntries
    { Query.byText [("listId", m.listId), ("recordId", m.recordId)] with limit := some 1 }).head?

/-- What a step is to do on account of what it finds in a store. -/
inductive Intended (ctx : Context) (s : MemoryStore) : Primitive → Intent → Prop
  | change {command : FieldCommand} {recordId : Option String} {record : Document} {c : DataChange}
      {now : Time.Instant} (target : IsTarget ctx s recordId record)
      (changes : FieldCommand.change record command = .ok c) :
      Intended ctx s (.field command recordId) (.change ctx record c now)
  | create {objectTypeId : String} {data : Json.Members} :
      Intended ctx s (.createRecord objectTypeId data) (.create ctx objectTypeId data)
  | delete {recordId : Option String} {record : Document} (target : IsTarget ctx s recordId record) :
      Intended ctx s (.deleteRecord recordId) (.delete ctx record
        (s.query .listEntries (.byText [("recordId", record.id)])))
  | archive {recordId : Option String} {record : Document} {now : Time.Instant}
      (target : IsTarget ctx s recordId record) :
      Intended ctx s (.archiveRecord recordId) (.archive ctx record now)
  | stay {listId : String} {recordId : Option String} {data : Option Json.Members} {m : Membership}
      {entry : Document} (found : IsMembership ctx s listId recordId m) (is : m.entry = some entry) :
      Intended ctx s (.list .add listId recordId data)
        (.rest (m.output entry.id [("alreadyMember", .bool true)]))
  | enter {listId : String} {recordId : Option String} {data : Option Json.Members} {m : Membership}
      (found : IsMembership ctx s listId recordId m) (isnt : m.entry = none)
      (there : s.Has m.recordId) :
      Intended ctx s (.list .add listId recordId data) (.enter ctx m (data.getD []))
  | leave {listId : String} {recordId : Option String} {data : Option Json.Members} {m : Membership}
      {entry : Document} (found : IsMembership ctx s listId recordId m) (is : m.entry = some entry) :
      Intended ctx s (.list .remove listId recordId data) (.leave ctx m entry)
  | amend {listId : String} {recordId : Option String} {data : Option Json.Members} {m : Membership}
      {entry : Document} {now : Time.Instant} (found : IsMembership ctx s listId recordId m)
      (is : m.entry = some entry) :
      Intended ctx s (.list .update listId recordId data) (.amend ctx m entry (data.getD []) now)

end Engine

/-- A world whose replies are true to the store, with crashes of a kind, and a policy under which all may
be read. -/
structure Reading (idAt : Nat → String) (crash : Crash → Prop) (world : World MemoryStore)
    (policy : Policy MemoryStore) : Prop where
  reads : ∀ effect s, effect.Reads → policy.permitted effect s
  sighted : ∀ effect s reply twin, ¬policy.twins effect s reply twin
  truthful : ∀ effect s reply after, world effect s reply after →
    MemoryStore.world idAt effect s reply after
  crashes : ∀ op s c after, world (.store op) s (.crashed c) after → crash c

/-- In the world of a store everything may be read, and anything may crash. -/
theorem reading_world {idAt : Nat → String} :
    Reading idAt (fun _ => True) (MemoryStore.world idAt) .free where
  reads _ _ _ := trivial
  sighted _ _ _ _ := nofun
  truthful _ _ _ _ w := w
  crashes _ _ _ _ _ := trivial

namespace Work

variable {ε α β : Type} {world : World MemoryStore} {policy : Policy MemoryStore}
  {crash : Crash → Prop} {s : MemoryStore}

/-- Work that leaves the store as it is and ends with what it finds in it, if it does not stop. -/
def Looks (world : World MemoryStore) (policy : Policy MemoryStore) (crash : Crash → Prop)
    (found : α → Prop) (work : Work ε α) (s : MemoryStore) : Prop :=
  Meets world policy (fun a after => after = s ∧ found a) (fun stop after => after = s ∧ stop.Fits crash)
    work s

theorem looks_pure {found : α → Prop} {a : α} (h : found a) :
    Looks world policy crash found (pure a : Work ε α) s := ⟨rfl, h⟩

theorem looks_fail {found : α → Prop} (e : ε) :
    Looks world policy crash found (Work.fail e : Work ε α) s := ⟨rfl, trivial⟩

theorem looks_ofExcept {found : α → Prop} {result : Except ε α} (h : ∀ a, result = .ok a → found a) :
    Looks world policy crash found (Work.ofExcept result) s := by
  cases result with
  | ok a => exact looks_pure (h a rfl)
  | error e => exact looks_fail e

theorem Looks.bind {found : α → Prop} {more : β → Prop} {work : Work ε α} {next : α → Work ε β}
    (h : Looks world policy crash found work s)
    (rest : ∀ a, found a → Looks world policy crash more (next a) s) :
    Looks world policy crash more (work >>= next) s := by
  refine Meets.bind h ?_
  rintro a after ⟨rfl, seen⟩
  exact rest a seen

theorem Looks.mono {found more : α → Prop} {work : Work ε α} (h : Looks world policy crash found work s)
    (weaker : ∀ a, found a → more a) : Looks world policy crash more work s :=
  Meets.mono h (fun a _ post => ⟨post.1, weaker a post.2⟩) fun _ _ post => post

/-- What is done with what was found is done to the same store. -/
theorem Looks.before {found : α → Prop} {work : Work ε α} {next : α → Work ε β}
    {value : β → MemoryStore → Prop} {stop : Stop ε → MemoryStore → Prop}
    (h : Looks world policy crash found work s) (stops : ∀ e : Stop ε, e.Fits crash → stop e s)
    (rest : ∀ a, found a → Meets world policy value stop (next a) s) :
    Meets world policy value stop (work >>= next) s := by
  refine Meets.bind (Meets.mono h (fun _ _ post => post) ?_) ?_
  · rintro e after ⟨rfl, fits⟩
    exact stops e fits
  · rintro a after ⟨rfl, seen⟩
    exact rest a seen

end Work

namespace Reading

open Work

variable {ε : Type} {idAt : Nat → String} {crash : Crash → Prop} {world : World MemoryStore}
  {policy : Policy MemoryStore} {s : MemoryStore} {c : Connection ε} {table : Table} {id : String}

theorem now (r : Reading idAt crash world policy) :
    Looks world policy crash (fun _ => True) (Work.ofProgram Program.now : Work ε Time.Instant) s := by
  have reads : Effect.Reads .clock := fun _ => nofun
  refine meets_ofProgram ⟨r.reads .clock s reads, ?_, ?_⟩
  · intro reply twin same
    exact absurd same (r.sighted _ s reply twin)
  · intro now after w
    exact ⟨MemoryStore.eq_of_reads (r.truthful _ s now after w) reads, trivial⟩

theorem ask (r : Reading idAt crash world policy) {op : StoreOp} (reads : Effect.Reads (.store op)) :
    Looks world policy crash (fun answer => ∃ now, s.perform ⟨idAt, now⟩ op = (.ok answer, s))
      (c.ask op) s := by
  refine Connection.meets_ask (r.reads _ s reads) ?_ ?_
  · intro reply twin same
    exact absurd same (r.sighted _ s reply twin)
  · intro reply after w
    have told := r.truthful _ s reply after w
    obtain rfl := MemoryStore.eq_of_reads told reads
    rcases reply with (e | answer) | _ | crash
    · exact ⟨rfl, trivial⟩
    · exact ⟨rfl, MemoryStore.performed told⟩
    · exact ⟨rfl, trivial⟩
    · exact ⟨rfl, r.crashes _ _ _ _ w⟩

theorem get (r : Reading idAt crash world policy) :
    Looks world policy crash (· = s.get? table id) (c.get table id) s := by
  refine (r.ask (Effect.reads_get table id)).mono ?_
  rintro found ⟨now, told⟩
  cases told
  rfl

theorem query (r : Reading idAt crash world policy) {q : Query} :
    Looks world policy crash (· = s.query table q) (c.query table q) s := by
  refine (r.ask (Effect.reads_query table q)).mono ?_
  rintro found ⟨now, told⟩
  cases told
  rfl

theorem requireIn (r : Reading idAt crash world policy) {workspaceId : String} :
    Looks world policy crash (fun doc => s.get? table id = some doc ∧ doc.id = id)
      (c.requireIn workspaceId table id) s := by
  have required : Looks world policy crash (fun doc => s.get? table id = some doc ∧ doc.id = id)
      (c.require table id) s := by
    refine r.get.bind fun found seen => ?_
    cases found with
    | none => exact looks_fail _
    | some doc => exact looks_pure ⟨seen.symm, (MemoryStore.mem_of_get? seen.symm).2⟩
  refine required.bind fun doc seen => ?_
  split
  · exact looks_pure seen
  · exact looks_fail _

variable {engine : Engine} {ctx : Context} {recordId : Option String}

theorem targetRecord (r : Reading idAt crash world policy) :
    Looks world policy crash (Engine.IsTarget ctx s recordId) (engine.targetRecord ctx recordId) s := by
  refine (looks_ofExcept fun _ ok => ok).bind fun id named => ?_
  refine r.requireIn.mono ?_
  rintro record ⟨stored, rfl⟩
  exact ⟨named, stored⟩

theorem membership (r : Reading idAt crash world policy) {listId : String} :
    Looks world policy crash (Engine.IsMembership ctx s listId recordId)
      (engine.membership ctx listId recordId) s := by
  refine r.requireIn.bind ?_
  rintro list ⟨stored, rfl⟩
  refine (looks_ofExcept fun _ ok => ok).bind fun id named => ?_
  have first : Looks world policy crash (· = (s.query .listEntries
      { Query.byText [("listId", list.id), ("recordId", id)] with limit := some 1 }).head?)
      (engine.records.first .listEntries (.byText [("listId", list.id), ("recordId", id)])) s := by
    refine r.query.bind fun docs seen => looks_pure ?_
    rw [seen]
  refine first.bind fun entry seen => looks_pure ?_
  exact ⟨rfl, Option.isSome_iff_exists.mpr ⟨list, stored⟩, named, seen⟩

end Reading

namespace Engine

open Work

variable {idAt : Nat → String} {crash : Crash → Prop} {world : World MemoryStore}
  {policy : Policy MemoryStore} {engine : Engine} {ctx : Context} {stepId : String} {p : Primitive}
  {s : MemoryStore}

/-- The entries were deleted one after another. -/
inductive Cleared (world : World MemoryStore) : List Document → MemoryStore → MemoryStore → Prop
  | nil {s : MemoryStore} : Cleared world [] s s
  | cons {entry : Document} {rest : List Document} {s next after : MemoryStore}
      (gone : world (.store (.delete .listEntries entry.id)) s (.answered (.ok ())) next)
      (more : Cleared world rest next after) : Cleared world (entry :: rest) s after

/-- An intent was carried out. Nothing is known of the reply of the audit log. -/
inductive Carried (world : World MemoryStore) (ctx : Context) (stepId : String) (s : MemoryStore) :
    Intent → Value → MemoryStore → Prop
  | rest {output : Value} : Carried world ctx stepId s (.rest output) output s
  | act {entries : List Document} {op : StoreOp} {entry : op.Answer → AuditEntry}
      {output : op.Answer → Value} {cleared done after : MemoryStore} {answer : op.Answer}
      {fields : Json.Members} {reply : StoreReply String} (clears : Cleared world entries s cleared)
      (does : world (.store op) cleared (.answered (.ok answer)) done)
      (encoded : Document.fieldsOf (stamped ctx stepId (entry answer)).encode = .ok fields)
      (told : world (.store (.insert .auditLogs fields)) done reply after) :
      Carried world ctx stepId s (.act entries op entry output) (output answer) after

/-- A step failed before it did what it is for. Some of the entries may be deleted by then. -/
inductive Abandoned (world : World MemoryStore) (ctx : Context) (s : MemoryStore) (p : Primitive) :
    MemoryStore → Prop
  | early : Abandoned world ctx s p s
  | late {entries done : List Document} {op : StoreOp} {entry : op.Answer → AuditEntry}
      {output : op.Answer → Value} {after : MemoryStore}
      (intended : Intended ctx s p (.act entries op entry output)) (part : done <+: entries)
      (cleared : Cleared world done s after) : Abandoned world ctx s p after

/-- What may lie behind a step that stopped. -/
def Halted (world : World MemoryStore) (crash : Crash → Prop) (ctx : Context) (s : MemoryStore)
    (p : Primitive) : Stop StepError → MemoryStore → Prop
  | .failed _, after => Abandoned world ctx s p after
  | .crashed c, _ => crash c

private theorem halted_early {stop : Stop StepError} (fits : stop.Fits crash) :
    Halted world crash ctx s p stop s := by
  cases stop with
  | failed e => exact .early
  | crashed c => exact fits

private theorem deleteEntries_clears (r : Reading idAt crash world policy)
    (leaves : ∀ id s, policy.permitted (.store (.delete .listEntries id)) s) (entries : List Document) :
    (engine.deleteEntries entries).Meets world policy (fun _ after => Cleared world entries s after)
      (fun stop after => stop.Fits crash ∧ ∃ done, done <+: entries ∧ Cleared world done s after) s := by
  induction entries generalizing s with
  | nil => exact .nil
  | cons entry rest ih =>
    refine Connection.meets_askThen (leaves entry.id s) ?_ ?_
    · intro reply twin same
      exact absurd same (r.sighted _ s reply twin)
    · intro reply after w
      have told := r.truthful _ s reply after w
      rcases reply with (e | answer) | _ | crash
      · obtain rfl := MemoryStore.eq_of_unanswered told nofun
        exact ⟨trivial, [], List.nil_prefix, .nil⟩
      · refine Meets.mono ih (fun _ _ more => .cons w more) ?_
        rintro stop last ⟨fits, done, part, cleared⟩
        exact ⟨fits, entry :: done, List.cons_prefix_cons.mpr ⟨rfl, part⟩, .cons w cleared⟩
      · obtain rfl := MemoryStore.eq_of_unanswered told nofun
        exact ⟨trivial, [], List.nil_prefix, .nil⟩
      · obtain rfl := MemoryStore.eq_of_unanswered told nofun
        exact ⟨r.crashes _ _ _ _ w, [], List.nil_prefix, .nil⟩

/-- An entry is handed to the audit log. Nothing is known of the reply. -/
theorem ignoring_tells {ε : Type} (r : Reading idAt crash world policy) (entry : AuditEntry)
    (tells : ∀ fields s, policy.permitted (.store (.insert .auditLogs fields)) s) :
    (Work.ignoring (engine.writeAudit entry) : Work ε Unit).Meets world policy
      (fun _ after => ∃ fields reply, Document.fieldsOf entry.encode = .ok fields ∧
        world (.store (.insert .auditLogs fields)) s reply after)
      (fun stop _ => ∃ c, stop = .crashed c ∧ crash c) s := by
  obtain ⟨fields, encoded⟩ : ∃ fields, Document.fieldsOf entry.encode = .ok fields := ⟨_, rfl⟩
  refine Work.Meets.ignoring ?_
  unfold writeAudit
  rw [encoded]
  refine Connection.meets_askThen (tells fields s) ?_ ?_
  · intro reply twin same
    exact absurd same (r.sighted _ s reply twin)
  · intro reply after w
    rcases reply with (e | id) | _ | c
    · exact ⟨fields, _, rfl, w⟩
    · exact ⟨fields, _, rfl, w⟩
    · exact ⟨fields, _, rfl, w⟩
    · exact ⟨c, rfl, r.crashes _ _ _ _ w⟩

/-- Who carries out an intent fails only before the operation it is about. -/
private theorem carryOut_carries (r : Reading idAt crash world policy) {intent : Intent}
    (intended : Intended ctx s p intent)
    (leaves : ∀ id s, policy.permitted (.store (.delete .listEntries id)) s)
    (tells : ∀ fields s, policy.permitted (.store (.insert .auditLogs fields)) s)
    (acts : ∀ entries op entry output, intent = .act entries op entry output →
      ∀ cleared, Cleared world entries s cleared → policy.permitted (.store op) cleared) :
    (engine.carryOut ctx stepId intent).Meets world policy
      (fun v after => Carried world ctx stepId s intent v after) (Halted world crash ctx s p) s := by
  cases intent with
  | rest output => exact .rest
  | act entries op entry output =>
    refine Meets.bind (Meets.mono (deleteEntries_clears r leaves entries) (fun _ _ post => post) ?_) ?_
    · rintro (e | c) after ⟨fits, done, part, cleared⟩
      · exact .late intended part cleared
      · exact fits
    intro _ cleared clears
    refine Connection.meets_askThen (acts _ _ _ _ rfl cleared clears) ?_ ?_
    · intro reply twin same
      exact absurd same (r.sighted _ _ reply twin)
    intro reply done does
    have told := r.truthful _ cleared reply done does
    rcases reply with (e | answer) | _ | c
    · obtain rfl := MemoryStore.eq_of_unanswered told nofun
      exact .late intended (List.prefix_refl _) clears
    · let told : AuditEntry := stamped ctx stepId (entry answer)
      refine Meets.bind (Meets.mono (ignoring_tells r told tells) (fun _ _ post => post) ?_) ?_
      · rintro _ after ⟨c, rfl, kind⟩
        exact kind
      · rintro _ after ⟨fields, reply, encoded, told⟩
        exact .act clears does encoded told
    · obtain rfl := MemoryStore.eq_of_unanswered told nofun
      exact .late intended (List.prefix_refl _) clears
    · exact r.crashes _ _ _ _ does

private theorem entry_of_required {m : Membership} {entry : Document}
    (required : m.requireEntry = .ok entry) : m.entry = some entry := by
  unfold Membership.requireEntry at required
  split at required
  · next is =>
    cases required
    exact is
  · cases required

theorem plan_intends (r : Reading idAt crash world policy) (mutates : p.type.mutates = true) :
    Looks world policy crash (Intended ctx s p) (engine.plan ctx p) s := by
  cases p with
  | sendWebhook webhook => cases mutates
  | callTool tool arguments => cases mutates
  | field command recordId =>
    refine r.targetRecord.bind fun record target => ?_
    refine (looks_ofExcept fun _ ok => ok).bind fun change changes => ?_
    exact r.now.bind fun now _ => looks_pure (.change target changes)
  | createRecord objectTypeId data => exact r.requireIn.bind fun _ _ => looks_pure .create
  | deleteRecord recordId =>
    refine r.targetRecord.bind fun record target => ?_
    refine r.query.bind ?_
    rintro entries rfl
    exact looks_pure (.delete target)
  | archiveRecord recordId =>
    refine r.targetRecord.bind fun record target => ?_
    exact r.now.bind fun now _ => looks_pure (.archive target)
  | list command listId recordId data =>
    refine r.membership.bind fun m found => ?_
    cases command with
    | add =>
      dsimp only
      split
      · next entry is => exact looks_pure (.stay found is)
      · next isnt =>
        refine r.requireIn.bind fun record seen => looks_pure ?_
        exact .enter found isnt (Option.isSome_iff_exists.mpr ⟨record, seen.1⟩)
    | remove =>
      refine (looks_ofExcept fun _ ok => ok).bind fun entry required => looks_pure ?_
      exact .leave found (entry_of_required required)
    | update =>
      refine (looks_ofExcept fun _ ok => ok).bind fun entry required => ?_
      exact r.now.bind fun now _ => looks_pure (.amend found (entry_of_required required))

/-- A step that changes the store carries out what it intends, or fails before it did. -/
theorem runPrimitive_carries (r : Reading idAt crash world policy) (mutates : p.type.mutates = true)
    (leaves : ∀ id s, policy.permitted (.store (.delete .listEntries id)) s)
    (tells : ∀ fields s, policy.permitted (.store (.insert .auditLogs fields)) s)
    (acts : ∀ entries op entry output, Intended ctx s p (.act entries op entry output) →
      ∀ cleared, Cleared world entries s cleared → policy.permitted (.store op) cleared) :
    (engine.runPrimitive ctx stepId p).Meets world policy
      (fun v after => ∃ intent, Intended ctx s p intent ∧ Carried world ctx stepId s intent v after)
      (Halted world crash ctx s p) s := by
  rw [runPrimitive_eq engine ctx stepId mutates]
  refine (plan_intends r mutates).before (fun _ => halted_early) fun intent intended => ?_
  refine Meets.mono (carryOut_carries r intended leaves tells ?_) ?_ fun _ _ post => post
  · rintro entries op entry output rfl
    exact acts entries op entry output intended
  · exact fun v after carried => ⟨intent, intended, carried⟩

/-- What comes of a step that changes the store. -/
def Comes (world : World MemoryStore) (crash : Crash → Prop) (step : Step) (ctx : Context)
    (s : MemoryStore) : StepOutcome → MemoryStore → Prop
  | .completed output next, after => next = ctx ∧ ∃ p intent,
      Command.parse step.type step.id (Template.resolve ctx step.config) = .ok (.primitive p) ∧
        Intended ctx s p intent ∧ Carried world ctx step.id s intent output after
  | .failed _ _, after => after = s ∨ ∃ p,
      Command.parse step.type step.id (Template.resolve ctx step.config) = .ok (.primitive p) ∧
        Abandoned world ctx s p after
  | .crashed c, _ => crash c

theorem runStep_comes {step : Step} (r : Reading idAt crash world .free)
    (mutates : step.type.mutates = true) :
    (engine.runStep step ctx).Meets world .free (Comes world crash step ctx s) s := by
  obtain ⟨id, type, name, config, thenSteps, elseSteps, steps⟩ := step
  unfold runStep
  split
  · exact .inl rfl
  · next p parsed =>
    have same : p.type = type := Command.type_of_parse parsed
    have carries : (engine.runPrimitive ctx id p).Meets world .free
        (fun v after => ∃ intent, Intended ctx s p intent ∧ Carried world ctx id s intent v after)
        (Halted world crash ctx s p) s :=
      runPrimitive_carries r (same ▸ mutates) (fun _ _ => trivial) (fun _ _ => trivial)
        fun _ _ _ _ _ _ _ => trivial
    refine Program.Meets.bind carries ?_
    rintro (stop | v) after post
    · cases stop with
      | failed e => exact .inr ⟨p, parsed, post⟩
      | crashed c => exact post
    · obtain ⟨intent, intended, carried⟩ := post
      exact ⟨rfl, p, intent, parsed, intended, carried⟩
  · next conditions subject parsed =>
    obtain rfl : type = .condition := Command.suits_of_parse parsed
    cases mutates
  · next settings parsed =>
    obtain rfl : type = .loop := Command.suits_of_parse parsed
    cases mutates

end Engine
end Automation

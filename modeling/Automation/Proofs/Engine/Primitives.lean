import Automation.Proofs.Engine.Interpretation

/-!
What steps do by themselves in a world of which little is known: they leave stored runs alone, their
outputs are objects, and what is read from the store stays in key order on its way out.
-/
namespace Automation

open Json (Value Members)

/-- The fields of the document and all values in them are in key order. -/
def Document.Canonical (doc : Document) : Prop := Members.Canonical doc.fields

/-- The documents in an answer are in key order. -/
def StoreOp.Proper : (op : StoreOp) → op.Answer → Prop
  | .get _ _, found => ∀ doc ∈ found, doc.Canonical
  | .query _ _, docs => ∀ doc ∈ docs, doc.Canonical
  | .insert _ _, _ | .update _ _ _, _ | .delete _ _, _ => True

def StoreReply.Proper {op : StoreOp} : StoreReply op.Answer → Prop
  | .answered (.ok answer) => op.Proper answer
  | .answered (.error _) | .stalled | .crashed _ => True

def ToolResult.Canonical : ToolResult → Prop
  | .success data => data.Canonical
  | .error _ => True

theorem Document.canonical_get? {doc : Document} (h : doc.Canonical) {path : String} {v : Value}
    (found : doc.get? path = some v) : v.Canonical := by
  unfold Document.get? at found
  split at found
  · obtain ⟨top, at_head, found⟩ := Option.bind_eq_some_iff.mp found
    exact Value.canonical_lookup? (Members.canonical_get? h at_head) found
  · exact Members.canonical_get? h found

namespace Engine

variable {σ : Type}

/-- What the steps of an engine may rely on. If values count as `proper`, those that come from the
store are in key order, and those of tools if their arguments are. -/
structure Supported (engine : Engine) (world : World σ) (kept : σ → Prop) (time : Time.Instant → Prop)
    (crash : Crash → Prop) (proper : Prop) : Prop where
  clock : ∀ s t after, kept s → world .clock s t after → time t ∧ kept after
  exchange : ∀ request deadline s reply after, kept s →
    world (.exchange request deadline) s reply after → kept after
  keeps : ∀ op s reply after, op.table ≠ .actionExecutions → kept s →
    world (.store op) s reply after → kept after
  crashes : ∀ op s c after, kept s → world (.store op) s (.crashed c) after → crash c
  replies : ∀ op s reply after, op.table ≠ .actionExecutions → kept s →
    world (.store op) s reply after → proper → reply.Proper
  tool : ∀ tool ∈ engine.tools.tools, ∀ arguments caller, (proper → arguments.Canonical) →
    Work.Steady world kept crash (fun result => proper → result.Canonical)
      (tool.call engine.toolStore arguments caller)

/-- An output that is there, in key order if values count as `proper`. -/
def Output (proper : Prop) (v : Value) : Prop := v.isNull = false ∧ (proper → v.Canonical)

theorem output_ofPairs {proper : Prop} {pairs : List (String × Value)}
    (h : proper → ∀ p ∈ pairs, p.2.Canonical) : Output proper (.ofPairs pairs) :=
  ⟨rfl, fun hp => Value.canonical_ofPairs (h hp)⟩

variable {world : World σ} {kept : σ → Prop} {time : Time.Instant → Prop} {crash : Crash → Prop}
  {proper : Prop} {engine : Engine} {ctx : Context} {stepId : String}

theorem Supported.ask {ε : Type} (h : engine.Supported world kept time crash proper)
    (c : Connection ε) (op : StoreOp) (other : op.table ≠ .actionExecutions) :
    Work.Steady world kept crash (fun answer => proper → op.Proper answer) (c.ask op) := by
  refine fun s start => Connection.meets_ask trivial nofun fun reply after w => ?_
  have valid := h.keeps op s reply after other start w
  have own := h.replies op s reply after other start w
  rcases reply with (e | answer) | _ | c
  · exact ⟨trivial, valid⟩
  · exact ⟨own, valid⟩
  · exact ⟨trivial, valid⟩
  · exact ⟨h.crashes op s c after start w, valid⟩

theorem Supported.now {ε : Type} (h : engine.Supported world kept time crash proper) :
    Work.Steady world kept crash time (Work.ofProgram Program.now : Work ε Time.Instant) :=
  Work.steady_ofProgram fun s start => ⟨trivial, nofun, fun t after w => h.clock s t after start w⟩

theorem Supported.require {ε : Type} (h : engine.Supported world kept time crash proper)
    (c : Connection ε) (table : Table) (other : table ≠ .actionExecutions) (id : String) :
    Work.Steady world kept crash (fun doc => proper → doc.Canonical) (c.require table id) := by
  refine (h.ask c (.get table id) other).bind fun found own => ?_
  cases found with
  | none => exact Work.steady_fail _
  | some doc => exact Work.steady_pure fun hp => own hp doc rfl

theorem Supported.requireIn {ε : Type} (h : engine.Supported world kept time crash proper)
    (c : Connection ε) (table : Table) (other : table ≠ .actionExecutions) (workspaceId id : String) :
    Work.Steady world kept crash (fun doc => proper → doc.Canonical)
      (c.requireIn workspaceId table id) := by
  refine (h.require c table other id).bind fun doc own => ?_
  split
  · exact Work.steady_pure own
  · exact Work.steady_fail _

theorem Supported.targetRecord (h : engine.Supported world kept time crash proper)
    (recordId : Option String) : Work.Steady world kept crash (fun doc => proper → doc.Canonical)
      (engine.targetRecord ctx recordId) :=
  Work.steady_any.bind fun id _ =>
    h.requireIn engine.records .records nofun ctx.workspaceId id

theorem Supported.audit (h : engine.Supported world kept time crash proper) (entry : AuditEntry) :
    Work.Steady world kept crash (fun _ => True) (engine.audit ctx stepId entry) := by
  refine Work.Steady.ignoring (g := fun _ => True) ?_
  refine Work.steady_any.bind fun fields _ => ?_
  exact (h.ask (engine.store id) (.insert .auditLogs fields) nofun).bind fun _ _ =>
    Work.steady_pure trivial

theorem fieldValue_canonical {record : Document} (h : record.Canonical) (field : String) :
    (fieldValue record field).Canonical := by
  unfold fieldValue
  cases found : (record.get? "data").bind (·.member? field) with
  | none => trivial
  | some v =>
    obtain ⟨data, at_data, member⟩ := Option.bind_eq_some_iff.mp found
    exact Value.canonical_member? (Document.canonical_get? h at_data) member

private theorem transform_canonical {name : String} {value v : Value} {amount : Option Binary64}
    {decimals : Option Nat} (ok : Transform.applyNamed name value amount decimals = .ok v) :
    v.Canonical := by
  have finite {t : Transform} {x : Binary64} (ok : t.finite x = .ok v) : v.Canonical := by
    unfold Transform.finite at ok
    split at ok
    · cases ok
      unfold Value.ofBinary64
      split
      · split <;> trivial
      · trivial
    · cases ok
  unfold Transform.applyNamed at ok
  split at ok
  · next t _ =>
    cases t <;> obtain ⟨x, _, ok⟩ := Decode.except_bind_ok.mp ok
    case uppercase | lowercase | trim =>
      cases ok
      trivial
    case round =>
      dsimp only at ok
      split at ok
      · cases ok
      · exact finite ok
    case increment | decrement => exact finite ok
  · cases ok

theorem change_canonical {record : Document} {command : FieldCommand} {recordId : Option String}
    {change : DataChange} (hr : record.Canonical) (hc : (Primitive.field command recordId).Canonical)
    (ok : FieldCommand.change record command = .ok change) :
    ∀ p ∈ change.output, p.2.Canonical := by
  have value (field : String) : (fieldValue record field).Canonical := fieldValue_canonical hr field
  cases command with
  | update field v =>
    cases ok
    exact List.forall_mem_cons.mpr ⟨trivial, List.forall_mem_cons.mpr ⟨hc, by simp [value]⟩⟩
  | clear field =>
    cases ok
    simp [value]
  | copy source target =>
    cases ok
    simp [DataChange.setting, value]
  | transform field name target amount decimals =>
    obtain ⟨v, applied, ok⟩ := Decode.except_bind_ok.mp ok
    cases ok
    simp [DataChange.setting, value, transform_canonical applied]

theorem Supported.changeField (h : engine.Supported world kept time crash proper)
    {command : FieldCommand} {recordId : Option String}
    (hc : (Primitive.field command recordId).Canonical) :
    Work.Steady world kept crash (Output proper)
      (engine.changeField ctx stepId command recordId) := by
  refine (h.targetRecord recordId).bind fun record own => ?_
  refine (Work.steady_ofExcept (g := fun change : DataChange =>
    proper → ∀ p ∈ change.output, p.2.Canonical) fun change ok hp =>
      change_canonical (own hp) hc ok).bind fun change out => ?_
  refine h.now.bind fun now _ => ?_
  refine (h.ask engine.records (.update .records _ _) nofun).bind fun _ _ => ?_
  refine (h.audit _).bind fun _ _ => Work.steady_pure (output_ofPairs fun hp => ?_)
  exact List.forall_mem_cons.mpr ⟨trivial, out hp⟩

theorem Supported.createRecord (h : engine.Supported world kept time crash proper)
    {objectTypeId : String} {data : Members} :
    Work.Steady world kept crash (Output proper)
      (engine.createRecord ctx stepId objectTypeId data) := by
  refine (h.requireIn engine.records .objectTypes nofun _ _).bind fun _ _ => ?_
  refine (h.ask engine.records (.insert .records _) nofun).bind fun recordId _ => ?_
  exact (h.audit _).bind fun _ _ => Work.steady_pure (output_ofPairs fun _ => by simp)

private theorem deleteEntries_steady (h : engine.Supported world kept time crash proper)
    (entries : List Document) :
    Work.Steady world kept crash (fun _ => True) (engine.deleteEntries entries) := by
  induction entries with
  | nil => exact Work.steady_pure trivial
  | cons entry rest ih =>
    exact (h.ask engine.records (.delete .listEntries entry.id) nofun).bind fun _ _ => ih

theorem Supported.deleteRecord (h : engine.Supported world kept time crash proper)
    {recordId : Option String} :
    Work.Steady world kept crash (Output proper) (engine.deleteRecord ctx stepId recordId) := by
  refine (h.targetRecord recordId).bind fun record _ => ?_
  refine (h.ask engine.records (.query .listEntries _) nofun).bind fun entries _ => ?_
  refine (deleteEntries_steady h entries).bind fun _ _ => ?_
  refine (h.ask engine.records (.delete .records record.id) nofun).bind fun _ _ => ?_
  exact (h.audit _).bind fun _ _ => Work.steady_pure (output_ofPairs fun _ => by simp)

theorem Supported.archiveRecord (h : engine.Supported world kept time crash proper)
    {recordId : Option String} :
    Work.Steady world kept crash (Output proper) (engine.archiveRecord ctx stepId recordId) := by
  refine (h.targetRecord recordId).bind fun record _ => h.now.bind fun now _ => ?_
  refine ((h.ask engine.records (.update .records record.id _) nofun).bind fun _ _ =>
    Work.steady_pure (g := fun _ => True) trivial).bind fun _ _ => ?_
  exact (h.audit _).bind fun _ _ => Work.steady_pure (output_ofPairs fun _ => by simp)

/-- The entry of a membership comes from the store. -/
def Membership.Proper (proper : Prop) (m : Membership) : Prop :=
  proper → ∀ entry ∈ m.entry, entry.Canonical

private theorem membership_steady (h : engine.Supported world kept time crash proper)
    {listId : String} {recordId : Option String} :
    Work.Steady world kept crash (Membership.Proper proper)
      (engine.membership ctx listId recordId) := by
  refine (h.requireIn engine.records .lists nofun _ _).bind fun list _ => ?_
  refine Work.steady_any.bind fun recordId _ => ?_
  refine ((h.ask engine.records (.query .listEntries _) nofun).bind fun docs own =>
    Work.steady_pure (g := fun found : Option Document => proper →
      ∀ entry ∈ found, entry.Canonical) fun hp entry first =>
        own hp entry (List.mem_of_mem_head? first)).bind fun entry own => ?_
  exact Work.steady_pure own

private theorem requireEntry_steady {m : Membership} (hm : m.Proper proper) :
    Work.Steady world kept crash (fun entry => proper → entry.Canonical)
      (Work.ofExcept m.requireEntry : Work StepError Document) := by
  refine Work.steady_ofExcept fun entry ok hp => ?_
  unfold Membership.requireEntry at ok
  split at ok
  · next found =>
    cases ok
    exact hm hp entry found
  · cases ok

private theorem output_membership {m : Membership} {entryId : String}
    {more : List (String × Value)} (hm : proper → ∀ p ∈ more, p.2.Canonical) :
    Output proper (m.output entryId more) :=
  output_ofPairs fun hp => List.forall_mem_append.mpr ⟨by simp, hm hp⟩

private theorem dataOf_canonical {doc : Document} (h : doc.Canonical) :
    Members.Canonical (((doc.get? "data").bind (·.asObject?)).getD []) := by
  cases found : (doc.get? "data").bind (·.asObject?) with
  | none => exact Members.canonical_nil
  | some members =>
    obtain ⟨v, at_data, object⟩ := Option.bind_eq_some_iff.mp found
    cases v with
    | object ms =>
      cases object
      exact Document.canonical_get? h at_data
    | _ => cases object

private theorem given_canonical {data : Option Members}
    (hd : ∀ members ∈ data, Members.Canonical members) : Members.Canonical (data.getD []) := by
  cases data with
  | none => exact Members.canonical_nil
  | some members => exact hd members rfl

theorem Supported.changeList (h : engine.Supported world kept time crash proper)
    {command : ListCommand} {listId : String} {recordId : Option String} {data : Option Members}
    (hd : ∀ members ∈ data, Members.Canonical members) :
    Work.Steady world kept crash (Output proper)
      (engine.changeList ctx stepId command listId recordId data) := by
  refine (membership_steady h).bind fun m hm => ?_
  cases command with
  | add =>
    change Work.Steady _ _ _ _ (engine.addToList ctx stepId m _)
    unfold addToList
    split
    · exact Work.steady_pure (output_membership fun _ => by simp)
    · refine (h.requireIn engine.records .records nofun _ _).bind fun _ _ => ?_
      refine (h.ask engine.records (.insert .listEntries _) nofun).bind fun entryId _ => ?_
      exact (h.audit _).bind fun _ _ => Work.steady_pure (output_membership fun _ => by simp)
  | remove =>
    refine (requireEntry_steady hm).bind fun entry _ => ?_
    refine (h.ask engine.records (.delete .listEntries entry.id) nofun).bind fun _ _ => ?_
    exact (h.audit _).bind fun _ _ => Work.steady_pure (output_membership fun _ => by simp)
  | update =>
    refine (requireEntry_steady hm).bind fun entry own => h.now.bind fun now _ => ?_
    refine (h.ask engine.records (.update .listEntries entry.id _) nofun).bind fun _ _ => ?_
    refine (h.audit _).bind fun _ _ => Work.steady_pure (output_membership fun hp => ?_)
    have merged := Members.canonical_merge (dataOf_canonical (own hp)) (given_canonical hd)
    exact List.forall_mem_singleton.mpr merged

private theorem readBody_canonical (text : String) :
    (Webhook.Sender.readBody text).Canonical := by
  unfold Webhook.Sender.readBody
  split
  · trivial
  · cases read : Json.parse? text with
    | none => trivial
    | some v => exact Json.parse?_canonical read

/-- The body of the response that a delivery ends with is in key order. -/
private def Answered (outcome : Except StepError Webhook.Response) : Prop :=
  ∀ response, outcome = .ok response → response.body.Canonical

private theorem attempt_meets (h : engine.Supported world kept time crash proper) (w : Webhook)
    {s : σ} (start : kept s) : (engine.sender.attempt w).Meets world .free
      (fun attempt after => Answered attempt.outcome ∧ kept after) s := by
  unfold Webhook.Sender.attempt
  split
  · exact ⟨nofun, start⟩
  · split
    · exact ⟨nofun, start⟩
    · split
      · exact ⟨nofun, start⟩
      · refine ⟨trivial, nofun, fun started s₁ began => ⟨trivial, nofun, fun reply s₂ came => ?_⟩⟩
        have valid := h.exchange _ _ s₁ reply s₂ (h.clock s started s₁ start began).2 came
        cases reply with
        | expired => exact ⟨nofun, valid⟩
        | unreachable => exact ⟨nofun, valid⟩
        | response status body =>
          refine ⟨trivial, nofun, fun ended s₃ last => ⟨fun response ok => ?_, (h.clock _ _ _ valid last).2⟩⟩
          dsimp only [Webhook.Sender.outcome] at ok
          split at ok
          · cases ok
          · cases ok
            exact readBody_canonical body

theorem Supported.sendWebhook (h : engine.Supported world kept time crash proper) (w : Webhook) :
    Work.Steady world kept crash (Output proper) (engine.sendWebhook ctx stepId w) := by
  have sent : Work.Steady world kept crash (fun d => Answered d.outcome)
      (Work.ofProgram (engine.sender.send w) : Work StepError Webhook.Delivery) := by
    refine Work.steady_ofProgram fun s start => ⟨trivial, nofun, fun started s₁ began => ?_⟩
    refine (attempt_meets h w (h.clock _ _ _ start began).2).bind fun attempt s₂ post => ?_
    exact ⟨trivial, nofun, fun ended s₃ last => ⟨post.1, (h.clock _ _ _ post.2 last).2⟩⟩
  refine sent.bind fun delivery answered => ?_
  refine (Work.Steady.ignoring (g := fun _ => True) ?_).bind fun _ _ => ?_
  · refine Work.steady_any.bind fun _ _ => ?_
    exact (h.ask (engine.store id) (.insert .webhookLogs _) nofun).bind fun _ _ =>
      Work.steady_pure trivial
  · refine (Work.steady_ofExcept answered).bind fun response body => ?_
    exact Work.steady_pure (output_ofPairs fun _ => by simp [body])

theorem Supported.callTool (h : engine.Supported world kept time crash proper) {tool : String}
    {arguments : Value} (ha : arguments.Canonical) :
    Work.Steady world kept crash (Output proper) (engine.callTool ctx tool arguments) := by
  refine (Work.Steady.mapError (g := fun result => proper → ToolResult.Canonical result)
    ?_).bind fun result own => ?_
  · unfold Toolbox.call
    split
    · next found =>
      refine h.tool _ (List.mem_of_find?_eq_some found) _ _ fun _ => ?_
      unfold toolArguments
      split
      · exact Members.canonical_nil
      · exact ha
    · exact Work.steady_fail _
  · cases result with
    | success data =>
      exact Work.steady_pure (output_ofPairs fun hp => by simpa [ToolResult.Canonical] using own hp)
    | error text => exact Work.steady_fail _

theorem Supported.runPrimitive (h : engine.Supported world kept time crash proper) {p : Primitive}
    (hp : p.Canonical) :
    Work.Steady world kept crash (Output proper) (engine.runPrimitive ctx stepId p) := by
  cases p with
  | field command recordId => exact h.changeField hp
  | createRecord objectTypeId data => exact h.createRecord
  | deleteRecord recordId => exact h.deleteRecord
  | archiveRecord recordId => exact h.archiveRecord
  | list command listId recordId data => exact h.changeList hp
  | sendWebhook webhook => exact h.sendWebhook webhook
  | callTool tool arguments => exact h.callTool hp

theorem Supported.subjectValue (h : engine.Supported world kept time crash proper)
    (subject : Subject) : Work.Steady world kept crash (fun _ => True)
      (engine.subjectValue ctx subject) := by
  cases subject with
  | record =>
    change Work.Steady _ _ _ _ (engine.currentRecord ctx)
    unfold currentRecord
    split
    · exact Work.steady_pure trivial
    · refine (h.ask engine.records (.get .records _) nofun).bind fun found _ => ?_
      cases found <;> exact Work.steady_pure trivial
  | previous => exact Work.steady_pure trivial
  | loopItem => exact Work.steady_pure trivial

theorem Supported.loopItems (h : engine.Supported world kept time crash proper)
    (settings : LoopSettings) (max : Nat) : Work.Steady world kept crash (fun _ => True)
      (engine.loopItems ctx settings max) := by
  unfold Engine.loopItems
  split
  · split
    · exact Work.steady_pure trivial
    · exact Work.steady_fail _
  · split
    · exact Work.steady_fail _
    · refine (h.targetRecord settings.recordId).bind fun record _ => ?_
      split
      · exact Work.steady_pure trivial
      · exact Work.steady_pure trivial
      · exact Work.steady_fail _
  · split
    · exact Work.steady_fail _
    · refine ((h.ask engine.records (.query .records _) nofun).bind fun docs _ =>
        Work.steady_pure (g := fun _ => True) trivial).bind fun _ _ => ?_
      exact Work.steady_pure trivial

/-- What steps keep and leave when they may rely on as much. -/
def conduct (kept : σ → Prop) (time : Time.Instant → Prop) (crash : Crash → Prop)
    (proper : Prop) : Conduct σ where
  kept := kept
  output := Output proper
  time := time
  crash := crash

private theorem encode_canonical {r : StepResult} (h : ∀ v ∈ r.output, v.Canonical) :
    r.encode.Canonical := by
  refine Value.canonical_ofPresent fun p hp v hv => ?_
  simp only [StepResult.members, List.mem_cons, List.not_mem_nil, or_false] at hp
  rcases hp with rfl | rfl | rfl | rfl | rfl | rfl | rfl
  case inr.inr.inr.inr.inr.inl => exact h v hv
  case inr.inr.inr.inr.inr.inr =>
    obtain ⟨text, _, rfl⟩ := Option.map_eq_some_iff.mp hv
    trivial
  all_goals
    cases hv
    trivial

private theorem encodeAll_canonical {results : List StepResult}
    (h : ∀ r ∈ results, ∀ v ∈ r.output, v.Canonical) : (StepResult.encodeAll results).Canonical := by
  refine Value.canonical_array.mpr fun v hv => ?_
  obtain ⟨r, hr, rfl⟩ := List.mem_map.mp hv
  exact encode_canonical (h r hr)

theorem Supported.follows (h : engine.Supported world kept time crash proper) :
    engine.Follows world .free (conduct kept time crash proper) where
  clock s start := ⟨trivial, nofun, fun t after w => h.clock s t after start w⟩
  withOutput _ _ _ _ _ := trivial
  atItem _ _ _ _ _ := trivial
  primitive _ _ _ s _ hp start := h.runPrimitive hp s start
  subject _ subject s _ start :=
    (h.subjectValue subject s start).mono (fun _ _ post => post.2) fun _ _ post => post
  items _ settings max s _ start :=
    (h.loopItems settings max s start).mono (fun _ _ post => post.2) fun _ _ post => post
  branch holds results out := output_ofPairs fun hp => by
    simpa using encodeAll_canonical fun r hr v hv => ((out r hr).1 v hv).2 hp
  loop truncated iterations out := output_ofPairs fun hp => by
    simp only [List.mem_cons, List.not_mem_nil, or_false, forall_eq_or_imp, forall_eq,
      Value.canonical_ofNat, Value.canonical_bool, true_and, Value.canonical_array]
    intro v hv
    obtain ⟨index, small, rfl⟩ := List.mem_mapIdx.mp hv
    refine Value.canonical_ofPairs (List.forall_mem_cons.mpr ⟨trivial, ?_⟩)
    refine List.forall_mem_singleton.mpr (encodeAll_canonical fun r hr v hv => ?_)
    exact ((out _ (List.getElem_mem small) r hr).1 v hv).2 hp

end Engine
end Automation

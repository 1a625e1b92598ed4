import Automation.Engine.Standard
import Automation.Proofs.Engine.Interpretation
import Automation.Proofs.Engine.WrittenFields
import Automation.Proofs.Store.Surroundings

/-!
Runs keep to the workspace of their action. Each operation is confined by what was read before it,
and entries of lists, which nobody checks, by the coherence of the store. What is read of other
workspaces is dropped, but for one place: the record of the run is reloaded by its id alone.
-/
namespace Automation

open MemoryStore

variable {ε ε' α β : Type} {idAt : Nat → String} {W : String} {blind : Prop} {s : MemoryStore}

namespace Work

/-- What is replied, where the store stays sound and grows in the workspace only. -/
def Steps (idAt : Nat → String) (W : String) : World MemoryStore := fun effect s reply after =>
  MemoryStore.world idAt effect s reply after ∧ after.Sound idAt ∧ Grows idAt W s after

/-- Work that stays within a workspace and ends with what is promised, if it does not stop. -/
def Stays (idAt : Nat → String) (W : String) (blind : Prop) (post : α → MemoryStore → Prop)
    (work : Work ε α) (s : MemoryStore) : Prop :=
  Meets (Steps idAt W) (within idAt W blind)
    (fun a after => post a after ∧ after.Sound idAt ∧ Grows idAt W s after)
    (fun _ after => after.Sound idAt ∧ Grows idAt W s after) work s

theorem stays_pure {p : α → MemoryStore → Prop} {a : α} (sound : s.Sound idAt) (h : p a s) :
    Stays idAt W blind p (pure a : Work ε α) s :=
  meets_pure.mpr ⟨h, sound, .refl s⟩

theorem stays_fail {p : α → MemoryStore → Prop} (sound : s.Sound idAt) (e : ε) :
    Stays idAt W blind p (Work.fail e : Work ε α) s :=
  meets_fail.mpr ⟨sound, .refl s⟩

theorem stays_crash {p : α → MemoryStore → Prop} (sound : s.Sound idAt) (c : Crash) :
    Stays idAt W blind p (Work.crash c : Work ε α) s :=
  ⟨sound, .refl s⟩

theorem stays_bindExcept {p : β → MemoryStore → Prop} {result : Except ε α}
    {next : α → Work ε β} (sound : s.Sound idAt)
    (h : ∀ a, result = .ok a → Stays idAt W blind p (next a) s) :
    Stays idAt W blind p (Work.ofExcept result >>= next) s := by
  cases result with
  | ok a => exact h a rfl
  | error e => exact stays_fail sound e

theorem Stays.after {middle : MemoryStore} {p : α → MemoryStore → Prop} {work : Work ε α}
    (h : Stays idAt W blind p work middle) (grown : Grows idAt W s middle) :
    Meets (Steps idAt W) (within idAt W blind)
      (fun a after => p a after ∧ after.Sound idAt ∧ Grows idAt W s after)
      (fun _ after => after.Sound idAt ∧ Grows idAt W s after) work middle :=
  Meets.mono h (fun _ _ ⟨came, sound, more⟩ => ⟨came, sound, grown.trans more⟩)
    fun _ _ ⟨sound, more⟩ => ⟨sound, grown.trans more⟩

theorem Stays.bind {first : α → MemoryStore → Prop} {p : β → MemoryStore → Prop} {work : Work ε α}
    {next : α → Work ε β} (h : Stays idAt W blind first work s)
    (rest : ∀ a after, after.Sound idAt → Grows idAt W s after → first a after →
      Stays idAt W blind p (next a) after) : Stays idAt W blind p (work >>= next) s :=
  Meets.bind h fun a after ⟨came, sound, grown⟩ => (rest a after sound grown came).after grown

theorem Stays.mono {first second : α → MemoryStore → Prop} {work : Work ε α}
    (h : Stays idAt W blind first work s) (weaker : ∀ a after, first a after → second a after) :
    Stays idAt W blind second work s :=
  Meets.mono h (fun a after post => ⟨weaker a after post.1, post.2⟩) fun _ _ post => post

theorem Stays.mapError {p : α → MemoryStore → Prop} {f : ε' → ε} {work : Work ε' α}
    (h : Stays idAt W blind p work s) : Stays idAt W blind p (Work.mapError f work) s :=
  Meets.mapError (Meets.mono h (fun _ _ post => post) fun stop _ post => by cases stop <;> exact post)

theorem Stays.ignoring {p : α → MemoryStore → Prop} {work : Work ε' α}
    (h : Stays idAt W blind p work s) :
    Stays idAt W blind (fun _ _ => True) (Work.ignoring work : Work ε Unit) s :=
  Meets.ignoring (Meets.mono h (fun _ _ post => ⟨trivial, post.2⟩) fun stop _ post => by
    cases stop with
    | failed e => exact ⟨trivial, post⟩
    | crashed crash => exact post)

/-- Work whose result is looked at, whatever it is. -/
theorem Stays.settled {p : α → MemoryStore → Prop} {work : Work ε' α}
    (h : Stays idAt W blind p work s) : Stays idAt W blind (fun _ _ => True)
      (Work.ofProgram work.run : Work ε (Except (Stop ε') α)) s :=
  meets_ofProgram (Program.Meets.mono h fun result _ post => by
    cases result with
    | ok a => exact ⟨trivial, post.2⟩
    | error stop => exact ⟨trivial, post⟩)

/-- Whoever starts from a sound store may rely on what each step keeps. -/
theorem Stays.alone {p : α → MemoryStore → Prop} {work : Work ε α}
    (h : Stays idAt W blind p work s) (unique : ∀ m n, idAt m = idAt n → m = n)
    (sound : s.Sound idAt) :
    work.run.Meets (MemoryStore.world idAt) (within idAt W blind)
      (fun _ after => after.Sound idAt ∧ Grows idAt W s after) s :=
  (Program.Meets.steadily (fun s _ => Grows.refl s) (fun _ _ _ _ => Grows.trans)
    (sound_step unique) h sound).mono fun _ _ post => post.2

theorem stays_now :
    Stays idAt W blind (fun _ _ => True) (Work.ofProgram Program.now : Work ε Time.Instant) s := by
  refine meets_ofProgram ⟨trivial, nofun, ?_⟩
  rintro now after ⟨same, sound, grown⟩
  exact ⟨trivial, sound, grown⟩

end Work

namespace Connection

open Work

variable {c : Connection ε} {table : Table} {id : String}

/-- An operation and what is done with the answer, where stores that are alike lead to the same. -/
theorem stays_askThen {op : StoreOp} {next : op.Answer → Work ε α} {p : α → MemoryStore → Prop}
    (confined : Confined idAt W s op)
    (same : blind → ∀ other now, other.Sound idAt → Alike W s other →
      resume next (c.understood (.answered (s.perform ⟨idAt, now⟩ op).1)) =
        resume next (c.understood (.answered (other.perform ⟨idAt, now⟩ op).1)))
    (h : ∀ now answer after, after.Sound idAt → s.perform ⟨idAt, now⟩ op = (.ok answer, after) →
      Stays idAt W blind p (next answer) after) :
    Stays idAt W blind p (c.ask op >>= next) s := by
  refine meets_askThen confined ?_ ?_
  · rintro reply twin ⟨hidden, other, now, sound, alike, rfl, rfl⟩
    exact same hidden other now sound alike
  · rintro reply after ⟨w, sound, grown⟩
    rcases w with ⟨rfl, failed⟩ | ⟨now, rfl, rfl⟩
    · rcases reply with (e | answer) | _ | crash
      · exact ⟨sound, grown⟩
      · exact absurd rfl (failed answer)
      · exact ⟨sound, grown⟩
      · exact ⟨sound, grown⟩
    · cases answered : (s.perform ⟨idAt, now⟩ op).1 with
      | error e => exact ⟨sound, grown⟩
      | ok answer => exact (h now answer _ sound (Prod.ext answered rfl)).after grown

theorem stays_ask {op : StoreOp} {p : op.Answer → MemoryStore → Prop}
    (confined : Confined idAt W s op)
    (same : blind → ∀ other now, other.Sound idAt → Alike W s other →
      (s.perform ⟨idAt, now⟩ op).1 = (other.perform ⟨idAt, now⟩ op).1)
    (h : ∀ now answer after, after.Sound idAt → s.perform ⟨idAt, now⟩ op = (.ok answer, after) →
      p answer after) : Stays idAt W blind p (c.ask op) s := by
  rw [← bind_pure (c.ask op)]
  refine stays_askThen confined (fun hidden other now sound alike => ?_)
    fun now answer after sound done => stays_pure sound (h now answer after sound done)
  rw [same hidden other now sound alike]

/-- A look-up by id, where documents of other workspaces all lead to the same. -/
theorem stays_getThen {next : Option Document → Work ε α} {p : α → MemoryStore → Prop}
    (sound : s.Sound idAt)
    (unseen : blind → ∀ doc twin, doc.id = twin.id → doc.inWorkspace W = false →
      twin.inWorkspace W = false → next (some doc) = next (some twin))
    (h : Stays idAt W blind p (next (s.get? table id)) s) :
    Stays idAt W blind p (c.get table id >>= next) s := by
  refine stays_askThen trivial (fun hidden other now sound' alike => ?_) fun _ _ _ _ done => ?_
  · change (next (s.get? table id)).run = (next (other.get? table id)).run
    rcases alike.get? sound.keyed sound'.keyed table id with same | ⟨doc, twin, found, found', out, out'⟩
    · rw [same]
    · have named := (mem_of_get? found).2.trans (mem_of_get? found').2.symm
      rw [found, found', unseen hidden doc twin named out out']
  · cases done
    exact h

/-- A look-up of what is in the workspace if it is there. -/
theorem stays_get (sound : s.Sound idAt) (owned : blind → Owned W s table id) :
    Stays idAt W blind (fun found after => after = s ∧ found = s.get? table id) (c.get table id) s :=
  stays_ask trivial (fun hidden _ _ sound' alike => congrArg Except.ok
    (alike.get?_owned sound.keyed sound'.keyed (owned hidden))) fun _ _ _ _ done => by
      cases done
      exact ⟨rfl, rfl⟩

/-- A query for documents of the workspace. -/
theorem stays_query {q : Query} (sound : s.Sound idAt)
    (inside : blind → ∀ other : MemoryStore, other.Sound idAt → Alike W s other →
      ∀ doc ∈ other.docs table, q.accepts doc → doc.inWorkspace W) :
    Stays idAt W blind (fun docs after => after = s ∧ docs = s.query table q) (c.query table q) s :=
  stays_ask trivial (fun hidden other _ sound' alike => congrArg Except.ok
    (alike.query (inside hidden s sound (.refl s)) (inside hidden other sound' alike)))
    fun _ _ _ _ done => by
      cases done
      exact ⟨rfl, rfl⟩

theorem stays_insert (table : Table) {fields : Json.Members} (sound : s.Sound idAt)
    (confined : Confined idAt W s (.insert table fields)) :
    Stays idAt W blind (fun id after => Known idAt W after table id) (c.insert table fields) s := by
  refine stays_ask confined (fun _ other now sound' alike =>
    (alike.matches_insert sound.fresh sound'.fresh).answer) fun now id after sound' done => ?_
  rw [perform, insert_eq sound.fresh.unissued] at done
  cases done
  have inside : (made idAt s now fields).inWorkspace W := made_inside confined.1
  exact known_of_mem sound' (mem_next.mpr (.inr ⟨rfl, rfl⟩)) inside

theorem stays_update {u : DocumentUpdate} (sound : s.Sound idAt) (owned : Owned W s table id)
    (links : ∀ name ∈ Document.linkFields, name ∉ u.fields) :
    Stays idAt W blind (fun _ _ => True) (c.update table id u) s :=
  stays_ask ⟨owned, links⟩ (fun _ _ _ sound' alike =>
    (alike.matches_update sound.keyed sound'.keyed ⟨owned, links⟩).answer) fun _ _ _ _ _ => trivial

theorem stays_delete (sound : s.Sound idAt) (owned : Owned W s table id) :
    Stays idAt W blind (fun _ _ => True) (c.delete table id) s :=
  stays_ask owned (fun _ _ _ sound' alike =>
    (alike.matches_delete sound.keyed sound'.keyed owned).answer) fun _ _ _ _ _ => trivial

/-- The document is in the table, as one of the workspace. -/
def Held (W : String) (store : MemoryStore) (table : Table) (doc : Document) : Prop :=
  doc ∈ store.docs table ∧ doc.inWorkspace W

theorem stays_requireIn (sound : s.Sound idAt) :
    Stays idAt W blind (fun doc after => after = s ∧ doc.id = id ∧ Held W s table doc)
      (c.requireIn W table id) s := by
  unfold requireIn require
  rw [bind_assoc]
  refine stays_getThen sound (fun _ doc twin named out out' => ?_) ?_
  · simp [Document.ensureWorkspace, out, out', named]
  · cases found : s.get? table id with
    | none => exact stays_fail sound _
    | some doc =>
      obtain ⟨known, named⟩ := mem_of_get? found
      simp only [pure_bind, Document.ensureWorkspace]
      by_cases inside : doc.inWorkspace W
      · rw [if_pos inside]
        exact stays_pure sound ⟨rfl, named, known, inside⟩
      · rw [if_neg inside]
        exact stays_fail sound _

end Connection

namespace Engine

open Work Connection

variable {engine : Engine} {ctx : Context} {stepId : String}

private theorem text_ofList {pairs : List (String × Json.Value)} {name : String} {value : Json.Value}
    (distinct : (pairs.map (·.1)).Nodup) (h : pairs.lookup name = some value) :
    (Json.Members.ofList pairs).get? name = some value := by
  rw [Json.Members.get?_ofList distinct, h]

private theorem fieldsOf_ofPresent {pairs : List (String × Option Json.Value)} {name : String}
    {value : Option Json.Value} {fields : Json.Members} (distinct : (pairs.map (·.1)).Nodup)
    (link : name ∈ Document.linkFields) (h : (pairs.lookup name).join = value)
    (ok : Document.fieldsOf (.ofPresent pairs) = .ok fields) : fields.get? name = value := by
  cases ok
  rw [Document.get?_withoutSystemFields_link link, Json.Members.get?_present name _ distinct, h]

theorem stays_writeAudit {entry : AuditEntry} (sound : s.Sound idAt) (h : entry.workspaceId = W) :
    Stays idAt W blind (fun _ _ => True) (engine.writeAudit entry) s := by
  refine stays_bindExcept sound fun fields ok => ?_
  have own : fields.get? "workspaceId" = some (.string W) :=
    fieldsOf_ofPresent (by simp) (by decide) (by simp [h]) ok
  exact (stays_insert .auditLogs sound ⟨own, nofun⟩).bind fun _ _ sound _ _ =>
    stays_pure sound trivial

theorem stays_audit {entry : AuditEntry} (sound : s.Sound idAt) (h : entry.workspaceId = W) :
    Stays idAt W blind (fun _ _ => True) (engine.audit ctx stepId entry) s := by
  refine Stays.ignoring (p := fun _ _ => True) ?_
  exact stays_writeAudit sound h

theorem stays_targetRecord {recordId : Option String} (sound : s.Sound idAt)
    (here : ctx.workspaceId = W) : Stays idAt W blind (fun doc after => after = s ∧ Held W s .records doc)
      (engine.targetRecord ctx recordId) s := by
  subst here
  refine stays_bindExcept sound fun id _ => ?_
  exact (stays_requireIn sound).mono fun doc _ ⟨same, _, held⟩ => ⟨same, held⟩

theorem stays_changeField {command : FieldCommand} {recordId : Option String} (sound : s.Sound idAt)
    (here : ctx.workspaceId = W) : Stays idAt W blind (fun _ _ => True)
      (engine.changeField ctx stepId command recordId) s := by
  refine (stays_targetRecord sound here).bind fun record _ _ _ ⟨same, held⟩ => ?_
  subst same
  refine stays_bindExcept sound fun change _ => ?_
  refine stays_now.bind fun now after sound' grown _ => ?_
  have owned := (owned_of_mem sound.keyed held.1 held.2).grows grown
  refine (stays_update sound' owned (change.sparesLinks now)).bind fun _ _ sound _ _ => ?_
  exact (stays_audit sound here).bind fun _ _ sound _ _ => stays_pure sound trivial

theorem stays_createRecord {objectTypeId : String} {data : Json.Members} (sound : s.Sound idAt)
    (here : ctx.workspaceId = W) : Stays idAt W blind (fun _ _ => True)
      (engine.createRecord ctx stepId objectTypeId data) s := by
  subst here
  refine (stays_requireIn sound).bind fun _ _ sound _ _ => ?_
  have own : (newRecord ctx objectTypeId data).get? "workspaceId" =
      some (.string ctx.workspaceId) := text_ofList (by simp) rfl
  refine (stays_insert .records sound ⟨own, nofun⟩).bind fun _ _ sound _ _ => ?_
  exact (stays_audit sound rfl).bind fun _ _ sound _ _ => stays_pure sound trivial

private theorem stays_deleteEntries {entries : List Document} (sound : s.Sound idAt)
    (owned : ∀ entry ∈ entries, Owned W s .listEntries entry.id) :
    Stays idAt W blind (fun _ _ => True) (engine.deleteEntries entries) s := by
  induction entries generalizing s with
  | nil => exact stays_pure sound trivial
  | cons entry rest ih =>
    rw [List.forall_mem_cons] at owned
    exact (stays_delete sound owned.1).bind fun _ _ sound grown _ =>
      ih sound fun entry known => (owned.2 entry known).grows grown

/-- What a query by text accepts has the texts. -/
private theorem getText?_of_accepts {pairs : List (String × String)} {limit : Option Nat}
    {doc : Document} (accepted : Query.accepts { Query.byText pairs with limit } doc)
    {path text : String} (hp : (path, text) ∈ pairs) : doc.getText? path = some text := by
  have accepted : (Query.byText pairs).accepts doc = true := accepted
  have found : doc.get? path = some (.string text) := Query.accepts_byText.mp accepted _ hp
  rw [Document.getText?, found]
  rfl

theorem inside_of_accepts {pairs : List (String × String)} {n : Option Nat}
    {doc : Document} (hp : ("workspaceId", W) ∈ pairs)
    (accepted : Query.accepts { Query.byText pairs with limit := n } doc) : doc.inWorkspace W := by
  rw [Document.inWorkspace, Document.workspaceId?, getText?_of_accepts accepted hp]
  exact beq_self_eq_true _

private theorem inside_of_eq {doc other : Document} (same : doc.workspaceId? = other.workspaceId?)
    (inside : other.inWorkspace W) : doc.inWorkspace W := by
  rwa [Document.inWorkspace, same]

private theorem held_alike {other : MemoryStore} {table : Table} {doc : Document}
    (alike : Alike W s other) (held : Held W s table doc) : Held W other table doc :=
  ⟨alike.mem_own held.1 held.2, held.2⟩

/-- The entries that name a record of the workspace. -/
private theorem entry_of_record {record entry : Document} {limit : Option Nat} (sound : s.Sound idAt)
    (held : Held W s .records record) (known : entry ∈ s.docs .listEntries)
    (accepted : Query.accepts { Query.byText [("recordId", record.id)] with limit } entry) :
    entry.inWorkspace W :=
  inside_of_eq ((sound.coherent entry known).2 record held.1
    (getText?_of_accepts accepted (List.mem_singleton.mpr rfl))) held.2

/-- The entries that name a list of the workspace. -/
private theorem entry_of_list {list entry : Document} {recordId : String} {limit : Option Nat}
    (sound : s.Sound idAt) (held : Held W s .lists list) (known : entry ∈ s.docs .listEntries)
    (accepted : Query.accepts
      { Query.byText [("listId", list.id), ("recordId", recordId)] with limit } entry) :
    entry.inWorkspace W :=
  inside_of_eq ((sound.coherent entry known).1 list held.1
    (getText?_of_accepts accepted (List.mem_cons_self ..))) held.2

theorem stays_deleteRecord {recordId : Option String} (sound : s.Sound idAt)
    (here : ctx.workspaceId = W) :
    Stays idAt W blind (fun _ _ => True) (engine.deleteRecord ctx stepId recordId) s := by
  refine (stays_targetRecord sound here).bind fun record _ _ _ ⟨same, held⟩ => ?_
  subst same
  -- entries are not checked: that they are in the workspace is the coherence of the store
  refine (stays_query sound fun _ other sound' alike entry =>
    entry_of_record sound' (held_alike alike held)).bind fun entries _ _ _ ⟨same, found⟩ => ?_
  subst same found
  refine (stays_deleteEntries sound fun entry found => ?_).bind fun _ _ sound' grown _ => ?_
  · obtain ⟨known, accepted⟩ := mem_query found
    exact owned_of_mem sound.keyed known (entry_of_record sound held known accepted)
  · refine (stays_delete sound' ((owned_of_mem sound.keyed held.1 held.2).grows grown)).bind
      fun _ _ sound _ _ => ?_
    exact (stays_audit sound here).bind fun _ _ sound _ _ => stays_pure sound trivial

theorem stays_archiveRecord {recordId : Option String} (sound : s.Sound idAt)
    (here : ctx.workspaceId = W) :
    Stays idAt W blind (fun _ _ => True) (engine.archiveRecord ctx stepId recordId) s := by
  refine (stays_targetRecord sound here).bind fun record _ _ _ ⟨same, held⟩ => ?_
  subst same
  refine stays_now.bind fun now after sound' grown _ => ?_
  have owned := (owned_of_mem sound.keyed held.1 held.2).grows grown
  refine ((stays_update sound' owned (archive_sparesLinks now)).bind fun _ _ sound _ _ =>
    stays_pure sound (p := fun _ _ => True) trivial).bind fun _ _ sound _ _ => ?_
  exact (stays_audit sound here).bind fun _ _ sound _ _ => stays_pure sound trivial

/-- A list of the workspace, and an entry there. -/
structure Membership.Held (idAt : Nat → String) (W : String) (m : Membership) (s : MemoryStore) :
    Prop where
  list : Known idAt W s .lists m.listId
  entry : ∀ entry ∈ m.entry, Owned W s .listEntries entry.id

private theorem stays_membership {listId : String} {recordId : Option String} (sound : s.Sound idAt)
    (here : ctx.workspaceId = W) : Stays idAt W blind (Membership.Held idAt W)
      (engine.membership ctx listId recordId) s := by
  subst here
  refine (stays_requireIn sound).bind fun list s' _ _ ⟨same, _, held⟩ => ?_
  subst s'
  refine stays_bindExcept sound fun recordId _ => ?_
  have first : Stays idAt ctx.workspaceId blind (fun found after => after = s ∧ ∀ entry ∈ found,
      Owned ctx.workspaceId s .listEntries entry.id) (engine.records.first .listEntries
        (.byText [("listId", list.id), ("recordId", recordId)])) s := by
    refine (stays_query sound fun _ other sound' alike entry =>
      entry_of_list sound' (held_alike alike held)).bind fun docs s' _ _ ⟨same, found⟩ => ?_
    subst s' found
    refine stays_pure sound ⟨rfl, fun entry first => ?_⟩
    obtain ⟨known, accepted⟩ := mem_query (List.mem_of_mem_head? first)
    exact owned_of_mem sound.keyed known (entry_of_list sound held known accepted)
  refine first.bind fun entry s' _ _ ⟨same, owned⟩ => ?_
  subst s'
  exact stays_pure sound ⟨known_of_mem sound held.1 held.2, owned⟩

theorem stays_addToList {m : Membership} {data : Json.Members} (sound : s.Sound idAt)
    (here : ctx.workspaceId = W) (held : m.Held idAt W s) :
    Stays idAt W blind (fun _ _ => True) (engine.addToList ctx stepId m data) s := by
  subst here
  unfold addToList
  split
  · exact stays_pure sound trivial
  · refine (stays_requireIn sound).bind fun record s' _ _ ⟨same, named, known⟩ => ?_
    subst s'
    have field (name : String) {value : Json.Value}
        (h : [("workspaceId", Json.Value.string ctx.workspaceId), ("listId", .string m.listId),
          ("recordId", .string m.recordId), ("data", .object data),
          ("addedBy", .ofText? ctx.actorId)].lookup name = some value) :
        (newEntry ctx m data).get? name = some value := text_ofList (by simp) h
    have confined : Confined idAt ctx.workspaceId s (.insert .listEntries (newEntry ctx m data)) := by
      refine ⟨field _ rfl, fun _ => ⟨fun id found => ?_, fun id found => ?_⟩⟩
      · cases (field "listId" rfl).symm.trans found
        exact held.list
      · cases (field "recordId" rfl).symm.trans found
        exact named ▸ known_of_mem sound known.1 known.2
    refine (stays_insert .listEntries sound confined).bind fun _ _ sound _ _ => ?_
    exact (stays_audit sound rfl).bind fun _ _ sound _ _ => stays_pure sound trivial

private theorem requireEntry_owned {m : Membership} {entry : Document} (held : m.Held idAt W s)
    (ok : m.requireEntry = .ok entry) : Owned W s .listEntries entry.id := by
  unfold Membership.requireEntry at ok
  split at ok
  · next found =>
    cases ok
    exact held.entry entry found
  · cases ok

theorem stays_changeList {command : ListCommand} {listId : String} {recordId : Option String}
    {data : Option Json.Members} (sound : s.Sound idAt) (here : ctx.workspaceId = W) :
    Stays idAt W blind (fun _ _ => True)
      (engine.changeList ctx stepId command listId recordId data) s := by
  refine (stays_membership sound here).bind fun m _ sound _ held => ?_
  cases command with
  | add => exact stays_addToList sound here held
  | remove =>
    refine stays_bindExcept sound fun entry ok => ?_
    refine (stays_delete sound (requireEntry_owned held ok)).bind fun _ _ sound _ _ => ?_
    exact (stays_audit sound here).bind fun _ _ sound _ _ => stays_pure sound trivial
  | update =>
    refine stays_bindExcept sound fun entry ok => ?_
    refine stays_now.bind fun now _ sound grown _ => ?_
    refine (stays_update sound ((requireEntry_owned held ok).grows grown)
      (entryUpdate_sparesLinks _ now)).bind fun _ _ sound _ _ => ?_
    exact (stays_audit sound here).bind fun _ _ sound _ _ => stays_pure sound trivial

private theorem stays_send {sender : Webhook.Sender} {w : Webhook} :
    Stays idAt W blind (fun _ _ => True)
      (Work.ofProgram (sender.send w) : Work StepError Webhook.Delivery) s := by
  refine meets_ofProgram ⟨trivial, nofun, fun started s₁ ⟨_, sound, grown⟩ => ?_⟩
  have attempt : (sender.attempt w).Meets (Steps idAt W) (within idAt W blind)
      (fun _ after => after.Sound idAt ∧ Grows idAt W s₁ after) s₁ := by
    unfold Webhook.Sender.attempt
    split
    · exact ⟨sound, .refl _⟩
    · split
      · exact ⟨sound, .refl _⟩
      · split
        · exact ⟨sound, .refl _⟩
        · refine ⟨trivial, nofun, fun _ s₂ ⟨_, _, g₂⟩ => ⟨trivial, nofun,
            fun reply s₃ ⟨_, sound, g₃⟩ => ?_⟩⟩
          cases reply with
          | expired => exact ⟨sound, g₂.trans g₃⟩
          | unreachable => exact ⟨sound, g₂.trans g₃⟩
          | response status body =>
            exact ⟨trivial, nofun, fun _ s₄ ⟨_, sound, g₄⟩ => ⟨sound, (g₂.trans g₃).trans g₄⟩⟩
  refine attempt.bind fun _ s₂ ⟨_, g₂⟩ => ⟨trivial, nofun, fun _ s₃ ⟨_, sound, g₃⟩ => ?_⟩
  exact ⟨trivial, sound, (grown.trans g₂).trans g₃⟩

private theorem loggedFields_workspace {log : Webhook.Log} {fields : Json.Members}
    (ok : loggedFields ctx stepId log = .ok fields) :
    fields.get? "workspaceId" = some (.string ctx.workspaceId) := by
  obtain ⟨own, encoded, rfl⟩ := Decode.except_map_ok.mp ok
  cases encoded
  rw [Json.Members.get?_merge_of_not_mem fun p hp => ?_]
  · exact text_ofList (by simp) rfl
  · have known := Json.Members.mem_ofList (List.mem_filter.mp (List.mem_filter.mp hp).1).1
    obtain ⟨⟨key, value⟩, listed, present⟩ := List.mem_filterMap.mp known
    obtain ⟨v, _, rfl⟩ := Option.map_eq_some_iff.mp present
    have keys : ∀ name ∈ ["url", "method", "requestHeaders", "requestBody", "statusCode",
      "durationMs", "success", "error"], name ≠ "workspaceId" := by decide
    exact keys key (List.mem_map_of_mem (f := (·.1)) listed)

theorem stays_sendWebhook {w : Webhook} (here : ctx.workspaceId = W) :
    Stays idAt W blind (fun _ _ => True) (engine.sendWebhook ctx stepId w) s := by
  subst here
  refine stays_send.bind fun delivery _ sound _ _ => ?_
  refine (Stays.ignoring (p := fun _ _ => True) ?_).bind fun _ _ sound _ _ => ?_
  · refine stays_bindExcept sound fun fields ok => ?_
    have own := loggedFields_workspace ok
    exact (stays_insert .webhookLogs sound ⟨own, nofun⟩).bind fun _ _ sound _ _ =>
      stays_pure sound trivial
  · exact stays_bindExcept sound fun response _ => stays_pure sound trivial

private theorem stays_search {search : RecordSearch} {c : Connection ε} {limit : Nat}
    (sound : s.Sound idAt) (here : search.workspaceId = W) :
    Stays idAt W blind (fun _ _ => True) (search.run c limit) s := by
  subst here
  refine (stays_query sound fun _ _ _ _ doc _ => ?_).bind fun _ _ sound _ _ => stays_pure sound trivial
  exact inside_of_accepts (n := none) (List.mem_cons_self ..)

private theorem stays_arguments {tool : String} {decode : Decode.Decoder α} {value : Json.Value}
    (sound : s.Sound idAt) :
    Stays idAt W blind (fun _ after => after = s) (Toolbox.arguments tool decode value) s := by
  unfold Toolbox.arguments
  split
  · exact stays_pure sound rfl
  · exact stays_fail sound _

private theorem stays_tool {tool : Tool} {c : Connection ToolFailure} {arguments : Json.Value}
    {caller : ToolContext} (sound : s.Sound idAt) (builtIn : tool ∈ Toolbox.recordTools.tools)
    (here : caller.workspaceId = W) :
    Stays idAt W blind (fun _ _ => True) (tool.call c arguments caller) s := by
  subst here
  have listed : tool ∈ [Toolbox.getRecord, Toolbox.searchRecords] := builtIn
  simp only [List.mem_cons, List.not_mem_nil, or_false] at listed
  rcases listed with rfl | rfl
  · refine (stays_arguments sound).bind fun id s' _ _ same => ?_
    subst s'
    refine stays_getThen sound (fun _ doc twin _ out out' => ?_) ?_
    · simp only [out, out', Bool.false_eq_true, if_false]
    · cases s.get? .records id with
      | none => exact stays_pure sound trivial
      | some doc =>
        dsimp only
        split <;> exact stays_pure sound trivial
  · refine (stays_arguments sound).bind fun args _ sound _ _ => ?_
    exact (stays_search sound rfl).bind fun docs _ sound _ _ => stays_pure sound trivial

theorem stays_callTool (builtIn : engine.tools = Toolbox.recordTools) {tool : String}
    {arguments : Json.Value} (sound : s.Sound idAt) (here : ctx.workspaceId = W) :
    Stays idAt W blind (fun _ _ => True) (engine.callTool ctx tool arguments) s := by
  refine (Stays.mapError (p := fun _ _ => True) ?_).bind fun result _ sound _ _ => ?_
  · unfold Toolbox.call
    split
    · next found =>
      rw [builtIn] at found
      exact stays_tool sound (List.mem_of_find?_eq_some found) here
    · exact stays_fail sound _
  · cases result with
    | success data => exact stays_pure sound trivial
    | error text => exact stays_fail sound _

theorem stays_runPrimitive (builtIn : engine.tools = Toolbox.recordTools) {p : Primitive}
    (sound : s.Sound idAt) (here : ctx.workspaceId = W) :
    Stays idAt W blind (fun _ _ => True) (engine.runPrimitive ctx stepId p) s := by
  cases p with
  | field command recordId => exact stays_changeField sound here
  | createRecord objectTypeId data => exact stays_createRecord sound here
  | deleteRecord recordId => exact stays_deleteRecord sound here
  | archiveRecord recordId => exact stays_archiveRecord sound here
  | list command listId recordId data => exact stays_changeList sound here
  | sendWebhook webhook => exact stays_sendWebhook here
  | callTool tool arguments => exact stays_callTool builtIn sound here

/-- The record of the run is reloaded without a look at its workspace. -/
theorem stays_subjectValue {subject : Subject} (sound : s.Sound idAt)
    (seen : blind → ∀ snapshot ∈ ctx.record, Owned W s .records snapshot.id) :
    Stays idAt W blind (fun _ _ => True) (engine.subjectValue ctx subject) s := by
  cases subject with
  | record =>
    change Stays _ _ _ _ (engine.currentRecord ctx) _
    unfold currentRecord
    split
    · exact stays_pure sound trivial
    · next snapshot recorded =>
      refine (stays_get sound fun hidden => seen hidden snapshot recorded).bind
        fun found _ sound _ _ => ?_
      cases found <;> exact stays_pure sound trivial
  | previous => exact stays_pure sound trivial
  | loopItem => exact stays_pure sound trivial

theorem stays_loopItems {settings : LoopSettings} {max : Nat} (sound : s.Sound idAt)
    (here : ctx.workspaceId = W) :
    Stays idAt W blind (fun _ _ => True) (engine.loopItems ctx settings max) s := by
  unfold loopItems
  split
  · split
    · exact stays_pure sound trivial
    · exact stays_fail sound _
  · split
    · exact stays_fail sound _
    · refine (stays_targetRecord sound here).bind fun record _ sound _ _ => ?_
      split
      · exact stays_pure sound trivial
      · exact stays_pure sound trivial
      · exact stays_fail sound _
  · split
    · exact stays_fail sound _
    · exact (stays_search sound here).bind fun docs _ sound _ _ => stays_pure sound trivial

/-- Steps keep a store sound and let it grow in the workspace; their context is of the workspace. If
they are to be blind to others, the record of the run has to be there, too. -/
def confined (idAt : Nat → String) (W : String) (blind : Prop) (origin : MemoryStore) :
    Conduct MemoryStore where
  kept s := s.Sound idAt ∧ Grows idAt W origin s
  context ctx := ctx.workspaceId = W ∧
    (blind → ∀ snapshot ∈ ctx.record, Owned W origin .records snapshot.id)

/-- All that steps do stays within the workspace of their context. -/
theorem follows_confined (builtIn : engine.tools = Toolbox.recordTools) (origin : MemoryStore) :
    engine.Follows (Steps idAt W) (within idAt W blind) (confined idAt W blind origin) where
  clock _ start := ⟨trivial, nofun, fun _ _ ⟨_, sound, grown⟩ =>
    ⟨trivial, sound, start.2.trans grown⟩⟩
  withOutput _ _ _ here _ := here
  atItem _ _ _ _ here := here
  primitive _ _ _ s here _ start := Meets.mono (stays_runPrimitive builtIn start.1 here.1)
    (fun _ _ ⟨_, sound, grown⟩ => ⟨trivial, sound, start.2.trans grown⟩)
    fun stop _ ⟨sound, grown⟩ => ⟨by cases stop <;> trivial, sound, start.2.trans grown⟩
  subject _ _ s here start := Meets.mono (stays_subjectValue start.1 fun hidden snapshot recorded =>
      (here.2 hidden snapshot recorded).grows start.2)
    (fun _ _ ⟨_, sound, grown⟩ => ⟨sound, start.2.trans grown⟩)
    fun stop _ ⟨sound, grown⟩ => ⟨by cases stop <;> trivial, sound, start.2.trans grown⟩
  items _ _ _ s here start := Meets.mono (stays_loopItems start.1 here.1)
    (fun _ _ ⟨_, sound, grown⟩ => ⟨sound, start.2.trans grown⟩)
    fun stop _ ⟨sound, grown⟩ => ⟨by cases stop <;> trivial, sound, start.2.trans grown⟩
  branch _ _ _ := trivial
  loop _ _ _ := trivial

theorem stays_start {action : Action} {occasion : Occasion} :
    Stays idAt action.workspaceId blind
      (fun id after => Owned action.workspaceId after .actionExecutions id)
      (engine.start action occasion) s := by
  refine stays_now.bind fun now _ sound _ _ => ?_
  refine stays_bindExcept sound fun fields ok => ?_
  have own : fields.get? "workspaceId" = some (.string action.workspaceId) :=
    fieldsOf_ofPresent (by simp) (by decide) rfl (Decode.except_mapError_ok.mp ok)
  refine (stays_insert .actionExecutions sound ⟨own, nofun⟩).bind
    fun id _ sound _ known => ?_
  refine ((stays_update sound known.1 fun name link changed => ?_).bind fun _ _ sound _ _ =>
    stays_pure sound (p := fun _ _ => True) trivial).bind fun _ _ sound grown _ => ?_
  · have kept : ∀ name ∈ Document.linkFields, name ∉ ["status"].map DocumentUpdate.fieldOf := by
      decide +kernel
    exact kept name link changed
  · exact stays_pure sound (known.1.grows grown)

theorem stays_load {id : String} (sound : s.Sound idAt)
    (owned : Owned W s .actionExecutions id) :
    Stays idAt W blind (fun _ _ => True) (engine.load id) s := by
  refine (stays_get sound fun _ => owned).bind fun found _ sound _ _ => ?_
  cases found with
  | none => exact stays_fail sound _
  | some doc =>
    change Stays _ _ _ _ (Work.ofExcept _) _
    cases (doc.decodeAs ActionExecution.decode).mapError LifecycleError.store with
    | ok execution => exact stays_pure sound trivial
    | error e => exact stays_fail sound e

private theorem closing_links {before status : ExecutionStatus} {results : List StepResult}
    {error : Option String} {now : Time.Instant} {name : String} (link : name ∈ Document.linkFields) :
    name ∉ (closing before status results error now).fields := by
  intro changed
  simp only [closing, DocumentUpdate.fields, List.append_nil, List.mem_map] at changed
  obtain ⟨path, ⟨m, hm, rfl⟩, rfl⟩ := changed
  have kept : ∀ path ∈ ["status", "stepResults", "completedAt", "error"],
    DocumentUpdate.fieldOf path ∉ Document.linkFields := by decide +kernel
  refine kept m.1 ?_ link
  rcases List.mem_append.mp (Json.Members.mem_ofList hm) with hm | hm
  · have := List.mem_map_of_mem (f := (·.1)) hm
    simp only [List.map_cons, List.map_nil, List.mem_cons, List.not_mem_nil, or_false] at this ⊢
    tauto
  · cases error with
    | none => cases hm
    | some text => simp_all

theorem stays_finish {id : String} {results : List StepResult} {stop : Option String}
    (sound : s.Sound idAt) (owned : Owned W s .actionExecutions id) :
    Stays idAt W blind (fun _ _ => True) (engine.finish id results stop) s := by
  refine (stays_load sound owned).bind fun execution s₁ sound g₁ _ => ?_
  have owned := owned.grows g₁
  dsimp only
  split
  · exact stays_fail sound _
  · refine stays_now.bind fun now s₂ sound g₂ _ => ?_
    have owned := owned.grows g₂
    refine (stays_update sound owned fun name link => closing_links link).bind
      fun applied _ sound g₃ _ => ?_
    split
    · exact stays_pure sound trivial
    · exact (stays_load sound (owned.grows g₃)).bind fun current _ sound _ _ => stays_fail sound _

/-- A run stays within the workspace of its action. -/
theorem stays_run (builtIn : engine.tools = Toolbox.recordTools) {action : Action}
    {occasion : Occasion} (here : action.workspaceId = W)
    (seen : blind → ∀ snapshot ∈ occasion.record, Owned W s .records snapshot.id) :
    Stays idAt W blind (fun _ _ => True) (engine.run action occasion) s := by
  subst here
  refine stays_start.bind fun id s₁ sound g₁ owned => ?_
  have ran : Stays idAt action.workspaceId blind (fun _ _ => True) (Work.ofProgram
      (engine.runSequence action.steps (firstContext action occasion id)) :
        Work LifecycleError Trace) s₁ := by
    refine meets_ofProgram ((runSequence_follows (follows_confined builtIn s₁) action.steps
      (firstContext action occasion id) s₁ ⟨rfl, ?_⟩ ⟨sound, .refl s₁⟩).mono
        fun _ _ post => ⟨trivial, post.2⟩)
    exact fun hidden snapshot recorded => (seen hidden snapshot recorded).grows g₁
  refine ran.bind fun trace s₂ sound g₂ _ => ?_
  refine (stays_finish sound (owned.grows g₂)).bind fun status _ sound _ _ => ?_
  have audited : Stays idAt action.workspaceId blind (fun _ _ => True)
      (Work.ignoring (engine.writeAudit (executedEntry action occasion id status)) :
        Work LifecycleError Unit) _ := (stays_writeAudit sound rfl).ignoring
  exact audited.bind fun _ _ sound _ _ => stays_pure sound trivial

end Engine
end Automation

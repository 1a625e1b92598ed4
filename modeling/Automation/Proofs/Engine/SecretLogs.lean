import Automation.Proofs.Engine.ClosingOnce
import Automation.Proofs.Engine.DeliveryLogs
import Automation.Proofs.Engine.Interpretation
import Automation.Proofs.Store.LogKeeping
import Automation.Proofs.Store.Served
import Automation.Proofs.Webhook.Twins

/-!
Secrets stay out of the log of webhooks. Whatever values the secrets have, as long as they can be sent at all
and the peer makes nothing of them, a webhook is logged alike.
-/
namespace Automation

/-- The log of a webhook as it is stored, but for when it was and how long it took. -/
def Document.untimed (doc : Document) : Document := ⟨doc.id, 0, doc.fields.erase "durationMs"⟩

/-- The stores have the same, but for the times in the logs of webhooks. If nothing is to be left out of
account, they have those too. -/
structure MemoryStore.LogsAlike (exact : Prop) (store other : MemoryStore) : Prop where
  rest : store.setDocs .webhookLogs [] = other.setDocs .webhookLogs []
  logs : UpTo exact (List.map Document.untimed) store.webhookLogs other.webhookLogs

namespace Surroundings

variable {τ τ' : Type}

/-- Both give the same ids, the same answers to requests that differ in the value of their last header only,
and the same faults to logs that differ in how long it took. What their clocks show is up to them. -/
structure AnswerAlike (around : Surroundings τ) (other : Surroundings τ') (alike : τ → τ' → Prop) :
    Prop where
  ids : around.idAt = other.idAt
  clock : ∀ t t', alike t t' → alike (around.clock t).2 (other.clock t').2
  peer : ∀ request request' deadline t t', alike t t' → request.Twins request' →
    (around.peer request deadline t).1 = (other.peer request' deadline t').1 ∧
      alike (around.peer request deadline t).2 (other.peer request' deadline t').2
  fault : ∀ fields fields' t t', alike t t' →
    fields.erase "durationMs" = fields'.erase "durationMs" →
    (around.fault (.insert .webhookLogs fields) t).1 = (other.fault (.insert .webhookLogs fields') t').1 ∧
      alike (around.fault (.insert .webhookLogs fields) t).2
        (other.fault (.insert .webhookLogs fields') t').2

/-- The clocks show the same as well. -/
def InStep (around : Surroundings τ) (other : Surroundings τ') (alike : τ → τ' → Prop) : Prop :=
  ∀ t t', alike t t' → (around.clock t).1 = (other.clock t').1

/-- The stores are alike, and so is all around them. -/
def Along (exact : Prop) (alike : τ → τ' → Prop) (s : MemoryStore × τ) (s' : MemoryStore × τ') : Prop :=
  s.1.LogsAlike exact s'.1 ∧ alike s.2 s'.2

end Surroundings

private theorem Document.erase_withoutSystemFields (members : Json.Members) (key : String) :
    (withoutSystemFields members).erase key = withoutSystemFields (members.erase key) := by
  simp only [withoutSystemFields, Json.Members.erase, List.filter_filter]
  congr 1
  funext member
  simp only [Bool.and_comm, Bool.and_left_comm]

namespace MemoryStore

private theorem untimed_place (doc : Document) (docs : List Document) :
    (place doc docs).map Document.untimed = place doc.untimed (docs.map Document.untimed) := by
  induction docs with
  | nil => rfl
  | cons d rest ih =>
    rw [List.map_cons, place, place]
    by_cases same : d.id = doc.id
    · rw [if_pos same, if_pos (show d.untimed.id = doc.untimed.id from same)]
      rfl
    · rw [if_neg same, if_neg (show ¬d.untimed.id = doc.untimed.id from same), List.map_cons, ih]

/-- Logs that differ in their times are stored alike, under the same id. -/
private theorem LogsAlike.insert {exact : Prop} {store other : MemoryStore} {idAt idAt' : Nat → String}
    {now now' : Time.Instant} {fields fields' : Json.Members} (h : LogsAlike exact store other)
    (ids : idAt = idAt') (times : exact → now = now')
    (same : UpTo exact (·.erase "durationMs") fields fields') :
    (store.insert ⟨idAt, now⟩ .webhookLogs fields).1 = (other.insert ⟨idAt', now'⟩ .webhookLogs fields').1 ∧
      LogsAlike exact (store.insert ⟨idAt, now⟩ .webhookLogs fields).2
        (other.insert ⟨idAt', now'⟩ .webhookLogs fields').2 := by
  subst ids
  obtain ⟨rest, looked, logs⟩ := h
  have issued : store.issued = other.issued := by simpa using congrArg MemoryStore.issued rest
  rw [insert_place, insert_place]
  refine ⟨congrArg idAt issued, ?_, ?_, ?_⟩
  · simpa [setDocs, issued] using rest
  · change (place _ _).map _ = (place _ _).map _
    have doc : (made idAt store now fields).untimed = (made idAt other now' fields').untimed := by
      simp only [made, Document.untimed, Document.erase_withoutSystemFields]
      rw [issued, show fields.erase _ = fields'.erase _ from same.1]
    rw [untimed_place, untimed_place, doc]
    exact congrArg _ looked
  · intro whole
    change place _ store.webhookLogs = place _ other.webhookLogs
    rw [made, made, issued, times whole, same.2 whole, logs whole]

end MemoryStore

section

variable {τ τ' : Type} {around : Surroundings τ} {other : Surroundings τ'} {alike : τ → τ' → Prop}
  {first second : Webhook.Secrets}

open Surroundings (Along)

/-- The programs go alike, each in surroundings of its own. -/
private abbrev Beside {α α' : Type} (around : Surroundings τ) (other : Surroundings τ')
    (alike : τ → τ' → Prop) (related : α → α' → Prop) (program : Program α) (program' : Program α') : Prop :=
  Program.Corresponds around.environment other.environment (Along (around.InStep other alike) alike)
    related program program'

private theorem now_corresponds (answers : around.AnswerAlike other alike) :
    Beside around other alike (UpTo (around.InStep other alike) fun _ => ()) Program.now Program.now := by
  rintro ⟨store, t⟩ ⟨store', t'⟩ ⟨stores, same⟩
  exact ⟨⟨rfl, fun together => together t t' same⟩, stores, answers.clock t t' same⟩

private theorem exchange_corresponds (answers : around.AnswerAlike other alike)
    {request request' : Http.Request} (twins : request.Twins request') (deadline : Duration) :
    Beside around other alike Eq (Program.exchange request deadline) (Program.exchange request' deadline) := by
  rintro ⟨store, t⟩ ⟨store', t'⟩ ⟨stores, same⟩
  obtain ⟨reply, later⟩ := answers.peer request request' deadline t t' same twins
  exact ⟨reply, stores, later⟩

private theorem insert_corresponds (answers : around.AnswerAlike other alike)
    {fields fields' : Json.Members}
    (same : UpTo (around.InStep other alike) (·.erase "durationMs") fields fields') :
    Beside around other alike Eq
      (Program.perform (.store (.insert .webhookLogs fields)))
      (Program.perform (.store (.insert .webhookLogs fields'))) := by
  rintro ⟨store, t⟩ ⟨store', t'⟩ ⟨stores, times⟩
  obtain ⟨faults, later⟩ := answers.fault fields fields' t t' times same.1
  simp only [Program.perform, Program.run, Surroundings.environment, Surroundings.perform]
  generalize around.fault (.insert .webhookLogs fields) t = faulty at faults later
  generalize other.fault (.insert .webhookLogs fields') t' = faulty' at faults later
  obtain ⟨fault, u⟩ := faulty
  obtain ⟨fault', u'⟩ := faulty'
  cases show fault = fault' from faults
  cases fault with
  | some fault => exact ⟨by cases fault <;> rfl, stores, later⟩
  | none =>
    obtain ⟨ids, docs⟩ := stores.insert answers.ids (fun together => together u u' later) same
    exact ⟨congrArg (fun id => StoreReply.answered (.ok id)) ids, docs, answers.clock u u' later⟩

private theorem sent_corresponds (answers : around.AnswerAlike other alike) (s : Webhook.Sender)
    (w : Webhook) (header : Option String) {request request' : Http.Request} (twins : request.Twins request') :
    Beside around other alike (UpTo (around.InStep other alike) Webhook.Attempt.untimed)
      ({ s with secrets := first }.exchange w header request)
      ({ s with secrets := second }.exchange w header request') := by
  refine (now_corresponds answers).bind fun started started' begins => ?_
  refine (exchange_corresponds answers twins _).bind ?_
  rintro reply _ rfl
  cases reply with
  | expired => exact Program.corresponds_pure (.refl _ _ _)
  | unreachable =>
    rw [Webhook.Sender.unreachable, Webhook.Sender.unreachable, twins.url]
    exact Program.corresponds_pure (.refl _ _ _)
  | response status body =>
    refine (now_corresponds answers).bind fun ended ended' ends => ?_
    refine Program.corresponds_pure ⟨?_, fun together => ?_⟩
    · let response : Webhook.Response := ⟨status, Webhook.Sender.readBody body, started.elapsed ended⟩
      have timeless : response.untimed =
        { response with duration := started'.elapsed ended' }.untimed := rfl
      exact congrArg (Webhook.Attempt.mk _ _) (s.outcome_untimed w timeless)
    · rw [begins.2 together, ends.2 together]
      rfl

private theorem attempt_corresponds (answers : around.AnswerAlike other alike)
    (same : first.Interchangeable second) (s : Webhook.Sender) (w : Webhook) :
    Beside around other alike (UpTo (around.InStep other alike) Webhook.Attempt.untimed)
      ({ s with secrets := first }.attempt w) ({ s with secrets := second }.attempt w) := by
  unfold Webhook.Sender.attempt
  dsimp only
  cases s.judge w.url with
  | refused reason => exact Program.corresponds_pure (.refl _ _ _)
  | allowed =>
    have resolved := Webhook.resolve_twins same (w.auth.getD .none)
    generalize (w.auth.getD .none).resolve first = credentials at resolved
    generalize (w.auth.getD .none).resolve second = credentials' at resolved
    cases resolved with
    | failed e => exact Program.corresponds_pure (.refl _ _ _)
    | @given c c' twins =>
      have requests := Webhook.request_twins w twins
      dsimp only
      rw [twins.header?]
      generalize w.request c = request at requests
      generalize w.request c' = request' at requests
      cases requests with
      | failed e => exact Program.corresponds_pure (.refl _ _ _)
      | given twins => exact sent_corresponds answers s w c'.header? twins

/-- What is sent with other secrets is logged alike, and comes to the same. -/
private theorem send_corresponds (answers : around.AnswerAlike other alike)
    (same : first.Interchangeable second) (s : Webhook.Sender) (w : Webhook) :
    Beside around other alike (UpTo (around.InStep other alike) Webhook.Delivery.untimed)
      ({ s with secrets := first }.send w) ({ s with secrets := second }.send w) := by
  refine (now_corresponds answers).bind fun started started' begins => ?_
  refine (attempt_corresponds answers same s w).bind fun attempt attempt' tried => ?_
  refine (now_corresponds answers).bind fun ended ended' ends => ?_
  refine Program.corresponds_pure ⟨?_, fun together => ?_⟩
  · have logged := Webhook.Sender.log_untimed w (started.elapsed ended) (started'.elapsed ended') tried.1
    have came := congrArg Webhook.Attempt.outcome tried.1
    exact congrArg₂ Webhook.Delivery.mk logged came
  · rw [begins.2 together, tried.2 together, ends.2 together]

/-- Logs that differ in their times have the same under all other keys. -/
private theorem member?_untimed {key : String} {log log' : Webhook.Log} (same : log.untimed = log'.untimed)
    (apart : "durationMs" ≠ key) : log.encode.member? key = log'.encode.member? key := by
  obtain ⟨url, method, headers, body, status, duration, success, error⟩ := log
  obtain ⟨url', method', headers', body', status', duration', success', error'⟩ := log'
  injection same
  subst_vars
  have other : (key == "durationMs") = false := beq_eq_false_iff_ne.mpr apart.symm
  rw [Webhook.Log.member?_encode, Webhook.Log.member?_encode]
  simp only [Webhook.Log.members, List.lookup_cons, other]

variable {engine : Engine} {ctx : Context} {stepId : String}

private theorem write_corresponds (answers : around.AnswerAlike other alike) {log log' : Webhook.Log}
    (same : UpTo (around.InStep other alike) Webhook.Log.untimed log log') :
    Beside around other alike (Paired fun _ _ => True)
      (Work.ignoring ({ engine with secrets := first }.writeWebhookLog ctx stepId log) :
        Work StepError Unit).run
      (Work.ignoring ({ engine with secrets := second }.writeWebhookLog ctx stepId log') :
        Work StepError Unit).run := by
  obtain ⟨fields, stored⟩ : ∃ fields, Engine.loggedFields ctx stepId log = .ok fields := ⟨_, rfl⟩
  obtain ⟨fields', stored'⟩ : ∃ fields, Engine.loggedFields ctx stepId log' = .ok fields := ⟨_, rfl⟩
  have logged : UpTo (around.InStep other alike) (·.erase "durationMs") fields fields' := by
    refine ⟨Engine.erase_loggedFields (fun key => member?_untimed same.1) stored stored', fun together => ?_⟩
    rw [same.2 together, stored'] at stored
    injection stored with fields
    exact fields.symm
  unfold Engine.writeWebhookLog
  rw [stored, stored']
  change Beside around other alike _
    (Work.ignoring (do let _ ← (engine.store id).insert .webhookLogs fields) : Work StepError Unit).run
    (Work.ignoring (do let _ ← (engine.store id).insert .webhookLogs fields') : Work StepError Unit).run
  rw [Work.run_ignoring_insert, Work.run_ignoring_insert]
  refine (insert_corresponds answers logged).ask ?_
  rintro reply _ rfl
  refine Program.corresponds_pure ?_
  cases reply with
  | answered result => exact .given trivial
  | stalled => exact .given trivial
  | crashed crash => exact .failed _

/-- A step that sends with other secrets leaves the same, but for the times in the log. -/
private theorem sendWebhook_corresponds (answers : around.AnswerAlike other alike)
    (same : first.Interchangeable second) (w : Webhook) :
    Beside around other alike (Paired fun _ _ => True)
      ({ engine with secrets := first }.sendWebhook ctx stepId w).run
      ({ engine with secrets := second }.sendWebhook ctx stepId w).run := by
  refine Work.corresponds_bind (Work.corresponds_ofProgram
    (send_corresponds answers same engine.sender w)) fun delivery delivery' sent => ?_
  refine Work.corresponds_bind (write_corresponds answers (sent.map ?_)) fun _ _ _ => ?_
  · exact congrArg Webhook.Delivery.log
  · have came : Paired (fun _ _ => True) delivery.outcome delivery'.outcome := by
      obtain ⟨log, outcome⟩ := delivery
      obtain ⟨log', outcome'⟩ := delivery'
      injection sent.1 with logs outcomes
      dsimp only at outcomes ⊢
      cases outcome with
      | error e =>
        cases outcome' with
        | error e' =>
          cases outcomes
          exact .failed e
        | ok response' => cases outcomes
      | ok response =>
        cases outcome' with
        | error e' => cases outcomes
        | ok response' => exact .given trivial
    exact Work.corresponds_bind (Work.corresponds_ofExcept came) fun _ _ _ =>
      Program.corresponds_pure (.given trivial)

private theorem runStep_corresponds (answers : around.AnswerAlike other alike)
    (same : first.Interchangeable second) (engine : Engine) (ctx : Context) {step : Step}
    (sends : step.type = .sendWebhook) :
    Beside around other alike (fun _ _ => True)
      ({ engine with secrets := first }.runStep step ctx)
      ({ engine with secrets := second }.runStep step ctx) := by
  obtain ⟨id, type, name, config, thenSteps, elseSteps, steps⟩ := step
  cases (show type = .sendWebhook from sends)
  unfold Engine.runStep
  cases parsed : Command.parse .sendWebhook id (Template.resolve ctx config) with
  | error e => exact Program.corresponds_pure trivial
  | ok command =>
    obtain ⟨w, rfl⟩ := Command.sendWebhook_of_parse parsed
    refine (sendWebhook_corresponds answers same w).bind ?_
    rintro _ _ (stop | _)
    · exact Program.corresponds_pure trivial
    · exact Program.corresponds_pure trivial

/-- Secrets that could be exchanged leave no trace in the log of webhooks. Whatever is sent, and whatever
comes of it, is logged alike, and so is what a step stores of it, but for when it was and how long it took;
and where the clocks show the same, that is the same as well. Nothing else in the store differs. -/
theorem secrets_unlogged (same : first.Interchangeable second) (answers : around.AnswerAlike other alike)
    {store store' : MemoryStore} {t : τ} {t' : τ'}
    (stores : store.LogsAlike (around.InStep other alike) store') (times : alike t t') :
    (∀ (s : Webhook.Sender) (w : Webhook),
      let sent := ({ s with secrets := first }.send w).run around.environment (store, t)
      let sent' := ({ s with secrets := second }.send w).run other.environment (store', t')
      sent.1.log.untimed = sent'.1.log.untimed ∧
        (around.InStep other alike → sent.1.log = sent'.1.log)) ∧
    ∀ (engine : Engine) (step : Step) (ctx : Context), step.type = .sendWebhook →
      let ran := ({ engine with secrets := first }.runStep step ctx).run around.environment (store, t)
      let ran' := ({ engine with secrets := second }.runStep step ctx).run other.environment (store', t')
      ran.2.1.LogsAlike (around.InStep other alike) ran'.2.1 := by
  have along : Along (around.InStep other alike) alike (store, t) (store', t') := ⟨stores, times⟩
  refine ⟨fun s w => ?_, fun engine step ctx sends => ?_⟩
  · obtain ⟨sent, -⟩ := send_corresponds answers same s w _ _ along
    exact sent.map (congrArg Webhook.Delivery.log)
  · obtain ⟨-, left, -⟩ := runStep_corresponds answers same engine ctx sends _ _ along
    exact left

end

section

/-- A peer to whom every request is welcome, and a clock that goes on by so much whenever it is looked at. -/
private def welcoming (pace : Int) : Surroundings Nat where
  idAt := Surroundings.marks
  clock n := (⟨pace * n, 0⟩, n + 1)
  peer _ _ n := (.response 200 "fine", n)
  fault _ n := (none, n)

private def trusting : Engine := { Engine.bareEngine with judge := fun _ => .allowed }

/-- Sends its token, and a header of its own that has the same name. -/
private def tokenStep : Step :=
  ⟨"hook", .sendWebhook, none, .ofPairs [("url", .string "http://[::1]/"),
    ("headers", .ofPairs [("authorization", .string "mine")]),
    ("auth", .ofPairs [("type", .string "bearer"), ("tokenEnv", .string "TOKEN")])], [], [], []⟩

private def token (value : String) : Webhook.Secrets := .ofList [("TOKEN", value)]

private theorem interchangeable_token {value other : String} (valid : Http.isHeaderValue value = true)
    (valid' : Http.isHeaderValue other = true) : (token value).Interchangeable (token other) := by
  have found {name value held : String} (h : held ∈ token value name) : held = value := by
    unfold token Webhook.Secrets.ofList at h
    rw [List.lookup_cons] at h
    split at h
    · exact (Option.mem_some.mp h).symm
    · cases h
  refine ⟨fun name => ?_, fun name held h => ?_, fun name held h => ?_⟩
  · unfold token Webhook.Secrets.ofList
    rw [List.lookup_cons, List.lookup_cons]
    cases name == "TOKEN" <;> rfl
  · rw [found h]
    exact valid
  · rw [found h]
    exact valid'

private theorem welcoming_alike (pace pace' : Int) :
    (welcoming pace).AnswerAlike (welcoming pace') Eq where
  ids := rfl
  clock _ _ same := congrArg (· + 1) same
  peer _ _ _ _ _ same _ := ⟨rfl, same⟩
  fault _ _ _ _ same _ := ⟨rfl, same⟩

/-- A webhook that is sent with one token and then with another one, by a clock that goes twice as fast:
the logs differ in their times only, and tell of no token. -/
theorem secrets_unlogged_token :
    let ctx : Context := .initial "w" none none none
    let ran := ({ trusting with secrets := token "one" }.runStep tokenStep ctx).run
      (welcoming 1).environment ({}, 0)
    let ran' := ({ trusting with secrets := token "another" }.runStep tokenStep ctx).run
      (welcoming 2).environment ({}, 0)
    (ran.2.1.webhookLogs.map fun doc => (doc.get? "statusCode", doc.get? "requestHeaders")) =
      [(some (.ofNat 200), some (.ofPairs [("Authorization", Redaction.redacted),
        ("authorization", Redaction.redacted)]))] ∧
    ran.2.1.webhookLogs ≠ ran'.2.1.webhookLogs ∧
    ran.2.1.webhookLogs.map Document.untimed = ran'.2.1.webhookLogs.map Document.untimed := by
  intro ctx ran ran'
  have same : (token "one").Interchangeable (token "another") :=
    interchangeable_token (by decide) (by decide)
  obtain ⟨-, stored⟩ := secrets_unlogged same (welcoming_alike 1 2)
    (⟨rfl, UpTo.refl _ _ _⟩ : MemoryStore.LogsAlike _ {} {}) (rfl : (0 : Nat) = 0)
  refine ⟨by decide +kernel, by decide +kernel, ?_⟩
  exact (stored trusting tokenStep ctx rfl).logs.1

end

end Automation

import Automation.Proofs.Program.Asks
import Automation.Webhook.Delivery

/-!
How a webhook is delivered. The peer is contacted once at most, and what came of it stands in the log,
whatever the peer does with the request and however long it takes.
-/
namespace Automation

namespace Http

/-- What a peer does with a request. Who breaks off has not answered completely. -/
inductive Conduct where
  | answers (after : Duration) (status : Nat) (body : String)
  | breaksOff (after : Duration)
  | keepsSilent
  deriving DecidableEq

/-- What has come back within the time. -/
def Conduct.within (deadline : Duration) : Conduct → Reply
  | answers after status body =>
    if after.milliseconds ≤ deadline.milliseconds then .response status body else .expired
  | breaksOff after => if after.milliseconds ≤ deadline.milliseconds then .unreachable else .expired
  | keepsSilent => .expired

theorem Conduct.within_eq_response_iff {conduct : Conduct} {deadline : Duration} {status : Nat}
    {body : String} : conduct.within deadline = .response status body ↔
      ∃ after, conduct = .answers after status body ∧ after.milliseconds ≤ deadline.milliseconds := by
  cases conduct with
  | answers after status' body' =>
    rw [within]
    by_cases inTime : after.milliseconds ≤ deadline.milliseconds
    · rw [if_pos inTime]
      constructor
      · rintro ⟨⟩
        exact ⟨after, rfl, inTime⟩
      · rintro ⟨_, ⟨⟩, -⟩
        rfl
    · rw [if_neg inTime]
      constructor
      · exact nofun
      · rintro ⟨_, ⟨⟩, inTime'⟩
        exact absurd inTime' inTime
  | breaksOff after =>
    rw [within]
    by_cases inTime : after.milliseconds ≤ deadline.milliseconds
    · simp [inTime]
    · simp [inTime]
  | keepsSilent => simp [within]

end Http

namespace Program

variable {σ : Type}

/-- The environment with peers of such conduct. -/
def Environment.facing (environment : Environment σ) (conduct : Http.Request → σ → Http.Conduct) :
    Environment σ
  | .exchange request deadline, s =>
    ((conduct request s).within deadline, (environment (.exchange request deadline) s).2)
  | .store op, s => environment (.store op) s
  | .clock, s => environment .clock s

/-- The requests that were sent, with the states in which they were. -/
def contacts (turns : List (Effect × σ)) : List (Http.Request × σ) :=
  turns.filterMap fun
    | (.exchange request _, s) => some (request, s)
    | (.store _, _) | (.clock, _) => none

theorem contacts_append (turns more : List (Effect × σ)) :
    contacts (turns ++ more) = contacts turns ++ contacts more := List.filterMap_append

end Program

namespace Webhook

namespace Auth

/-- The secrets that are looked up. -/
def secretNames : Auth → List String
  | none => []
  | bearer tokenEnv => [tokenEnv]
  | basic usernameEnv passwordEnv => [usernameEnv, passwordEnv]
  | apiKey _ valueEnv => [valueEnv]

theorem secret_of_missing {secrets : Secrets} {name : String} (missing : secrets name = .none) :
    ∃ text, secret secrets name = .error (.validation text) := by
  unfold secret
  rw [missing]
  exact ⟨_, rfl⟩

/-- One secret that is missing is enough. -/
theorem resolve_of_missing {secrets : Secrets} {auth : Auth} {name : String}
    (named : name ∈ auth.secretNames) (missing : secrets name = .none) :
    ∃ text, auth.resolve secrets = .error (.validation text) := by
  obtain ⟨text, unset⟩ := secret_of_missing missing
  cases auth with
  | none => cases named
  | bearer tokenEnv =>
    obtain rfl := List.mem_singleton.mp named
    exact ⟨text, by rw [resolve, unset]; rfl⟩
  | apiKey headerName valueEnv =>
    obtain rfl := List.mem_singleton.mp named
    exact ⟨text, by rw [resolve, unset]; rfl⟩
  | basic usernameEnv passwordEnv =>
    -- the name is looked up first, and so it is its text if both are missing
    cases user : secrets usernameEnv with
    | none =>
      obtain ⟨text, unset⟩ := secret_of_missing user
      exact ⟨text, by rw [resolve, unset]; rfl⟩
    | some username =>
      simp only [secretNames, List.mem_cons, List.not_mem_nil, or_false] at named
      rcases named with rfl | rfl
      · cases user.symm.trans missing
      · exact ⟨text, by rw [resolve, unset, secret, user]; rfl⟩

end Auth

namespace Sender

variable {σ : Type} {s : Sender} {w : Webhook} {environment : Program.Environment σ}
  {conduct : Http.Request → σ → Http.Conduct}

/-- Nothing is said against the URL, and all secrets are known. -/
structure Clears (s : Sender) (w : Webhook) : Prop where
  allowed : s.judge w.url = .allowed
  known : ∀ name ∈ (w.auth.getD .none).secretNames, s.secrets name ≠ none

/-- The request is the one to send. -/
structure Builds (s : Sender) (w : Webhook) (request : Http.Request) : Prop where
  allowed : s.judge w.url = .allowed
  built : ∃ credentials, (w.auth.getD .none).resolve s.secrets = .ok credentials ∧
    w.request credentials = .ok request

theorem Builds.clears {request : Http.Request} (h : s.Builds w request) : s.Clears w where
  allowed := h.allowed
  known name named missing := by
    obtain ⟨credentials, resolved, -⟩ := h.built
    obtain ⟨text, unset⟩ := Auth.resolve_of_missing named missing
    cases unset.symm.trans resolved

theorem Builds.unique {request request' : Http.Request} (h : s.Builds w request)
    (h' : s.Builds w request') : request = request' := by
  obtain ⟨credentials, resolved, built⟩ := h.built
  obtain ⟨credentials', resolved', built'⟩ := h'.built
  cases resolved.symm.trans resolved'
  cases built.symm.trans built'
  rfl

/-- A complete answer with the status was there in time. -/
def Arrived (s : Sender) (w : Webhook) (conduct : Http.Request → σ → Http.Conduct)
    (contacts : List (Http.Request × σ)) (status : Nat) : Prop :=
  ∃ request state after body, (request, state) ∈ contacts ∧
    conduct request state = .answers after status body ∧
    after.milliseconds ≤ s.maxTimeout.milliseconds ∧ ∀ t ∈ w.timeout, after.milliseconds ≤ t.milliseconds

theorem le_deadline_iff {after : Duration} : after.milliseconds ≤ (s.deadline w).milliseconds ↔
    after.milliseconds ≤ s.maxTimeout.milliseconds ∧ ∀ t ∈ w.timeout, after.milliseconds ≤ t.milliseconds := by
  unfold deadline
  cases w.timeout with
  | none => simp
  | some t =>
    have least : (min t s.maxTimeout).milliseconds = min t.milliseconds s.maxTimeout.milliseconds := by
      change (if _ then t else s.maxTimeout).milliseconds = _
      split <;> omega
    simp only [least, Option.mem_some_iff, forall_eq']
    omega

theorem arrived_singleton {request : Http.Request} {state : σ} {status : Nat} :
    s.Arrived w conduct [(request, state)] status ↔
      ∃ body, (conduct request state).within (s.deadline w) = .response status body := by
  simp only [Arrived, Http.Conduct.within_eq_response_iff, le_deadline_iff, List.mem_singleton,
    Prod.mk.injEq]
  constructor
  · rintro ⟨_, _, after, body, ⟨rfl, rfl⟩, answered, inTime⟩
    exact ⟨body, after, answered, inTime⟩
  · rintro ⟨body, after, answered, inTime⟩
    exact ⟨request, state, after, body, ⟨rfl, rfl⟩, answered, inTime⟩

theorem not_arrived_nil {status : Nat} : ¬s.Arrived w conduct [] status := by
  rintro ⟨_, _, _, _, known, -⟩
  cases known

/-- The ways in which an attempt may end, with whom it contacted. -/
inductive Tried (s : Sender) (w : Webhook) (conduct : Http.Request → σ → Http.Conduct) :
    List (Http.Request × σ) → Attempt → Prop
  | unsent {header : Option String} {e : StepError} (unbuilt : ∀ request, ¬s.Builds w request)
      (invalid : ¬s.Clears w → ∃ text, e = .validation text) :
      Tried s w conduct [] ⟨header, none, .error e⟩
  | unanswered {request : Http.Request} {state : σ} {header : Option String} {e : StepError}
      (built : s.Builds w request)
      (late : ∀ status body, (conduct request state).within (s.deadline w) ≠ .response status body) :
      Tried s w conduct [(request, state)] ⟨header, none, .error e⟩
  | answered {request : Http.Request} {state : σ} {header : Option String} {status : Nat} {body : String}
      {duration : Duration} (built : s.Builds w request)
      (inTime : (conduct request state).within (s.deadline w) = .response status body) :
      Tried s w conduct [(request, state)]
        ⟨header, some status, s.outcome w ⟨status, readBody body, duration⟩⟩

/-- What is made of a reply to a request that was sent to the URL. -/
def conclude (s : Sender) (w : Webhook) (header : Option String) (url : Url) (started : Time.Instant) :
    Http.Reply → Program Attempt
  | .expired => return ⟨header, none, .error (timedOut (s.deadline w))⟩
  | .unreachable => return ⟨header, none, .error (unreachable url)⟩
  | .response status body => do
    let ended ← Program.now
    return ⟨header, some status, s.outcome w ⟨status, readBody body, started.elapsed ended⟩⟩

theorem exchange_eq_ask (s : Sender) (w : Webhook) (header : Option String) (request : Http.Request) :
    s.exchange w header request = .ask .clock fun started =>
      .ask (.exchange request (s.deadline w)) (s.conclude w header request.url started) := by
  refine congrArg (Program.ask _) (funext fun started => congrArg (Program.ask _) (funext fun reply => ?_))
  cases reply <;> rfl

private theorem exchange_tried {request : Http.Request} (built : s.Builds w request) (header : Option String)
    (t : σ) :
    Tried s w conduct
      (Program.contacts ((s.exchange w header request).asked (environment.facing conduct) t))
      ((s.exchange w header request).run (environment.facing conduct) t).1 := by
  generalize started : environment.facing conduct .clock t = begun
  obtain ⟨start, u⟩ := begun
  rw [exchange_eq_ask, Program.asked, Program.run, started]
  dsimp only
  rw [Program.asked, Program.run, Program.Environment.facing]
  dsimp only
  cases came : (conduct request u).within (s.deadline w) with
  | expired => exact .unanswered built (by simp [came])
  | unreachable => exact .unanswered built (by simp [came])
  | response status body => exact .answered built came

/-- An attempt ends in one of the ways. -/
theorem attempt_tried (s : Sender) (w : Webhook) (environment : Program.Environment σ)
    (conduct : Http.Request → σ → Http.Conduct) (t : σ) :
    Tried s w conduct (Program.contacts ((s.attempt w).asked (environment.facing conduct) t))
      ((s.attempt w).run (environment.facing conduct) t).1 := by
  unfold attempt
  cases judged : s.judge w.url with
  | refused reason =>
    refine .unsent (fun request built => ?_) fun _ => ⟨_, rfl⟩
    cases judged.symm.trans built.allowed
  | allowed =>
    by_cases unknown : ∃ name ∈ (w.auth.getD .none).secretNames, s.secrets name = none
    · obtain ⟨name, named, missing⟩ := unknown
      obtain ⟨text, unset⟩ := Auth.resolve_of_missing named missing
      rw [unset]
      exact .unsent (fun request built => built.clears.known name named missing) fun _ => ⟨text, rfl⟩
    · have clear : s.Clears w := ⟨judged, fun name named missing => unknown ⟨name, named, missing⟩⟩
      dsimp only
      cases resolved : (w.auth.getD .none).resolve s.secrets with
      | error e =>
        refine .unsent (fun request built => ?_) fun barred => absurd clear barred
        obtain ⟨credentials, resolved', -⟩ := built.built
        cases resolved.symm.trans resolved'
      | ok credentials =>
        dsimp only
        cases requested : w.request credentials with
        | error e =>
          refine .unsent (fun request built => ?_) fun barred => absurd clear barred
          obtain ⟨credentials', resolved', requested'⟩ := built.built
          cases resolved.symm.trans resolved'
          cases requested.symm.trans requested'
        | ok request =>
          exact exchange_tried ⟨judged, credentials, resolved, requested⟩ credentials.header? t

/-- What is so of a delivery: whom it contacted and what came of it, and what the log says. -/
structure Delivers (s : Sender) (w : Webhook) (conduct : Http.Request → σ → Http.Conduct)
    (contacts : List (Http.Request × σ)) (d : Delivery) : Prop where
  once : contacts.length ≤ 1
  contacted : ∀ request, (∃ state, (request, state) ∈ contacts) ↔ s.Builds w request
  barred : ¬s.Clears w → contacts = [] ∧ ∃ text, d.outcome = .error (.validation text)
  delivered : ∀ status, (∃ response, d.outcome = .ok response ∧ response.status = status) ↔
    s.Arrived w conduct contacts status ∧
      (Http.isSuccess status = true ∨ w.failOnError.getD s.failOnError = false)
  loggedSuccess : d.log.success = true ↔
    ∃ response, d.outcome = .ok response ∧ 200 ≤ response.status ∧ response.status < 300
  loggedError : ∀ text, d.log.error = some text ↔ ∃ e, d.outcome = .error e ∧ text = e.message
  loggedStatus : ∀ status, d.log.status = some status ↔ s.Arrived w conduct contacts status

/-- What stands in the log of an attempt is what came of it. -/
theorem log_success (w : Webhook) (duration : Duration) (attempt : Attempt) :
    (log w duration attempt).success = true ↔ ∃ response, attempt.outcome = .ok response ∧
      200 ≤ response.status ∧ response.status < 300 := by
  obtain ⟨header, status, outcome⟩ := attempt
  cases outcome with
  | error e => simp [log]
  | ok response => simp [log, Response.ok, Http.isSuccess]

theorem log_error (w : Webhook) (duration : Duration) (attempt : Attempt) (text : String) :
    (log w duration attempt).error = some text ↔ ∃ e, attempt.outcome = .error e ∧ text = e.message := by
  obtain ⟨header, status, outcome⟩ := attempt
  cases outcome with
  | error e => simp [log, eq_comm]
  | ok response => simp [log]

theorem outcome_eq_ok_iff {response response' : Response} : s.outcome w response = .ok response' ↔
    response' = response ∧
      (Http.isSuccess response.status = true ∨ w.failOnError.getD s.failOnError = false) := by
  unfold outcome Response.ok
  cases Http.isSuccess response.status <;> cases w.failOnError.getD s.failOnError <;>
    simp [eq_comm]

/-- What an attempt has come to is delivered so. -/
theorem Tried.delivers {contacts : List (Http.Request × σ)} {attempt : Attempt}
    (h : Tried s w conduct contacts attempt) (duration : Duration) :
    Delivers s w conduct contacts ⟨log w duration attempt, attempt.outcome⟩ where
  once := by cases h <;> simp
  contacted request := by
    have only {sent : Http.Request} {state : σ} (built : s.Builds w sent) :
        (∃ state', (request, state') ∈ [(sent, state)]) ↔ s.Builds w request := by
      refine ⟨?_, fun built' => ?_⟩
      · rintro ⟨_, known⟩
        cases List.mem_singleton.mp known
        exact built
      · exact ⟨state, built.unique built' ▸ List.mem_singleton_self _⟩
    cases h with
    | unsent unbuilt => simp [unbuilt]
    | unanswered built => exact only built
    | answered built => exact only built
  barred prevented := by
    cases h with
    | unsent unbuilt invalid =>
      obtain ⟨text, rfl⟩ := invalid prevented
      exact ⟨rfl, text, rfl⟩
    | unanswered built => exact absurd built.clears prevented
    | answered built => exact absurd built.clears prevented
  delivered status := by
    cases h with
    | unsent => simp [not_arrived_nil]
    | unanswered built late => simp [arrived_singleton, late]
    | @answered request state header came body duration built inTime =>
      rw [arrived_singleton, inTime]
      simp only [outcome_eq_ok_iff, Http.Reply.response.injEq, exists_eq_right']
      constructor
      · rintro ⟨_, ⟨rfl, fine⟩, rfl⟩
        exact ⟨rfl, fine⟩
      · rintro ⟨rfl, fine⟩
        exact ⟨_, ⟨rfl, fine⟩, rfl⟩
  loggedSuccess := log_success w duration attempt
  loggedError := log_error w duration attempt
  loggedStatus status := by
    change attempt.status = some status ↔ _
    cases h with
    | unsent => simp [not_arrived_nil]
    | unanswered built late => simp [arrived_singleton, late]
    | answered built inTime => simp [arrived_singleton, inTime]

/-- Whatever the webhook, whoever judges and knows the secrets, and whatever the peer does. -/
theorem send_delivers (s : Sender) (w : Webhook) (environment : Program.Environment σ)
    (conduct : Http.Request → σ → Http.Conduct) (t : σ) :
    Delivers s w conduct (Program.contacts ((s.send w).asked (environment.facing conduct) t))
      ((s.send w).run (environment.facing conduct) t).1 := by
  have ran := attempt_tried s w environment conduct (Program.now.run (environment.facing conduct) t).2
  have contacts : Program.contacts ((s.send w).asked (environment.facing conduct) t) =
      Program.contacts ((s.attempt w).asked (environment.facing conduct)
        (Program.now.run (environment.facing conduct) t).2) := by
    unfold send
    rw [Program.asked_bind, Program.asked_bind, Program.asked_bind, Program.contacts_append,
      Program.contacts_append, Program.contacts_append]
    exact List.append_nil _
  unfold send at contacts ⊢
  rw [contacts, Program.run_bind, Program.run_bind]
  exact ran.delivers _

end Sender
end Webhook
end Automation

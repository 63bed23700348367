import BifrostRelayer.Foundation.Runs
import BifrostRelayer.Foundation.IndexEdits

/-!
# The service that retries RPC calls

All calls to a node go through a `RetryBackoffService`.  A call passes the request on to the inner
service; on an error, and on a response that holds one, it sleeps and passes the request on again,
`max_retries` times.  The calls run concurrently and share a counter, `requests_enqueued`, that a
call increments when it starts and decrements when it returns.

A call waits at two places, for the inner service and in `sleep`, and between two of them it touches
the counter at most once.  So a step is what one call does between two waits, and the calls take
their steps in any order.  A call whose future is dropped is one that makes no more steps.

Of the three exits of the loop, the one behind the last retry does not decrement.  What the counter
holds is therefore the number of the calls that are in progress or have run out of retries, modulo
`2 ^ 32`: `Balanced`.  It is the number of the calls in progress all along a run exactly if the
steps of the run are `Permitted`.
-/

namespace BifrostRelayer

namespace Evm

namespace Retry

/-! ### Errors -/

/-- `serde_json::Number`. -/
inductive Number where
  | posInt (n : UInt64)
  | negInt (n : Int64)
  | float (x : Float)

/-- `serde_json::Value`; the keys of an object are distinct. -/
inductive Value where
  | null
  | bool (b : Bool)
  | number (n : Number)
  | string (text : String)
  | array (values : List Value)
  | object (fields : List (String × Value))

namespace Value

/-- `value[key]`, which is null where there is nothing. -/
def get : Value → String → Value
  | .object fields, key => (fields.lookup key).getD .null
  | _, _ => .null

/-- `as_u64`. -/
def asU64 : Value → Option UInt64
  | .number (.posInt n) => some n
  | _ => none

/-- `as_f64`. -/
def asF64 : Value → Option Float
  | .number (.posInt n) => some n.toFloat
  | .number (.negInt n) => some n.toFloat
  | .number (.float x) => some x
  | _ => none

end Value

/-- `ErrorPayload`; its data are a JSON text that is not parsed yet. -/
structure ErrorPayload where
  code : Int64
  message : String
  data : Option String
deriving DecidableEq

/-- `TransportError`. -/
inductive TransportError where
  | errorResp (payload : ErrorPayload)
  /-- `TransportErrorKind::custom_str`. -/
  | custom (text : String)
  /-- The other kinds. -/
  | other (text : String)
deriving DecidableEq

/-- What the service uses of the crates for JSON and RPC. -/
structure Rpc (Response : Type) where
  /-- `ResponsePacket::as_error`. -/
  asError : Response → Option ErrorPayload
  /-- `serde_json::from_str`. -/
  fromStr : String → Except String Value
  /-- The text of an error. -/
  display : TransportError → String

/-- `RetryBackoffService`, without the counter and the inner service. -/
structure RetryBackoffService (Response : Type) where
  rpc : Rpc Response
  maxRetries : UInt32
  initialBackoff : UInt64

/-- `RetryPolicy::should_retry`: all errors are retried. -/
def shouldRetry (_error : TransportError) : Bool := true

/-- `RetryPolicy::backoff_hint`, in milliseconds. -/
def backoffHint {Response : Type} (rpc : Rpc Response) : TransportError → Option ℕ
  | .errorResp resp =>
      match resp.data.map rpc.fromStr with
      | some (.ok data) =>
          let backoffSeconds := (data.get "rate").get "backoff_seconds"
          match backoffSeconds.asU64, backoffSeconds.asF64 with
          | some seconds, _ => some (1000 * seconds.toNat)
          -- A cast to `u64` saturates; the addition wraps around.
          | none, some seconds => some (1000 * (seconds.toUInt64 + 1).toNat)
          | none, none => none
      | _ => none
  | _ => none

/-! ### Calls -/

/-- What the inner service replies, and what a call returns. -/
abbrev Reply (Response : Type) := Except TransportError Response

/-- Where a call stands. -/
inductive Point (Response : Type) where
  /-- It waits for the inner service. -/
  | calling
  | sleeping (backoff : ℕ)
  | returned (result : Reply Response)

/-- A call that has started. -/
structure Call (Request Response : Type) where
  request : Request
  retryCount : UInt32
  point : Point Response
  /-- What the inner service was called with. -/
  invoked : List Request
  /-- What it has replied. -/
  replies : List (Reply Response)

/-- The counter, and the calls in the order in which they have started. -/
structure State (Request Response : Type) where
  requestsEnqueued : UInt32
  calls : List (Call Request Response)

/-- What can happen next. -/
inductive Event (Request Response : Type) where
  /-- The future of a new call is polled for the first time. -/
  | start (request : Request)
  | reply (i : ℕ) (res : Reply Response)
  /-- The sleep of a call is over. -/
  | wake (i : ℕ)

variable {Request Response : Type}

/-- The state behind `layer`. -/
def State.initial : State Request Response := ⟨0, []⟩

namespace RetryBackoffService

variable (service : RetryBackoffService Response)

/-- A reply as the loop reads it: a response that holds an error is one. -/
def outcome : Reply Response → Except TransportError Response
  | .ok response =>
      match service.rpc.asError response with
      | some e => .error (.errorResp e)
      | none => .ok response
  | .error e => .error e

/-- The loop behind a reply, up to the next wait: the counter and the call. -/
def afterReply (requestsEnqueued : UInt32) (call : Call Request Response) (res : Reply Response) :
    UInt32 × Call Request Response :=
  let call := { call with replies := call.replies ++ [res] }
  match service.outcome res with
  | .ok response => (requestsEnqueued - 1, { call with point := .returned (.ok response) })
  | .error err =>
      if shouldRetry err then
        let call := { call with retryCount := call.retryCount + 1 }
        if call.retryCount > service.maxRetries then
          -- The counter is not decremented.
          let error := .custom ("Max retries exceeded " ++ service.rpc.display err)
          (requestsEnqueued, { call with point := .returned (.error error) })
        else
          let nextBackoff := (backoffHint service.rpc err).getD service.initialBackoff.toNat
          (requestsEnqueued, { call with point := .sleeping nextBackoff })
      else (requestsEnqueued - 1, { call with point := .returned (.error err) })

/-- One step, if it can be made. -/
def step (s : State Request Response) : Event Request Response → Option (State Request Response)
  | .start request =>
      some ⟨s.requestsEnqueued + 1, s.calls ++ [⟨request, 0, .calling, [request], []⟩]⟩
  | .reply i res => do
      let call ← s.calls[i]?
      match call.point with
      | .calling =>
          let r := service.afterReply s.requestsEnqueued call res
          some ⟨r.1, s.calls.set i r.2⟩
      | _ => none
  | .wake i => do
      let call ← s.calls[i]?
      match call.point with
      | .sleeping _ =>
          let call := { call with point := .calling, invoked := call.invoked ++ [call.request] }
          some ⟨s.requestsEnqueued, s.calls.set i call⟩
      | _ => none

/-- The service and the calls to it. -/
def system : LabelledSystem (State Request Response) (Event Request Response) where
  init s := s = .initial
  step s event s' := service.step s event = some s'

end RetryBackoffService

/-! ### What is counted -/

namespace Call

/-- The call has started and not yet returned. -/
def running (call : Call Request Response) : Bool :=
  match call.point with
  | .returned _ => false
  | _ => true

/-- The call has run out of retries. -/
def exhausted (call : Call Request Response) : Bool :=
  match call.point with
  | .returned (.error _) => true
  | _ => false

end Call

namespace State

/-- The number of calls in progress. -/
def inProgress (s : State Request Response) : ℕ := s.calls.countP Call.running

/-- The number of calls that have run out of retries. -/
def leaked (s : State Request Response) : ℕ := s.calls.countP Call.exhausted

/-- What the counter holds. -/
def Balanced (s : State Request Response) : Prop :=
  s.requestsEnqueued = .ofNat (s.inProgress + s.leaked)

end State

namespace RetryBackoffService

variable (service : RetryBackoffService Response)

/-- The first successful response among some replies. -/
def firstSuccess (replies : List (Reply Response)) : Option Response :=
  replies.findSome? fun res => (service.outcome res).toOption

/-- What the service is for: a bounded number of retries that end with the first success, and a
counter of the calls in progress. -/
structure CountsRequests (s : State Request Response) : Prop where
  invoked_le : ∀ call ∈ s.calls, call.invoked.length ≤ service.maxRetries.toNat + 1
  first_success : ∀ call ∈ s.calls, ∀ response, service.firstSuccess call.replies = some response →
    call.point = .returned (.ok response)
  enqueued_eq : s.requestsEnqueued.toNat = s.inProgress
  idle : s.inProgress = 0 →
    s.requestsEnqueued = (.initial : State Request Response).requestsEnqueued

/-- The steps that keep the count right: fewer than `2 ^ 32 - 1` calls are in progress when one
starts, no failure comes to a call without retries left, and no call is woken up that has called the
inner service more than `max_retries` times. -/
def Permitted (s : State Request Response) : Event Request Response → Prop
  | .start _ => s.inProgress + 1 < 2 ^ 32
  | .reply i res => ∀ call ∈ s.calls[i]?, (service.outcome res).isOk = false →
      call.retryCount + 1 ≤ service.maxRetries
  | .wake i => ∀ call ∈ s.calls[i]?, call.invoked.length ≤ service.maxRetries.toNat

instance (s : State Request Response) : DecidablePred (service.Permitted s)
  | .start _ => inferInstanceAs (Decidable (s.inProgress + 1 < 2 ^ 32))
  | .reply i _ => inferInstanceAs (Decidable (∀ call ∈ s.calls[i]?, _ → _))
  | .wake i => inferInstanceAs (Decidable (∀ call ∈ s.calls[i]?, _ ≤ _))

/-! ### One step -/

variable {service} {s s' : State Request Response} {event : Event Request Response}
  {n : UInt32} {call : Call Request Response} {res : Reply Response}

/-- Everything that a step can do. -/
lemma step_cases (h : service.step s event = some s') :
    (∃ request, event = .start request ∧
      s' = ⟨s.requestsEnqueued + 1, s.calls ++ [⟨request, 0, .calling, [request], []⟩]⟩) ∨
    (∃ i call res, event = .reply i res ∧ s.calls[i]? = some call ∧ call.point = .calling ∧
      s' = ⟨(service.afterReply s.requestsEnqueued call res).1,
        s.calls.set i (service.afterReply s.requestsEnqueued call res).2⟩) ∨
    (∃ i call backoff, event = .wake i ∧ s.calls[i]? = some call ∧
      call.point = .sleeping backoff ∧
      s' = ⟨s.requestsEnqueued, s.calls.set i
        { call with point := .calling, invoked := call.invoked ++ [call.request] }⟩) := by
  cases event with
  | start request =>
    left
    exact ⟨request, rfl, by simpa [step] using h.symm⟩
  | reply i res =>
    right; left
    obtain ⟨call, hcall, h⟩ := Option.bind_eq_some_iff.mp h
    split at h
    · next hpoint => exact ⟨i, call, res, rfl, hcall, hpoint, by simpa using h.symm⟩
    · cases h
  | wake i =>
    right; right
    obtain ⟨call, hcall, h⟩ := Option.bind_eq_some_iff.mp h
    split at h
    · next backoff hpoint => exact ⟨i, call, backoff, rfl, hcall, hpoint, by simpa using h.symm⟩
    · cases h

variable (service) in
/-- Everything that the loop can do behind a reply: return a success, retry a failure while there
are retries left, or return the last failure and leave the counter as it is. -/
lemma afterReply_cases (n : UInt32) (call : Call Request Response) (res : Reply Response) :
    (∃ response, service.outcome res = .ok response ∧
      service.afterReply n call res = (n - 1, { call with
        replies := call.replies ++ [res], point := .returned (.ok response) })) ∨
    (∃ err backoff, service.outcome res = .error err ∧
      call.retryCount + 1 ≤ service.maxRetries ∧
      service.afterReply n call res = (n, { call with
        replies := call.replies ++ [res], retryCount := call.retryCount + 1,
        point := .sleeping backoff })) ∨
    (∃ err error, service.outcome res = .error err ∧
      service.maxRetries < call.retryCount + 1 ∧
      service.afterReply n call res = (n, { call with
        replies := call.replies ++ [res], retryCount := call.retryCount + 1,
        point := .returned (.error error) })) := by
  cases hout : service.outcome res with
  | ok response =>
    left
    exact ⟨response, rfl, by simp [afterReply, hout]⟩
  | error err =>
    right
    by_cases hle : call.retryCount + 1 ≤ service.maxRetries
    · left
      refine ⟨err, (backoffHint service.rpc err).getD service.initialBackoff.toNat, rfl, hle, ?_⟩
      simp [afterReply, hout, shouldRetry, UInt32.not_lt.mpr hle]
    · right
      have hlt := UInt32.not_le.mp hle
      refine ⟨err, .custom ("Max retries exceeded " ++ service.rpc.display err), rfl, hlt, ?_⟩
      simp [afterReply, hout, shouldRetry, hlt]

/-! ### A single call -/

variable (service) in
/-- The bound on the failures of a call, where the number of retries does not wrap around. -/
def Within (failures : ℕ) : Prop :=
  service.maxRetries.toNat + 1 < 2 ^ 32 → failures ≤ service.maxRetries.toNat

variable (service) in
/-- A call in progress has had failures only, and has counted them. -/
structure Retries (call : Call Request Response) : Prop where
  failed : service.firstSuccess call.replies = none
  retryCount_eq : call.retryCount = .ofNat call.replies.length
  within : service.Within call.replies.length

variable (service) in
/-- What is known of a call at each point. -/
def Tracks (call : Call Request Response) : Prop :=
  match call.point with
  | .calling => service.Retries call ∧ call.invoked.length = call.replies.length + 1
  | .sleeping _ => service.Retries call ∧ call.invoked.length = call.replies.length
  | .returned (.ok response) => service.firstSuccess call.replies = some response ∧
      call.invoked.length = call.replies.length ∧ service.Within (call.replies.length - 1)
  | .returned (.error _) => service.firstSuccess call.replies = none ∧
      call.invoked.length = call.replies.length ∧
      call.replies.length = service.maxRetries.toNat + 1

/-- One more reply matters to the first success if there was none. -/
lemma firstSuccess_append {replies : List (Reply Response)}
    (h : service.firstSuccess replies = none) (res : Reply Response) :
    service.firstSuccess (replies ++ [res]) = (service.outcome res).toOption := by
  unfold firstSuccess at h ⊢
  rw [List.findSome?_append, h]
  simp

/-- A call starts with no failures. -/
lemma tracks_start (request : Request) :
    service.Tracks ⟨request, 0, .calling, [request], []⟩ :=
  ⟨⟨rfl, rfl, fun _ => Nat.zero_le _⟩, rfl⟩

/-- One more failure is counted. -/
lemma Retries.succ_eq (h : service.Retries call) :
    call.retryCount + 1 = .ofNat (call.replies.length + 1) := by
  rw [h.retryCount_eq, UInt32.ofNat_add]
  rfl

/-- The count of the failures does not wrap around where the number of retries does not. -/
lemma Retries.toNat_succ (h : service.Retries call)
    (hmax : service.maxRetries.toNat + 1 < 2 ^ 32) :
    (call.retryCount + 1).toNat = call.replies.length + 1 := by
  have hle := h.within hmax
  have hlt : call.replies.length + 1 < UInt32.size := by
    simp only [UInt32.size]
    omega
  rw [h.succ_eq, UInt32.toNat_ofNat_of_lt' hlt]

/-- The loop keeps track of its call. -/
lemma tracks_afterReply (h : service.Tracks call) (hpoint : call.point = .calling) :
    service.Tracks (service.afterReply n call res).2 := by
  simp only [Tracks, hpoint] at h
  obtain ⟨hretries, hinvoked⟩ := h
  have hfirst := firstSuccess_append hretries.failed res
  rcases service.afterReply_cases n call res with ⟨response, hout, hafter⟩ |
    ⟨err, backoff, hout, hle, hafter⟩ | ⟨err, error, hout, hlt, hafter⟩
  · rw [hafter]
    refine ⟨by simpa [hout, Except.toOption] using hfirst, by simpa using hinvoked, ?_⟩
    simpa using hretries.within
  · rw [hafter]
    refine ⟨⟨by simpa [hout, Except.toOption] using hfirst, by simpa using hretries.succ_eq, ?_⟩,
      by simpa using hinvoked⟩
    intro hmax
    have hle' := UInt32.le_iff_toNat_le.mp hle
    rw [hretries.toNat_succ hmax] at hle'
    simpa using hle'
  · rw [hafter]
    -- The branch is taken only where the number of retries is below `2 ^ 32 - 1`.
    have hlt' := UInt32.lt_iff_toNat_lt.mp hlt
    have hmax : service.maxRetries.toNat + 1 < 2 ^ 32 := by
      have := (call.retryCount + 1).toNat_lt
      omega
    rw [hretries.toNat_succ hmax] at hlt'
    have hle := hretries.within hmax
    refine ⟨by simpa [hout, Except.toOption] using hfirst, by simpa using hinvoked, ?_⟩
    simp only [List.length_append, List.length_singleton]
    omega

/-- A call that wakes up calls the inner service once more. -/
lemma tracks_wake {backoff : ℕ} (h : service.Tracks call)
    (hpoint : call.point = .sleeping backoff) :
    service.Tracks
      { call with point := .calling, invoked := call.invoked ++ [call.request] } := by
  simp only [Tracks, hpoint] at h
  obtain ⟨hretries, hinvoked⟩ := h
  exact ⟨⟨hretries.failed, hretries.retryCount_eq, hretries.within⟩, by simpa using hinvoked⟩

/-- Where the number of retries does not wrap around, it is a bound. -/
lemma Tracks.invoked_le (h : service.Tracks call) (hmax : service.maxRetries.toNat + 1 < 2 ^ 32) :
    call.invoked.length ≤ service.maxRetries.toNat + 1 := by
  unfold Tracks at h
  split at h
  · have := h.1.within hmax
    omega
  · have := h.1.within hmax
    omega
  · have := h.2.2 hmax
    omega
  · omega

/-- The first success is what a call returns. -/
lemma Tracks.first_success (h : service.Tracks call) {response : Response}
    (hfirst : service.firstSuccess call.replies = some response) :
    call.point = .returned (.ok response) := by
  unfold Tracks at h
  split at h
  · simp [h.1.failed] at hfirst
  · simp [h.1.failed] at hfirst
  · next hpoint =>
    rw [h.1] at hfirst
    rw [hpoint, Option.some.inj hfirst]
  · simp [h.1] at hfirst

/-! ### All calls -/

/-- A call in progress is not one that has run out of retries. -/
lemma not_exhausted_of_running (h : call.running = true) : call.exhausted = false := by
  unfold Call.running at h
  unfold Call.exhausted
  split at h <;> simp_all

section Counts

variable {i : ℕ} (m : UInt32) (call' : Call Request Response)

lemma inProgress_start (request : Request) :
    (State.mk m (s.calls ++ [⟨request, 0, .calling, [request], []⟩])).inProgress =
      s.inProgress + 1 := by
  simp [State.inProgress, Call.running]

lemma leaked_start (request : Request) :
    (State.mk m (s.calls ++ [⟨request, 0, .calling, [request], []⟩])).leaked = s.leaked := by
  simp [State.leaked, Call.exhausted]

lemma inProgress_set (hcall : s.calls[i]? = some call) (hrunning : call.running = true) :
    (State.mk m (s.calls.set i call')).inProgress + 1 =
      s.inProgress + call'.running.toNat := by
  have hset := countP_set_add (p := Call.running) call' hcall
  rwa [hrunning] at hset

lemma leaked_set (hcall : s.calls[i]? = some call) (hrunning : call.running = true) :
    (State.mk m (s.calls.set i call')).leaked = s.leaked + call'.exhausted.toNat := by
  have hset := countP_set_add (p := Call.exhausted) call' hcall
  rwa [not_exhausted_of_running hrunning] at hset

variable {call'}

/-- A call that goes on, or runs out of retries, leaves the counter as it is. -/
lemma balanced_kept (h : s.Balanced) (hcall : s.calls[i]? = some call)
    (hrunning : call.running = true) (hkept : call'.running.toNat + call'.exhausted.toNat = 1) :
    (State.mk s.requestsEnqueued (s.calls.set i call')).Balanced := by
  have hprogress := inProgress_set s.requestsEnqueued call' hcall hrunning
  have hleaked := leaked_set s.requestsEnqueued call' hcall hrunning
  have hsum : s.inProgress + s.leaked =
      (State.mk s.requestsEnqueued (s.calls.set i call')).inProgress +
        (State.mk s.requestsEnqueued (s.calls.set i call')).leaked := by
    omega
  exact h.trans (congrArg UInt32.ofNat hsum)

/-- A call that returns a response decrements the counter. -/
lemma balanced_returned (h : s.Balanced) (hcall : s.calls[i]? = some call)
    (hrunning : call.running = true) (hreturned : call'.running = false)
    (hexhausted : call'.exhausted = false) :
    (State.mk (s.requestsEnqueued - 1) (s.calls.set i call')).Balanced := by
  have hprogress := inProgress_set (s.requestsEnqueued - 1) call' hcall hrunning
  have hleaked := leaked_set (s.requestsEnqueued - 1) call' hcall hrunning
  rw [hreturned, Bool.toNat_false] at hprogress
  rw [hexhausted, Bool.toNat_false] at hleaked
  unfold State.Balanced at h ⊢
  have hsum : s.inProgress + s.leaked =
      (State.mk (s.requestsEnqueued - 1) (s.calls.set i call')).inProgress +
        (State.mk (s.requestsEnqueued - 1) (s.calls.set i call')).leaked + 1 := by
    omega
  rw [h, hsum, UInt32.ofNat_add]
  exact UInt32.add_sub_cancel _ _

end Counts

variable (service) in
/-- What holds in every state. -/
structure Inv (s : State Request Response) : Prop where
  tracks : ∀ call ∈ s.calls, service.Tracks call
  balanced : s.Balanced

lemma inv_initial : service.Inv (.initial : State Request Response) :=
  ⟨by simp [State.initial], rfl⟩

/-- The counter after a reply. -/
lemma balanced_afterReply (h : s.Balanced) {i : ℕ} (hcall : s.calls[i]? = some call)
    (hpoint : call.point = .calling) :
    (State.mk (service.afterReply s.requestsEnqueued call res).1
      (s.calls.set i (service.afterReply s.requestsEnqueued call res).2)).Balanced := by
  have hrunning : call.running = true := by simp [Call.running, hpoint]
  rcases service.afterReply_cases s.requestsEnqueued call res with
    ⟨response, -, hafter⟩ | ⟨err, backoff, -, -, hafter⟩ | ⟨err, error, -, -, hafter⟩
  · rw [hafter]
    exact balanced_returned h hcall hrunning rfl rfl
  · rw [hafter]
    exact balanced_kept h hcall hrunning rfl
  · rw [hafter]
    exact balanced_kept h hcall hrunning rfl

lemma Inv.step (h : service.Inv s) (hstep : service.step s event = some s') : service.Inv s' := by
  rcases step_cases hstep with ⟨request, -, rfl⟩ | ⟨i, call, res, -, hcall, hpoint, rfl⟩ |
    ⟨i, call, backoff, -, hcall, hpoint, rfl⟩
  · refine ⟨List.forall_mem_append.mpr ⟨h.tracks, ?_⟩, ?_⟩
    · exact List.forall_mem_singleton.mpr (tracks_start request)
    · have hbalanced := h.balanced
      unfold State.Balanced at hbalanced ⊢
      rw [inProgress_start, leaked_start, Nat.add_right_comm, UInt32.ofNat_add, ← hbalanced]
      rfl
  · have htracks := h.tracks call (List.mem_of_getElem? hcall)
    refine ⟨forall_mem_set h.tracks ?_, balanced_afterReply h.balanced hcall hpoint⟩
    exact tracks_afterReply htracks hpoint
  · have htracks := h.tracks call (List.mem_of_getElem? hcall)
    refine ⟨forall_mem_set h.tracks (tracks_wake htracks hpoint), ?_⟩
    exact balanced_kept h.balanced hcall (by simp [Call.running, hpoint]) rfl

/-! ### Every run -/

/-- Whatever the inner service replies, and in whatever order: a call has called it at most
`max_retries + 1` times, where that number does not wrap around, returns the first success, and
returns an error behind `max_retries + 1` failures only; and the counter holds the calls that are in
progress or have run out of retries. -/
theorem calls_and_counter_of_run {tr : List (Event Request Response)}
    (h : service.system.Run tr s) :
    (∀ call ∈ s.calls,
      (service.maxRetries.toNat + 1 < 2 ^ 32 →
        call.invoked.length ≤ service.maxRetries.toNat + 1) ∧
      (∀ response, service.firstSuccess call.replies = some response →
        call.point = .returned (.ok response)) ∧
      (∀ error, call.point = .returned (.error error) →
        service.firstSuccess call.replies = none ∧
          call.invoked.length = service.maxRetries.toNat + 1)) ∧ s.Balanced := by
  have hinv : service.Inv s := by
    refine h.invariant (P := service.Inv) ?_ fun _ _ _ hs hstep => hs.step hstep
    rintro s rfl
    exact inv_initial
  refine ⟨?_, hinv.balanced⟩
  intro call hmem
  have htracks := hinv.tracks call hmem
  refine ⟨htracks.invoked_le, fun response => htracks.first_success, ?_⟩
  intro error hpoint
  simp only [Tracks, hpoint] at htracks
  obtain ⟨hnone, hinvoked, hlength⟩ := htracks
  exact ⟨hnone, hinvoked.trans hlength⟩

/-! ### Runs that count their requests -/

variable (service) in
/-- What holds in addition behind permitted steps. -/
structure Sound (s : State Request Response) : Prop where
  inv : service.Inv s
  invoked_le : ∀ call ∈ s.calls, call.invoked.length ≤ service.maxRetries.toNat + 1
  leaked_eq : s.leaked = 0
  inProgress_lt : s.inProgress < 2 ^ 32

lemma sound_initial : service.Sound (.initial : State Request Response) :=
  ⟨inv_initial, by simp [State.initial], rfl, Nat.two_pow_pos 32⟩

lemma Sound.enqueued_eq (h : service.Sound s) : s.requestsEnqueued.toNat = s.inProgress := by
  have hbalanced := h.inv.balanced
  unfold State.Balanced at hbalanced
  rw [hbalanced, h.leaked_eq, Nat.add_zero]
  exact UInt32.toNat_ofNat_of_lt' h.inProgress_lt

lemma Sound.countsRequests (h : service.Sound s) : service.CountsRequests s where
  invoked_le := h.invoked_le
  first_success call hmem _ := (h.inv.tracks call hmem).first_success
  enqueued_eq := h.enqueued_eq
  idle hidle := UInt32.toNat_inj.mp (h.enqueued_eq.trans hidle)

/-- The loop does not call the inner service, and leaks nothing while there are retries left. -/
lemma afterReply_permitted
    (h : (service.outcome res).isOk = false → call.retryCount + 1 ≤ service.maxRetries) :
    (service.afterReply n call res).2.invoked = call.invoked ∧
      (service.afterReply n call res).2.exhausted = false := by
  rcases service.afterReply_cases n call res with ⟨response, -, hafter⟩ |
    ⟨err, backoff, -, -, hafter⟩ | ⟨err, error, hout, hlt, -⟩
  · rw [hafter]
    exact ⟨rfl, rfl⟩
  · rw [hafter]
    exact ⟨rfl, rfl⟩
  · exact absurd (h (by rw [hout]; rfl)) (UInt32.not_le.mpr hlt)

/-- A call that goes on within its bound, or returns a response. -/
lemma Sound.set (h : service.Sound s) {i : ℕ} {m : UInt32} {call' : Call Request Response}
    (hcall : s.calls[i]? = some call) (hrunning : call.running = true)
    (hinv : service.Inv ⟨m, s.calls.set i call'⟩)
    (hinvoked : call'.invoked.length ≤ service.maxRetries.toNat + 1)
    (hexhausted : call'.exhausted = false) : service.Sound ⟨m, s.calls.set i call'⟩ := by
  refine ⟨hinv, forall_mem_set h.invoked_le hinvoked, ?_, ?_⟩
  · rw [leaked_set m call' hcall hrunning, hexhausted, h.leaked_eq]
    rfl
  · have hprogress := inProgress_set m call' hcall hrunning
    have hlt := h.inProgress_lt
    have hle := call'.running.toNat_le
    omega

lemma Sound.step (h : service.Sound s) (hstep : service.step s event = some s')
    (hpermitted : service.Permitted s event) : service.Sound s' := by
  have hinv := h.inv.step hstep
  rcases step_cases hstep with ⟨request, rfl, rfl⟩ | ⟨i, call, res, rfl, hcall, hpoint, rfl⟩ |
    ⟨i, call, backoff, rfl, hcall, hpoint, rfl⟩
  · refine ⟨hinv, List.forall_mem_append.mpr ⟨h.invoked_le, ?_⟩, ?_, ?_⟩
    · exact List.forall_mem_singleton.mpr (Nat.le_add_left 1 _)
    · rw [leaked_start, h.leaked_eq]
    · rw [inProgress_start]
      exact hpermitted
  · have hafter := afterReply_permitted (n := s.requestsEnqueued) (hpermitted call hcall)
    refine h.set hcall (by simp [Call.running, hpoint]) hinv ?_ hafter.2
    rw [hafter.1]
    exact h.invoked_le call (List.mem_of_getElem? hcall)
  · refine h.set hcall (by simp [Call.running, hpoint]) hinv ?_ rfl
    simpa using hpermitted call hcall

/-- The condition is exact: a step that is not permitted spoils the count, or calls the inner
service too often. -/
lemma Sound.permitted (h : service.Sound s) (hstep : service.step s event = some s')
    (hcounts : service.CountsRequests s') : service.Permitted s event := by
  rcases step_cases hstep with ⟨request, rfl, rfl⟩ | ⟨i, call, res, rfl, hcall, hpoint, rfl⟩ |
    ⟨i, call, backoff, rfl, hcall, hpoint, rfl⟩
  · have henqueued := hcounts.enqueued_eq
    rw [inProgress_start] at henqueued
    have hlt : s.inProgress + 1 < 2 ^ 32 := henqueued.symm.trans_lt (UInt32.toNat_lt _)
    exact hlt
  · intro call' hcall' hfails
    obtain rfl : call = call' := Option.some.inj (hcall.symm.trans hcall')
    rcases service.afterReply_cases s.requestsEnqueued call res with
      ⟨response, hout, -⟩ | ⟨err, backoff, -, hle, -⟩ | ⟨err, error, -, -, hafter⟩
    · simp [hout, Except.isOk, Except.toBool] at hfails
    · exact hle
    · -- The counter still counts the call, which has returned.
      rw [hafter] at hcounts
      have hprogress := inProgress_set s.requestsEnqueued { call with
        replies := call.replies ++ [res], retryCount := call.retryCount + 1,
        point := .returned (.error error) } hcall (by simp [Call.running, hpoint])
      rw [← hcounts.enqueued_eq, h.enqueued_eq] at hprogress
      exact absurd hprogress (Nat.succ_ne_self s.inProgress)
  · intro call' hcall'
    obtain rfl : call = call' := Option.some.inj (hcall.symm.trans hcall')
    have hi : i < s.calls.length := (List.getElem?_eq_some_iff.mp hcall).1
    simpa using hcounts.invoked_le _ (List.mem_set hi _)

/-- A run passes only through states that count their requests exactly if it makes permitted steps
only. -/
theorem counts_requests_iff (service : RetryBackoffService Response)
    {tr : List (Event Request Response)} {s : State Request Response}
    (h : service.system.Run tr s) :
    (∀ tr' s', tr' <+: tr → service.system.Run tr' s' → service.CountsRequests s') ↔
      (service.system.restrict service.Permitted).Run tr s := by
  refine LabelledSystem.Run.restrict_iff (I := service.Sound) ?_ ?_ ?_ ?_ ?_ ?_ h
  · rintro s s' rfl rfl
    rfl
  · intro s event s₁ s₂ h₁ h₂
    exact Option.some.inj (h₁.symm.trans h₂)
  · rintro s rfl
    exact sound_initial
  · exact fun s event s' hs hstep hpermitted => hs.step hstep hpermitted
  · exact fun s hs => hs.countsRequests
  · exact fun s event s' hs hstep hcounts => hs.permitted hstep hcounts

end RetryBackoffService

/-! ### A node that cannot be reached -/

/-- A response is a result or an error. -/
def sampleRpc : Rpc (Except ErrorPayload String) where
  asError
    | .ok _ => none
    | .error payload => some payload
  fromStr text := if text = "null" then .ok .null else .error "expected value"
  display
    | .errorResp payload => "server returned an error response: " ++ payload.message
    | .custom text => text
    | .other text => text

/-- The service as the relayer builds it, with `DEFAULT_CALL_RETRIES`. -/
def sampleService : RetryBackoffService (Except ErrorPayload String) := ⟨sampleRpc, 3, 1000⟩

/-- A failure of the transport. -/
def unreachable : Reply (Except ErrorPayload String) := .error (.other "connection refused")

/-- An error response. -/
def limited : Reply (Except ErrorPayload String) := .ok (.error ⟨-32005, "rate limited", none⟩)

/-- Two calls at once; one of them succeeds with its third reply. -/
def sampleRun : List (Event String (Except ErrorPayload String)) :=
  [.start "eth_blockNumber", .start "eth_gasPrice", .reply 0 unreachable,
    .reply 1 (.ok (.ok "0x1")), .wake 0, .reply 0 limited, .wake 0, .reply 0 (.ok (.ok "0x2"))]

/-- The run counts its requests. -/
theorem counts_requests_sample :
    ∃ s, sampleService.system.Run sampleRun s ∧ s.calls.length = 2 ∧ s.inProgress = 0 ∧
      ∀ tr' s', tr' <+: sampleRun → sampleService.system.Run tr' s' →
        sampleService.CountsRequests s' := by
  have hrun := LabelledSystem.exists_restrict_run_of_foldlM
    (S := (sampleService.system : LabelledSystem (State String _) _))
    (C := sampleService.Permitted) (f := sampleService.step) rfl (fun _ _ _ h => h) sampleRun
    (fun s => s.calls.length = 2 ∧ s.inProgress = 0) (by decide)
  obtain ⟨s, hrun, hs⟩ := hrun
  obtain ⟨hlength, hidle⟩ := of_decide_eq_true hs
  exact ⟨s, hrun.of_restrict, hlength, hidle,
    (RetryBackoffService.counts_requests_iff sampleService hrun.of_restrict).mpr hrun⟩

/-- One call whose first request and three retries fail. -/
def failingRun : List (Event String (Except ErrorPayload String)) :=
  [.start "eth_blockNumber", .reply 0 unreachable, .wake 0, .reply 0 unreachable, .wake 0,
    .reply 0 limited, .wake 0, .reply 0 unreachable]

/-- The call has returned, no call is in progress, and the counter is 1. -/
theorem enqueued_after_last_retry :
    ∃ s, sampleService.system.Run failingRun s ∧ s.inProgress = 0 ∧ s.requestsEnqueued = 1 ∧
      ¬sampleService.CountsRequests s := by
  have hrun := LabelledSystem.exists_run_of_foldlM
    (S := (sampleService.system : LabelledSystem (State String _) _)) (f := sampleService.step) rfl
    (fun _ _ _ h => h) failingRun
    (fun s => s.inProgress = 0 ∧ s.requestsEnqueued = 1) (by decide)
  obtain ⟨s, hrun, hs⟩ := hrun
  obtain ⟨hidle, henqueued⟩ := of_decide_eq_true hs
  refine ⟨s, hrun, hidle, henqueued, ?_⟩
  intro hcounts
  have hzero := hcounts.idle hidle
  rw [henqueued] at hzero
  exact absurd hzero (by decide)

end Retry

end Evm

end BifrostRelayer

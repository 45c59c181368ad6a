import AgentWorkflow.Proofs.Service.Answers

/-!
# The limit

Every path is limited on its own, but for those that ask after the service's health. What counts
against the limit of a path is a call there that was accepted and is handled, whatever comes of it;
a request that is not accepted and a question for the service's health change nothing. So the calls
at a path that are handled are the first ones, and there is no other way to be told that there were
too many.

An endpoint can be called at two paths, its own and the one with a line feed behind it. They are
counted apart.

Results:
1. `unlimited_accept`, `unlimited_handle`: neither accepting nor handling speaks of the limit.
2. `answer_refused`, `answer_within`, `answer_beyond`: what answering one request does to the
   counted calls.
3. `answersAt_answerAll`: the answers to the calls at one path, from any state of the service.
4. `answerAll_limited`: the answers to any requests after a start.
-/

namespace AgentWorkflow

def Answer.status? : Answer → Option Nat
  | .ok reply => some reply.status
  | .error _ => none

/-! ## Where the limit is not spoken of -/

namespace Handling

variable {α β : Type}

/-- Not stopped because of too many calls. -/
def Unlimited (x : Handling α) : Prop := ∀ limit, x ≠ .error (.refused (.tooMany limit))

theorem unlimited_ok (a : α) : Unlimited (.ok a) := nofun

theorem unlimited_failed (failure : ServiceFailure) :
    Unlimited (.error (.failed failure) : Handling α) := nofun

theorem Unlimited.bind {x : Handling α} {f : α → Handling β} (hx : Unlimited x)
    (hf : ∀ a, Unlimited (f a)) : Unlimited (x >>= f) := by
  cases x with
  | ok a => exact hf a
  | error stop => exact fun limit h => hx limit (congrArg _ (Except.error.inj h))

/-- What is not refused for the limit is not answered as if it were. -/
theorem status?_answer_ne {x : Handling Json} (h : Unlimited x) :
    Answer.status? (answer x) ≠ some 429 := by
  match x, h with
  | .ok body, _ => nofun
  | .error (.failed failure), _ => nofun
  | .error (.refused reason), h =>
    intro told
    cases sent : Reply.refuse reason with
    | error failure =>
      rw [answer, sent] at told
      cases told
    | ok reply =>
      rw [answer, sent, Answer.status?, Reply.status_of_refuse sent, Option.some_inj] at told
      cases reason
      case tooMany limit => exact h limit rfl
      all_goals cases told

end Handling

/-- What comes of a call that is handled. -/
def Call.answer (call : Call) : Answer := Handling.answer (Service.handle call)

/-- What a call beyond the limit is told. -/
def Answer.tooMany (limit : Nat) : Answer := .ok ⟨429, (Refusal.tooMany limit).body⟩

theorem answer_tooMany (limit : Nat) :
    Handling.answer (Service.refuse (.tooMany limit)) = .tooMany limit := by
  have encodable : (Refusal.tooMany limit).body.Encodable := by simp [Refusal.body]
  have finite : (Refusal.tooMany limit).body.isFinite := rfl
  rw [Service.refuse, Handling.answer, Reply.refuse_eq_ok finite encodable]
  rfl

namespace Service

open Handling

theorem unlimited_readContent (depth : Nat) (r : Request) : Unlimited (readContent depth r) := by
  unfold readContent
  split
  · exact unlimited_ok _
  · split
    · split
      · unfold readJson
        split <;> nofun
      · nofun
    · exact unlimited_ok _

theorem unlimited_authorize (environment : Table Text) (r : Request) :
    Unlimited (authorize environment r) := by
  unfold authorize
  split
  · exact unlimited_failed _
  · split <;> nofun

theorem unlimited_ofChecked {α : Type} (checked : Checked α) : Unlimited (ofChecked checked) := by
  cases checked <;> nofun

/-- No request is turned away for the limit before it is accepted. -/
theorem unlimited_accept (depth : Nat) (environment : Table Text) (r : Request) :
    Unlimited (accept depth environment r) := by
  unfold accept
  split
  · nofun
  · next endpoint _ =>
    split
    · cases endpoint
      case health => exact (unlimited_authorize _ r).bind fun _ => unlimited_ok _
      all_goals
        exact (unlimited_readContent _ r).bind fun _ => (unlimited_authorize _ r).bind fun _ =>
          (unlimited_ofChecked _).bind fun _ => unlimited_ok _
    · nofun

theorem unlimited_ofReading {α : Type} (reading : Reading α) : Unlimited (ofReading reading) := by
  match reading with
  | .ok _ => exact unlimited_ok _
  | .error (.malformed _) => nofun
  | .error .temperatureTooLarge => nofun

/-- A call that is handled is not turned away for the limit. -/
theorem unlimited_handle (call : Call) : Unlimited (handle call) := by
  cases call with
  | health => exact unlimited_ok _
  | preflight form => exact (unlimited_ofReading _).bind fun _ => unlimited_ok _
  | switch form =>
    exact (unlimited_ofReading _).bind fun _ => (unlimited_ofReading _).bind fun _ => unlimited_ok _
  | generate form strict =>
    refine (unlimited_ofReading _).bind fun w => ?_
    split
    · nofun
    · dsimp only
      split <;> nofun

end Service

/-! ## One request -/

namespace Server

variable {s : Server} {environment : Table Text} {r : Request} {call : Call} {depth limit : Nat}
  {path : Text}

/-- A request that is not accepted leaves the service as it is. -/
theorem answer_refused {stop : Stop} (h : Service.accept s.depth environment r = .error stop) :
    s.answer environment r = (s, Handling.answer (.error stop)) := by
  simp only [answer, h]

/-- A question for the service's health is answered and leaves the service as it is. -/
theorem answer_health (h : Service.accept s.depth environment r = .ok .health) :
    s.answer environment r = (s, Call.health.answer) := by
  have free : s.exceeded? r.path .health = none := by
    cases found : s.limit <;> simp only [exceeded?, found]
  simp only [answer, h, free]
  rfl

theorem exceeded?_eq (hs : s.limit = some limit) (hc : call.endpoint ≠ .health) :
    s.exceeded? path call = if s.counted.count path < limit then none else some limit := by
  cases call with
  | health => exact absurd rfl hc
  | _ => simp only [exceeded?, hs]

/-- A call within the limit is handled and counted. -/
theorem answer_within (hs : s.limit = some limit)
    (h : Service.accept s.depth environment r = .ok call) (hc : call.endpoint ≠ .health)
    (room : s.counted.count r.path < limit) :
    s.answer environment r = ({ s with counted := r.path :: s.counted }, call.answer) := by
  simp only [answer, h, exceeded?_eq hs hc, if_pos room, count, if_neg hc, Call.answer]

/-- A call beyond the limit is told so, and leaves the service as it is. -/
theorem answer_beyond (hs : s.limit = some limit)
    (h : Service.accept s.depth environment r = .ok call) (hc : call.endpoint ≠ .health)
    (full : limit ≤ s.counted.count r.path) : s.answer environment r = (s, .tooMany limit) := by
  simp only [answer, h, exceeded?_eq hs hc, if_neg (Nat.not_lt.mpr full), answer_tooMany]

/-- Answering changes nothing but what is counted. -/
theorem answer_keeps (s : Server) (environment : Table Text) (r : Request) :
    (s.answer environment r).1.depth = s.depth ∧ (s.answer environment r).1.limit = s.limit := by
  unfold answer
  split
  · exact ⟨rfl, rfl⟩
  · split
    · exact ⟨rfl, rfl⟩
    · dsimp only [count]
      split <;> exact ⟨rfl, rfl⟩

/-- Only calls at a path are counted against its limit. -/
theorem count_answer (h : Service.accept s.depth environment r = .ok call) (other : r.path ≠ path) :
    (s.answer environment r).1.counted.count path = s.counted.count path := by
  simp only [answer, h]
  split
  · rfl
  · dsimp only [count]
    split
    · rfl
    · exact List.count_cons_of_ne other

/-! ## Requests one after another -/

/-- The call at a path that a request is accepted as, none if it is not accepted or is handled at
another path. -/
def callAt? (depth : Nat) (path : Text) (arrival : Table Text × Request) : Option Call :=
  if arrival.2.path = path then (Service.accept depth arrival.1 arrival.2).toOption else none

def callsAt (depth : Nat) (path : Text) (arrivals : List (Table Text × Request)) : List Call :=
  arrivals.filterMap (callAt? depth path)

def answersAt (depth : Nat) (path : Text) (arrivals : List (Table Text × Request))
    (answers : List Answer) : List Answer :=
  (arrivals.zip answers).filterMap fun (arrival, a) => (callAt? depth path arrival).map fun _ => a

/-- The answers to calls of which no more than some are handled, the first ones. -/
def firstAnswered (limit room : Nat) (calls : List Call) : List Answer :=
  (calls.take room).map Call.answer ++ List.replicate (calls.length - room) (.tooMany limit)

theorem firstAnswered_succ (limit room : Nat) (call : Call) (calls : List Call) :
    firstAnswered limit (room + 1) (call :: calls)
      = call.answer :: firstAnswered limit room calls := by
  simp [firstAnswered]

theorem firstAnswered_zero (limit : Nat) (call : Call) (calls : List Call) :
    firstAnswered limit 0 (call :: calls) = .tooMany limit :: firstAnswered limit 0 calls := by
  simp [firstAnswered, List.replicate_succ]

variable {arrivals : List (Table Text × Request)}

theorem callAt?_of_error {stop : Stop} (h : Service.accept depth environment r = .error stop) :
    callAt? depth path (environment, r) = none := by
  simp [callAt?, h, Except.toOption]

theorem callAt?_of_ok (h : Service.accept depth environment r = .ok call) :
    callAt? depth path (environment, r) = if r.path = path then some call else none := by
  simp [callAt?, h, Except.toOption]

theorem answerAll_cons : s.answerAll ((environment, r) :: arrivals)
    = (s.answer environment r).2 :: (s.answer environment r).1.answerAll arrivals := rfl

section Lists

variable {arrival : Table Text × Request} {a : Answer} {answers : List Answer}

theorem callsAt_cons_of_none (h : callAt? depth path arrival = none) :
    callsAt depth path (arrival :: arrivals) = callsAt depth path arrivals :=
  List.filterMap_cons_none h

theorem callsAt_cons_of_some (h : callAt? depth path arrival = some call) :
    callsAt depth path (arrival :: arrivals) = call :: callsAt depth path arrivals :=
  List.filterMap_cons_some h

theorem answersAt_cons_of_none (h : callAt? depth path arrival = none) :
    answersAt depth path (arrival :: arrivals) (a :: answers)
      = answersAt depth path arrivals answers := by
  simp only [answersAt, List.zip_cons_cons, List.filterMap_cons, h, Option.map_none]

theorem answersAt_cons_of_some (h : callAt? depth path arrival = some call) :
    answersAt depth path (arrival :: arrivals) (a :: answers)
      = a :: answersAt depth path arrivals answers := by
  simp only [answersAt, List.zip_cons_cons, List.filterMap_cons, h, Option.map_some]

end Lists

/-- From any state on, as many calls at a path are handled as its limit leaves room for. -/
theorem answersAt_answerAll (hs : s.limit = some limit)
    (limited : Endpoint.atPath? path ≠ some .health) :
    answersAt s.depth path arrivals (s.answerAll arrivals)
      = firstAnswered limit (limit - s.counted.count path) (callsAt s.depth path arrivals) := by
  -- the room that is left shrinks with each call at the path and with nothing else
  induction arrivals generalizing s with
  | nil => simp [answersAt, callsAt, firstAnswered]
  | cons arrival arrivals ih =>
    obtain ⟨environment, r⟩ := arrival
    rw [answerAll_cons]
    obtain ⟨depth, next⟩ := s.answer_keeps environment r
    have rest := ih (next.trans hs)
    rw [depth] at rest
    cases accepted : Service.accept s.depth environment r with
    | error stop =>
      have none : callAt? s.depth path (environment, r) = none := callAt?_of_error accepted
      rw [answersAt_cons_of_none none, callsAt_cons_of_none none, rest, answer_refused accepted]
    | ok call =>
      by_cases called : r.path = path
      case neg =>
        have none := (callAt?_of_ok accepted).trans (if_neg called)
        rw [answersAt_cons_of_none none, callsAt_cons_of_none none, rest,
          count_answer accepted called]
      case pos =>
        have some := (callAt?_of_ok accepted).trans (if_pos called)
        rw [answersAt_cons_of_some some, callsAt_cons_of_some some, rest]
        subst called
        have counted : call.endpoint ≠ .health := fun same =>
          limited ((Service.endpoint_of_accept accepted).trans (congrArg _ same))
        by_cases room : s.counted.count r.path < limit
        · have left : limit - s.counted.count r.path
              = limit - (s.counted.count r.path + 1) + 1 := by omega
          rw [answer_within hs accepted counted room, List.count_cons_self, left,
            firstAnswered_succ]
        · have full : limit ≤ s.counted.count r.path := Nat.not_lt.mp room
          rw [answer_beyond hs accepted counted full, Nat.sub_eq_zero_of_le full,
            firstAnswered_zero]

/-- Each answer is given by the service in some state. -/
theorem exists_of_mem_zip_answerAll {a : Answer}
    (h : ((environment, r), a) ∈ arrivals.zip (s.answerAll arrivals)) :
    ∃ now : Server, now.depth = s.depth ∧ a = (now.answer environment r).2 := by
  induction arrivals generalizing s with
  | nil => cases h
  | cons arrival arrivals ih =>
    rw [answerAll_cons, List.zip_cons_cons, List.mem_cons] at h
    rcases h with first | later
    · cases first
      exact ⟨s, rfl, rfl⟩
    · obtain ⟨now, depth, told⟩ := ih later
      exact ⟨now, depth.trans (s.answer_keeps _ _).1, told⟩

theorem length_answerAll (s : Server) (arrivals : List (Table Text × Request)) :
    (s.answerAll arrivals).length = arrivals.length := by
  induction arrivals generalizing s with
  | nil => rfl
  | cons arrival arrivals ih => exact congrArg (· + 1) (ih _)

structure Limited (depth limit : Nat) (arrivals : List (Table Text × Request))
    (answers : List Answer) : Prop where
  /-- Each request is answered. -/
  length : answers.length = arrivals.length
  /-- The first calls at a path are handled, the later ones are told that there were too many. -/
  calls : ∀ path, Endpoint.atPath? path ≠ some .health →
    answersAt depth path arrivals answers
      = ((callsAt depth path arrivals).take limit).map Call.answer
        ++ List.replicate ((callsAt depth path arrivals).length - limit) (.tooMany limit)
  /-- Questions for the service's health are answered. -/
  health : ∀ arrival a, (arrival, a) ∈ arrivals.zip answers →
    Service.accept depth arrival.1 arrival.2 = .ok .health → a = Call.health.answer
  /-- What is not accepted is told why. -/
  refused : ∀ arrival a stop, (arrival, a) ∈ arrivals.zip answers →
    Service.accept depth arrival.1 arrival.2 = .error stop → a = Handling.answer (.error stop)

/-- Of the calls at each limited path that are accepted, the first ones up to the limit are handled
and all later ones are answered with 429, in whatever order the requests come. A call at a path is
one of the endpoint there. All others, and those that are handled, are never answered so. -/
theorem answerAll_limited (depth limit : Nat) (arrivals : List (Table Text × Request)) :
    Limited depth limit arrivals (answerAll { depth, limit := some limit } arrivals) ∧
      (∀ path, ∀ call ∈ callsAt depth path arrivals,
        Endpoint.atPath? path = some call.endpoint) ∧
      (Answer.tooMany limit).status? = some 429 ∧
      (∀ call : Call, call.answer.status? ≠ some 429) ∧
      ∀ environment r stop, Service.accept depth environment r = .error stop →
        (Handling.answer (.error stop)).status? ≠ some 429 := by
  refine ⟨⟨length_answerAll _ _, ?calls, ?health, ?refused⟩, ?called, rfl, ?handled, ?turned⟩
  case calls =>
    intro path limited
    have answered := @answersAt_answerAll { depth, limit := some limit } limit path arrivals rfl
      limited
    rwa [List.count_nil, Nat.sub_zero] at answered
  case health =>
    intro arrival a given accepted
    obtain ⟨now, rfl, rfl⟩ := exists_of_mem_zip_answerAll given
    exact congrArg Prod.snd (answer_health accepted)
  case refused =>
    intro arrival a stop given turned
    obtain ⟨now, rfl, rfl⟩ := exists_of_mem_zip_answerAll given
    exact congrArg Prod.snd (answer_refused turned)
  case called =>
    intro path call mem
    obtain ⟨⟨environment, r⟩, -, found⟩ := List.mem_filterMap.mp mem
    unfold callAt? at found
    split at found
    · next here =>
      subst here
      cases accepted : Service.accept depth environment r with
      | error stop =>
        rw [accepted] at found
        cases found
      | ok call' =>
        rw [accepted] at found
        cases found
        exact Service.endpoint_of_accept accepted
    · cases found
  case handled =>
    exact fun call => Handling.status?_answer_ne (Service.unlimited_handle call)
  case turned =>
    intro environment r stop turned
    have unlimited := Service.unlimited_accept depth environment r
    rw [turned] at unlimited
    refine Handling.status?_answer_ne fun limit told => unlimited limit ?_
    rw [Except.error.inj told]

end Server

end AgentWorkflow

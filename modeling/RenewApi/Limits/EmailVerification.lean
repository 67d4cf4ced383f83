import RenewApi.Channels.Text
import RenewApi.Limits.RateLimit
import RenewApi.Relational.Transaction

/-! # Throttling of verification mails

`middleware/email-verification-rate-limit.go`: a request for a verification mail passes up to three
sliding windows. With Redis, a window is a sorted set that a script trims, counts and adds to; when
the script fails, the limiter in memory takes over. -/

namespace RenewApi.Limits

open Text Relational List Function

/-- A member of a sorted set. -/
structure Member where
  name : String
  score : Int
  deriving DecidableEq

/-- A sorted set, and when it expires, in milliseconds. -/
structure SortedSet where
  members : List Member
  expireAt : Option Int

abbrev Redis := String → SortedSet

namespace Redis

/-- A Redis without any set. -/
def empty : Redis := fun _ => ⟨[], none⟩

/-- The members of a set that has not expired. -/
def members (r : Redis) (nowMs : Int) (key : String) : List Member :=
  match (r key).expireAt with
  | some t => if t ≤ nowMs then [] else (r key).members
  | none => (r key).members

def stays (max : Int) (m : Member) : Bool := !(0 ≤ m.score && m.score ≤ max)

section

variable (r : Redis) (nowMs : Int) (key : String)

def zremrangebyscore (max : Int) : Redis :=
  update r key ⟨(r.members nowMs key).filter (stays max), (r key).expireAt⟩

def zadd (score : Int) (name : String) : Redis :=
  update r key
    ⟨(r.members nowMs key).filter (·.name ≠ name) ++ [⟨name, score⟩], (r key).expireAt⟩

def expire (seconds : Int) : Redis :=
  update r key ⟨r.members nowMs key, some (nowMs + seconds * 1000)⟩

end

end Redis

/-- The arguments `ARGV` of the script; the last one is nil when it was not passed. -/
structure Argv where
  maxRequests : Int
  windowMs : Int
  ttlSeconds : Int
  nonce : Option String

/-- `redisSlidingWindowRateLimitScript`: the sets after it, and what it returns; `none` is an
error. -/
def slidingWindowScript (r : Redis) (nowMs : Int) (key : String) (argv : Argv) : Redis × Option Int :=
  let r := r.zremrangebyscore nowMs key (nowMs - argv.windowMs)
  let current := (r.members nowMs key).length
  if argv.maxRequests ≤ current then (r.expire nowMs key argv.ttlSeconds, some 0)
  else
    match argv.nonce with
    | none => (r, none)
    | some nonce => ((r.zadd nowMs key nowMs nonce).expire nowMs key argv.ttlSeconds, some 1)

/-- A request, as far as the middleware reads it. -/
structure VerificationRequest where
  clientIP : String
  email : String

/-- A window that is checked: its key, and how many requests it admits in how many seconds. -/
structure Check where
  key : String
  limit : Int
  duration : Int

variable (toLower : String → String)

/-- `emailVerificationRateLimitKeys`, with `strings.ToLower` given. -/
def emailVerificationRateLimitKeys (req : VerificationRequest) : List String :=
  let email := toLower (trimSpace req.email)
  let keys := ["EV:ip:" ++ req.clientIP]
  if email = "" then keys
  else keys ++ ["EV:email:" ++ email, "EV:email-day:" ++ email]

/-- The limit and the duration of the window of a key, by its place. -/
def windowOf (i : Nat) : Int × Int := if i = 2 then (10, 86400) else (2, 30)

/-- The windows of a request, in the order in which they are checked. -/
def checks (req : VerificationRequest) : List Check :=
  (emailVerificationRateLimitKeys toLower req).mapIdx fun i key => ⟨key, (windowOf i).1, (windowOf i).2⟩

def Check.redisKey (c : Check) : String := "emailVerification:" ++ c.key

/-- The arguments that the script is run with for a window: three of the four that it reads. -/
def Check.argv (c : Check) : Argv := ⟨c.limit, c.duration * 1000, c.duration, none⟩

/-- `inMemoryRateLimiter`. -/
inductive Limiter
  | unset (lru : List String)
  | set (l : InMemoryRateLimiter)

def Limiter.init (expirationDuration : Int) : Limiter → Limiter
  | .unset lru => .set ⟨fun _ => none, lru, expirationDuration⟩
  | .set l => .set l

/-- `Request`; `none` is a panic. The key is put into the list before the map is written. -/
def Limiter.request (growslice : Nat → Nat → Nat) (now : Int) (c : Check) :
    Limiter → Limiter × Option Bool
  | .unset lru =>
    if c.limit ≤ 0 then (.unset lru, some true)
    else if 1 > c.limit then (.unset lru, some false)
    else (.unset (c.key :: lru), none)
  | .set l =>
    let answer := l.requestN growslice now c.key c.limit c.duration 1
    (.set answer.1, some answer.2)

/-! ## The middleware -/

/-- The process, with its Redis. -/
structure Process where
  redis : Redis
  limiter : Limiter

/-- What comes of a request. -/
inductive Outcome
  /-- `c.Next()`. -/
  | next
  | tooManyRequests (message : String)
  | panic
  deriving DecidableEq

def memoryEmailVerificationRateLimiter (growslice : Nat → Nat → Nat) (now : Int) :
    List Check → Limiter → Limiter × Outcome
  | [], l => (l, .next)
  | c :: rest, l =>
    match l.request growslice now c with
    | (l, some true) => memoryEmailVerificationRateLimiter growslice now rest l
    | (l, some false) => (l, .tooManyRequests "发送过于频繁，请稍后再试")
    | (l, none) => (l, .panic)

/-- What the loop over the windows in Redis comes to: an outcome, or an error of the script. -/
def redisChecks (nowMs : Int) : List Check → Redis → Redis × Option Outcome
  | [], r => (r, some .next)
  | c :: rest, r =>
    match slidingWindowScript r nowMs c.redisKey c.argv with
    | (r, none) => (r, none)
    | (r, some allowed) =>
      if allowed = 1 then redisChecks nowMs rest r
      else
        -- the time to live, which the script has just set
        let ttl := match (r c.redisKey).expireAt with
          | some t => (t - nowMs) / 1000
          | none => 0
        let waitSeconds := if 0 < ttl then ttl else c.duration
        (r, some (.tooManyRequests ("发送过于频繁，请等待 " ++ toString waitSeconds ++ " 秒后再试")))

/-- Nanoseconds to milliseconds. -/
def milliseconds (now : Int) : Int := now / 1000000

def redisEmailVerificationRateLimiter (growslice : Nat → Nat → Nat) (s : Process) (now : Int)
    (req : VerificationRequest) : Process × Outcome :=
  match redisChecks (milliseconds now) (checks toLower req) s.redis with
  | (redis, some outcome) => (⟨redis, s.limiter⟩, outcome)
  | (redis, none) =>
    let fallback := memoryEmailVerificationRateLimiter growslice now (checks toLower req) s.limiter
    (⟨redis, fallback.1⟩, fallback.2)

def emailVerificationRateLimit (growslice : Nat → Nat → Nat) (redisEnabled : Bool)
    (expirationDuration : Int) (s : Process) (now : Int) (req : VerificationRequest) :
    Process × Outcome :=
  if redisEnabled then redisEmailVerificationRateLimiter toLower growslice s now req
  else
    let answer := memoryEmailVerificationRateLimiter growslice now (checks toLower req)
      (s.limiter.init expirationDuration)
    (⟨s.redis, answer.1⟩, answer.2)

/-! ## What throttling is -/

/-- How many live units a window holds in Redis. -/
def live (r : Redis) (nowMs : Int) (c : Check) : Nat :=
  ((r.members nowMs c.redisKey).filter (Redis.stays (nowMs - c.duration * 1000))).length

/-- The window has room for one more. -/
def HasRoom (r : Redis) (nowMs : Int) (c : Check) : Prop := (live r nowMs c : Int) < c.limit
  deriving Decidable

/-- A request at a time. -/
abbrev Arrival := Int × VerificationRequest

section

variable (growslice : Nat → Nat → Nat) (expirationDuration : Int)

section

variable (s : Process) (a : Arrival)

/-- The process after a request, with Redis. -/
def serve : Process :=
  (emailVerificationRateLimit toLower growslice true expirationDuration s a.1 a.2).1

/-- What comes of a request, with Redis. -/
def answer : Outcome :=
  (emailVerificationRateLimit toLower growslice true expirationDuration s a.1 a.2).2

structure Throttled : Prop where
  no_panic : answer toLower growslice expirationDuration s a ≠ .panic
  continues : answer toLower growslice expirationDuration s a = .next ↔
    ∀ c ∈ checks toLower a.2, HasRoom s.redis (milliseconds a.1) c
  /-- One unit is consumed in each window before the first one without room. -/
  consumes : ∀ i c, (checks toLower a.2)[i]? = some c →
    live (serve toLower growslice expirationDuration s a).redis (milliseconds a.1) c =
      live s.redis (milliseconds a.1) c +
        if ((checks toLower a.2).take (i + 1)).all (HasRoom s.redis (milliseconds a.1) ·) then 1 else 0

end

/-- The window of the client's address. -/
def addressCheck (req : VerificationRequest) : Check := ⟨"EV:ip:" ++ req.clientIP, 2, 30⟩

theorem append_ne_append {p q : String} (h : ¬ p.toList <+: q.toList) (h' : ¬ q.toList <+: p.toList)
    (k a b : String) : k ++ (p ++ a) ≠ k ++ (q ++ b) := by
  intro heq
  have hcancel := congrArg String.toList ((String.append_right_inj k).mp heq)
  rw [String.toList_append, String.toList_append] at hcancel
  have hp : p.toList <+: q.toList ++ b.toList := hcancel ▸ prefix_append ..
  rcases prefix_or_prefix_of_prefix hp (prefix_append ..) with hpq | hqp
  · exact h hpq
  · exact h' hqp

theorem checks_eq_cons (req : VerificationRequest) :
    ∃ rest, checks toLower req = addressCheck req :: rest ∧
      ∀ c ∈ rest, c.redisKey ≠ (addressCheck req).redisKey := by
  rw [checks, emailVerificationRateLimitKeys]
  split
  · exact ⟨[], rfl, by simp⟩
  · refine ⟨[⟨"EV:email:" ++ _, 2, 30⟩, ⟨"EV:email-day:" ++ _, 10, 86400⟩], rfl, ?_⟩
    intro c hc
    simp only [mem_cons, not_mem_nil, or_false] at hc
    rcases hc with rfl | rfl
    · exact append_ne_append (by decide) (by decide) _ _ _
    · exact append_ne_append (by decide) (by decide) _ _ _

theorem members_zremrangebyscore (r : Redis) (nowMs : Int) (key : String) (max : Int) :
    (r.zremrangebyscore nowMs key max).members nowMs key =
      (r.members nowMs key).filter (Redis.stays max) := by
  rw [Redis.zremrangebyscore, Redis.members, update_self]
  cases hexpire : (r key).expireAt with
  | none => rfl
  | some t =>
    by_cases ht : t ≤ nowMs
    · simp [Redis.members, hexpire, ht]
    · simp [ht]

theorem members_expire (r : Redis) (nowMs : Int) (key : String) {seconds : Int} (h : 0 < seconds) :
    (r.expire nowMs key seconds).members nowMs key = r.members nowMs key := by
  rw [Redis.expire, Redis.members, update_self]
  exact if_neg (by omega)

variable {r : Redis} {nowMs : Int} {c : Check}

theorem live_update_of_ne {key : String} (set : SortedSet)
    (h : c.redisKey ≠ key) : live (update r key set) nowMs c = live r nowMs c := by
  rw [live, live, Redis.members, Redis.members, update_of_ne h]

/-- **A window with room**: the script fails, for want of a member to add. -/
theorem script_of_room (h : HasRoom r nowMs c) :
    (slidingWindowScript r nowMs c.redisKey c.argv).2 = none := by
  have hlen : ¬ c.limit ≤ (((r.members nowMs c.redisKey).filter
      (Redis.stays (nowMs - c.duration * 1000))).length : Int) := not_le.mpr h
  simp only [slidingWindowScript, members_zremrangebyscore, Check.argv]
  rw [if_neg hlen]

/-- **A full window**: the script answers 0. -/
theorem script_of_full (h : ¬ HasRoom r nowMs c) :
    slidingWindowScript r nowMs c.redisKey c.argv =
      ((r.zremrangebyscore nowMs c.redisKey (nowMs - c.duration * 1000)).expire nowMs c.redisKey
          c.duration,
        some 0) := by
  have hlen : c.limit ≤ (((r.members nowMs c.redisKey).filter
      (Redis.stays (nowMs - c.duration * 1000))).length : Int) := not_lt.mp h
  simp only [slidingWindowScript, members_zremrangebyscore, Check.argv]
  rw [if_pos hlen]

theorem live_of_full (r : Redis) (nowMs : Int) (hpos : 0 < c.duration) (c' : Check)
    (hkey : c' = c ∨ c'.redisKey ≠ c.redisKey) :
    live ((r.zremrangebyscore nowMs c.redisKey (nowMs - c.duration * 1000)).expire nowMs c.redisKey
      c.duration) nowMs c' = live r nowMs c' := by
  rcases hkey with rfl | hne
  · rw [live, members_expire _ _ _ hpos, members_zremrangebyscore, live]
    simp
  · rw [Redis.expire, live_update_of_ne _ hne, Redis.zremrangebyscore, live_update_of_ne _ hne]

variable {toLower growslice expirationDuration} {s : Process} {a : Arrival} {lru : List String}

/-- **Room in the first window**: the script fails, and the fallback panics. -/
theorem serve_of_room (hunset : s.limiter = .unset lru)
    (h : HasRoom s.redis (milliseconds a.1) (addressCheck a.2)) :
    answer toLower growslice expirationDuration s a = .panic ∧
      (serve toLower growslice expirationDuration s a).limiter =
        .unset ((addressCheck a.2).key :: lru) := by
  obtain ⟨rest, hchecks, -⟩ := checks_eq_cons toLower a.2
  have hscript := script_of_room h
  have hredis : (redisChecks (milliseconds a.1) (checks toLower a.2) s.redis).2 = none := by
    rw [hchecks, redisChecks]
    split
    · rfl
    · next heq => rw [heq] at hscript; cases hscript
  have hmemory : memoryEmailVerificationRateLimiter growslice a.1 (checks toLower a.2) s.limiter =
      (.unset ((addressCheck a.2).key :: lru), .panic) := by
    rw [hchecks, hunset]
    rfl
  have hserve : emailVerificationRateLimit toLower growslice true expirationDuration s a.1 a.2 =
      (⟨(redisChecks (milliseconds a.1) (checks toLower a.2) s.redis).1,
        .unset ((addressCheck a.2).key :: lru)⟩, .panic) := by
    rw [emailVerificationRateLimit, if_pos rfl, redisEmailVerificationRateLimiter]
    split
    · next heq => rw [heq] at hredis; cases hredis
    · next heq => rw [hmemory, heq]
  exact ⟨congrArg Prod.snd hserve, congrArg (·.1.limiter) hserve⟩

/-- **A full first window**: the request is turned away, and nothing else happens. -/
theorem serve_of_full (h : ¬ HasRoom s.redis (milliseconds a.1) (addressCheck a.2)) :
    (∃ message, answer toLower growslice expirationDuration s a = .tooManyRequests message) ∧
      serve toLower growslice expirationDuration s a =
        ⟨(s.redis.zremrangebyscore (milliseconds a.1) (addressCheck a.2).redisKey
          (milliseconds a.1 - (addressCheck a.2).duration * 1000)).expire (milliseconds a.1)
            (addressCheck a.2).redisKey (addressCheck a.2).duration, s.limiter⟩ := by
  obtain ⟨rest, hchecks, -⟩ := checks_eq_cons toLower a.2
  have hscript := script_of_full h
  rw [answer, serve, emailVerificationRateLimit, redisEmailVerificationRateLimiter, hchecks,
    redisChecks, hscript]
  exact ⟨⟨_, rfl⟩, rfl⟩

/-- **Which requests are throttled as they should be**, while the limiter has no map. -/
theorem throttled_iff (hunset : s.limiter = .unset lru) :
    Throttled toLower growslice expirationDuration s a ↔
      ¬ HasRoom s.redis (milliseconds a.1) (addressCheck a.2) := by
  obtain ⟨rest, hchecks, hkeys⟩ := checks_eq_cons toLower a.2
  constructor
  · intro h hroom
    exact h.no_panic (serve_of_room hunset hroom).1
  · intro hfull
    obtain ⟨⟨message, hanswer⟩, hserve⟩ :
        (∃ message, answer toLower growslice expirationDuration s a = .tooManyRequests message) ∧ _ :=
      serve_of_full hfull
    refine ⟨by simp [hanswer], ?_, fun i c hc => ?_⟩
    · rw [hanswer, hchecks]
      simp [hfull]
    · have hmem : c ∈ checks toLower a.2 := mem_of_getElem? hc
      rw [hchecks, mem_cons] at hmem
      have hkey : c = addressCheck a.2 ∨ c.redisKey ≠ (addressCheck a.2).redisKey :=
        hmem.imp id (hkeys c)
      -- the first window is full, so no window is consumed from
      rw [hserve, live_of_full _ _ (show (0 : Int) < 30 by decide) c hkey, hchecks, take_succ_cons]
      simp [hfull]

end

def Process.fresh (redis : Redis) : Process := ⟨redis, .unset []⟩

/-- **Throttling with Redis**: in a freshly started process, all requests of a sequence are
throttled as they should be just if each finds the window of its address full. -/
theorem email_throttled_iff (growslice : Nat → Nat → Nat) (expirationDuration : Int) (redis : Redis)
    (arrivals : List Arrival) :
    Along (serve toLower growslice expirationDuration) (Throttled toLower growslice expirationDuration)
        (Process.fresh redis) arrivals ↔
      Along (serve toLower growslice expirationDuration)
        (fun s a => ¬ HasRoom s.redis (milliseconds a.1) (addressCheck a.2)) (Process.fresh redis)
        arrivals := by
  refine along_congr (I := fun s : Process => ∃ lru, s.limiter = .unset lru) ?_ ?_ ⟨[], rfl⟩ arrivals
  · rintro s a ⟨lru, hunset⟩
    by_cases hroom : HasRoom s.redis (milliseconds a.1) (addressCheck a.2)
    · exact ⟨_, (serve_of_room hunset hroom).2⟩
    · exact ⟨lru, by rw [(serve_of_full hroom).2, hunset]⟩
  · rintro s a ⟨lru, hunset⟩
    exact throttled_iff hunset

/-- **The first request** of a fresh process with an empty Redis panics. -/
theorem first_verification_panics :
    (emailVerificationRateLimit id (fun n _ => n) true 0 (Process.fresh Redis.empty) 0
      ⟨"192.0.2.1", "a@example.com"⟩).2 = .panic := by
  decide +kernel

end RenewApi.Limits

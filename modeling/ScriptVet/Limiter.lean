import ScriptVet.Text

/-!
# Rate limiting

Each client has a window that slides with the clock: a request is admitted while the client has made fewer
than `calls` requests in the last `period`. A request over the limit is turned away at once and told how
long the oldest request still counts. Nothing is kept about a client whose window has run empty: such
clients are dropped when their turn comes, and all of them at most once per period.

Times may be of any type with a difference and an order, so that the rules can be run on doubles and
reasoned about on exact numbers.
-/

namespace ScriptVet

/-- A limit on the requests of each client. -/
structure Limiter (Time : Type) where
  /-- How many requests a client may make in a window. -/
  calls : Int
  /-- The length of a window. -/
  period : Time
  /-- The times of a client's admitted requests, oldest first. -/
  windows : List (Text × List Time)
  /-- When clients without recent requests were last dropped. -/
  lastSweep : Time

/-- The answer to a request. -/
inductive Admission (Time : Type) where
  | admitted
  /-- The client is over the limit and has to wait. -/
  | limited (wait : Time)
  /-- The limit lets no request through, so that there is nothing to wait for. -/
  | closed
  deriving DecidableEq

/-- Why a request that has to be admitted is turned away. -/
inductive LimitError (Time : Type) where
  /-- The client is over the limit and may come back after a while. -/
  | exceeded (retryAfter : Time)
  /-- The limit lets no request through. -/
  | closed
  deriving DecidableEq

namespace Limiter

variable {Time : Type}

/-- A limit that has seen no request yet. -/
def new (calls : Int) (period now : Time) : Limiter Time := ⟨calls, period, [], now⟩

/-- The window of a client. -/
def window? (l : Limiter Time) (client : Text) : Option (List Time) :=
  (l.windows.find? fun (c, _) => c = client).map Prod.snd

/-- Gives a client a window: in place when the client is known, at the end otherwise. -/
def put (client : Text) (window : List Time) : List (Text × List Time) → List (Text × List Time)
  | [] => [(client, window)]
  | (c, w) :: rest => if c = client then (c, window) :: rest else (c, w) :: put client window rest

/-- Gives a client a window. -/
def setWindow (l : Limiter Time) (client : Text) (window : List Time) : Limiter Time :=
  { l with windows := put client window l.windows }

/-- Forgets a client. -/
def forget (l : Limiter Time) (client : Text) : Limiter Time :=
  { l with windows := l.windows.filter fun (c, _) => c ≠ client }

/-- Forgets all requests. -/
def reset (l : Limiter Time) : Limiter Time := { l with windows := [] }

variable [Sub Time] [LE Time] [LT Time] [DecidableLE Time] [DecidableLT Time]

/-- The part of a window that still counts: requests a whole period old or older do not. -/
def expire (l : Limiter Time) (now : Time) (window : List Time) : List Time :=
  window.dropWhile fun t => t ≤ now - l.period

/-- The newest request of a window no longer counts, or there is none. -/
def isStale (l : Limiter Time) (now : Time) (window : List Time) : Bool :=
  match window.getLast? with
  | none => true
  | some newest => newest ≤ now - l.period

/-- Drops clients whose whole window has run out, at most once per period. -/
def sweep (l : Limiter Time) (now : Time) : Limiter Time :=
  if now - l.lastSweep < l.period then l
  else { l with lastSweep := now, windows := l.windows.filter fun (_, w) => !l.isStale now w }

/-- Admits a request of a client and records it, or turns it away. -/
def tryAcquire (l : Limiter Time) (now : Time) (client : Text) : Limiter Time × Admission Time :=
  let l := l.sweep now
  let window := l.expire now ((l.window? client).getD [])
  if l.calls ≤ window.length then
    let l := l.setWindow client window
    match window with
    | [] => (l, .closed)
    | oldest :: _ => (l, .limited (l.period - (now - oldest)))
  else (l.setWindow client (window ++ [now]), .admitted)

/-- Admits a request of a client as `tryAcquire` does, and fails when it is turned away. -/
def check (l : Limiter Time) (now : Time) (client : Text) : Limiter Time × Except (LimitError Time) Unit :=
  match l.tryAcquire now client with
  | (l, .admitted) => (l, .ok ())
  | (l, .limited wait) => (l, .error (.exceeded wait))
  | (l, .closed) => (l, .error .closed)

/-- How many requests a client may still make at this time. -/
def remaining (l : Limiter Time) (now : Time) (client : Text) : Limiter Time × Int :=
  match l.window? client with
  | none => (l, l.calls)
  | some window =>
    match l.expire now window with
    | [] => (l.forget client, l.calls)
    | window => (l.setWindow client window, max (l.calls - window.length) 0)

/-- What a client over the limit is told. -/
def limitedMessage : String := "Too many requests, please try again later."

/-- What is said about a limit that lets no request through. -/
def closedMessage : String := "deque index out of range"

end Limiter

end ScriptVet

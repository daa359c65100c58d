import AccessControl.Cache.Backing
import AccessControl.Cache.TtlLru
/-!
# Writing behind the caller

A value is cached at once and waits in a queue for the next flush, which takes the whole queue and
writes it to the store in order. What could not be written goes back to the front of the queue,
unless a later value of the same key has been taken or queued since. A flush is run when the queue
has reached its size, when the caller asks for it, and at every tick of the flusher while it is
running.

A flush is given in three parts, `begin`, `FlushRun.step` and `finish`, because values may be queued
between its writes. Only the writes that the flusher itself makes can be cut short by a crash: the
flusher is gone then, and with it what its flush had taken.
-/
namespace AccessControl

/-- The task that flushes from time to time. -/
inductive Flusher where
  | idle
  /-- It flushes next at the given instant. -/
  | running (nextTick : Duration)
  /-- It has crashed, and has not been stopped since. -/
  | crashed
  deriving DecidableEq, Repr

/-- A cache whose writes reach the store later. -/
structure WriteBehind (σ K V : Type) where
  cache : TtlLru K V
  /-- The state of the store. -/
  backing : σ
  /-- The length of the queue at which it is flushed. -/
  maxBatch : Nat
  /-- The time between two ticks of the flusher. -/
  interval : Duration
  /-- What waits to be written, the oldest first. -/
  queue : List (K × V) := []
  flusher : Flusher := .idle

/-- A flush on its way. -/
structure FlushRun (K V : Type) where
  /-- What is still to be written, the oldest first. -/
  waiting : List (K × V)
  /-- What has been tried and whether it was written, the latest first. -/
  tried : List (K × V × Bool) := []

namespace FlushRun

variable {K V : Type} [DecidableEq K]

/-- How many values have been written. -/
def stored (run : FlushRun K V) : Nat := (run.tried.filter fun entry => entry.2.2).length

/-- What goes back in front of a queue: of what was tried, the latest first, each value that was not
written and whose key is not among the keys of later values. -/
def leftOver : List (K × V × Bool) → List K → List (K × V) → List (K × V)
  | [], _, back => back
  | (key, value, written) :: earlier, later, back =>
    leftOver earlier (key :: later)
      (if written || later.contains key then back else (key, value) :: back)

end FlushRun

namespace WriteBehind

variable {σ K V : Type} [DecidableEq K]

/-- A cache of the given size whose queue is flushed at the given length, but not below one. -/
def new (capacity : Capacity) (ttl : Duration) (backing : σ) (maxBatch : Nat)
    (interval : Duration) : WriteBehind σ K V :=
  { cache := { capacity, defaultTtl := ttl }, backing, maxBatch := max maxBatch 1, interval }

/-- How many values wait. -/
def pending (w : WriteBehind σ K V) : Nat := w.queue.length

/-- The value of a key, if it is cached. -/
def get (w : WriteBehind σ K V) (key : K) (now : Duration) : Option V × WriteBehind σ K V :=
  let (v, cache) := w.cache.get key now
  (v, { w with cache })

/-- Cache a value and queue it. -/
def enqueue (w : WriteBehind σ K V) (key : K) (value : V) (now : Duration) : WriteBehind σ K V :=
  { w with cache := w.cache.set key value none now, queue := w.queue ++ [(key, value)] }

/-- Whether the queue has reached its size. -/
def isFull (w : WriteBehind σ K V) : Bool := w.maxBatch ≤ w.queue.length

/-! ## Flushes -/

/-- Take the queue. -/
def begin (w : WriteBehind σ K V) : FlushRun K V × WriteBehind σ K V :=
  ({ waiting := w.queue }, { w with queue := [] })

/-- Try to write the next value; none if the write ends by a crash. -/
def writeNext (store : BackingStore σ K V) (run : FlushRun K V) (w : WriteBehind σ K V) :
    Option (FlushRun K V) × WriteBehind σ K V :=
  match run.waiting with
  | [] => (some run, w)
  | (key, value) :: waiting =>
    match store.write key value w.backing with
    | (.done (), backing) =>
      (some { waiting, tried := (key, value, true) :: run.tried }, { w with backing })
    | (.failed _, backing) =>
      (some { waiting, tried := (key, value, false) :: run.tried }, { w with backing })
    | (.crashed, backing) => (none, { w with backing })

/-- Try to write so many values; none if a write ends by a crash. -/
def writeMany (store : BackingStore σ K V) :
    Nat → FlushRun K V → WriteBehind σ K V → Option (FlushRun K V) × WriteBehind σ K V
  | 0, run, w => (some run, w)
  | n + 1, run, w =>
    match writeNext store run w with
    | (none, w) => (none, w)
    | (some run, w) => writeMany store n run w

/-- Put what was not written back to the front of the queue. -/
def finish (run : FlushRun K V) (w : WriteBehind σ K V) : WriteBehind σ K V :=
  { w with queue := FlushRun.leftOver run.tried (w.queue.map Prod.fst) [] ++ w.queue }

/-- Write what is left of a flush and end it; the answer is how many values were written in all. -/
def complete (store : BackingStore σ K V) (run : FlushRun K V) (w : WriteBehind σ K V) :
    Reply Nat × WriteBehind σ K V :=
  match writeMany store run.waiting.length run w with
  | (none, w) => (.crashed, w)
  | (some run, w) => (.done run.stored, finish run w)

/-- Flush the queue; the answer is how many values were written. -/
def flush (store : BackingStore σ K V) (w : WriteBehind σ K V) : Reply Nat × WriteBehind σ K V :=
  let (run, w) := w.begin
  complete store run w

/-- Set the value of a key. -/
def set (store : BackingStore σ K V) (w : WriteBehind σ K V) (key : K) (value : V)
    (now : Duration) : Reply Unit × WriteBehind σ K V :=
  let w := w.enqueue key value now
  if w.isFull then
    match w.flush store with
    | (.done _, w) => (.done (), w)
    | (.failed e, w) => (.failed e, w)
    | (.crashed, w) => (.crashed, w)
  else (.done (), w)

/-! ## The flusher -/

/-- Start the flusher. Without time between its ticks it crashes at once. -/
def start (w : WriteBehind σ K V) (now : Duration) :
    Except EngineError Unit × WriteBehind σ K V :=
  match w.flusher with
  | .idle =>
    (.ok (), { w with flusher := if w.interval = 0 then .crashed else .running (now + w.interval) })
  | _ => (.error (.alreadyRunning "write-behind flusher"), w)

/-- Flush at so many ticks. A tick with nothing in the queue does nothing. -/
def tick (store : BackingStore σ K V) : Nat → WriteBehind σ K V → WriteBehind σ K V
  | 0, w => w
  | n + 1, w =>
    if w.queue.isEmpty then w
    else
      match w.flush store with
      | (.crashed, w) => { w with flusher := .crashed }
      | (_, w) => tick store n w

/-- How many of the instants `first`, `first + interval` and so on have come. -/
def ticksUntil (first interval now : Duration) : Nat :=
  if now < first then 0 else (now - first) / interval + 1

/-- Let the flusher do what is due. -/
def catchUp (store : BackingStore σ K V) (w : WriteBehind σ K V) (now : Duration) :
    WriteBehind σ K V :=
  match w.flusher with
  | .running nextTick =>
    let due := ticksUntil nextTick w.interval now
    tick store due { w with flusher := .running (nextTick + due * w.interval) }
  | _ => w

/-- Stop the flusher and flush the queue; the answer is how many values were written. If the flusher
had crashed, that is the answer, and nothing is flushed. -/
def stop (store : BackingStore σ K V) (w : WriteBehind σ K V) :
    Except EngineError (Reply Nat) × WriteBehind σ K V :=
  let stopped := { w with flusher := .idle }
  match w.flusher with
  | .crashed => (.error (.internal "background task panicked"), stopped)
  | _ =>
    let (reply, w) := stopped.flush store
    (.ok reply, w)

end WriteBehind

end AccessControl

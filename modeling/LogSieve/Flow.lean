import LogSieve.Record
import LogSieve.FilterError

/-! Flows of records. A flow is everything that whoever pulls records can meet: records and errors,
the end, and on the way looks at the cancellation signal. A pull goes on until it has an answer,
which is an item or nothing; it can also meet an event at the source, among them the signal itself.
A buffering stage keeps what it has taken inside its flow, so the tally of the source shows how
much was taken. -/

namespace LogSieve

inductive Item where
  | record (record : Record)
  | error (error : FilterError)
  deriving DecidableEq, Repr

inductive Mark where
  | ask
  | take
  | fire
  deriving DecidableEq, Repr

inductive Flow where
  /-- Nothing from now on. -/
  | ended
  /-- Nothing for this pull. -/
  | pause (rest : Flow)
  /-- Nothing until the signal has been given. -/
  | idle (woken : Flow)
  | item (found : Item) (rest : Flow)
  | mark (event : Mark) (rest : Flow)
  /-- Look at the signal. -/
  | check (given notGiven : Flow)

structure Tally where
  fired : Bool
  taken : Nat
  /-- Pulls of the source that began after the signal. -/
  late : Nat
  deriving DecidableEq, Repr

namespace Tally

def start : Tally := ⟨false, 0, 0⟩

def fire (tally : Tally) : Tally := { tally with fired := true }

def note (tally : Tally) : Mark → Tally
  | .ask => { tally with late := tally.late + if tally.fired then 1 else 0 }
  | .take => { tally with taken := tally.taken + 1 }
  | .fire => tally.fire

end Tally

structure Pulled where
  item : Option Item
  rest : Flow
  tally : Tally

namespace Flow

def pull : Flow → Tally → Pulled
  | ended, tally => ⟨none, ended, tally⟩
  | pause rest, tally => ⟨none, rest, tally⟩
  | idle woken, tally => if tally.fired then pull woken tally else ⟨none, idle woken, tally⟩
  | item found rest, tally => ⟨some found, rest, tally⟩
  | mark event rest, tally => pull rest (tally.note event)
  | check given notGiven, tally => if tally.fired then pull given tally else pull notGiven tally

def drain : Flow → Tally → List Item × Flow × Tally
  | ended, tally => ([], ended, tally)
  | pause rest, tally => ([], rest, tally)
  | idle woken, tally => if tally.fired then drain woken tally else ([], idle woken, tally)
  | item found rest, tally =>
    let (items, rest, tally) := drain rest tally
    (found :: items, rest, tally)
  | mark event rest, tally => drain rest (tally.note event)
  | check given notGiven, tally => if tally.fired then drain given tally else drain notGiven tally

def items (flow : Flow) : List Item := (flow.drain .start).1

def ofRecords : List Record → Flow
  | [] => ended
  | record :: rest => item (.record record) (ofRecords rest)

def fail (error : FilterError) : Flow := item (.error error) ended

inductive Event where
  | give (item : Item)
  | fire
  | pause

/-- A source. A pull that reaches the signal gives it and goes on. -/
def ofEvents (events : List Event) : Flow := mark .ask (answer events)
where
  answer : List Event → Flow
    | [] => ended
    | .give found :: rest => mark .take (item found (mark .ask (answer rest)))
    | .fire :: rest => mark .fire (answer rest)
    | .pause :: rest => pause (mark .ask (answer rest))

def cancelled : Flow := fail .cancelled

/-- What a guard still lets through of a pull during which the signal is given: its answer. -/
def lastAnswer : Flow → Flow
  | ended => pause cancelled
  | pause _ => pause cancelled
  | idle woken => lastAnswer woken
  | item found _ => item found cancelled
  | mark event rest => mark event (lastAnswer rest)
  | check given _ => lastAnswer given

/-- Look at the signal in front of every pull; once it has been given, one error ends the flow. -/
def guarded (flow : Flow) : Flow := check cancelled (behind flow)
where
  behind : Flow → Flow
    | ended => pause (idle cancelled)
    | pause rest => pause (check cancelled (behind rest))
    | idle woken => check (lastAnswer woken) (pause (idle cancelled))
    | item found rest => item found (check cancelled (behind rest))
    | mark event rest => mark event (behind rest)
    | check given notGiven => check (lastAnswer given) (behind notGiven)

def sift (accepts : Record → Bool) : Flow → Flow
  | ended => ended
  | pause rest => pause (sift accepts rest)
  | idle woken => idle (sift accepts woken)
  | item (.record record) rest =>
    if accepts record then item (.record record) (sift accepts rest) else sift accepts rest
  | item (.error error) rest => item (.error error) (sift accepts rest)
  | mark event rest => mark event (sift accepts rest)
  | check given notGiven => check (sift accepts given) (sift accepts notGiven)

def untilError : Flow → Flow
  | ended => ended
  | pause _ => ended
  | idle woken => check (untilError woken) ended
  | item (.record record) rest => item (.record record) (untilError rest)
  | item (.error error) _ => fail error
  | mark event rest => mark event (untilError rest)
  | check given notGiven => check (untilError given) (untilError notGiven)

/-- Take everything, and look at the signal after each item. The first error ends it. -/
def gather (use : List Record → Flow) (taken : List Record) : Flow → Flow
  | ended => use taken.reverse
  | pause _ => use taken.reverse
  | idle woken => check (gather use taken woken) (use taken.reverse)
  | item (.record record) rest => check cancelled (gather use (record :: taken) rest)
  | item (.error error) _ => check cancelled (fail error)
  | mark event rest => mark event (gather use taken rest)
  | check given notGiven => check (gather use taken given) (gather use taken notGiven)

/-- The records of a part whose keys are new, then whatever comes next for the keys seen so far. -/
def fresh (next : List RecordKey → Flow) (seen : List RecordKey) : Flow → Flow
  | ended => next seen
  | pause _ => next seen
  | idle woken => check (fresh next seen woken) (next seen)
  | item (.record record) rest =>
    if record.key ∈ seen then check cancelled (fresh next seen rest)
    else item (.record record) (check cancelled (fresh next (record.key :: seen) rest))
  | item (.error error) _ => fail error
  | mark event rest => mark event (fresh next seen rest)
  | check given notGiven => check (fresh next seen given) (fresh next seen notGiven)

def keys (use : List RecordKey → Flow) (found : List RecordKey) : Flow → Flow
  | ended => use found
  | pause _ => use found
  | idle woken => check (keys use found woken) (use found)
  | item (.record record) rest => keys use (record.key :: found) rest
  | item (.error error) _ => fail error
  | mark event rest => mark event (keys use found rest)
  | check given notGiven => check (keys use found given) (keys use found notGiven)

def remaining (excluded : List RecordKey) : List Record → Flow
  | [] => check cancelled ended
  | record :: rest =>
    check cancelled
      (if record.key ∈ excluded then remaining excluded rest
       else item (.record record) (remaining excluded rest))

end Flow

end LogSieve

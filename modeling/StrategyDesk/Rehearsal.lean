import StrategyDesk.Session

/-!
# Rehearsals

A rehearsal runs sessions against a validator whose replies are known beforehand, on a clock of its
own that moves only while something waits. Between two moments at which something is due nothing
happens, so the clock jumps from one to the next, and at each moment everything that needs no time
is done.
-/

set_option autoImplicit false

namespace StrategyDesk

/-- The scripted reply to one content: how the call ends, and how long after its start. -/
structure ScriptedReply where
  content : Text
  delay : Nat
  ending : Ending

/-- The reply to a content by a script: the last one for it, and success at once without one. -/
def scripted (script : List ScriptedReply) (content : Text) : Nat × Ending :=
  match script.reverse.find? fun reply => reply.content == content with
  | some reply => (reply.delay, reply.ending)
  | none => (0, .answered (.ok .success))

structure TimedCall where
  number : Nat
  endsAt : Nat
  ending : Ending

/-- A session of a rehearsal, under the name it was opened by. -/
structure Participant where
  name : String
  session : Session
  isOpen : Bool
  subscriber : Subscriber
  timedCalls : List TimedCall

structure Rehearsal where
  manager : Manager
  settings : SessionSettings
  /-- How a call with the given content ends, and how long after its start. -/
  reply : Text → Nat × Ending
  now : Nat
  participants : List Participant
  received : List Text
  flushes : Nat

namespace Participant

def dueTimes (participant : Participant) : List Nat :=
  match participant.session.worker with
  | none => []
  | some worker =>
      worker.pipeline.deadline?.toList ++
        (participant.timedCalls.filter fun timed =>
          worker.calls.any fun call => call.number == timed.number).map TimedCall.endsAt

/-- How an aborted call ends: as it did, if it had reached its end by then, and cancelled otherwise. -/
def abortedEnding (participant : Participant) (now number : Nat) : Ending :=
  match participant.timedCalls.find? fun timed => timed.number == number && timed.endsAt ≤ now with
  | some timed => timed.ending
  | none => .cancelled

/-- What the worker meets now, if anything: first the ends of aborted calls, then its commands, the
end of its window, and the ends of its calls. -/
def event? (participant : Participant) (now : Nat) : Option Worker.Event := do
  let worker ← participant.session.worker
  let aborted := (worker.calls.find? Call.aborted).map fun call =>
    Worker.Event.ended call.number (participant.abortedEnding now call.number)
  let command := worker.queue.head?.map fun _ => Worker.Event.command now
  let expiry := worker.pipeline.deadline?.bind fun deadline =>
    if deadline ≤ now then some (Worker.Event.expiry now) else none
  let ended := (participant.timedCalls.find? fun timed =>
    timed.endsAt ≤ now && worker.calls.any fun call => call.number == timed.number).map
      fun timed => Worker.Event.ended timed.number timed.ending
  aborted <|> command <|> expiry <|> ended

def newCalls (participant : Participant) : List Call :=
  match participant.session.worker with
  | none => []
  | some worker =>
      worker.calls.filter fun call =>
        !participant.timedCalls.any fun timed => timed.number == call.number

def running (participant : Participant) : Nat :=
  match participant.session.worker with
  | none => 0
  | some worker => (worker.calls.filter fun call => !call.aborted).length

/-- A bound on the events that are still possible without new commands. -/
def work (participant : Participant) : Nat :=
  (participant.session.worker.map Worker.work).getD 0

end Participant

namespace Rehearsal

def create (manager : Manager) (settings : SessionSettings) (reply : Text → Nat × Ending) :
    Rehearsal :=
  ⟨manager, settings, reply, 0, [], [], 0⟩

def timeCalls (rehearsal : Rehearsal) (participant : Participant) : Participant :=
  let timed := participant.newCalls.map fun call =>
    let (delay, ending) := rehearsal.reply call.content
    ⟨call.number, rehearsal.now + delay, ending⟩
  { participant with timedCalls := participant.timedCalls ++ timed }

def playFirst? (rehearsal : Rehearsal) :
    List Participant → Option (List Participant × List Text)
  | [] => none
  | participant :: rest =>
      let played? : Option Participant := do
        let event ← participant.event? rehearsal.now
        let session ← participant.session.workerStep event
        pure { participant with session }
      match played? with
      | some played =>
          some (rehearsal.timeCalls played :: rest, played.newCalls.map Call.content)
      | none =>
          (playFirst? rehearsal rest).map fun (later, contents) =>
            (participant :: later, contents)

def work (rehearsal : Rehearsal) : Nat := (rehearsal.participants.map Participant.work).foldr (· + ·) 0

def settleWith : Nat → Rehearsal → Rehearsal
  | 0, rehearsal => rehearsal
  | fuel + 1, rehearsal =>
      match rehearsal.playFirst? rehearsal.participants with
      | none => rehearsal
      | some (participants, contents) =>
          settleWith fuel
            { rehearsal with participants, received := rehearsal.received ++ contents }

def settle (rehearsal : Rehearsal) : Rehearsal := settleWith rehearsal.work rehearsal

def nextDue? (rehearsal : Rehearsal) : Option Nat :=
  (rehearsal.participants.flatMap Participant.dueTimes).min?

/-- Lets the clock run up to a moment, over at most `fuel` moments at which something is due. -/
def runWith (target : Nat) : Nat → Rehearsal → Rehearsal
  | 0, rehearsal => { rehearsal with now := target }
  | fuel + 1, rehearsal =>
      match rehearsal.nextDue? with
      | some due =>
          if due ≤ target then
            runWith target fuel ({ rehearsal with now := max rehearsal.now due }).settle
          else { rehearsal with now := target }
      | none => { rehearsal with now := target }

def sleep (rehearsal : Rehearsal) (duration : Nat) : Rehearsal :=
  let settled := rehearsal.settle
  (runWith (settled.now + duration) (settled.work + 1) settled).settle

def participant? (rehearsal : Rehearsal) (name : String) : Option Participant :=
  rehearsal.participants.find? fun participant => participant.name == name

def openParticipant? (rehearsal : Rehearsal) (name : String) : Option Participant :=
  (rehearsal.participant? name).filter Participant.isOpen

def update (rehearsal : Rehearsal) (name : String) (change : Participant → Participant) :
    Rehearsal :=
  { rehearsal with
      participants := rehearsal.participants.map fun participant =>
        if participant.name = name then change participant else participant }

def enter (rehearsal : Rehearsal) (name : String) (session : Session) : Rehearsal :=
  let newcomer : Participant := ⟨name, session, true, .of session.display.signals, []⟩
  let others := rehearsal.participants.filter fun participant => participant.name != name
  { rehearsal with participants := others ++ [newcomer] }

/-- Opens a session for a text under a name. If that fails, nothing is opened. -/
def openSession (rehearsal : Rehearsal) (name : String) (text : Text) (readOnly : Bool) :
    Option (Rehearsal × Except Failure Unit) := do
  if readOnly then
    some ((rehearsal.enter name (.openReadOnly text rehearsal.settings)).settle, .ok ())
  else
    match ← Session.openEditable rehearsal.manager text rehearsal.settings with
    | (manager, .error failure) => some ({ rehearsal with manager }, .error failure)
    | (manager, .ok session) =>
        some (({ rehearsal with manager }.enter name session).settle, .ok ())

/-- Carries out an operation on the session of a participant, and all that follows at once. -/
def act {α : Type} (rehearsal : Rehearsal) (participant : Participant)
    (operation : Session → Option (Session × α)) : Option (Rehearsal × α) := do
  let (session, result) ← operation participant.session
  let next := rehearsal.update participant.name fun participant => { participant with session }
  some (next.settle, result)

def isFlushed (rehearsal : Rehearsal) (name : String) (waiter : Nat) : Bool :=
  (rehearsal.participant? name).all fun participant => participant.session.isFlushed waiter

/-- Lets the clock run until the waiter is told, over at most `fuel` moments at which something is
due. -/
def awaitWith (name : String) (waiter : Nat) : Nat → Rehearsal → Rehearsal
  | 0, rehearsal => rehearsal
  | fuel + 1, rehearsal =>
      if rehearsal.isFlushed name waiter then rehearsal
      else
        match rehearsal.nextDue? with
        | none => rehearsal
        | some due =>
            awaitWith name waiter fuel ({ rehearsal with now := max rehearsal.now due }).settle

/-- Has a participant send what waits, and lets the clock run until nothing is open there. -/
def flush (rehearsal : Rehearsal) (participant : Participant) : Rehearsal :=
  let waiter := rehearsal.flushes
  let asked := rehearsal.update participant.name fun participant =>
    { participant with session := participant.session.requestFlush waiter }
  let settled := ({ asked with flushes := waiter + 1 }).settle
  awaitWith participant.name waiter (settled.work + 1) settled

def close (rehearsal : Rehearsal) (participant : Participant) : Rehearsal :=
  (rehearsal.update participant.name fun participant =>
    { participant with session := participant.session.close, isOpen := false }).settle

def look (rehearsal : Rehearsal) (name : String) : Rehearsal :=
  rehearsal.update name fun participant =>
    { participant with subscriber := .of participant.session.display.signals }

def running (rehearsal : Rehearsal) : Nat :=
  (rehearsal.participants.map Participant.running).foldr (· + ·) 0

end Rehearsal

end StrategyDesk

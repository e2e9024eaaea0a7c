import XrayChecker.Go.Zone
import XrayChecker.Telegram.Transport

/-
The weekly digest: when it is due, what a tick does, and the state file that
remembers the last one.  The file is written in place, so a crash or an error
may leave anything of it.
-/

namespace XrayChecker.Telegram

open Go

def digestWeekday : Int := 1
def digestHour : Int := 10
def digestLateness : Int := minutes (24 * 60)

/-- The latest digest slot at or before an instant, both in seconds. -/
def digestDue (location : Location) (now : Int) : Int :=
  let days := location.clock now / 86400
  -- Day 0 was a Monday, which is weekday 1.
  let weekday := (days + 1) % 7
  let sinceWeekday := (weekday - digestWeekday + 7) % 7
  let due := location.date
    ((days - sinceWeekday) * 86400 + digestHour * 3600)
  if now < due then location.date (location.clock due - 7 * 86400) else due

/-- `digestDueAt`. -/
def digestDueAt (now : Time) (location : Location) : Time :=
  (digestDue location now.seconds * 1000000000).toNat

/-- `telegram_digest_state.json`: not there, not to be decoded, or with its
`LastSentAt`. -/
inductive DigestFile where
  | missing
  | broken
  | saved (lastSentAt : Time)
deriving DecidableEq

/-- The fields of the configuration that a digest depends on. -/
structure DigestConfig where
  enabled : Bool
  chatID : Text
  weeklyDigestEnabled : Bool

/-- The service, with the state file and whether the project is under
maintenance. -/
structure DigestService where
  config : DigestConfig
  projectMaintenance : Bool := false
  lastDigestAt : Time := 0
  file : DigestFile := .missing

/-- `loadDigestState`, when the service starts. -/
def DigestFile.load : DigestFile → Time
  | .saved lastSentAt => lastSentAt
  | .missing => 0
  | .broken => 0

/-- A tick: the time since the one before, the message that is built with the
ends of its requests, or none where there is nothing to say, and what is left
of the state file where it is not written to its end. -/
structure DigestTick where
  elapsed : Nat
  content : Option Sending
  left : Option DigestFile := none

/-- What a tick ends in. -/
inductive TickEnd where
  | off
  | handled
  | missed
  | silent
  | sent (sent : Sent)

namespace DigestService

def saveDigestState (s : DigestService) (sentAt : Time)
    (left : Option DigestFile) : DigestService :=
  { s with lastDigestAt := sentAt, file := left.getD (.saved sentAt) }

/-- The digest, the service and the project are switched on. -/
def on (s : DigestService) : Bool :=
  s.config.enabled && s.config.chatID ≠ [] && s.config.weeklyDigestEnabled &&
    !s.projectMaintenance

def sendDigestIfDue (location : Location) (s : DigestService) (now : Time)
    (tick : DigestTick) : DigestService × TickEnd :=
  if !s.on then (s, .off)
  else
    let due := digestDueAt now location
    if !(s.lastDigestAt < due) then (s, .handled)
    else if digestLateness < now.sub due then
      (s.saveDigestState due tick.left, .missed)
    else
      match tick.content with
      | none => (s.saveDigestState now tick.left, .silent)
      | some content =>
          let sent := content.sendFormattedToWithMarkup
          match sent.result with
          | .error _ => (s, .sent sent)
          | .ok _ => (s.saveDigestState now tick.left, .sent sent)

end DigestService

inductive DigestEvent where
  | configure (config : DigestConfig)
  | setMaintenance (projectMaintenance : Bool)
  | restart
  | tick (tick : DigestTick)

/-- A tick that was: its instant, whether everything was switched on, and what
it ended in. -/
structure TickRecord where
  now : Time
  on : Bool
  ending : TickEnd

/-- The service, its clock, and the ticks so far. -/
structure DigestWorld where
  service : DigestService
  clock : Time := 0
  ticks : List TickRecord := []

def DigestWorld.step (location : Location) (world : DigestWorld) :
    DigestEvent → DigestWorld
  | .configure config =>
      { world with service := { world.service with config := config } }
  | .setMaintenance on =>
      { world with service :=
          { world.service with projectMaintenance := on } }
  | .restart =>
      { world with service :=
          { world.service with
            lastDigestAt := world.service.file.load } }
  | .tick tick =>
      let now := world.clock + tick.elapsed
      let (service, ending) :=
        world.service.sendDigestIfDue location now tick
      { service := service
        clock := now
        ticks := world.ticks ++
          [{ now := now, on := world.service.on, ending := ending }] }

def DigestWorld.run (location : Location) (world : DigestWorld)
    (events : List DigestEvent) : DigestWorld :=
  events.foldl (DigestWorld.step location) world

namespace TickRecord

/-- The messages that Telegram accepted. -/
def accepted (r : TickRecord) : Nat :=
  match r.ending with
  | .sent sent =>
      (sent.rich ++ sent.compact.getD []).countP Outcome.accepted
  | _ => 0

def sends (r : TickRecord) : Bool :=
  match r.ending with
  | .sent _ => true
  | _ => false

/-- The send ended without a success. -/
def failed (r : TickRecord) : Bool :=
  match r.ending with
  | .sent sent => !sent.result.isOk
  | _ => false

/-- The request reached Telegram and its answer was lost. -/
def unknown (r : TickRecord) : Bool :=
  match r.ending with
  | .sent sent =>
      match sent.result with
      | .error (.deliveryUnknown _ _ _) => true
      | _ => false
  | _ => false

def silent (r : TickRecord) : Bool :=
  match r.ending with
  | .silent => true
  | _ => false

end TickRecord

/-- The instant of the slot of a week, in nanoseconds. -/
def slotAt (location : Location) (week : Int) : Int :=
  location.date (604800 * week + digestHour * 3600) * 1000000000

/-- At a slot, or late for it by no more than `digestLateness`. -/
def InSlot (location : Location) (week : Int) (t : Time) : Prop :=
  slotAt location week ≤ t ∧ t ≤ slotAt location week + digestLateness

instance (location : Location) (week : Int) (t : Time) :
    Decidable (InSlot location week t) :=
  inferInstanceAs (Decidable (_ ∧ _))

/-- The messages accepted in the slot of a week. -/
def acceptedIn (location : Location) (week : Int) (ticks : List TickRecord) :
    Nat :=
  (ticks.map fun r =>
    if InSlot location week r.now then r.accepted else 0).sum

/-- One digest per slot. -/
structure DigestsKept (location : Location) (ticks : List TickRecord) :
    Prop where
  once : ∀ week, acceptedIn location week ticks ≤ 1
  timely : ∀ r ∈ ticks, 0 < r.accepted →
    r.on = true ∧ ∃ week, InSlot location week r.now
  notRepeated : ∀ before r after, ticks = before ++ r :: after →
    r.unknown = true → ∀ later ∈ after, ∀ week, InSlot location week r.now →
      InSlot location week later.now → later.sends = false
  /-- A slot after the zero instant that a tick is in time for. -/
  skipped : ∀ before r after, ticks = before ++ r :: after → r.on = true →
    ∀ week, 0 < slotAt location week → InSlot location week r.now →
      (∃ e ∈ before ++ [r], InSlot location week e.now ∧ 0 < e.accepted) ∨
        (∃ e ∈ before ++ [r], InSlot location week e.now ∧ e.silent = true) ∨
          r.failed = true

end XrayChecker.Telegram

import XrayChecker.Go.Bytes
import XrayChecker.Go.Stable
import XrayChecker.Go.Time

/-
The verdict journal: one line of JSON per verdict, appended to one file, read
back line by line, and rewritten without what is too old or too much.
-/

namespace XrayChecker.Verdictlog

open Go

/-- `Entry`; `atTime` is its `At`, and the rates are the bits of a `float64`. -/
structure Entry where
  atTime : Time := 0
  source : Text := []
  trigger : Text := []
  kind : Text := []
  outcome : Text := []
  stableID : Text := []
  node : Text := []
  sessionID : Text := []
  agentID : Text := []
  agentName : Text := []
  region : Text := []
  provider : Text := []
  verdict : Text := []
  detail : Text := []
  localStatus : Text := []
  localFailureCode : Text := []
  localMbps : UInt64 := 0
  thresholdMbps : UInt64 := 0
  localServerID : Text := []
  localAt : Time := 0
  agentStatus : Text := []
  agentFailureCode : Text := []
  agentFailureStage : Text := []
  agentMbps : Int := 0
  agentServerID : Text := []
  agentLatencyMs : Int := 0
  agentTCPReached : Option Bool := none
  agentAt : Time := 0
deriving DecidableEq

def maxTextRunes : Nat := 200

def truncate (value : Text) : Text :=
  if value.length ≤ maxTextRunes then value
  else value.take (maxTextRunes - 1) ++ ['…']

/-- The free-text fields `bounded` trims. -/
def Entry.texts (entry : Entry) : List Text :=
  [entry.source, entry.trigger, entry.kind, entry.outcome, entry.stableID,
    entry.node, entry.sessionID, entry.agentID, entry.agentName, entry.region,
    entry.provider, entry.verdict, entry.detail, entry.localStatus,
    entry.localFailureCode, entry.localServerID, entry.agentStatus,
    entry.agentFailureCode, entry.agentFailureStage, entry.agentServerID]

def Entry.mapTexts (f : Text → Text) (entry : Entry) : Entry :=
  { entry with
    source := f entry.source
    trigger := f entry.trigger
    kind := f entry.kind
    outcome := f entry.outcome
    stableID := f entry.stableID
    node := f entry.node
    sessionID := f entry.sessionID
    agentID := f entry.agentID
    agentName := f entry.agentName
    region := f entry.region
    provider := f entry.provider
    verdict := f entry.verdict
    detail := f entry.detail
    localStatus := f entry.localStatus
    localFailureCode := f entry.localFailureCode
    localServerID := f entry.localServerID
    agentStatus := f entry.agentStatus
    agentFailureCode := f entry.agentFailureCode
    agentFailureStage := f entry.agentFailureStage
    agentServerID := f entry.agentServerID }

def bounded (entry : Entry) : Entry :=
  entry.mapTexts fun field => truncate (trimSpace field)

/-- No free-text field is longer than `bounded` leaves it. -/
def Entry.Bounded (entry : Entry) : Prop :=
  ∀ text ∈ entry.texts, text.length ≤ maxTextRunes

/-- `json.Marshal` and `json.Unmarshal` on entries: an entry is written as one
object on one line, is read back from it, and not from a part of it. -/
structure LineCodec where
  marshal : Entry → Option Bytes
  unmarshal : Bytes → Option Entry
  marshal_object : ∀ {entry line}, marshal entry = some line →
    ∃ members, line = 0x7b :: (members ++ [0x7d]) ∧ newline ∉ members
  unmarshal_marshal : ∀ {entry line}, marshal entry = some line →
    unmarshal line = some entry
  unmarshal_torn : ∀ {entry line torn}, marshal entry = some line →
    torn <+: line → torn ≠ line → unmarshal torn = none
  /-- Six bytes a rune at most, beside the names, times and rates. -/
  marshal_length : ∀ {entry line}, entry.Bounded →
    marshal entry = some line → line.length < 65536

def defaultRetention : Nat := 7776000000000000
def defaultMaxBytes : Nat := 16777216
def compactEvery : Nat := 500
def maxQueryLimit : Nat := 2000
def defaultQueryLimit : Nat := 200

/-- The longest line `scanner.Buffer` leaves room for, and its end. -/
def maxTokenSize : Nat := 1048576

structure Config where
  retention : Int := 0
  maxBytes : Int := 0

/-- The retention and the size cap `New` leaves a journal with. -/
def Config.limits (config : Config) : Nat × Nat :=
  (if config.retention ≤ 0 then defaultRetention else config.retention.toNat,
    if config.maxBytes ≤ 0 then defaultMaxBytes else config.maxBytes.toNat)

/-- `Journal`, with what is under its path. -/
structure Journal where
  retention : Nat
  maxBytes : Nat
  file : Option Bytes := none
  appended : Nat := 0

def new (config : Config) (file : Option Bytes) : Journal :=
  { retention := config.limits.1, maxBytes := config.limits.2, file := file }

/-- What a clock shows, never the zero instant. -/
abbrev Clock := { now : Time // now ≠ 0 }

section Read

variable (codec : LineCodec)

/-- One turn of the scan in `readLocked`. -/
def readLine (line : Bytes) : Option Entry :=
  let line := trimSpaceBytes line
  if line = [] then none
  else
    match codec.unmarshal line with
    | none => none
    | some entry =>
        if entry.stableID = [] ∨ entry.atTime.isZero then none else some entry

/-- `readLocked`, where the file can be opened and read. -/
def readLocked (file : Option Bytes) : Except Text (List Entry) :=
  match file with
  | none => .ok []
  | some file =>
      let lines := scanLines file
      if ∃ line ∈ lines, maxTokenSize ≤ line.length then
        .error "read verdict journal: bufio.Scanner: token too long"
      else .ok (lines.filterMap (readLine codec))

structure Filter where
  stableID : Text := []
  source : Text := []
  verdict : Text := []
  fromTime : Time := 0
  toTime : Time := 0
  limit : Int := 0

/-- The checks of the loop of `Query`. -/
def Filter.accepts (filter : Filter) (entry : Entry) : Bool :=
  !(filter.stableID != [] && entry.stableID != filter.stableID) &&
  !(filter.source != [] && entry.source != filter.source) &&
  !(filter.verdict != [] && entry.verdict != filter.verdict) &&
  !(!filter.fromTime.isZero && decide (entry.atTime < filter.fromTime)) &&
  !(!filter.toTime.isZero && !decide (entry.atTime < filter.toTime))

/-- How many verdicts one answer holds. -/
def Filter.bound (filter : Filter) : Nat :=
  min (if filter.limit ≤ 0 then defaultQueryLimit else filter.limit.toNat)
    maxQueryLimit

def Journal.query (journal : Journal) (filter : Filter) :
    Except Text (List Entry) := do
  let entries ← readLocked codec journal.file
  let matched := entries.filter filter.accepts
  return (sortDesc Entry.atTime matched).take filter.bound

end Read

/-- `Before(j.now().Add(-j.retention))`. -/
def Entry.expired (retention : Nat) (now : Time) (entry : Entry) : Bool :=
  entry.atTime + retention < now

section Compact

variable (codec : LineCodec)

/-- The loop of `compactLocked`: the lines it keeps. -/
def keepLoop (retention maxBytes : Nat) (now : Time) :
    List Entry → Nat → List Bytes
  | [], _ => []
  | entry :: rest, size =>
      if entry.expired retention now then
        keepLoop retention maxBytes now rest size
      else
        match codec.marshal entry with
        | none => keepLoop retention maxBytes now rest size
        | some line =>
            if maxBytes < size + line.length + 1 then []
            else
              line ::
                keepLoop retention maxBytes now rest (size + line.length + 1)

/-- What `compactLocked` writes for the entries it read. -/
def compacted (retention maxBytes : Nat) (now : Time) (entries : List Entry) :
    Bytes :=
  (keepLoop codec retention maxBytes now (sortDesc Entry.atTime entries)
    0).reverse.flatMap (· ++ [newline])

/-- How far the file operations of a compaction come. -/
inductive Rewrite
  | unread (err : Text)
  | unwritten (err : Text)
  | unrenamed (err : Text)
  | done
deriving DecidableEq

/-- A compaction: what the clock shows in it, and how far it comes. -/
structure Attempt where
  now : Clock
  rewrite : Rewrite
deriving DecidableEq

def Journal.compactLocked (journal : Journal) (attempt : Attempt) :
    Journal × Except Text Unit :=
  let journal := { journal with appended := 0 }
  match attempt.rewrite, readLocked codec journal.file with
  | .unread err, _ => (journal, .error ("open verdict journal: " ++ err))
  | _, .error err => (journal, .error err)
  | .unwritten err, .ok _ =>
      (journal, .error ("write compacted verdict journal: " ++ err))
  | .unrenamed err, .ok _ =>
      (journal, .error ("replace verdict journal: " ++ err))
  | .done, .ok entries =>
      ({ journal with
          file := some (compacted codec journal.retention journal.maxBytes
            attempt.now.val entries) }, .ok ())

end Compact

section Record

variable (codec : LineCodec)

/-- The entry `Record` writes. -/
def stamped (entry : Entry) (now : Clock) : Entry :=
  let entry := bounded entry
  if entry.atTime.isZero then { entry with atTime := now.val } else entry

/-- The line `Record` writes, without its end. -/
def encode (entry : Entry) (now : Clock) : Except Text Bytes := do
  let text := bounded entry
  reject (text.stableID = [] ∨ text.verdict = [] ∨ text.source = [])
    "verdict entry needs a node, a source and a verdict"
  match codec.marshal (stamped entry now) with
  | none => .error "encode verdict"
  | some line => .ok line

/-- How far the file operations of an append come. -/
inductive Append
  | uncreated (err : Text)
  | unopened (err : Text)
  | torn (written : Nat) (err : Text)
  | unclosed (err : Text)
  | done
deriving DecidableEq

/-- The bytes that reach the file, where it is opened. -/
def Append.written (line : Bytes) : Append → Option Bytes
  | .uncreated _ => none
  | .unopened _ => none
  | .torn written _ => some ((line ++ [newline]).take written)
  | .unclosed _ => some (line ++ [newline])
  | .done => some (line ++ [newline])

def Append.result : Append → Except Text Unit
  | .uncreated err => .error ("create verdict journal directory: " ++ err)
  | .unopened err => .error ("open verdict journal: " ++ err)
  | .torn _ err => .error ("append verdict: " ++ err)
  | .unclosed err => .error ("close verdict journal: " ++ err)
  | .done => .ok ()

/-- `O_CREATE | O_APPEND`. -/
def appendFile (file : Option Bytes) (written : Option Bytes) : Option Bytes :=
  match written with
  | none => file
  | some bytes => some (file.getD [] ++ bytes)

/-- `Record`, up to where it counts the line. -/
def Journal.append (journal : Journal) (entry : Entry) (now : Clock)
    (append : Append) : Journal × Except Text Unit :=
  match encode codec entry now with
  | .error err => (journal, .error err)
  | .ok line =>
      let journal :=
        { journal with file := appendFile journal.file (append.written line) }
      match append.result with
      | .error err => (journal, .error err)
      | .ok () => ({ journal with appended := journal.appended + 1 }, .ok ())

def Journal.record (journal : Journal) (entry : Entry) (now : Clock)
    (append : Append) (attempt : Attempt) : Journal × Except Text Unit :=
  match journal.append codec entry now append with
  | (journal, .error err) => (journal, .error err)
  | (journal, .ok ()) =>
      if compactEvery ≤ journal.appended then
        journal.compactLocked codec attempt
      else (journal, .ok ())

end Record

end XrayChecker.Verdictlog

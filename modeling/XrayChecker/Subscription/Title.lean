import XrayChecker.Go.Base64
import XrayChecker.Go.Utf8

/-
The name of a subscription: the fragment of its URL or its `profile-title`
header, and the metric label it becomes.
-/

namespace XrayChecker.Subscription

open Go

/-- The bytes of a text in ASCII. -/
def bytesOf (text : Text) : Bytes :=
  text.map fun c => UInt8.ofNat c.toNat

/-- What `strings.LastIndex` finds: the bytes before and after the last
`separator`. -/
def cutLast (separator : UInt8) (s : Bytes) : Option (Bytes × Bytes) :=
  if separator ∈ s then
    let after := (s.reverse.takeWhile (· != separator)).reverse
    some (s.take (s.length - after.length - 1), after)
  else none

/-- `unhex`, where `ishex` holds. -/
def unhex (b : UInt8) : Option UInt8 :=
  if 0x30 ≤ b ∧ b ≤ 0x39 then some (b - 0x30)
  else if 0x61 ≤ b ∧ b ≤ 0x66 then some (b - 0x61 + 10)
  else if 0x41 ≤ b ∧ b ≤ 0x46 then some (b - 0x41 + 10)
  else none

/-- `url.QueryUnescape`; `none` where it returns an error. -/
def queryUnescape : Bytes → Option Bytes
  | [] => some []
  | b :: rest =>
      if b = 0x25 then
        match rest with
        | high :: low :: rest =>
            match unhex high, unhex low with
            | some high, some low =>
                (queryUnescape rest).map ((high * 16 + low) :: ·)
            | _, _ => none
        | _ => none
      else
        (queryUnescape rest).map ((if b = 0x2b then 0x20 else b) :: ·)

def extractURLFragment (source : Bytes) : Bytes × Bytes :=
  match cutLast 0x23 source with
  | none => (source, [])
  | some (cleanURL, after) =>
      let name := trimSpaceBytes after
      (cleanURL, (queryUnescape name).getD name)

/-- The text `decodeBase64` hands to the decoder. -/
def normalizeBase64 (text : Bytes) : Bytes :=
  let text := text.map fun b =>
    if b = 0x2d then 0x2b else if b = 0x5f then 0x2f else b
  if text.length % 4 = 0 then text
  else text ++ List.replicate (4 - text.length % 4) base64Pad

def decodeBase64 (text : Bytes) : Option Bytes :=
  decodeStd (normalizeBase64 text)

def isPrintableString (s : Bytes) : Bool :=
  (runes s).all fun r =>
    !(decide (r.val < 32) && r != '\t' && r != '\n' && r != '\r')

def base64Prefix : Bytes := bytesOf "base64:"

def extractNameFromHeader (headerValue : Bytes) : Bytes :=
  if headerValue = [] then []
  else
    let headerValue := trimSpaceBytes headerValue
    if base64Prefix.isPrefixOf headerValue then
      match decodeBase64 (headerValue.drop base64Prefix.length) with
      | some decoded => trimSpaceBytes decoded
      | none => []
    else
      match decodeBase64 headerValue with
      | some decoded =>
          if isPrintableString decoded then trimSpaceBytes decoded
          else headerValue
      | none => headerValue

/-- The name `fetchURLContent` returns, where the source is fetched and the
answer has this `profile-title`. -/
def fetchedName (source headerValue : Bytes) : Bytes :=
  let fragmentName := (extractURLFragment source).2
  if fragmentName = [] then extractNameFromHeader headerValue
  else fragmentName

/-- The name `ReadFromFeed` returns, which becomes the `SubName` of every node
of the feed. -/
def subName (feedName parsed : Bytes) : Bytes :=
  let trimmed := trimSpaceBytes feedName
  if trimmed = [] then parsed else trimmed

/-- A `prometheus.GaugeVec`: `WithLabelValues` panics unless it is given a
value for each of its labels, all of them in UTF-8. -/
structure GaugeVec where
  labels : List Text
  accepts : List Bytes → Bool
  accepts_iff : ∀ values, accepts values ↔
    values.length = labels.length ∧ ∀ value ∈ values, ValidString value

/-- The labels `InitMetrics` gives its vectors. -/
def metricLabels (metricsInstance : Bytes) : List Text :=
  ["protocol", "address", "name", "sub_name"].map String.toList ++
    if metricsInstance = [] then [] else [("instance" : Text)]

def buildLabelValues (metricsInstance protocol address name subName : Bytes) :
    List Bytes :=
  [protocol, address, name, subName] ++
    if metricsInstance = [] then [] else [metricsInstance]

/-- `RecordProxyStatus` and `RecordProxyLatency`, up to the value they set:
whether they return. -/
def recordProxy (vec : GaugeVec)
    (metricsInstance protocol address name subName : Bytes) : Bool :=
  vec.accepts (buildLabelValues metricsInstance protocol address name subName)

end XrayChecker.Subscription

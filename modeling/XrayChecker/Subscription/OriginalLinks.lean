import XrayChecker.Go.UrlQuery
import XrayChecker.Models.ProxyConfig
import XrayChecker.Subscription.EncodedLinks

/-
What the parser adds to a converted outbound from the links of the
subscription, and whose link it is taken from.
-/

namespace XrayChecker.Subscription

open Go

structure OriginalLinkData where
  name : Bytes := []
  encryption : Bytes := []
  type : Bytes := []
  path : Bytes := []
  host : Bytes := []
  allowInsecure : Bool := false
deriving DecidableEq

structure ParsedLink extends OriginalLinkData where
  server : Bytes := []
  port : Int := 0
deriving DecidableEq

/-- The port of a `vmess` link: a number, converted to an `int`, or a
string. -/
inductive VMessPort where
  | number (n : Int)
  | string (s : Bytes)
  | other

/-- The members of a decoded `vmess` link that are read, where they have the
type they are read as. -/
structure VMess where
  ps : Option Bytes := none
  add : Option Bytes := none
  port : VMessPort := .other
  net : Option Bytes := none
  host : Option Bytes := none
  path : Option Bytes := none

/-- `%s:%d`. -/
def linkKey (server : Bytes) (port : Int) : Bytes :=
  server ++ 0x3a :: encode (itoaInt port)

section Links

/- `ipLiteral` stands for the addresses `netip.ParseAddr` takes, other than
IPv4, and `unmarshal` for `json.Unmarshal` of an object. -/
variable (ipLiteral : Bytes → Bool) (unmarshal : Bytes → Option VMess)

def parseVMessLink (link : Bytes) : Option ParsedLink := do
  let decoded ← decodeBase64 (link.drop 8)
  let vmess ← unmarshal decoded
  let port :=
    match vmess.port with
    | .number n => n
    | .string s => (atoi s).getD 0
    | .other => 0
  if port = 0 then none
  else
    some
      { name := vmess.ps.getD [], server := vmess.add.getD [], port := port,
        type := vmess.net.getD [], host := vmess.host.getD [],
        path := vmess.path.getD [] }

def parseShareLink (link : Bytes) : Option ParsedLink :=
  if (encode "vmess://").isPrefixOf link then parseVMessLink unmarshal link
  else do
    let u ← parseUrl ipLiteral link
    let port ← if u.port = [] then none else atoi u.port
    if port = 0 then none
    else
      let query := parseQuery u.rawQuery
      let insecure := queryGet query (encode "allowInsecure")
      some
        { name := u.fragment, server := u.hostname, port := port,
          type := queryGet query (encode "type"),
          encryption := queryGet query (encode "encryption"),
          path := queryGet query (encode "path"),
          host := queryGet query (encode "host"),
          allowInsecure := insecure = encode "1" ∨ insecure = encode "true" }

/-- What is recorded of one link. -/
def recordLink (result : GoMap Bytes OriginalLinkData) (line : Bytes) :
    GoMap Bytes OriginalLinkData :=
  match parseShareLink ipLiteral unmarshal line with
  | none => result
  | some data =>
      result.insert (linkKey data.server data.port) data.toOriginalLinkData

/-- `parseOriginalLinks`, of the lines of the decoded text. -/
def recordLinks (lines : List Bytes) : GoMap Bytes OriginalLinkData :=
  lines.foldl (recordLink ipLiteral unmarshal) ∅

def parseOriginalLinks (rawData : Bytes) : GoMap Bytes OriginalLinkData :=
  recordLinks ipLiteral unmarshal (linkLines (tryDecodeBase64 rawData))

/-- The last of the links with a key. -/
def lastLink (lines : List Bytes) (key : Bytes) : Option OriginalLinkData :=
  (((lines.filterMap (parseShareLink ipLiteral unmarshal)).filter
    fun data => linkKey data.server data.port = key).getLast?).map
      (·.toOriginalLinkData)

end Links

section Outbounds

structure LibXraySettings where
  address : Text := []
  port : Int := 0
  level : Int := 0
  id : Text := []
  flow : Text := []
  encryption : Text := []
  alterId : Int := 0
  security : Text := []
  password : Text := []
  method : Text := []

structure XrayUser where
  id : Text := []
  flow : Text := []
  encryption : Text := []
  alterId : Int := 0
  security : Text := []
  level : Int := 0

structure XrayVnext where
  address : Text := []
  port : Int := 0
  users : List XrayUser := []

structure XrayServer where
  address : Text := []
  port : Int := 0
  password : Text := []
  method : Text := []
  flow : Text := []

structure XrayStandardSettings where
  vnext : List XrayVnext := []
  servers : List XrayServer := []

/-- The settings of an outbound: what they decode to in either shape, or the
error of the second. -/
structure OutboundSettings where
  flat : Option LibXraySettings
  standard : Except Text XrayStandardSettings

structure LibXrayTlsSettings where
  serverName : Text := []
  allowInsecure : Bool := false
  fingerprint : Text := []
  alpn : Option (List Text) := none

structure LibXrayRealitySettings where
  serverName : Text := []
  fingerprint : Text := []
  publicKey : Text := []
  shortId : Text := []

/-- `request` of a header: its paths, and the hosts among its headers. -/
structure LibXrayRequest where
  path : List Text := []
  hosts : Option (List Text) := none

structure LibXrayRawHeader where
  type : Text := []
  request : Option LibXrayRequest := none

structure LibXrayWsSettings where
  path : Text := []
  headersHost : Option Text := none
  host : Text := []

structure LibXrayGrpcSettings where
  serviceName : Text := []
  multiMode : Bool := false

structure LibXrayHttpSettings where
  path : Text := []
  host : List Text := []

structure LibXrayHttpupgradeSettings where
  path : Text := []
  host : Text := []

structure LibXrayXhttpSettings where
  path : Text := []
  host : Text := []
  mode : Text := []

/-- Settings that are kept as they are written, with what they decode to. -/
structure RawXhttp where
  raw : Text := []
  parsed : Option LibXrayXhttpSettings := none

structure LibXrayStreamSettings where
  network : Text := []
  security : Text := []
  tlsSettings : Option LibXrayTlsSettings := none
  realitySettings : Option LibXrayRealitySettings := none
  rawHeader : Option LibXrayRawHeader := none
  wsSettings : Option LibXrayWsSettings := none
  grpcSettings : Option LibXrayGrpcSettings := none
  httpSettings : Option LibXrayHttpSettings := none
  httpupgradeSettings : Option LibXrayHttpupgradeSettings := none
  xhttpSettings : RawXhttp := {}
  splithttpSettings : RawXhttp := {}

/-- An outbound as it is decoded. -/
structure BaseOutbound where
  protocol : Text := []
  tag : Text := []
  sendThrough : Text := []
  settings : OutboundSettings
  streamSettings : Option LibXrayStreamSettings := none

def LibXraySettings.apply (s : LibXraySettings) (pc : ProxyConfig) :
    ProxyConfig :=
  let pc := { pc with server := s.address, port := s.port }
  if pc.protocol = "vless".toList then
    { pc with
      uuid := s.id, flow := s.flow, encryption := s.encryption,
      level := s.level }
  else if pc.protocol = "vmess".toList then
    { pc with
      uuid := s.id, alterId := s.alterId, security := s.security,
      level := s.level }
  else if pc.protocol = "trojan".toList then
    { pc with password := s.password }
  else if pc.protocol = "shadowsocks".toList then
    { pc with password := s.password, method := s.method }
  else pc

def XrayStandardSettings.apply (s : XrayStandardSettings) (pc : ProxyConfig) :
    Except Text ProxyConfig :=
  if pc.protocol = "vless".toList ∨ pc.protocol = "vmess".toList then
    match s.vnext with
    | [] => .error "no vnext/users found".toList
    | vnext :: _ =>
        match vnext.users with
        | [] => .error "no vnext/users found".toList
        | user :: _ =>
            .ok { pc with
              server := vnext.address, port := vnext.port, uuid := user.id,
              flow := user.flow, encryption := user.encryption,
              alterId := user.alterId, level := user.level,
              security := if pc.protocol = "vmess".toList then user.security
                else pc.security }
  else if pc.protocol = "trojan".toList ∨
      pc.protocol = "shadowsocks".toList then
    match s.servers with
    | [] => .error "no servers found".toList
    | srv :: _ =>
        .ok { pc with
          server := srv.address, port := srv.port, password := srv.password,
          method := srv.method, flow := srv.flow }
  else .error ("unsupported protocol: ".toList ++ pc.protocol)

def OutboundSettings.apply (s : OutboundSettings) (pc : ProxyConfig) :
    Except Text ProxyConfig :=
  match s.flat with
  | some flat =>
      if flat.address ≠ [] then .ok (flat.apply pc) else standard
  | none => standard
where
  standard : Except Text ProxyConfig :=
    match s.standard with
    | .error err => .error ("failed to parse settings: ".toList ++ err)
    | .ok std => std.apply pc

def LibXrayTlsSettings.apply (s : LibXrayTlsSettings) (pc : ProxyConfig) :
    ProxyConfig :=
  { pc with
    sni := s.serverName, allowInsecure := s.allowInsecure,
    fingerprint := s.fingerprint, alpn := s.alpn }

def LibXrayRealitySettings.apply (s : LibXrayRealitySettings)
    (pc : ProxyConfig) : ProxyConfig :=
  { pc with
    sni := s.serverName, fingerprint := s.fingerprint,
    publicKey := s.publicKey, shortID := s.shortId }

def LibXrayRawHeader.apply (s : LibXrayRawHeader) (pc : ProxyConfig) :
    ProxyConfig :=
  let pc := { pc with headerType := s.type }
  match s.request with
  | none => pc
  | some request =>
      { pc with
        path := request.path.head?.getD pc.path,
        host := (request.hosts.bind List.head?).getD pc.host }

def LibXrayWsSettings.apply (s : LibXrayWsSettings) (pc : ProxyConfig) :
    ProxyConfig :=
  let host := s.headersHost.getD pc.host
  { pc with path := s.path, host := if host = [] then s.host else host }

def LibXrayGrpcSettings.apply (s : LibXrayGrpcSettings) (pc : ProxyConfig) :
    ProxyConfig :=
  { pc with serviceName := s.serviceName, multiMode := s.multiMode }

def LibXrayHttpSettings.apply (s : LibXrayHttpSettings) (pc : ProxyConfig) :
    ProxyConfig :=
  { pc with
    path := s.path, host := if s.host ≠ [] then join s.host "," else pc.host }

def LibXrayHttpupgradeSettings.apply (s : LibXrayHttpupgradeSettings)
    (pc : ProxyConfig) : ProxyConfig :=
  { pc with type := "httpupgrade".toList, path := s.path, host := s.host }

def RawXhttp.apply (s : RawXhttp) (pc : ProxyConfig) : ProxyConfig :=
  if s.raw = [] then pc
  else
    let pc := { pc with rawXhttpSettings := s.raw }
    match s.parsed with
    | none => pc
    | some parsed =>
        { pc with
          path := parsed.path, host := parsed.host, mode := parsed.mode }

/-- Settings that may be missing. -/
def applyIf {S : Type} (apply : S → ProxyConfig → ProxyConfig)
    (settings : Option S) (pc : ProxyConfig) : ProxyConfig :=
  match settings with
  | none => pc
  | some s => apply s pc

def LibXrayStreamSettings.apply (ss : LibXrayStreamSettings)
    (pc : ProxyConfig) : ProxyConfig :=
  let pc := { pc with type := ss.network, security := ss.security }
  let pc := applyIf LibXrayTlsSettings.apply ss.tlsSettings pc
  let pc := applyIf LibXrayRealitySettings.apply ss.realitySettings pc
  let pc :=
    if ss.network = "raw".toList then { pc with type := "tcp".toList } else pc
  let pc := applyIf LibXrayRawHeader.apply ss.rawHeader pc
  let pc := applyIf LibXrayWsSettings.apply ss.wsSettings pc
  let pc := applyIf LibXrayGrpcSettings.apply ss.grpcSettings pc
  let pc := applyIf LibXrayHttpSettings.apply ss.httpSettings pc
  let pc := applyIf LibXrayHttpupgradeSettings.apply ss.httpupgradeSettings pc
  if ss.network = "xhttp".toList ∨ ss.network = "splithttp".toList then
    let pc := { pc with type := ss.network }
    if ss.xhttpSettings.raw ≠ [] then ss.xhttpSettings.apply pc
    else ss.splithttpSettings.apply pc
  else pc

/-- `Validate`. -/
def validate (pc : ProxyConfig) : Except Text Unit :=
  if pc.protocol = [] then .error "protocol is required".toList
  else if pc.server = [] then .error "server is required".toList
  else if pc.port ≤ 0 ∨ 65535 < pc.port then
    .error ("invalid port number: ".toList ++ itoaInt pc.port)
  else if pc.protocol = "vless".toList ∨ pc.protocol = "vmess".toList then
    if pc.uuid = [] then
      .error ("UUID is required for ".toList ++ pc.protocol)
    else .ok ()
  else if pc.protocol = "trojan".toList then
    if pc.password = [] then .error "password is required for Trojan".toList
    else .ok ()
  else if pc.protocol = "shadowsocks".toList then
    if pc.password = [] ∨ pc.method = [] then
      .error "password and method are required for Shadowsocks".toList
    else .ok ()
  else .error ("unsupported protocol: ".toList ++ pc.protocol)

/-- What an outbound itself says of a node, and no node where it is no proxy. -/
def outboundConfig (raw : BaseOutbound) (index : Int) :
    Except Text (Option ProxyConfig) :=
  if raw.protocol = "freedom".toList ∨ raw.protocol = "blackhole".toList ∨
      raw.protocol = "dns".toList then .ok none
  else do
    let named : ProxyConfig :=
      { index := index, protocol := raw.protocol,
        name := if raw.sendThrough = [] then trimSpace raw.tag
          else raw.sendThrough }
    let pc ← raw.settings.apply named
    if pc.server = [] ∨ pc.port = 0 then
      .error "failed to parse server/port".toList
    else if pc.port = 0 ∨ pc.port = 1 then .ok none
    else .ok (some (applyIf LibXrayStreamSettings.apply raw.streamSettings pc))

/-- The key under which the link of a node is looked for. -/
def nodeKey (pc : ProxyConfig) : Bytes :=
  linkKey (encode pc.server) pc.port

/-- A node takes the encryption it does not have and the insecure mode of the
link that is found. -/
def takeOriginal (orig : Option OriginalLinkData) (pc : ProxyConfig) :
    ProxyConfig :=
  match orig with
  | none => pc
  | some orig =>
      { pc with
        encryption :=
          if (pc.encryption = [] ∨ pc.encryption = "none".toList) ∧
            orig.encryption ≠ [] then runes orig.encryption
          else pc.encryption,
        allowInsecure := orig.allowInsecure || pc.allowInsecure }

/-- `convertOutbound`; `digest` as in `generateStableID`. -/
def convertOutbound (digest : Text → Text) (raw : BaseOutbound) (index : Int)
    (originalData : GoMap Bytes OriginalLinkData) :
    Except Text (Option ProxyConfig) := do
  match ← outboundConfig raw index with
  | none => .ok none
  | some pc =>
      let pc := takeOriginal originalData[nodeKey pc]? pc
      let _ ← validate pc
      .ok (some { pc with stableID := pc.generateStableID digest })

end Outbounds

section Ownership

variable {ipLiteral : Bytes → Bool} {unmarshal : Bytes → Option VMess}
  {digest : Text → Text}

/-- Of the links with a key, the last one is recorded. -/
theorem recordLinks_get (lines : List Bytes) (key : Bytes) :
    (recordLinks ipLiteral unmarshal lines)[key]? =
      lastLink ipLiteral unmarshal lines key := by
  induction lines using List.reverseRecOn with
  | nil => rfl
  | append_singleton lines line ih =>
      have hstep : recordLinks ipLiteral unmarshal (lines ++ [line]) =
          recordLink ipLiteral unmarshal
            (recordLinks ipLiteral unmarshal lines) line := by
        rw [recordLinks, List.foldl_concat]
        rfl
      rw [hstep, recordLink, lastLink, List.filterMap_append,
        List.filter_append]
      cases hparsed : parseShareLink ipLiteral unmarshal line with
      | none =>
          rw [List.filterMap_cons_none hparsed]
          simpa [lastLink] using ih
      | some data =>
          rw [List.filterMap_cons_some hparsed]
          dsimp only
          rw [GoMap.get_insert]
          by_cases hkey : linkKey data.server data.port = key
          · simp [hkey]
          · rw [if_neg hkey]
            simpa [hkey, lastLink] using ih

/-- What is taken of a link has no part in the checks. -/
theorem validate_takeOriginal (orig : Option OriginalLinkData)
    (pc : ProxyConfig) : validate (takeOriginal orig pc) = validate pc := by
  cases orig with
  | none => rfl
  | some orig => rfl

theorem convertOutbound_eq_some {raw : BaseOutbound} {index : Int}
    {originalData : GoMap Bytes OriginalLinkData} {node : ProxyConfig} :
    convertOutbound digest raw index originalData = .ok (some node) ↔
      ∃ pc, outboundConfig raw index = .ok (some pc) ∧ validate pc = .ok () ∧
        node = { takeOriginal originalData[nodeKey pc]? pc with
          stableID := (takeOriginal originalData[nodeKey pc]?
            pc).generateStableID digest } := by
  rw [convertOutbound]
  cases hsaid : outboundConfig raw index with
  | error err => simp [bind, Except.bind]
  | ok said =>
      cases said with
      | none => simp [bind, Except.bind]
      | some pc =>
          simp only [bind, Except.bind, validate_takeOriginal]
          cases hvalid : validate pc with
          | error err => simp [hvalid]
          | ok checked => simp [hvalid, eq_comm]

/-- The encryption a node ends up with that has none, or `none`, of its own. -/
def askedEncryption (orig : Option OriginalLinkData) (said : Text) : Text :=
  match orig with
  | none => said
  | some orig =>
      if orig.encryption ≠ [] then runes orig.encryption else said

def askedInsecure (orig : Option OriginalLinkData) : Bool :=
  orig.any (·.allowInsecure)

theorem takeOriginal_encryption (orig : Option OriginalLinkData)
    (pc : ProxyConfig) : (takeOriginal orig pc).encryption =
      if pc.encryption = [] ∨ pc.encryption = "none".toList then
        askedEncryption orig pc.encryption
      else pc.encryption := by
  cases orig with
  | none => simp [takeOriginal, askedEncryption]
  | some orig =>
      simp only [takeOriginal, askedEncryption]
      grind

theorem takeOriginal_allowInsecure (orig : Option OriginalLinkData)
    (pc : ProxyConfig) : (takeOriginal orig pc).allowInsecure =
      (askedInsecure orig || pc.allowInsecure) := by
  cases orig with
  | none => rfl
  | some orig => rfl

/-- The node of a link gets the encryption and the insecure mode that it gets
from its own link alone. -/
def TakesOwn (ipLiteral : Bytes → Bool) (unmarshal : Bytes → Option VMess)
    (digest : Text → Text) (rawData line : Bytes) (raw : BaseOutbound)
    (index : Int) : Prop :=
  ∀ node, convertOutbound digest raw index
      (parseOriginalLinks ipLiteral unmarshal rawData) = .ok (some node) →
    ∃ own, convertOutbound digest raw index
        (recordLinks ipLiteral unmarshal [line]) = .ok (some own) ∧
      node.encryption = own.encryption ∧
      node.allowInsecure = own.allowInsecure

/-- The last link of the node's server and port asks for what the node's own
link asks for, wherever the outbound leaves it open. -/
def LastAsksSame (ipLiteral : Bytes → Bool) (unmarshal : Bytes → Option VMess)
    (lines : List Bytes) (line : Bytes) (raw : BaseOutbound) (index : Int) :
    Prop :=
  ∀ pc, outboundConfig raw index = .ok (some pc) → validate pc = .ok () →
    let last := lastLink ipLiteral unmarshal lines (nodeKey pc)
    let own := lastLink ipLiteral unmarshal [line] (nodeKey pc)
    (pc.encryption = [] ∨ pc.encryption = "none".toList →
        askedEncryption last pc.encryption =
          askedEncryption own pc.encryption) ∧
      (pc.allowInsecure = false → askedInsecure last = askedInsecure own)

/-- Two links leave the same mark on a node where they ask for the same. -/
theorem takeOriginal_same_iff (last own : Option OriginalLinkData)
    (pc : ProxyConfig) :
    ((takeOriginal last pc).encryption = (takeOriginal own pc).encryption ∧
      (takeOriginal last pc).allowInsecure =
        (takeOriginal own pc).allowInsecure) ↔
      (pc.encryption = [] ∨ pc.encryption = "none".toList →
        askedEncryption last pc.encryption =
          askedEncryption own pc.encryption) ∧
      (pc.allowInsecure = false → askedInsecure last = askedInsecure own) := by
  rw [takeOriginal_encryption, takeOriginal_encryption,
    takeOriginal_allowInsecure, takeOriginal_allowInsecure]
  refine and_congr ?_ ?_
  · by_cases hopen : pc.encryption = [] ∨ pc.encryption = "none".toList
    · rw [if_pos hopen, if_pos hopen]
      exact ⟨fun hsame _ => hsame, fun hsame => hsame hopen⟩
    · rw [if_neg hopen, if_neg hopen]
      exact ⟨fun _ hopen' => absurd hopen' hopen, fun _ => rfl⟩
  · cases pc.allowInsecure with
    | false => simp
    | true => simp

theorem takesOwn_iff (rawData line : Bytes) (raw : BaseOutbound)
    (index : Int) :
    TakesOwn ipLiteral unmarshal digest rawData line raw index ↔
      LastAsksSame ipLiteral unmarshal
        (linkLines (tryDecodeBase64 rawData)) line raw index := by
  constructor
  · intro howns pc hsaid hvalid
    obtain ⟨own, hown, hsame⟩ := howns _
      (convertOutbound_eq_some.mpr ⟨pc, hsaid, hvalid, rfl⟩)
    obtain ⟨other, hother, -, rfl⟩ := convertOutbound_eq_some.mp hown
    rw [hsaid] at hother
    cases hother
    rw [parseOriginalLinks, recordLinks_get, recordLinks_get] at hsame
    exact (takeOriginal_same_iff _ _ pc).mp hsame
  · intro hasks node hnode
    obtain ⟨pc, hsaid, hvalid, rfl⟩ := convertOutbound_eq_some.mp hnode
    refine ⟨_, convertOutbound_eq_some.mpr ⟨pc, hsaid, hvalid, rfl⟩, ?_⟩
    rw [parseOriginalLinks, recordLinks_get, recordLinks_get]
    exact (takeOriginal_same_iff _ _ pc).mpr (hasks pc hsaid hvalid)

/-- Every node of a subscription takes only its own link's data, exactly where
no link that follows it with the same server and port asks for something
else. -/
theorem originalLinks_own_iff (libXray : Bytes → Option BaseOutbound)
    (rawData : Bytes) :
    (∀ line ∈ linkLines (tryDecodeBase64 rawData), ∀ raw,
        libXray line = some raw → ∀ index,
          TakesOwn ipLiteral unmarshal digest rawData line raw index) ↔
      ∀ line ∈ linkLines (tryDecodeBase64 rawData), ∀ raw,
        libXray line = some raw → ∀ index,
          LastAsksSame ipLiteral unmarshal
            (linkLines (tryDecodeBase64 rawData)) line raw index := by
  simp only [takesOwn_iff]

end Ownership

namespace Sample

/-- Two links to one server: the first verifies its certificate, the second
asks not to. -/
def trojanLink : Bytes := encode "trojan://pw@h:443"

def insecureLink : Bytes := encode "vless://id@h:443?allowInsecure=1"

def bothLinks : Bytes := trojanLink ++ newline :: insecureLink

def trojanOutbound : BaseOutbound where
  protocol := "trojan".toList
  settings :=
    { flat := some
        { address := "h".toList, port := 443, password := "pw".toList },
      standard := .ok {} }

def insecureOutbound : BaseOutbound where
  protocol := "vless".toList
  settings :=
    { flat := some { address := "h".toList, port := 443, id := "id".toList },
      standard := .ok {} }

def trojanNode : ProxyConfig where
  protocol := "trojan".toList
  server := "h".toList
  port := 443
  password := "pw".toList

/-- The conversion of the two links. -/
def libXrayBoth (line : Bytes) : Option BaseOutbound :=
  if line = trojanLink then some trojanOutbound
  else if line = insecureLink then some insecureOutbound
  else none

/-- The node that verifies its certificate stops to do so. -/
theorem insecure_of_other_link :
    ¬ ∀ line ∈ linkLines (tryDecodeBase64 bothLinks), ∀ raw,
      libXrayBoth line = some raw → ∀ index,
        TakesOwn (fun _ => false) (fun _ => none) id bothLinks line raw
          index := by
  intro howns
  have hlines : linkLines (tryDecodeBase64 bothLinks) =
      [trojanLink, insecureLink] := by
    rw [tryDecodeBase64_links (by decide)]
    decide
  have hsaid : outboundConfig trojanOutbound 0 = .ok (some trojanNode) := rfl
  have hasks := (takesOwn_iff _ _ _ _).mp (howns trojanLink
    (by simp [hlines]) trojanOutbound rfl 0) trojanNode hsaid rfl
  rw [hlines] at hasks
  have hinsecure := hasks.2 rfl
  have hkey : nodeKey trojanNode = linkKey (encode "h") 443 := rfl
  have htrojan : parseShareLink (fun _ => false) (fun _ => none) trojanLink =
      some { server := encode "h", port := 443 } := by
    decide +kernel
  have hvless : parseShareLink (fun _ => false) (fun _ => none)
      insecureLink =
        some { server := encode "h", port := 443, allowInsecure := true } := by
    decide +kernel
  simp [hkey, lastLink, htrojan, hvless, askedInsecure] at hinsecure

end Sample

end XrayChecker.Subscription

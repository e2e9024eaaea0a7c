import XrayChecker.Go.Json
import XrayChecker.Xray.Lifecycle

/-
The configuration that is generated for Xray: an inbound, an outbound and a
routing rule for each node, tied together by tags made of names and numbers.
-/

namespace XrayChecker

open Go

namespace ProxyConfig

def getUserLevel (pc : ProxyConfig) : Int :=
  if pc.level = 0 then 0 else pc.level

def getAlterId (pc : ProxyConfig) : Int :=
  if pc.alterId = 0 then pc.vmessAid else pc.alterId

def getVMessSecurity (pc : ProxyConfig) : Text :=
  if pc.security = [] then "auto" else pc.security

def getServiceName (pc : ProxyConfig) : Text :=
  if pc.serviceName = [] then [] else pc.serviceName

end ProxyConfig

namespace Xray

/-- An inbound.  Here and below, Go maps are written with their keys in the
order of the source. -/
structure Inbound where
  listen : Text
  port : Int
  protocol : Text
  tag : Text
  sniffing : Json
  settings : Json

structure Outbound where
  tag : Text
  protocol : Text
  settings : Option Json := none
  streamSettings : Option Json := none

/-- A routing rule; a list of conditions that is empty is left out. -/
structure Rule where
  type : Text := "field"
  protocol : List Text := []
  inboundTag : List Text := []
  outboundTag : Text

structure Routing where
  domainStrategy : Text
  rules : List Rule

structure XrayConfig where
  loglevel : Text
  inbounds : List Inbound
  outbounds : List Outbound
  routing : Routing

/-- The tag of a node's inbound. -/
def inboundTag (proxy : ProxyConfig) : Text :=
  proxy.name ++ "_" ++ proxy.protocol ++ "_" ++ itoaInt proxy.index ++
    "_Inbound"

/-- The tag of a node's outbound. -/
def outboundTag (proxy : ProxyConfig) : Text :=
  proxy.name ++ "_" ++ itoaInt proxy.index

/-- A member with a text. -/
def text (name value : Text) : Text × Json :=
  (name, .str value)

/-- A member that is left out where there is nothing to tell. -/
def optional (name value : Text) : List (Text × Json) :=
  if value = [] then [] else [text name value]

def generateInbounds (proxies : List ProxyConfig) (startPort : Int) :
    List Inbound :=
  proxies.map fun proxy =>
    { listen := "127.0.0.1"
      port := startPort + proxy.index
      protocol := "socks"
      tag := inboundTag proxy
      sniffing := .obj [("enabled", .bool true),
        ("destOverride", .arr [.str "http", .str "tls", .str "quic"]),
        ("routeOnly", .bool true)]
      settings := .obj [("auth", .str "noauth"), ("udp", .bool true),
        ("userLevel", .int 0)] }

section Outbounds

-- `unmarshal` stands for `json.Unmarshal` into a map.
variable (unmarshal : Text → Option Json)

/-- The settings of the `splithttp` and the `xhttp` transport. -/
def xhttpSettings (name : Text) (proxy : ProxyConfig) : List (Text × Json) :=
  if proxy.rawXhttpSettings ≠ [] then
    ((unmarshal proxy.rawXhttpSettings).map fun raw => (name, raw)).toList
  else
    [(name, .obj (text "path" proxy.path :: optional "host" proxy.host ++
      optional "mode" proxy.mode))]

/-- The settings of the transport that carries a node. -/
def transportSettings (network : Text) (proxy : ProxyConfig) :
    List (Text × Json) :=
  if network = "tcp" then
    if proxy.headerType ≠ [] ∧ proxy.headerType ≠ "none" then
      let request : List (Text × Json) :=
        if proxy.headerType = "http" then
          [("request", .obj [("path", .arr [.str proxy.path]),
            ("headers", .obj [("Host", .arr [.str proxy.host])])])]
        else []
      [("tcpSettings",
        .obj [("header", .obj (text "type" proxy.headerType :: request))])]
    else []
  else if network = "ws" then
    [("wsSettings", .obj (text "path" proxy.path ::
      if proxy.host = [] then []
      else [("headers", .obj [text "Host" proxy.host])]))]
  else if network = "grpc" then
    [("grpcSettings", .obj [text "serviceName" proxy.getServiceName,
      ("multiMode", .bool proxy.multiMode)])]
  else if network = "http" ∨ network = "h2" then
    [("httpSettings", .obj (text "path" proxy.path ::
      if proxy.host = [] then []
      else [("host", .arr ((proxy.host.splitOn ',').map .str))]))]
  else if network = "httpupgrade" then
    [("httpupgradeSettings",
      .obj (text "path" proxy.path :: optional "host" proxy.host))]
  else if network = "splithttp" then
    xhttpSettings unmarshal "splithttpSettings" proxy
  else if network = "xhttp" then xhttpSettings unmarshal "xhttpSettings" proxy
  else []

def generateStreamSettings (proxy : ProxyConfig) : Json :=
  let network : Text := if proxy.type = [] then "tcp" else proxy.type
  let security : Text := if proxy.security = [] then "none" else proxy.security
  let alpn : List (Text × Json) :=
    if proxy.alpn.getD [] = [] then []
    else [("alpn", .arr ((proxy.alpn.getD []).map .str))]
  let tls : List (Text × Json) :=
    if security = "tls" then
      [("tlsSettings", .obj ([text "serverName" proxy.sni,
          ("allowInsecure", .bool proxy.allowInsecure)] ++
        optional "fingerprint" proxy.fingerprint ++ alpn))]
    else []
  let reality : List (Text × Json) :=
    if security = "reality" then
      [("realitySettings", .obj ([text "serverName" proxy.sni,
          text "fingerprint" proxy.fingerprint,
          text "publicKey" proxy.publicKey] ++
        optional "shortId" proxy.shortID))]
    else []
  .obj ([text "network" network, text "security" security,
    ("sockopt", .obj [])] ++ tls ++ reality ++
    transportSettings unmarshal network proxy)

/-- The settings of a node's protocol. -/
def protocolSettings (proxy : ProxyConfig) : Option Json :=
  if proxy.protocol = "vless" then
    some (.obj [("vnext", .arr [.obj [text "address" proxy.server,
      ("port", .int proxy.port),
      ("users", .arr [.obj ([text "id" proxy.uuid,
        ("level", .int proxy.getUserLevel),
        text "encryption" (if proxy.encryption = [] then "none"
          else proxy.encryption)] ++ optional "flow" proxy.flow)])]])])
  else if proxy.protocol = "vmess" then
    some (.obj [("vnext", .arr [.obj [text "address" proxy.server,
      ("port", .int proxy.port),
      ("users", .arr [.obj [text "id" proxy.uuid,
        ("alterId", .int proxy.getAlterId),
        text "security" proxy.getVMessSecurity,
        ("level", .int proxy.getUserLevel)]])]])])
  else if proxy.protocol = "trojan" then
    some (.obj [("servers", .arr [.obj ([text "address" proxy.server,
      ("port", .int proxy.port), text "password" proxy.password] ++
      optional "flow" proxy.flow)])])
  else if proxy.protocol = "shadowsocks" then
    some (.obj [("servers", .arr [.obj [text "address" proxy.server,
      ("port", .int proxy.port), text "method" proxy.method,
      text "password" proxy.password]])])
  else none

def generateProxyOutbound (proxy : ProxyConfig) : Outbound where
  tag := outboundTag proxy
  protocol := proxy.protocol
  settings := protocolSettings proxy
  streamSettings := some (generateStreamSettings unmarshal proxy)

def generateOutbounds (proxies : List ProxyConfig) : List Outbound :=
  [{ tag := "direct"
     protocol := "freedom"
     settings := some (.obj [("domainStrategy", .str "UseIP")]) },
   { tag := "block", protocol := "blackhole", settings := some (.obj []) }] ++
    proxies.map (generateProxyOutbound unmarshal)

def generateRouting (proxies : List ProxyConfig) : Routing where
  domainStrategy := "AsIs"
  rules := { protocol := ["dns"], outboundTag := "dns-out" } ::
    proxies.map fun proxy =>
      { inboundTag := [inboundTag proxy], outboundTag := outboundTag proxy }

/-- `GenerateConfig`, before it is written as JSON. -/
def generateConfig (proxies : List ProxyConfig) (startPort : Int)
    (xrayLogLevel : Text) : XrayConfig where
  loglevel := xrayLogLevel
  inbounds := generateInbounds proxies startPort
  outbounds := generateOutbounds unmarshal proxies
  routing := generateRouting proxies

end Outbounds

/-! ### Where Xray sends a connection -/

/-- The protocols Xray recognises in the first bytes of a connection and a
rule can name.  Only the queries of Xray's own DNS client count as `dns`. -/
inductive Sniffed where
  | http | tls | quic | bittorrent
deriving DecidableEq

def Sniffed.name : Sniffed → Text
  | .http => "http"
  | .tls => "tls"
  | .quic => "quic"
  | .bittorrent => "bittorrent"

/-- A connection that came in, with the protocol where one was recognised. -/
structure Connection where
  inboundTag : Text
  sniffed : Option Sniffed

/-- All conditions of the rule hold. -/
def Rule.matches (rule : Rule) (connection : Connection) : Bool :=
  (rule.protocol = [] ||
    connection.sniffed.any fun sniffed => sniffed.name ∈ rule.protocol) &&
    (rule.inboundTag = [] || connection.inboundTag ∈ rule.inboundTag)

/-- The outbound that the first rule that matches names. -/
def XrayConfig.outboundOf (config : XrayConfig) (connection : Connection) :
    Option Outbound :=
  (config.routing.rules.find? (·.matches connection)).bind fun rule =>
    config.outbounds.find? (·.tag = rule.outboundTag)

/-- Tags tell apart, and the inbound at a node's port leads to the node. -/
structure ReachesOwn (unmarshal : Text → Option Json) (config : XrayConfig)
    (startPort : Int) (nodes : List ProxyConfig) : Prop where
  inboundTags : (config.inbounds.map (·.tag)).Nodup
  outboundTags : (config.outbounds.map (·.tag)).Nodup
  notBuiltIn : ∀ node ∈ nodes, ∀ tag ∈ (["direct", "block"] : List Text),
    (generateProxyOutbound unmarshal node).tag ≠ tag
  reached : ∀ (i : Nat) (node : ProxyConfig), nodes[i]? = some node →
    ∃ inbound ∈ config.inbounds, inbound.port = startPort + i ∧
      (∀ other ∈ config.inbounds, other.port = startPort + i →
        other = inbound) ∧
      ∀ sniffed, config.outboundOf ⟨inbound.tag, sniffed⟩ =
        some (generateProxyOutbound unmarshal node)

section Tags

/-- A text, an underscore and a number: the number can be read back. -/
theorem underscore_number_inj {a b : Text} {n m : Int}
    (h : a ++ '_' :: itoaInt n = b ++ '_' :: itoaInt m) : n = m := by
  have hfree : ∀ k : Int, '_' ∉ (itoaInt k).reverse := by
    intro k hmem
    exact absurd (numeral_of_mem_itoaInt (List.mem_reverse.mp hmem))
      (by decide)
  have hback := congrArg List.reverse h
  simp only [List.reverse_append, List.reverse_cons, List.append_assoc,
    List.cons_append, List.nil_append] at hback
  have hnumber := (append_cons_cancel (hfree n) (hfree m) hback).1
  exact itoaInt_injective (List.reverse_injective hnumber)

theorem outboundTag_index {node other : ProxyConfig}
    (h : outboundTag node = outboundTag other) : node.index = other.index := by
  simp only [outboundTag, List.append_assoc] at h
  exact underscore_number_inj h

theorem inboundTag_index {node other : ProxyConfig}
    (h : inboundTag node = inboundTag other) : node.index = other.index := by
  have hfront := List.append_cancel_right h
  rw [List.append_assoc _ ("_" : Text) (itoaInt node.index),
    List.append_assoc _ ("_" : Text) (itoaInt other.index)] at hfront
  exact underscore_number_inj hfront

/-- The tag of a node is not one without an underscore. -/
theorem outboundTag_ne {tag : Text} (h : '_' ∉ tag) (node : ProxyConfig) :
    outboundTag node ≠ tag := by
  rintro rfl
  apply h
  simp [outboundTag]

end Tags

section Prepared

variable {digest : Text → Text}

/-- After `PrepareProxyConfigs` the index of a node is its position. -/
theorem prepareProxyConfigs_index {proxies : List ProxyConfig} {i : Nat}
    {node : ProxyConfig}
    (h : (prepareProxyConfigs digest proxies)[i]? = some node) :
    node.index = i := by
  rw [prepareProxyConfigs, List.getElem?_mapIdx, Option.map_eq_some_iff] at h
  obtain ⟨proxy, -, rfl⟩ := h
  rw [fillStableID]

/-- What depends on the index at least is distinct. -/
theorem nodup_map_prepared {α : Type} (f : ProxyConfig → α)
    (hf : ∀ node other, f node = f other → node.index = other.index)
    (proxies : List ProxyConfig) :
    ((prepareProxyConfigs digest proxies).map f).Nodup := by
  rw [List.nodup_iff_getElem?_ne_getElem?]
  intro i j hij hj hsame
  rw [List.length_map] at hj
  rw [List.getElem?_map, List.getElem?_map,
    List.getElem?_eq_getElem (hij.trans hj), List.getElem?_eq_getElem hj,
    Option.map_some, Option.map_some, Option.some.injEq] at hsame
  have hindex := hf _ _ hsame
  rw [prepareProxyConfigs_index (List.getElem?_eq_getElem (hij.trans hj)),
    prepareProxyConfigs_index (List.getElem?_eq_getElem hj)] at hindex
  omega

end Prepared

/-- Where keys do not repeat, the item found by its key is the one. -/
theorem find?_of_nodup {α β : Type} [DecidableEq β] {key : α → β}
    {items : List α} (h : (items.map key).Nodup) {item : α}
    (hitem : item ∈ items) : items.find? (key · = key item) = some item := by
  induction items with
  | nil => cases hitem
  | cons first rest ih =>
      rw [List.map_cons, List.nodup_cons] at h
      rcases List.mem_cons.mp hitem with rfl | hrest
      · rw [List.find?_cons_of_pos (by simp)]
      · rw [List.find?_cons_of_neg]
        · exact ih h.2 hrest
        · rw [decide_eq_true_eq]
          intro hsame
          exact h.1 (hsame ▸ List.mem_map_of_mem hrest)

section Reached

variable {unmarshal : Text → Option Json} {digest : Text → Text}

theorem matches_dns (connection : Connection) :
    Rule.matches { protocol := ["dns"], outboundTag := "dns-out" }
      connection = false := by
  have hother : ∀ sniffed : Sniffed, sniffed.name ≠ "dns" := by
    intro sniffed
    cases sniffed <;> decide
  cases hsniffed : connection.sniffed with
  | none => simp [Rule.matches, hsniffed]
  | some sniffed => simpa [Rule.matches, hsniffed] using hother sniffed

/-- The rule of a node matches what comes in at the node's inbound. -/
theorem matches_own (node : ProxyConfig) (connection : Connection) :
    Rule.matches
      { inboundTag := [inboundTag node], outboundTag := outboundTag node }
      connection = decide (inboundTag node = connection.inboundTag) := by
  simp [Rule.matches, eq_comm]

theorem generateConfig_inboundTags (proxies : List ProxyConfig)
    (startPort : Int) :
    ((generateInbounds (prepareProxyConfigs digest proxies) startPort).map
      (·.tag)).Nodup := by
  rw [generateInbounds, List.map_map]
  exact nodup_map_prepared _ (fun _ _ => inboundTag_index) proxies

theorem generateOutbounds_tags (proxies : List ProxyConfig) :
    ((generateOutbounds unmarshal (prepareProxyConfigs digest proxies)).map
      (·.tag)).Nodup := by
  have hown := @nodup_map_prepared digest _ outboundTag
    (fun _ _ => outboundTag_index) proxies
  have hbuilt : ∀ tag : Text, '_' ∉ tag →
      tag ∉ (prepareProxyConfigs digest proxies).map outboundTag := by
    intro tag htag hmem
    obtain ⟨node, -, hsame⟩ := List.mem_map.mp hmem
    exact outboundTag_ne htag node hsame
  simp only [generateOutbounds, List.map_map, List.map_cons,
    List.cons_append, List.nil_append, List.nodup_cons]
  refine ⟨?_, hbuilt _ (by decide), hown⟩
  rw [List.mem_cons, not_or]
  exact ⟨by decide, hbuilt _ (by decide)⟩

/-- The inbound of a node leads to the node's outbound. -/
theorem outboundOf_own (proxies : List ProxyConfig) (startPort : Int)
    (logLevel : Text) {node : ProxyConfig}
    (h : node ∈ prepareProxyConfigs digest proxies)
    (sniffed : Option Sniffed) :
    (generateConfig unmarshal (prepareProxyConfigs digest proxies) startPort
      logLevel).outboundOf ⟨inboundTag node, sniffed⟩ =
      some (generateProxyOutbound unmarshal node) := by
  have hrule : (prepareProxyConfigs digest proxies).find?
      (fun other => inboundTag other = inboundTag node) = some node :=
    find?_of_nodup
      (nodup_map_prepared _ (fun _ _ => inboundTag_index) proxies) h
  have hown : generateProxyOutbound unmarshal node ∈
      generateOutbounds unmarshal (prepareProxyConfigs digest proxies) :=
    List.mem_append_right _ (List.mem_map_of_mem h)
  simp only [XrayConfig.outboundOf, generateConfig, generateRouting]
  rw [List.find?_cons]
  simp only [matches_dns, List.find?_map, Function.comp_def, matches_own,
    hrule, Option.map_some, Option.bind_some]
  exact find?_of_nodup (generateOutbounds_tags proxies) hown

/-- Each probe port reaches its own node. -/
theorem generateConfig_reachesOwn (unmarshal : Text → Option Json)
    (digest : Text → Text) (proxies : List ProxyConfig) (startPort : Int)
    (logLevel : Text) :
    ReachesOwn unmarshal
      (generateConfig unmarshal (prepareProxyConfigs digest proxies) startPort
        logLevel)
      startPort (prepareProxyConfigs digest proxies) where
  inboundTags := generateConfig_inboundTags proxies startPort
  outboundTags := generateOutbounds_tags proxies
  notBuiltIn node _ tag htag := by
    apply outboundTag_ne
    fin_cases htag <;> decide
  reached i node hnode := by
    have hmem := List.mem_of_getElem? hnode
    have hindex := prepareProxyConfigs_index hnode
    refine ⟨_, List.mem_map_of_mem hmem, by simp only [hindex], ?_, ?_⟩
    · intro other hother hport
      obtain ⟨node', hnode', rfl⟩ := List.mem_map.mp hother
      obtain ⟨j, hj⟩ := List.mem_iff_getElem?.mp hnode'
      have hindex' := prepareProxyConfigs_index hj
      simp only [hindex'] at hport
      obtain rfl : j = i := by omega
      rw [hnode] at hj
      rw [Option.some.inj hj]
    · exact outboundOf_own proxies startPort logLevel hmem

end Reached

end Xray

end XrayChecker

import XrayChecker.Go.Json
import XrayChecker.Xray.Deduplicate
import XrayChecker.Xray.StableIDs

/-
The digest of a candidate configuration.  The texts it is taken of can be
taken apart again, so two candidates with one digest have the same nodes.
-/

namespace XrayChecker.Xray

open Go

/-- A slice of texts, which may be nil. -/
def textsOf : Option (List Text) → Json
  | none => .null
  | some values => .arr (values.map .str)

/-- A map of texts, which may be nil. -/
def entriesOf : Option (List (Text × Text)) → Json
  | none => .null
  | some entries => .obj (entries.map fun e => (e.1, .str e.2))

/-- A member of an object. -/
def member (name : Text) (value : Json) : Text × Json :=
  (name, value)

/-- The fields of a node as `json.Marshal` writes them. -/
def jsonOf (pc : ProxyConfig) : Json :=
  .obj [member "Protocol" (.str pc.protocol), member "Server" (.str pc.server),
    member "Port" (.int pc.port), member "Name" (.str pc.name),
    member "Security" (.str pc.security), member "Type" (.str pc.type),
    member "UUID" (.str pc.uuid), member "Flow" (.str pc.flow),
    member "Encryption" (.str pc.encryption),
    member "HeaderType" (.str pc.headerType), member "Path" (.str pc.path),
    member "Host" (.str pc.host), member "SNI" (.str pc.sni),
    member "Fingerprint" (.str pc.fingerprint),
    member "PublicKey" (.str pc.publicKey), member "ShortID" (.str pc.shortID),
    member "Mode" (.str pc.mode), member "Password" (.str pc.password),
    member "Method" (.str pc.method), member "Level" (.int pc.level),
    member "AlterId" (.int pc.alterId), member "VMessAid" (.int pc.vmessAid),
    member "MultiMode" (.bool pc.multiMode),
    member "ServiceName" (.str pc.serviceName),
    member "IdleTimeout" (.int pc.idleTimeout),
    member "WindowsSize" (.int pc.windowsSize),
    member "AllowInsecure" (.bool pc.allowInsecure),
    member "ALPN" (textsOf pc.alpn), member "Index" (.int pc.index),
    member "Settings" (entriesOf pc.settings),
    member "StableID" (.str pc.stableID),
    member "RawXhttpSettings" (.str pc.rawXhttpSettings),
    member "SubName" (.str pc.subName), member "GroupName" (.str pc.groupName),
    member "SourceID" (.str pc.sourceID)]

/-- `configSignature`. -/
def configSignature (pc : ProxyConfig) : Text :=
  (jsonOf { pc with index := 0 }).render

/-- `\x1e`, between the entries of a fingerprint. -/
def entrySeparator : Text :=
  [Char.ofNat 0x1e]

/-- The entry of a node in a fingerprint. -/
def fingerprintEntry (digest : Text → Text) (pc : ProxyConfig) : Text :=
  copyKey digest pc ++ keySeparator ++ configSignature pc

/-- What tells a node in a candidate: its identity up to letter case and its
signature. -/
def nodeKey (digest : Text → Text) (pc : ProxyConfig) : Text × Text :=
  (copyKey digest pc, configSignature pc)

/-- Two candidates contain the same nodes, each as often. -/
def SameNodes (digest : Text → Text)
    (proxies others : List (Option ProxyConfig)) : Prop :=
  (proxies.reduceOption.map (nodeKey digest)).Perm
    (others.reduceOption.map (nodeKey digest))

/-- What a fingerprint is the digest of. -/
def fingerprintText (digest : Text → Text)
    (proxies : List (Option ProxyConfig)) : Text :=
  join (sortStrings (proxies.reduceOption.map (fingerprintEntry digest)))
    entrySeparator

/-- `ConfigFingerprint`; `sha256` stands for the hex digits of the sum. -/
def configFingerprint (sha256 digest : Text → Text)
    (proxies : List (Option ProxyConfig)) : Text :=
  sha256 (fingerprintText digest proxies)

section Signature

theorem json_str_injective : Function.Injective Json.str :=
  fun _ _ hsame => Json.str.inj hsame

theorem textsOf_injective {x y : Option (List Text)}
    (h : textsOf x = textsOf y) : x = y := by
  rcases x with _ | x <;> rcases y with _ | y
  · rfl
  · cases h
  · cases h
  · rw [List.map_injective_iff.mpr json_str_injective (Json.arr.inj h)]

theorem entriesOf_injective {x y : Option (List (Text × Text))}
    (h : entriesOf x = entriesOf y) : x = y := by
  have hentry : Function.Injective
      fun e : Text × Text => (e.1, Json.str e.2) := by
    rintro ⟨name, value⟩ ⟨name', value'⟩ hsame
    obtain ⟨hname, hvalue⟩ := Prod.mk.inj hsame
    exact Prod.ext hname (json_str_injective hvalue)
  rcases x with _ | x <;> rcases y with _ | y
  · rfl
  · cases h
  · cases h
  · rw [List.map_injective_iff.mpr hentry (Json.obj.inj h)]

theorem jsonOf_injective {a b : ProxyConfig} (h : jsonOf a = jsonOf b) :
    a = b := by
  obtain ⟨⟨⟩, _⟩ := a
  obtain ⟨⟨⟩, _⟩ := b
  simp only [jsonOf, member, Json.obj.injEq, List.cons.injEq, Prod.mk.injEq,
    Json.str.injEq, Json.int.injEq, Json.bool.injEq, true_and, and_true] at h
  simp only [ProxyConfig.mk.injEq, ConnectionOptions.mk.injEq, h, and_self,
    and_true, true_and]
  exact ⟨textsOf_injective (by simp only [h]),
    entriesOf_injective (by simp only [h])⟩

/-- Two nodes with one signature differ in their positions at most. -/
theorem configSignature_injective {a b : ProxyConfig}
    (h : configSignature a = configSignature b) :
    { a with index := 0 } = { b with index := 0 } :=
  jsonOf_injective (Json.render_injective h)

theorem copyKey_of_signature (digest : Text → Text) {a b : ProxyConfig}
    (h : configSignature a = configSignature b) :
    copyKey digest a = copyKey digest b := by
  have hindex : ∀ pc : ProxyConfig,
      copyKey digest pc = copyKey digest { pc with index := 0 } :=
    fun _ => rfl
  rw [hindex a, configSignature_injective h, ← hindex b]

theorem separator_not_mem_signature (pc : ProxyConfig) :
    Char.ofNat 0 ∉ configSignature pc :=
  Json.control_not_mem_render (by decide) _

end Signature

section Entries

variable {digest : Text → Text}

/-- The entry at the end of a text can be read back, and what stands before
it. -/
theorem entry_cancel {front front' : Text} {a b : ProxyConfig}
    (h : front ++ fingerprintEntry digest a =
      front' ++ fingerprintEntry digest b) :
    front = front' ∧ nodeKey digest a = nodeKey digest b := by
  have hfree : ∀ pc : ProxyConfig,
      Char.ofNat 0 ∉ (configSignature pc).reverse := by
    intro pc hmem
    exact separator_not_mem_signature pc (List.mem_reverse.mp hmem)
  have hback := congrArg List.reverse h
  simp only [fingerprintEntry, keySeparator, List.reverse_append,
    List.reverse_cons, List.nil_append, List.append_assoc,
    List.cons_append] at hback
  obtain ⟨hsignature, hfront⟩ :=
    append_cons_cancel (hfree a) (hfree b) hback
  have hsame := List.reverse_injective hsignature
  rw [← List.reverse_append, ← List.reverse_append,
    copyKey_of_signature digest hsame] at hfront
  exact ⟨List.append_cancel_right (List.reverse_injective hfront),
    Prod.ext (copyKey_of_signature digest hsame) hsame⟩

/-- What stands before the last of the entries that are joined. -/
def joinedFront (entries : List Text) : Text :=
  if entries = [] then [] else join entries entrySeparator ++ entrySeparator

theorem join_concat (entries : List Text) (entry : Text) :
    join (entries ++ [entry]) entrySeparator = joinedFront entries ++ entry := by
  induction entries with
  | nil => simp [join, joinedFront]
  | cons first rest ih =>
      rw [joinedFront, if_neg (List.cons_ne_nil _ _)]
      cases rest with
      | nil => simp [join]
      | cons second rest =>
          rw [joinedFront, if_neg (List.cons_ne_nil _ _)] at ih
          simp only [join, List.cons_append, List.intercalate_cons_cons,
            List.append_assoc] at ih ⊢
          rw [ih]

theorem join_of_joinedFront {entries others : List Text}
    (h : joinedFront entries = joinedFront others) :
    join entries entrySeparator = join others entrySeparator := by
  unfold joinedFront at h
  split at h
  · split at h
    · simp_all
    · simp [entrySeparator] at h
  · split at h
    · simp [entrySeparator] at h
    · exact List.append_cancel_right h

/-- The entries can be read back from the text they are joined to. -/
theorem join_entries_injective {nodes others : List ProxyConfig}
    (h : join (nodes.map (fingerprintEntry digest)) entrySeparator =
      join (others.map (fingerprintEntry digest)) entrySeparator) :
    nodes.map (nodeKey digest) = others.map (nodeKey digest) := by
  have hempty : ∀ (front : List ProxyConfig) (last : ProxyConfig),
      join (front.map (fingerprintEntry digest) ++
        [fingerprintEntry digest last]) entrySeparator ≠ [] := by
    intro front last
    simp [join_concat, fingerprintEntry, keySeparator]
  -- The entries are taken off at the end, where the signature has no
  -- separator in it.
  induction nodes using List.reverseRecOn generalizing others with
  | nil =>
      rcases others.eq_nil_or_concat' with rfl | ⟨front, last, rfl⟩
      · rfl
      · rw [List.map_append] at h
        exact absurd h.symm (hempty _ _)
  | append_singleton nodes last ih =>
      rw [List.map_append] at h
      rcases others.eq_nil_or_concat' with rfl | ⟨others, last', rfl⟩
      · exact absurd h (hempty _ _)
      · rw [List.map_append, List.map_cons, List.map_nil, List.map_cons,
          List.map_nil, join_concat, join_concat] at h
        obtain ⟨hfront, hlast⟩ := entry_cancel h
        simp only [List.map_append, List.map_cons, List.map_nil, hlast,
          ih (join_of_joinedFront hfront)]

/-- The nodes in the order of their entries. -/
theorem sortStrings_entries (nodes : List ProxyConfig) :
    sortStrings (nodes.map (fingerprintEntry digest)) =
      (nodes.insertionSort fun a b =>
        fingerprintEntry digest a ≤ fingerprintEntry digest b).map
          (fingerprintEntry digest) :=
  (List.map_insertionSort _ (· ≤ ·) (fingerprintEntry digest) nodes
    fun _ _ _ _ => Iff.rfl).symm

/-- Two candidates with one text under the fingerprint have the same nodes. -/
theorem fingerprintText_sameNodes {proxies others : List (Option ProxyConfig)}
    (h : fingerprintText digest proxies = fingerprintText digest others) :
    SameNodes digest proxies others := by
  rw [fingerprintText, fingerprintText, sortStrings_entries,
    sortStrings_entries] at h
  have hsorted := join_entries_injective h
  have hperm := (List.perm_insertionSort (fun a b =>
    fingerprintEntry digest a ≤ fingerprintEntry digest b)
      proxies.reduceOption).map (nodeKey digest)
  rw [hsorted] at hperm
  exact hperm.symm.trans ((List.perm_insertionSort _ _).map _)

/-- The order of the nodes is not in the fingerprint. -/
theorem fingerprintText_perm {proxies others : List (Option ProxyConfig)}
    (h : proxies.Perm others) :
    fingerprintText digest proxies = fingerprintText digest others := by
  have hentries := (h.filterMap id).map (fingerprintEntry digest)
  have hsorted : sortStrings (proxies.reduceOption.map
      (fingerprintEntry digest)) =
      sortStrings (others.reduceOption.map (fingerprintEntry digest)) :=
    List.Perm.eq_of_pairwise' (List.pairwise_insertionSort _ _)
      (List.pairwise_insertionSort _ _)
      ((List.perm_insertionSort _ _).trans
        (hentries.trans (List.perm_insertionSort _ _).symm))
  rw [fingerprintText, fingerprintText, hsorted]

end Entries

end XrayChecker.Xray

import XrayChecker.Probeagent.Changes

/-
Replay protection over whole runs: who an accepted request is from, how often
it is accepted, and what one enrollment token is good for.
-/

namespace XrayChecker.Probeagent

open Go Machine

section Log

variable {Addr β : Type}

/-- What an entry says of the identity key of its agent, if anything. -/
def Entry.keyAfter : Entry Addr → Option (Option Bytes)
  | .created _ _ _ | .reissued _ _ | .withdrawn _ => some none
  | .enrolled _ _ key => some (some key)
  | .accepted _ _ _ => none

/-- What an entry says of the open enrollment token of its agent. -/
def Entry.tokenAfter : Entry Addr → Option (Option Text)
  | .created _ token _ => some (some token)
  | .reissued _ token => some (some token)
  | .withdrawn _ | .enrolled _ _ _ => some none
  | .accepted _ _ _ => none

/-- The address an entry ties its agent to. -/
def Entry.sourceAfter : Entry Addr → Option Text
  | .created _ _ expectedSourceIP => some expectedSourceIP
  | _ => none

/-- The latest word of the log on an agent. -/
def latest (word : Entry Addr → Option β) (log : List (Entry Addr))
    (id : Text) : Option β :=
  log.findSome? fun entry => if entry.agentID = id then word entry else none

/-- The identity key enrolled for an agent at the end of the log. -/
def enrolledKey (log : List (Entry Addr)) (id : Text) : Option Bytes :=
  (latest Entry.keyAfter log id).join

/-- The enrollment token an agent may still use. -/
def openToken (log : List (Entry Addr)) (id : Text) : Option Text :=
  (latest Entry.tokenAfter log id).join

/-- The address an agent has to call from. -/
def expectedSource (log : List (Entry Addr)) (id : Text) : Option Text :=
  latest Entry.sourceAfter log id

def acceptedRequests (log : List (Entry Addr)) : List SignedRequest :=
  log.filterMap fun
    | .accepted request _ _ => some request
    | _ => none

def issuedTokens (log : List (Entry Addr)) : List Text :=
  log.filterMap fun
    | .created _ token _ => some token
    | .reissued _ token => some token
    | _ => none

def enrolledTokens (log : List (Entry Addr)) : List Text :=
  log.filterMap fun
    | .enrolled _ token _ => some token
    | _ => none

theorem latest_cons_of_ne {word : Entry Addr → Option β} {entry : Entry Addr}
    {older : List (Entry Addr)} {id : Text} (h : entry.agentID ≠ id) :
    latest word (entry :: older) id = latest word older id := by
  simp [latest, h]

theorem latest_cons_of_none {word : Entry Addr → Option β}
    {entry : Entry Addr} {older : List (Entry Addr)} {id : Text}
    (h : word entry = none) :
    latest word (entry :: older) id = latest word older id := by
  simp [latest, h]

theorem latest_cons_of_some {word : Entry Addr → Option β}
    {entry : Entry Addr} {older : List (Entry Addr)} {value : β}
    (h : word entry = some value) :
    latest word (entry :: older) entry.agentID = some value := by
  simp [latest, h]

end Log

section

variable {Addr : Type} [DecidableEq Addr] (primitives : Primitives Addr)

/-- What the log says of a record of the registry. -/
structure Known (log : List (Entry Addr)) (id : Text) (record : AgentRecord) :
    Prop where
  agentID : record.agentID = id
  key : record.enabled = true → record.identityPublicKey ≠ [] →
    enrolledKey log id = some record.identityPublicKey
  token : record.enrollmentTokenHash ≠ [] →
    ∃ token, openToken log id = some token ∧
      record.enrollmentTokenHash = primitives.tokenDigest token
  source : expectedSource log id = some record.expectedSourceIP

/-- The counter of a record is past every request accepted under its key. -/
def Counted (log : List (Entry Addr)) (id : Text) (record : AgentRecord) :
    Prop :=
  record.identityPublicKey ≠ [] → ∀ request key sourceIP,
    Entry.accepted request key sourceIP ∈ log →
    request.agentID = id → key = record.identityPublicKey →
    request.sequence ≤ record.lastSequence

end

section

variable {Addr : Type} [DecidableEq Addr] {primitives : Primitives Addr}
  {world : World Addr} {event : Event Addr}

/-- A property of the records, in memory and in the file alike. -/
def Everywhere (property : List (Entry Addr) → Text → AgentRecord → Prop)
    (world : World Addr) : Prop :=
  (∀ (id : Text) (record : AgentRecord),
    world.store.agents[id]? = some record → property world.log id record) ∧
  ∀ file : RegistryFile, world.store.file = some file →
    ∀ (id : Text) (record : AgentRecord),
      file.agents[id]? = some record → property world.log id record

/-- A property of the records holds on if it survives decoding, an entry about
another agent, and every record an operation writes. -/
theorem Change.everywhere
    {property : List (Entry Addr) → Text → AgentRecord → Prop}
    {next : World Addr} (hchange : Change primitives world event next)
    (hbefore : Everywhere property world)
    (hdecoded : ∀ (log : List (Entry Addr)) (id : Text)
      (record kept : AgentRecord), record.agentID = id →
      record = { kept with
        agentID := record.agentID, capabilities := record.capabilities } →
      property log id kept → property log id record)
    (hother : ∀ (log : List (Entry Addr)) (entry : Entry Addr) (id : Text)
      (record : AgentRecord), entry.agentID ≠ id → property log id record →
      property (entry :: log) id record)
    (hwritten : ∀ (entry : Entry Addr) (record : AgentRecord),
      Wrote primitives world event entry (some record) →
      property (entry :: world.log) entry.agentID record) :
    Everywhere property next := by
  cases hchange with
  | quiet hlog hfile hagents =>
      unfold Everywhere
      rw [hlog, hfile, hagents]
      exact hbefore
  | reloaded hlog hfile hagents =>
      refine ⟨?_, ?_⟩
      · intro id record hrecord
        obtain ⟨file, kept, hkept, hget, hid, hsame⟩ :=
          hagents id record hrecord
        rw [hlog]
        exact hdecoded _ id record kept hid hsame
          (hbefore.2 file hkept id kept hget)
      · rw [hlog, hfile]
        exact hbefore.2
  | @wrote file entry written hwrote hlog hfile hagents hnext =>
      have hrecords : ∀ (id : Text) (record : AgentRecord),
          file.agents[id]? = some record →
          property (entry :: world.log) id record := by
        intro id record hrecord
        rw [hnext, GoMap.get_set] at hrecord
        by_cases hid : entry.agentID = id
        · rw [if_pos hid] at hrecord
          subst hrecord
          subst hid
          exact hwritten entry record hwrote
        · rw [if_neg hid] at hrecord
          exact hother _ _ id record hid (hbefore.1 id record hrecord)
      refine ⟨?_, ?_⟩
      · rw [hlog, hagents]
        exact hrecords
      · intro file' hfile'
        rw [hfile] at hfile'
        cases hfile'
        rw [hlog]
        exact hrecords

theorem Change.known {next : World Addr}
    (hchange : Change primitives world event next)
    (hbefore : Everywhere (Known primitives) world) :
    Everywhere (Known primitives) next := by
  refine hchange.everywhere hbefore ?_ ?_ ?_
  · intro log id record kept hid hsame hkept
    rw [hsame]
    exact ⟨hid, hkept.key, hkept.token, hkept.source⟩
  · intro log entry id record hother hrecord
    refine ⟨hrecord.agentID, ?_, ?_, ?_⟩
    · simpa only [enrolledKey, latest_cons_of_ne hother] using hrecord.key
    · simpa only [openToken, latest_cons_of_ne hother] using hrecord.token
    · simpa only [expectedSource, latest_cons_of_ne hother] using
        hrecord.source
  · intro entry record hwrote
    cases hwrote with
    | created request outside record token hissued hkey htoken =>
        refine ⟨rfl, fun _ hne => absurd hkey hne, fun _ => ⟨token, ?_, htoken⟩,
          ?_⟩
        · simp [openToken, latest, Entry.agentID, Entry.tokenAfter]
        · simp [expectedSource, latest, Entry.agentID, Entry.sourceAfter]
    | reissued agentID outside previous token hissued hfound =>
        have hprevious := hbefore.1 _ _ hfound
        refine ⟨hprevious.agentID, fun _ hne => absurd rfl hne,
          fun _ => ⟨token, ?_, rfl⟩, ?_⟩
        · simp [openToken, latest, Entry.agentID, Entry.tokenAfter]
        · rw [expectedSource, latest_cons_of_none rfl]
          exact hprevious.source
    | revoked agentID outside previous hfound =>
        have hprevious := hbefore.1 _ _ hfound
        refine ⟨hprevious.agentID, fun henabled => ?_, fun hne =>
          absurd rfl hne,
          ?_⟩
        · simp [Store.revokedRecord] at henabled
        · rw [expectedSource, latest_cons_of_none rfl]
          exact hprevious.source
    | enrolled request sourceIP outside previous hfound hallowed =>
        have hprevious := hbefore.1 _ _ hfound
        refine ⟨hprevious.agentID, fun _ _ => ?_, fun hne => absurd rfl hne, ?_⟩
        · simp [enrolledKey, latest, Entry.agentID, Entry.keyAfter,
            Store.enrolledRecord]
        · rw [expectedSource, latest_cons_of_none rfl]
          exact hprevious.source
    | accepted endpoint call outside previous record request authentication
        hfound henabled hauth hpayload hsequence hsignature hsame hcounter =>
        have hprevious := hbefore.1 _ _ hfound
        refine ⟨hsame.agentID.trans hprevious.agentID, ?_, ?_, ?_⟩
        · rw [hsame.key, hsame.enabled, enrolledKey, latest_cons_of_none rfl]
          exact hprevious.key
        · rw [hsame.token, openToken, latest_cons_of_none rfl]
          exact hprevious.token
        · rw [hsame.source, expectedSource, latest_cons_of_none rfl]
          exact hprevious.source

omit [DecidableEq Addr] in
theorem Everywhere.keyed (h : Everywhere (Known primitives) world) :
    Keyed world.store :=
  fun id record hrecord => (h.1 id record hrecord).agentID

/-- The signed request is that of the agent enrolled at the time: made with
its identity key, over exactly this request, and sent from its address. -/
def Attested (primitives : Primitives Addr) (older : List (Entry Addr))
    (request : SignedRequest) (key : Bytes) (sourceIP : Option Addr) : Prop :=
  enrolledKey older request.agentID = some key ∧
    (∃ message, controlSigningPayload primitives "POST" request.path
        request.agentID request.timestamp request.sequence request.body =
          some message ∧
      primitives.ed25519.signer request.signature = some (key, message)) ∧
    ∃ expected, expectedSource older request.agentID = some expected ∧
      sourceMatches primitives expected sourceIP = true

/-- What the log before an entry says in its favour. -/
def Grounded (primitives : Primitives Addr) (older : List (Entry Addr)) :
    Entry Addr → Prop
  | .accepted request key sourceIP =>
      Attested primitives older request key sourceIP
  | .enrolled agentID token _ =>
      ∃ issued, openToken older agentID = some issued ∧
        primitives.tokenDigest issued = primitives.tokenDigest token
  | _ => True

/-- What the test of a signed request has made sure of. -/
theorem authenticated_spec {record : AgentRecord}
    {authentication : Store.Authentication Addr}
    (h : Store.authenticated primitives record authentication = .ok ()) :
    sourceMatches primitives record.expectedSourceIP authentication.sourceIP =
        true ∧
      record.identityPublicKey ≠ [] ∧
      record.lastSequence < authentication.sequence ∧
      primitives.ed25519.signer authentication.signature =
        some (record.identityPublicKey, authentication.payload) := by
  unfold Store.authenticated at h
  split at h
  · cases h
  · rename_i hsource
    split at h
    · cases h
    · rename_i hkey
      split at h
      · cases h
      · rename_i hsequence
        split at h
        · cases h
        · rename_i hverify
          simp only [Bool.or_eq_true, decide_eq_true_eq, not_or,
            Bool.not_eq_true', Bool.not_eq_false] at hkey hverify
          exact ⟨by simpa using hsource, hkey.1, Nat.lt_of_not_le hsequence,
            primitives.ed25519.unforgeable hverify.2⟩

theorem Wrote.grounded {entry : Entry Addr} {record : Option AgentRecord}
    (hwrote : Wrote primitives world event entry record)
    (hknown : Everywhere (Known primitives) world) :
    Grounded primitives world.log entry := by
  cases hwrote with
  | created request outside record token hissued hkey htoken => trivial
  | reissued agentID outside previous token hissued hfound => trivial
  | revoked agentID outside previous hfound => trivial
  | deleted agentID outside => trivial
  | enrolled request sourceIP outside previous hfound hallowed =>
      have hprevious := hknown.1 _ _ hfound
      unfold Store.enrollable at hallowed
      split at hallowed
      · cases hallowed
      · split at hallowed
        · cases hallowed
        · split at hallowed
          · cases hallowed
          · rename_i hunused
            split at hallowed
            · cases hallowed
            · split at hallowed
              · cases hallowed
              · rename_i hmatch
                push Not at hunused
                obtain ⟨token, hopen, hdigest⟩ := hprevious.token hunused.2
                refine ⟨token, hopen, ?_⟩
                simp only [tokenMatches, Bool.not_eq_true',
                  Bool.and_eq_false_iff,
                  decide_eq_false_iff_not, not_or, not_not] at hmatch
                exact hdigest.symm.trans hmatch.2
  | accepted endpoint call outside previous record request authentication
      hfound henabled hauth hpayload hsequence hsignature hsame hcounter =>
      have hprevious := hknown.1 _ _ hfound
      obtain ⟨hsource, hkey, _, hsigner⟩ := authenticated_spec hauth
      exact ⟨hprevious.key henabled hkey,
        ⟨_, hpayload, hsignature ▸ hsigner⟩,
        ⟨_, hprevious.source, hsource⟩⟩

omit [DecidableEq Addr] in
theorem latest_mem {β : Type} {word : Entry Addr → Option β}
    {log : List (Entry Addr)} {id : Text} {value : β}
    (h : latest word log id = some value) :
    ∃ entry ∈ log, entry.agentID = id ∧ word entry = some value := by
  obtain ⟨entry, hmem, hword⟩ := List.exists_of_findSome?_eq_some h
  split at hword
  · rename_i hid
    exact ⟨entry, hmem, hid, hword⟩
  · cases hword

omit [DecidableEq Addr] in
theorem openToken_issued {log : List (Entry Addr)} {id token : Text}
    (h : openToken log id = some token) : token ∈ issuedTokens log := by
  rw [openToken, Option.join_eq_some_iff] at h
  obtain ⟨entry, hmem, _, hword⟩ := latest_mem h
  rw [issuedTokens, List.mem_filterMap]
  refine ⟨entry, hmem, ?_⟩
  cases entry <;> simp_all [Entry.tokenAfter]

/-- What is assumed of the random generator and of SHA-256: a token that is
issued is new, and no other text has the digest of an issued token. -/
def Assumed (primitives : Primitives Addr) (world : World Addr) :
    Event Addr → Prop
  | .create _ outside | .reissue _ outside =>
      ∀ token ∈ outside.token.toOption, token ∉ issuedTokens world.log
  | .enroll request _ _ =>
      ∀ token ∈ issuedTokens world.log,
        primitives.tokenDigest token =
          primitives.tokenDigest request.enrollmentToken →
        token = request.enrollmentToken
  | _ => True

/-- A request of the agent was accepted under the key. -/
def Entry.UsedKey (agentID : Text) (key : Bytes) : Entry Addr → Prop
  | .accepted request used _ => request.agentID = agentID ∧ used = key
  | _ => False

/-- No enrollment presents an identity key under which a request of the agent
was already accepted. -/
def NewIdentity (world : World Addr) : Event Addr → Prop
  | .enroll request _ _ =>
      ∀ entry ∈ world.log,
        ¬entry.UsedKey (trimSpace request.agentID) request.identityPublicKey
  | _ => True

instance (world : World Addr) (event : Event Addr) :
    Decidable (Assumed primitives world event) := by
  cases event <;> unfold Assumed <;> infer_instance

instance (agentID : Text) (key : Bytes) (entry : Entry Addr) :
    Decidable (entry.UsedKey agentID key) := by
  cases entry <;> unfold Entry.UsedKey <;> infer_instance

instance (world : World Addr) (event : Event Addr) :
    Decidable (NewIdentity world event) := by
  cases event <;> unfold NewIdentity <;> infer_instance

/-- The tokens of the log: each is issued once and enrolls once, and an open
one has enrolled nobody and is open for one agent. -/
structure TokensOnce (log : List (Entry Addr)) : Prop where
  issuedOnce : (issuedTokens log).Nodup
  enrolledOnce : (enrolledTokens log).Nodup
  issued : ∀ token ∈ enrolledTokens log, token ∈ issuedTokens log
  unused : ∀ id token, openToken log id = some token →
    token ∉ enrolledTokens log
  oneAgent : ∀ id id' token, openToken log id = some token →
    openToken log id' = some token → id = id'

omit [DecidableEq Addr] in
/-- Issuing a new token keeps the tokens in order. -/
theorem TokensOnce.issue {log : List (Entry Addr)} (h : TokensOnce log)
    {entry : Entry Addr} {token : Text}
    (hissued : issuedTokens (entry :: log) = token :: issuedTokens log)
    (henrolled : enrolledTokens (entry :: log) = enrolledTokens log)
    (hopen : entry.tokenAfter = some (some token))
    (hfresh : token ∉ issuedTokens log) : TokensOnce (entry :: log) := by
  have hcases : ∀ id value, openToken (entry :: log) id = some value →
      (id = entry.agentID ∧ value = token) ∨ openToken log id = some value := by
    intro id value hvalue
    by_cases hid : entry.agentID = id
    · subst hid
      rw [openToken, latest_cons_of_some hopen] at hvalue
      exact Or.inl ⟨rfl, (Option.some.inj hvalue).symm⟩
    · rw [openToken, latest_cons_of_ne hid] at hvalue
      exact Or.inr hvalue
  refine ⟨?_, henrolled ▸ h.enrolledOnce, ?_, ?_, ?_⟩
  · rw [hissued]
    exact List.nodup_cons.mpr ⟨hfresh, h.issuedOnce⟩
  · intro value hvalue
    rw [henrolled] at hvalue
    rw [hissued]
    exact List.mem_cons_of_mem _ (h.issued value hvalue)
  · intro id value hvalue
    rw [henrolled]
    rcases hcases id value hvalue with ⟨_, rfl⟩ | hold
    · exact fun hmem => hfresh (h.issued _ hmem)
    · exact h.unused id value hold
  · intro id id' value hvalue hvalue'
    rcases hcases id value hvalue with ⟨hid, rfl⟩ | hold
    · rcases hcases id' value hvalue' with ⟨hid', _⟩ | hold'
      · exact hid.trans hid'.symm
      · exact absurd (openToken_issued hold') hfresh
    · rcases hcases id' value hvalue' with ⟨_, rfl⟩ | hold'
      · exact absurd (openToken_issued hold) hfresh
      · exact h.oneAgent id id' value hold hold'

omit [DecidableEq Addr] in
/-- Closing the token of an agent, or leaving it, keeps the tokens in order;
`used` is the token it enrolled with, if it did. -/
theorem TokensOnce.close {log : List (Entry Addr)} (h : TokensOnce log)
    {entry : Entry Addr} {used : Option Text}
    (hissued : issuedTokens (entry :: log) = issuedTokens log)
    (henrolled : enrolledTokens (entry :: log) =
      used.toList ++ enrolledTokens log)
    (hopen : entry.tokenAfter = some none ∨
      (entry.tokenAfter = none ∧ used = none))
    (hused : ∀ token ∈ used, openToken log entry.agentID = some token) :
    TokensOnce (entry :: log) := by
  have hstill : ∀ id token, openToken (entry :: log) id = some token →
      openToken log id = some token ∧ (used = none ∨ id ≠ entry.agentID) := by
    intro id token htoken
    by_cases hid : entry.agentID = id
    · subst hid
      rcases hopen with hclosed | ⟨hkept, hnone⟩
      · rw [openToken, latest_cons_of_some hclosed] at htoken
        cases htoken
      · rw [openToken, latest_cons_of_none hkept] at htoken
        exact ⟨htoken, Or.inl hnone⟩
    · rw [openToken, latest_cons_of_ne hid] at htoken
      exact ⟨htoken, Or.inr (Ne.symm hid)⟩
  refine ⟨hissued ▸ h.issuedOnce, ?_, ?_, ?_, ?_⟩
  · rw [henrolled]
    cases used with
    | none => exact h.enrolledOnce
    | some token =>
        exact List.nodup_cons.mpr ⟨h.unused _ _ (hused token rfl),
          h.enrolledOnce⟩
  · intro token htoken
    rw [henrolled] at htoken
    rw [hissued]
    rcases List.mem_append.mp htoken with hnew | hold
    · exact openToken_issued (hused token (by simpa using hnew))
    · exact h.issued token hold
  · intro id token htoken
    obtain ⟨hold, hother⟩ := hstill id token htoken
    rw [henrolled, List.mem_append, not_or]
    refine ⟨?_, h.unused id token hold⟩
    intro hmem
    have hmem' : used = some token := by simpa using hmem
    rcases hother with hnone | hne
    · rw [hnone] at hmem'
      cases hmem'
    · exact hne (h.oneAgent _ _ token hold (hused token hmem'))
  · intro id id' token htoken htoken'
    exact h.oneAgent id id' token (hstill id token htoken).1
      (hstill id' token htoken').1

theorem Wrote.tokensOnce {entry : Entry Addr} {record : Option AgentRecord}
    (hwrote : Wrote primitives world event entry record)
    (hknown : Everywhere (Known primitives) world)
    (hassumed : Assumed primitives world event) (h : TokensOnce world.log) :
    TokensOnce (entry :: world.log) := by
  have hgrounded := hwrote.grounded hknown
  cases hwrote with
  | created request outside record token hissued hkey htoken =>
      exact h.issue rfl rfl rfl (hassumed token
        (by simp [hissued, Except.toOption]))
  | reissued agentID outside previous token hissued hfound =>
      exact h.issue rfl rfl rfl (hassumed token
        (by simp [hissued, Except.toOption]))
  | revoked agentID outside previous hfound =>
      exact h.close (@rfl _ (issuedTokens world.log))
        (@rfl _ (Option.toList none ++ enrolledTokens world.log)) (Or.inl rfl)
        (by simp)
  | deleted agentID outside =>
      exact h.close (@rfl _ (issuedTokens world.log))
        (@rfl _ (Option.toList none ++ enrolledTokens world.log)) (Or.inl rfl)
        (by simp)
  | enrolled request sourceIP outside previous hfound hallowed =>
      obtain ⟨issued, hopen, hdigest⟩ := hgrounded
      have hsame := hassumed issued (openToken_issued hopen) hdigest
      subst hsame
      refine h.close (@rfl _ (issuedTokens world.log))
        (@rfl _ (Option.toList (some request.enrollmentToken) ++
          enrolledTokens world.log)) (Or.inl rfl) ?_
      intro token htoken
      cases htoken
      exact hopen
  | accepted endpoint call outside previous record request authentication
      hfound henabled hauth hpayload hsequence hsignature hsame hcounter =>
      exact h.close (@rfl _ (issuedTokens world.log))
        (@rfl _ (Option.toList none ++ enrolledTokens world.log))
        (Or.inr ⟨rfl, rfl⟩) (by simp)

theorem Change.counted {next : World Addr}
    (hchange : Change primitives world event next)
    (hnew : NewIdentity world event)
    (hbefore : Everywhere Counted world) : Everywhere Counted next := by
  refine hchange.everywhere hbefore ?_ ?_ ?_
  · intro log id record kept hid hsame hkept
    rw [hsame]
    exact hkept
  · intro log entry id record hother hrecord hkey request key sourceIP hmem hid
    rcases List.mem_cons.mp hmem with hnew | hold
    · subst hnew
      exact absurd hid hother
    · exact hrecord hkey request key sourceIP hold hid
  · intro entry record hwrote hkey request key sourceIP hmem hid hsame
    cases hwrote with
    | created _ _ record token hissued hnokey htoken => exact absurd hnokey hkey
    | reissued agentID outside previous token hissued hfound =>
        exact absurd rfl hkey
    | revoked agentID outside previous hfound =>
        exact hbefore.1 _ _ hfound hkey request key sourceIP
          (by simpa using hmem) hid hsame
    | enrolled enrollment source outside previous hfound hallowed =>
        exact absurd ⟨hid, hsame⟩
          (hnew _ (List.mem_of_ne_of_mem (by simp) hmem))
    | accepted endpoint call outside previous record new authentication hfound
        henabled hauth hpayload hsequence hsignature hagent hcounter =>
        rcases List.mem_cons.mp hmem with hnow | hold
        · cases hnow
          exact Nat.le_of_eq hcounter.symm
        · have hbound := hbefore.1 _ _ hfound (hagent.key ▸ hkey) request key
            sourceIP hold hid (hsame.trans hagent.key)
          have hgrown := (authenticated_spec hauth).2.2.1
          rw [hcounter, ← hsequence]
          omega

/-- The log speaks for each of its entries. -/
def AllGrounded (primitives : Primitives Addr) (log : List (Entry Addr)) :
    Prop :=
  ∀ (newer : List (Entry Addr)) (entry : Entry Addr)
    (older : List (Entry Addr)), log = newer ++ entry :: older →
    Grounded primitives older entry

theorem AllGrounded.cons {log : List (Entry Addr)} {entry : Entry Addr}
    (h : AllGrounded primitives log) (hentry : Grounded primitives log entry) :
    AllGrounded primitives (entry :: log) := by
  intro newer first older hsplit
  cases newer with
  | nil =>
      cases hsplit
      exact hentry
  | cons latest newer =>
      rw [List.cons_append, List.cons.injEq] at hsplit
      exact h newer first older hsplit.2

/-- What every run keeps, whoever enrolls. -/
structure Trusted (primitives : Primitives Addr) (world : World Addr) :
    Prop where
  known : Everywhere (Known primitives) world
  grounded : AllGrounded primitives world.log

theorem Trusted.start (config : RegistryConfig) :
    Trusted primitives (World.start config : World Addr) := by
  refine ⟨⟨?_, ?_⟩, ?_⟩
  · intro id record hrecord
    simp [World.start, Store.agents] at hrecord
  · intro file hfile
    cases hfile
  · intro newer entry older hsplit
    simp [World.start] at hsplit

theorem Trusted.step (h : Trusted primitives world) (event : Event Addr) :
    Trusted primitives (world.step primitives event) := by
  have hchange : Change primitives world event _ :=
    step_change h.known.keyed event
  refine ⟨hchange.known h.known, ?_⟩
  cases hchange with
  | quiet hlog hfile hagents => exact hlog ▸ h.grounded
  | reloaded hlog hfile hagents => exact hlog ▸ h.grounded
  | wrote hwrote hlog hfile hagents hnext =>
      rw [hlog]
      exact h.grounded.cons (hwrote.grounded h.known)

theorem TokensOnce.step (h : TokensOnce world.log)
    (htrusted : Trusted primitives world)
    (hassumed : Assumed primitives world event) :
    TokensOnce (world.step primitives event).log := by
  cases step_change htrusted.known.keyed event with
  | quiet hlog hfile hagents => exact hlog ▸ h
  | reloaded hlog hfile hagents => exact hlog ▸ h
  | wrote hwrote hlog hfile hagents hnext =>
      rw [hlog]
      exact hwrote.tokensOnce htrusted.known hassumed h

/-- The key under which a request was accepted is the one that signed it. -/
theorem AllGrounded.signer {log : List (Entry Addr)}
    (h : AllGrounded primitives log) {request : SignedRequest} {key : Bytes}
    {sourceIP : Option Addr}
    (hmem : Entry.accepted request key sourceIP ∈ log) :
    ∃ message, primitives.ed25519.signer request.signature =
      some (key, message) := by
  obtain ⟨newer, older, hsplit⟩ := List.append_of_mem hmem
  obtain ⟨_, ⟨message, _, hsigner⟩, _⟩ := h newer _ older hsplit
  exact ⟨message, hsigner⟩

/-- A request that is accepted now was never accepted before. -/
theorem Wrote.not_accepted_before {request : SignedRequest} {key : Bytes}
    {sourceIP : Option Addr} {record : Option AgentRecord}
    (hwrote : Wrote primitives world event (.accepted request key sourceIP)
      record)
    (htrusted : Trusted primitives world)
      (hcounted : Everywhere Counted world) :
    request ∉ acceptedRequests world.log := by
  intro hmem
  rw [acceptedRequests, List.mem_filterMap] at hmem
  obtain ⟨entry, hentry, hrequest⟩ := hmem
  cases entry with
  | created _ _ _ => simp at hrequest
  | reissued _ _ => simp at hrequest
  | withdrawn _ => simp at hrequest
  | enrolled _ _ _ => simp at hrequest
  | accepted before used source =>
      simp only [Option.some.injEq] at hrequest
      subst hrequest
      cases hwrote with
      | accepted endpoint call outside previous record before authentication
          hfound henabled hauth hpayload hsequence hsignature hsame hcounter =>
          obtain ⟨_, hkey, hgrown, hsigner⟩ := authenticated_spec hauth
          obtain ⟨message, hused⟩ := htrusted.grounded.signer hentry
          -- One signature has one signer, so that both times the key was this.
          rw [hsignature, hused, Option.some.injEq, Prod.mk.injEq] at hsigner
          have hbound := hcounted.1 _ _ hfound hkey before used source hentry
            rfl hsigner.1
          omega

/-- What runs without reused identities keep besides. -/
structure Accounted (primitives : Primitives Addr) (world : World Addr) :
    Prop where
  trusted : Trusted primitives world
  counted : Everywhere Counted world
  once : (acceptedRequests world.log).Nodup

theorem Accounted.start (config : RegistryConfig) :
    Accounted primitives (World.start config : World Addr) := by
  refine ⟨.start config, ⟨?_, ?_⟩, List.nodup_nil⟩
  · intro id record hrecord
    simp [World.start, Store.agents] at hrecord
  · intro file hfile
    cases hfile

theorem Accounted.step (h : Accounted primitives world)
    (hnew : NewIdentity world event) :
    Accounted primitives (world.step primitives event) := by
  have hchange : Change primitives world event _ :=
    step_change h.trusted.known.keyed event
  refine ⟨h.trusted.step event, hchange.counted hnew h.counted, ?_⟩
  cases hchange with
  | quiet hlog hfile hagents => exact hlog ▸ h.once
  | reloaded hlog hfile hagents => exact hlog ▸ h.once
  | @wrote file entry record hwrote hlog hfile hagents hnext =>
      rw [hlog]
      cases entry with
      | created _ _ _ => exact h.once
      | reissued _ _ => exact h.once
      | withdrawn _ => exact h.once
      | enrolled _ _ _ => exact h.once
      | accepted request key sourceIP =>
          exact List.nodup_cons.mpr
            ⟨hwrote.not_accepted_before h.trusted h.counted, h.once⟩

/-- Over every run of the registry: while nobody enrolls an identity key anew
that has signed accepted requests of the agent, no request is accepted twice;
every accepted request was signed with the key enrolled at the time and came
from the expected address; and a token enrolls once. -/
theorem control_requests_accepted_once (config : RegistryConfig)
    (events : List (Event Addr))
    (hassumed : Admissible (World.step primitives) (Assumed primitives)
      (World.start config) events) :
    (Admissible (World.step primitives) NewIdentity (World.start config)
        events →
      (acceptedRequests
        (run (World.step primitives) (World.start config) events).log).Nodup) ∧
    (∀ newer request key sourceIP older,
      (run (World.step primitives) (World.start config) events).log =
        newer ++ Entry.accepted request key sourceIP :: older →
      Attested primitives older request key sourceIP) ∧
    (enrolledTokens
      (run (World.step primitives) (World.start config) events).log).Nodup := by
  have htokens := run_invariant
    (fun world => Trusted primitives world ∧ TokensOnce world.log) hassumed
    ⟨.start config, List.nodup_nil, List.nodup_nil, by simp [World.start,
      enrolledTokens], by simp [World.start, openToken, latest],
      by simp [World.start, openToken, latest]⟩
    (fun world event h hevent => ⟨h.1.step event, h.2.step h.1 hevent⟩)
  refine ⟨?_, ?_, htokens.2.enrolledOnce⟩
  · intro hnew
    exact (run_invariant (Accounted primitives) hnew (.start config)
      (fun world event h hevent => h.step hevent)).once
  · intro newer request key sourceIP older hsplit
    exact htokens.1.grounded newer _ older hsplit

end

namespace Sample

/-- The bytes of a text, cut or filled up to the length of a digest. -/
def digest (text : Text) : Bytes :=
  (text.map fun c => UInt8.ofNat c.toNat).takeD sha256Size 0

def identityKey : Bytes := List.replicate 32 7
def observationKey : Bytes := List.replicate 32 8

/-- The envelope of the job poll with a sequence number. -/
def envelope (sequence : Nat) : ControlSignatureEnvelope :=
  ⟨"POST", jobPollPath, "agent-1", 1000000000000, sequence, [1]⟩

/-- The signature the agent makes over an envelope. -/
def signature (sequence : Nat) : Bytes :=
  List.replicate 64 (UInt8.ofNat sequence)

/-- A scheme in which the one key has signed two envelopes. -/
def ed25519 : Ed25519 where
  verify key message made :=
    key = identityKey ∧ ((message = envelope 1 ∧ made = signature 1) ∨
      (message = envelope 2 ∧ made = signature 2))
  signer made :=
    if made = signature 1 then some (identityKey, envelope 1)
    else if made = signature 2 then some (identityKey, envelope 2)
    else none
  unforgeable := by
    intro key message made h
    simp only [decide_eq_true_eq] at h
    obtain ⟨rfl, ⟨rfl, rfl⟩ | ⟨rfl, rfl⟩⟩ := h
    · rfl
    · decide

def primitives : Primitives Nat where
  parseAddr text := if text = "203.0.113.40" then some 1
    else if text = "192.0.2.1" then some 2 else none
  unmap := id
  addrText address := if address = 1 then "203.0.113.40" else "192.0.2.1"
  httpsURL url := url = "https://checker.example"
  tokenDigest := digest
  bodyDigest body := body
  decodeHeartbeat _ := none
  decodeControl body := if body = [1] then some ⟨1, "agent-1"⟩ else none
  decodeObservation _ := none
  ed25519 := ed25519

def config : RegistryConfig :=
  { path := "data/diagnostic-agents.json", enabled := true
    enrollmentTTL := defaultEnrollmentTTL
    heartbeatMaxSkew := defaultHeartbeatMaxSkew
    heartbeatIntervalSec := defaultHeartbeatIntervalSec }

def now : Time := 1000000000000

def create : Event Nat :=
  .create
    { displayName := "Probe", expectedSourceIP := "203.0.113.40"
      controllerIP := "192.0.2.1", controllerURL := "https://checker.example" }
    { now := now, agentID := .ok "agent-1", token := .ok "enroll-1" }

def enroll (token : Text) : Event Nat :=
  .enroll
    { protocolVersion := 1, agentID := "agent-1", enrollmentToken := token
      identityPublicKey := identityKey, observationPublicKey := observationKey
      agentVersion := "1.0", capabilities := ["control-v1"] }
    (some 1) { now := now }

/-- The job poll with a sequence number. -/
def poll (sequence : Nat) : Event Nat :=
  .control .jobs
    { method := "POST", sourceIP := some 1, agentID := "agent-1"
      timestamp := some now, sequence := some sequence
      signature := some (signature sequence), body := [1] }
    { now := now }

/-- Two polls with a restart between them. -/
def ordinaryRun : List (Event Nat) :=
  [create, enroll "enroll-1", poll 1, .restart config, poll 2]

/-- The agent is revoked, reissued and enrolled again with the key it had, and
the poll accepted before is sent once more. -/
def replayRun : List (Event Nat) :=
  [create, enroll "enroll-1", poll 1, .revoke "agent-1" { now := now },
    .reissue "agent-1" { now := now, token := .ok "enroll-2" },
    enroll "enroll-2", poll 1]

theorem control_requests_accepted_once_sample :
    (acceptedRequests (run (World.step primitives) (World.start config)
      ordinaryRun).log).length = 2 ∧
    (acceptedRequests (run (World.step primitives) (World.start config)
      ordinaryRun).log).Nodup :=
  ⟨by decide,
    (control_requests_accepted_once config ordinaryRun (by decide)).1
      (by decide)⟩

/-- The same poll is accepted twice. -/
theorem poll_accepted_again :
    Admissible (World.step primitives) (Assumed primitives)
        (World.start config) replayRun ∧
      ¬(acceptedRequests (run (World.step primitives) (World.start config)
        replayRun).log).Nodup := by
  decide

end Sample

end XrayChecker.Probeagent

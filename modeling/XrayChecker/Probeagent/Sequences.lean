import XrayChecker.Probeagent.Client

/-
Replay protection never locks out the honest agent: the count of a request is
in the identity file before it is sent, the registry's counter is that of a
request it accepted, and only the agent signs with its key.
-/

namespace XrayChecker.Probeagent

open Go Machine

section

variable {Addr : Type} [DecidableEq Addr] {primitives : Primitives Addr}
  {world : World Addr}

/-- The counter of a record is that of a request accepted under its key, and an
identity is enrolled before it counts. -/
structure Traced (log : List (Entry Addr)) (id : Text) (record : AgentRecord) :
    Prop where
  unenrolled : record.identityPublicKey = [] → record.lastSequence = 0
  closed : record.enrollmentTokenHash ≠ [] → record.identityPublicKey = []
  traced : record.lastSequence = 0 ∨ ∃ request sourceIP,
    Entry.accepted request record.identityPublicKey sourceIP ∈ log ∧
      request.agentID = id ∧ request.sequence = record.lastSequence

omit [DecidableEq Addr] in
theorem Traced.later {log : List (Entry Addr)} {id : Text}
    {record : AgentRecord} (h : Traced log id record) (entry : Entry Addr) :
    Traced (entry :: log) id record := by
  refine ⟨h.unenrolled, h.closed, h.traced.imp_right ?_⟩
  rintro ⟨request, sourceIP, hmem, hrest⟩
  exact ⟨request, sourceIP, List.mem_cons_of_mem _ hmem, hrest⟩

variable (primitives) in
omit [DecidableEq Addr] in
/-- `Create` adds a record that has neither key nor count, or changes
nothing. -/
theorem create_agents (store : Store) (request : CreateAgentRequest)
    (outside : Outside) :
    (store.create primitives request outside).1.agents = store.agents ∨
    ∃ record : AgentRecord, store.agents[record.agentID]? = none ∧
      record.identityPublicKey = [] ∧ record.lastSequence = 0 ∧
      (store.create primitives request outside).1.agents =
        store.agents.insert record.agentID record := by
  simp only [Store.create]
  split
  · exact Or.inl rfl
  · split
    · exact Or.inl rfl
    · split
      · exact Or.inl rfl
      · rename_i agentID token htokens
        split
        · exact Or.inl rfl
        · rename_i hfresh
          have hnone : store.agents[agentID]? = none := by
            apply Std.ExtTreeMap.getElem?_eq_none
            simpa using hfresh
          set record := store.newRecord primitives
            (store.applyControllerDefaults
              (normalizeCreateRequest primitives request)) agentID token
            outside.now with hrecord
          set agents := store.agents.insert agentID record with hagents'
          have hundo : agents.erase agentID = store.agents :=
            GoMap.erase_insert_of_none hnone record
          rcases hcases : store.persist (Store.withAgents agents outside.now)
              (Store.withAgents (agents.erase agentID)
                store.registry.state.updatedAt) outside with ⟨next, answer⟩
          rcases store.persist_cases (Store.withAgents agents outside.now)
              (Store.withAgents (agents.erase agentID)
                store.registry.state.updatedAt) outside with
            ⟨error, hanswer, -, hagents⟩ | ⟨hanswer, -, hagents⟩
          · rw [hcases] at hanswer hagents
            subst hanswer
            exact Or.inl (hagents.trans hundo)
          · rw [hcases] at hanswer hagents
            subst hanswer
            exact Or.inr ⟨record, hnone, rfl, rfl, hagents⟩

/-- A new record changes nothing for the others. -/
theorem Everywhere.traced_create {next : World Addr}
    {request : CreateAgentRequest} {outside : Outside}
    (h : Everywhere Traced world)
    (hchange : Change primitives world (.create request outside) next)
    (hnext : next.store.agents =
      (world.store.create primitives request outside).1.agents) :
    Everywhere Traced next := by
  cases hchange with
  | quiet hlog hfile hagents =>
      unfold Everywhere
      rw [hlog, hfile, hagents]
      exact h
  | reloaded hlog hfile hagents =>
      refine ⟨?_, by rw [hlog, hfile]; exact h.2⟩
      intro id record hrecord
      obtain ⟨file, kept, hkept, hget, -, hsame⟩ := hagents id record hrecord
      have := h.2 file hkept id kept hget
      rw [hlog, hsame]
      exact ⟨this.unenrolled, this.closed, this.traced⟩
  | @wrote file entry written hwrote hlog hfile hagents _ =>
      have hmemory : ∀ (id : Text) (record : AgentRecord),
          next.store.agents[id]? = some record →
            Traced next.log id record := by
        intro id record hrecord
        rw [hlog]
        rcases create_agents primitives world.store request
            outside with hsame | ⟨added, hfree, hkey, hcount, hadded⟩
        · rw [hnext, hsame] at hrecord
          exact (h.1 id record hrecord).later entry
        · rw [hnext, hadded, GoMap.get_insert] at hrecord
          split at hrecord
          · obtain rfl := Option.some.inj hrecord
            exact ⟨fun _ => hcount, fun _ => hkey, Or.inl hcount⟩
          · exact (h.1 id record hrecord).later entry
      refine ⟨hmemory, ?_⟩
      intro other hother id record hrecord
      obtain rfl : file = other := Option.some.inj (hfile.symm.trans hother)
      exact hmemory id record (hagents ▸ hrecord)

/-- Every other step writes a record without a count, or one whose count is
that of the request accepted now. -/
theorem Everywhere.traced_step (h : Everywhere Traced world)
    (htrusted : Trusted primitives world) (event : Event Addr) :
    Everywhere Traced (world.step primitives event) := by
  have hchange : Change primitives world event _ :=
    step_change htrusted.known.keyed event
  by_cases hcreate : ∃ request outside, event = .create request outside
  · obtain ⟨request, outside, rfl⟩ := hcreate
    refine h.traced_create hchange ?_
    rw [World.step, answered_store]
  · refine hchange.everywhere h ?_ ?_ ?_
    · intro log id record kept _ hsame hkept
      rw [hsame]
      exact ⟨hkept.unenrolled, hkept.closed, hkept.traced⟩
    · intro log entry id record _ hrecord
      exact hrecord.later entry
    · intro entry record hwrote
      cases hwrote with
      | created request outside record token hissued hkey htoken =>
          exact absurd ⟨request, outside, rfl⟩ hcreate
      | reissued agentID outside previous token hissued hfound =>
          exact ⟨fun _ => rfl, fun _ => rfl, Or.inl rfl⟩
      | revoked agentID outside previous hfound =>
          have hprevious := (h.1 _ _ hfound).later
            (.withdrawn (trimSpace agentID))
          exact ⟨hprevious.unenrolled, fun hne => absurd rfl hne,
            hprevious.traced⟩
      | enrolled request sourceIP outside previous hfound hallowed =>
          have hprevious := h.1 _ _ hfound
          have hzero : previous.lastSequence = 0 := by
            apply hprevious.unenrolled
            apply hprevious.closed
            intro hnone
            unfold Store.enrollable at hallowed
            split at hallowed
            · cases hallowed
            · split at hallowed
              · cases hallowed
              · rw [if_pos (Or.inr hnone)] at hallowed
                cases hallowed
          exact ⟨fun _ => hzero, fun hne => absurd rfl hne, Or.inl hzero⟩
      | accepted endpoint call outside previous record request authentication
          hfound henabled hauth hpayload hsequence hsignature hsame hcounter =>
          have hprevious := h.1 _ _ hfound
          have hkey := (authenticated_spec hauth).2.1
          refine ⟨fun hnone => absurd (hsame.key ▸ hnone) hkey, ?_, Or.inr ?_⟩
          · intro hopen
            rw [hsame.key]
            exact hprevious.closed (hsame.token ▸ hopen)
          · exact ⟨request, authentication.sourceIP, by
              rw [hsame.key]
              exact List.mem_cons_self, rfl, hcounter.symm⟩

omit [DecidableEq Addr] in
/-- A handler takes signature and count of the authentication from the
headers. -/
theorem parse_headers {call : SignedCall Addr} {agentID path : Text}
    {authentication : Store.Authentication Addr}
    (h : parseProbeControlAuthentication primitives call agentID path =
      some authentication) :
    call.signature = some authentication.signature ∧
      call.sequence = some authentication.sequence := by
  unfold parseProbeControlAuthentication at h
  split at h
  · rename_i hsequence hsignature
    simp only at h
    split at h
    · cases h
    · split at h
      · cases h
      · cases h
        exact ⟨hsignature, hsequence⟩
  · cases h

/-- An accepted request carries the signature of the call. -/
theorem handle_signature {endpoint : Endpoint} {store : Store}
    {call : SignedCall Addr} {outside : Outside} {request : SignedRequest}
    (h : (endpoint.handle primitives store call outside).2 = some request) :
    call.signature = some request.signature := by
  simp only [Endpoint.handle] at h
  split at h
  · cases h
  · split at h
    · cases h
    · split at h
      · cases h
      · rename_i authentication hparse
        split at h
        · cases h
        · obtain rfl := Option.some.inj h
          exact (parse_headers hparse).1

/-- A request that is in the log after a step was there before it, or was
accepted off the call now. -/
theorem accepted_of_step (hkeyed : Keyed world.store) {event : Event Addr}
    {request : SignedRequest} {key : Bytes} {sourceIP : Option Addr}
    (h : Entry.accepted request key sourceIP ∈
      (world.step primitives event).log) :
    Entry.accepted request key sourceIP ∈ world.log ∨
      ∃ endpoint call outside, event = .control endpoint call outside ∧
        call.signature = some request.signature := by
  have hchange : Change primitives world event _ := step_change hkeyed event
  cases event with
  | control endpoint call outside =>
      simp only [World.step] at h
      split at h
      · exact Or.inl h
      · rename_i store accepted hhandled
        rcases List.mem_cons.mp h with hnew | hold
        · obtain ⟨rfl, -, -⟩ := Entry.accepted.inj hnew
          refine Or.inr ⟨endpoint, call, outside, rfl, ?_⟩
          exact handle_signature (congrArg Prod.snd hhandled)
        · exact Or.inl hold
  | _ =>
      left
      cases hchange with
      | quiet hlog _ _ => rwa [hlog] at h
      | reloaded hlog _ _ => rwa [hlog] at h
      | wrote hwrote hlog _ _ _ =>
          rw [hlog] at h
          rcases List.mem_cons.mp h with hnew | hold
          · subst hnew
            cases hwrote
          · exact hold

section Refusals

variable {store : Store} {authentication : Store.Authentication Addr}

variable (primitives) in
theorem authenticated_ne_replay {record : AgentRecord}
    (h : record.lastSequence < authentication.sequence) :
    Store.authenticated primitives record authentication ≠
      .error .controlReplay := by
  unfold Store.authenticated
  rw [if_neg (Nat.not_le.mpr h)]
  split_ifs <;> rintro ⟨⟩

/-- A write that fails is no replay. -/
theorem replaceRecord_ne_replay (previous record : AgentRecord)
    (outside : Outside) :
    (store.replaceRecord previous record outside).2 ≠
      .error .controlReplay := by
  unfold Store.replaceRecord Store.persist
  split <;> nofun

/-- A heartbeat is refused as a replay only by its count. -/
theorem acceptHeartbeat_ne_replay {input : HeartbeatRequest}
    (h : ∀ record : AgentRecord,
      store.agents[trimSpace input.agentID]? = some record →
        record.lastSequence < authentication.sequence) (outside : Outside) :
    (store.acceptHeartbeat primitives input authentication outside).2 ≠
      .error .controlReplay := by
  simp only [Store.acceptHeartbeat]
  split
  · rintro ⟨⟩
  · split
    · rintro ⟨⟩
    · split
      · rintro ⟨⟩
      · split
        · rintro ⟨⟩
        · rename_i previous hfound
          split
          · rintro ⟨⟩
          · have hauth := authenticated_ne_replay primitives
              (h previous hfound)
            split
            · rename_i error herror
              rintro heq
              rw [herror, Except.error.inj heq] at hauth
              exact hauth rfl
            · have hwrite := @replaceRecord_ne_replay store previous
                (Store.heartbeatRecord input previous authentication.sequence
                  outside.now) outside
              revert hwrite
              generalize store.replaceRecord previous _ outside = answer
              rcases answer with ⟨next, error | _⟩
              · intro hwrite heq
                rw [Except.error.inj heq] at hwrite
                exact hwrite rfl
              · rintro _ ⟨⟩

/-- Nor any other request. -/
theorem acceptControlRequest_ne_replay {agentID : Text}
    (h : ∀ record : AgentRecord,
      store.agents[trimSpace agentID]? = some record →
        record.lastSequence < authentication.sequence) (outside : Outside) :
    (store.acceptControlRequest primitives agentID authentication outside).2 ≠
      .error .controlReplay := by
  simp only [Store.acceptControlRequest]
  split
  · rintro ⟨⟩
  · split
    · rintro ⟨⟩
    · split
      · rintro ⟨⟩
      · split
        · rintro ⟨⟩
        · rename_i previous hfound
          split
          · rintro ⟨⟩
          · have hauth := authenticated_ne_replay primitives
              (h previous hfound)
            split
            · rename_i error herror
              rw [herror] at hauth
              exact hauth
            · exact replaceRecord_ne_replay _ _ outside

end Refusals

end

namespace Deployment

section

variable {Addr : Type} [DecidableEq Addr] (primitives : Primitives Addr)
  (publicKey : Bytes → Bytes)

/-- The signature a client makes verifies. -/
def Signs (client : AgentClient) (endpoint : Endpoint) (made : Made) : Prop :=
  ∀ payload, client.nextPayload primitives endpoint made = some payload →
    primitives.ed25519.verify (client.key publicKey) payload made.signature =
      true

/-- A generated key is new. -/
def FreshKey (w : Deployment Addr) (key : Bytes) : Prop :=
  key ∉ w.generated ∧
    ∀ request sourceIP, Entry.accepted request key sourceIP ∉ w.registry.log

/-- Only the agents sign with their keys. -/
def NotForged (w : Deployment Addr) (signature : Option Bytes) : Prop :=
  ∀ made key payload, signature = some made →
    primitives.ed25519.signer made = some (key, payload) →
    key ∈ w.generated → ∃ sent ∈ w.sent, sent.request.signature = made

/-- What is assumed of Ed25519 and the random generator. -/
def Honest (w : Deployment Addr) : Move Addr → Prop
  | .start dir _ _ generated _ =>
      w.files[dir]? = none → w.FreshKey (publicKey generated.1)
  | .turn dir made _ =>
      ∀ client, w.clients[dir]? = some client →
        client.phase = .recovering ∨ client.phase = .greeting →
          Signs primitives publicKey client .heartbeat made
  | .post dir endpoint made _ =>
      ∀ client, w.clients[dir]? = some client →
        Signs primitives publicKey client endpoint made
  | .registry (.control _ call _) => w.NotForged primitives call.signature
  | _ => True

/-- The counts of memory, file, wire and registry fit together. -/
structure Paired (w : Deployment Addr) : Prop where
  trusted : Trusted primitives w.registry
  traced : Everywhere Traced w.registry
  generated : ∀ (dir : Nat) (file : IdentityFile),
    w.files[dir]? = some file →
      publicKey file.identityPrivateKey ∈ w.generated
  bounded : ∀ (dir : Nat) (file : IdentityFile), w.files[dir]? = some file →
    ∀ sent ∈ w.sent, sent.key = publicKey file.identityPrivateKey →
      sent.request.sequence ≤ file.nextSequence
  own : ∀ (dir dir' : Nat) (file file' : IdentityFile),
    w.files[dir]? = some file → w.files[dir']? = some file' →
      publicKey file.identityPrivateKey = publicKey file'.identityPrivateKey →
        dir = dir'
  clients : ∀ (dir : Nat) (client : AgentClient), w.clients[dir]? =
    some client →
    ∃ file : IdentityFile, w.files[dir]? = some file ∧
      file.nextSequence ≤ client.identity.nextSequence ∧
      client.identity =
        { file with nextSequence := client.identity.nextSequence }
  known : ∀ sent ∈ w.sent, sent.key ∈ w.generated
  positive : ∀ sent ∈ w.sent, 0 < sent.request.sequence
  ordered : w.sent.Pairwise fun later earlier =>
    later.key = earlier.key → earlier.request.sequence < later.request.sequence
  signed : ∀ sent ∈ w.sent, ∃ payload : ControlSignatureEnvelope,
    primitives.ed25519.signer sent.request.signature =
        some (sent.key, payload) ∧
      payload.sequence = sent.request.sequence
  honest : ∀ (request : SignedRequest) (key : Bytes) (sourceIP : Option Addr),
    Entry.accepted request key sourceIP ∈ w.registry.log →
      key ∈ w.generated →
        ∃ sent ∈ w.sent, sent.request.signature = request.signature

end

section Steps

variable {Addr : Type} [DecidableEq Addr] {primitives : Primitives Addr}
  {publicKey : Bytes → Bytes} {w : Deployment Addr}

namespace Paired

/-- The processes may go on or end. -/
theorem processes (h : w.Paired primitives publicKey)
    {clients : GoMap Nat AgentClient} (enrollments : List EnrollRequest)
    (hclients : ∀ (dir : Nat) (client : AgentClient), clients[dir]? =
      some client →
      ∃ before, w.clients[dir]? = some before ∧
        client.identity = before.identity) :
    Paired primitives publicKey
      { w with clients := clients, enrollments := enrollments } :=
  { h with
    clients := by
      intro dir client hget
      obtain ⟨before, hbefore, hidentity⟩ := hclients dir client hget
      rw [hidentity]
      exact h.clients dir before hbefore }

theorem goOn (h : w.Paired primitives publicKey) (dir : Nat) (phase : Phase) :
    (w.goOn dir phase).Paired primitives publicKey := by
  unfold Deployment.goOn
  split
  · exact h
  · rename_i client hclient
    refine h.processes w.enrollments ?_
    intro other next hget
    rw [GoMap.get_insert] at hget
    split at hget
    · rename_i hdir
      obtain rfl := Option.some.inj hget
      exact ⟨client, hdir ▸ hclient, rfl⟩
    · exact ⟨next, hget, rfl⟩

theorem exit (h : w.Paired primitives publicKey) (dir : Nat) :
    (w.exit dir).Paired primitives publicKey := by
  refine h.processes w.enrollments ?_
  intro other client hget
  rw [GoMap.get_erase] at hget
  split at hget
  · cases hget
  · exact ⟨client, hget, rfl⟩

/-- The registry takes nothing in that the agents did not sign. -/
theorem registry (h : w.Paired primitives publicKey) {event : Event Addr}
    (hevent : ∀ endpoint call outside, event = .control endpoint call outside →
      w.NotForged primitives call.signature) :
    Paired primitives publicKey
      { w with registry := w.registry.step primitives event } :=
  { h with
    trusted := h.trusted.step event
    traced := h.traced.traced_step h.trusted event
    honest := by
      intro request key sourceIP hmem hkey
      rcases accepted_of_step h.trusted.known.keyed hmem with
        hold | ⟨endpoint, call, outside, rfl, hsignature⟩
      · exact h.honest request key sourceIP hold hkey
      · obtain ⟨payload, hsigner⟩ :=
          (h.trusted.step (.control endpoint call outside)).grounded.signer hmem
        exact hevent endpoint call outside rfl _ key payload hsignature hsigner
          hkey }

/-- The identity of a process is written to its file. -/
theorem stored (h : w.Paired primitives publicKey) {dir : Nat}
    {file : IdentityFile} (next : AgentClient) (hfile : w.files[dir]? =
      some file)
    (hkey : next.key publicKey = publicKey file.identityPrivateKey)
    (hcount : file.nextSequence ≤ next.identity.nextSequence) :
    Paired primitives publicKey
      { w with
        files := w.files.insert dir next.identity
        clients := w.clients.insert dir next } := by
  -- the keys of the files stay what they were
  have hfiles : ∀ (other : Nat) (identity : IdentityFile),
      (w.files.insert dir next.identity)[other]? = some identity →
        ∃ before, w.files[other]? = some before ∧
          publicKey identity.identityPrivateKey =
            publicKey before.identityPrivateKey ∧
          before.nextSequence ≤ identity.nextSequence := by
    intro other identity hget
    rw [GoMap.get_insert] at hget
    split at hget
    · rename_i hdir
      obtain rfl := Option.some.inj hget
      exact ⟨file, hdir ▸ hfile, hkey, hcount⟩
    · exact ⟨identity, hget, rfl, le_rfl⟩
  refine
    { h with
      generated := ?_
      bounded := ?_
      own := ?_
      clients := ?_ }
  · intro other identity hget
    obtain ⟨before, hbefore, hsame, -⟩ := hfiles other identity hget
    rw [hsame]
    exact h.generated other before hbefore
  · intro other identity hget sent hsent hown
    obtain ⟨before, hbefore, hsame, hle⟩ := hfiles other identity hget
    exact (h.bounded other before hbefore sent hsent (hown.trans hsame)).trans
      hle
  · intro other other' identity identity' hget hget' hsame
    obtain ⟨before, hbefore, hleft, -⟩ := hfiles other identity hget
    obtain ⟨before', hbefore', hright, -⟩ := hfiles other' identity' hget'
    exact h.own other other' before before' hbefore hbefore'
      (hleft.symm.trans (hsame.trans hright))
  · intro other client hget
    rw [GoMap.get_insert] at hget
    change ∃ kept, (w.files.insert dir next.identity)[other]? = some kept ∧ _
    split at hget
    · rename_i hdir
      obtain rfl := Option.some.inj hget
      exact ⟨next.identity, by rw [GoMap.get_insert, if_pos hdir], le_rfl, rfl⟩
    · rename_i hdir
      obtain ⟨kept, hkept, hrest⟩ := h.clients other client hget
      exact ⟨kept, by rw [GoMap.get_insert, if_neg hdir, hkept], hrest⟩

/-- A request goes on the wire whose count is in the file. -/
theorem sending (h : w.Paired primitives publicKey) {dir : Nat}
    {file : IdentityFile} (sent : Sent) (hfile : w.files[dir]? = some file)
    (hkey : sent.key = publicKey file.identityPrivateKey)
    (hcount : sent.request.sequence ≤ file.nextSequence)
    (hpositive : 0 < sent.request.sequence)
    (hnew : ∀ other ∈ w.sent, other.key = sent.key →
      other.request.sequence < sent.request.sequence)
    (hsigned : ∃ payload : ControlSignatureEnvelope,
      primitives.ed25519.signer sent.request.signature =
          some (sent.key, payload) ∧
        payload.sequence = sent.request.sequence) :
    Paired primitives publicKey { w with sent := sent :: w.sent } :=
  { h with
    bounded := by
      intro other identity hget made hmade hown
      rcases List.mem_cons.mp hmade with rfl | hold
      · obtain rfl := h.own dir other file identity hfile hget
          (hkey.symm.trans hown)
        rw [hfile] at hget
        rw [← Option.some.inj hget]
        exact hcount
      · exact h.bounded other identity hget made hold hown
    known := by
      intro made hmade
      rcases List.mem_cons.mp hmade with rfl | hold
      · rw [hkey]
        exact h.generated dir file hfile
      · exact h.known made hold
    positive := by
      intro made hmade
      rcases List.mem_cons.mp hmade with rfl | hold
      · exact hpositive
      · exact h.positive made hold
    ordered := List.pairwise_cons.mpr
      ⟨fun earlier hearlier hsame => hnew earlier hearlier hsame.symm,
        h.ordered⟩
    signed := by
      intro made hmade
      rcases List.mem_cons.mp hmade with rfl | hold
      · exact hsigned
      · exact h.signed made hold
    honest := by
      intro request key sourceIP hmem hknown
      obtain ⟨made, hmade, hsame⟩ := h.honest request key sourceIP hmem hknown
      exact ⟨made, List.mem_cons_of_mem _ hmade, hsame⟩ }

/-- What `ControlSigningPayload` binds. -/
theorem payload_sequence {Addr : Type} {primitives : Primitives Addr}
    {method path agentID : Text} {timestamp : Time} {sequence : Nat}
    {body : Bytes} {payload : ControlSignatureEnvelope}
    (h : controlSigningPayload primitives method path agentID timestamp sequence
      body = some payload) : payload.sequence = sequence := by
  simp only [controlSigningPayload] at h
  split at h
  · cases h
  · rw [← Option.some.inj h]

/-- A request is counted, the count is written, and the request is sent. -/
theorem post (h : w.Paired primitives publicKey) {dir : Nat}
    {client : AgentClient}
    {endpoint : Endpoint} {made : Made} (hclient : w.clients[dir]? =
      some client)
    (hsigns : Signs primitives publicKey client endpoint made) :
    (w.post primitives publicKey dir client endpoint made).1.Paired primitives
        publicKey ∧
      ∀ request,
        (w.post primitives publicKey dir client endpoint made).2 =
            some request →
          ∃ sent ∈ (w.post primitives publicKey dir client endpoint
            made).1.sent,
            sent.request = request := by
  obtain ⟨file, hfile, hle, hidentity⟩ := h.clients dir client hclient
  have hkey : client.key publicKey = publicKey file.identityPrivateKey := by
    rw [AgentClient.key, hidentity]
  simp only [Deployment.post]
  split
  · exact ⟨h, nofun⟩
  · split
    · refine ⟨?_, nofun⟩
      refine { h with clients := ?_ }
      intro other next hget
      rw [GoMap.get_insert] at hget
      split at hget
      · rename_i hdir
        obtain rfl := Option.some.inj hget
        refine ⟨file, hdir ▸ hfile, hle.trans (Nat.le_succ _), ?_⟩
        simp only [AgentClient.counted]
        rw [hidentity]
      · exact h.clients other next hget
    · have hstored := h.stored client.counted hfile hkey
        (hle.trans (Nat.le_succ _))
      split
      · exact ⟨hstored, nofun⟩
      · rename_i payload hpayload
        refine ⟨?_, ?_⟩
        · have hwritten : (w.files.insert dir client.counted.identity)[dir]? =
              some client.counted.identity :=
            (GoMap.get_insert _ _ _ _).trans (if_pos rfl)
          refine hstored.sending
            ⟨client.key publicKey, client.nextRequest endpoint made⟩ hwritten
            rfl le_rfl (Nat.succ_pos _) ?_ ?_
          · intro other hother hsame
            have := h.bounded dir file hfile other hother
              (hsame.trans hkey)
            exact Nat.lt_succ_of_le (this.trans hle)
          · exact ⟨payload,
              primitives.ed25519.unforgeable (hsigns payload hpayload),
              payload_sequence hpayload⟩
        · intro request hrequest
          obtain rfl := Option.some.inj hrequest
          exact ⟨_, List.mem_cons_self, rfl⟩

/-- The request and its answer. -/
theorem exchange (h : w.Paired primitives publicKey) {dir : Nat}
    {client : AgentClient} {endpoint : Endpoint} {made : Made}
    (hclient : w.clients[dir]? = some client)
    (hsigns : Signs primitives publicKey client endpoint made)
    (reached : Option (Reached Addr)) :
    (w.exchange primitives publicKey dir client endpoint made reached).1.Paired
      primitives publicKey := by
  obtain ⟨hposted, hwire⟩ := h.post hclient hsigns
  simp only [Deployment.exchange]
  cases hrequest : (w.post primitives publicKey dir client endpoint made).2 with
  | none => simpa only [answer] using hposted
  | some request =>
      cases reached with
      | none => simpa only [answer] using hposted
      | some reached =>
          apply hposted.registry
          rintro _ call _ heq _ _ _ hsignature - -
          obtain ⟨-, rfl, -⟩ := Event.control.inj heq
          obtain ⟨sent, hsent, rfl⟩ := hwire request hrequest
          exact ⟨sent, hsent, Option.some.inj hsignature⟩

theorem markTurn (h : w.Paired primitives publicKey) {dir : Nat}
    {client : AgentClient} (hclient : w.clients[dir]? = some client)
      (made : Made) :
    (w.markTurn dir client made).Paired primitives publicKey := by
  obtain ⟨file, hfile, hle, hidentity⟩ := h.clients dir client hclient
  unfold Deployment.markTurn
  split
  · refine h.stored client.marked hfile ?_ hle
    simp only [AgentClient.key, AgentClient.marked]
    rw [hidentity]
  · exact h.exit dir

theorem turn (h : w.Paired primitives publicKey) {dir : Nat}
    {client : AgentClient}
    {made : Made} (hclient : w.clients[dir]? = some client)
    (hsigns : client.phase = .recovering ∨ client.phase = .greeting →
      Signs primitives publicKey client .heartbeat made)
    (reached : Option (Reached Addr)) :
    (w.turn primitives publicKey dir client made reached).Paired primitives
      publicKey := by
  have hbeat : ∀ next, Signs primitives publicKey client .heartbeat made →
      (w.heartbeatTurn primitives publicKey dir client made reached
        next).Paired primitives publicKey := by
    intro next hsigns
    have hexchange := h.exchange hclient hsigns reached
    simp only [heartbeatTurn]
    split
    · exact hexchange.goOn dir next
    · exact hexchange.exit dir
  unfold Deployment.turn
  cases hphase : client.phase with
  | enrolling =>
      have hposted := @processes _ _ primitives publicKey w h w.clients
        (client.enrollRequest publicKey :: w.enrollments)
        fun _ before hget => ⟨before, hget, rfl⟩
      cases reached with
      | none => exact hposted.goOn dir .recovering
      | some reached =>
        exact (hposted.registry fun _ _ _ heq => by cases heq).goOn dir _
  | recovering => exact hbeat _ (hsigns (Or.inl hphase))
  | marking => exact h.markTurn hclient made
  | greeting => exact hbeat _ (hsigns (Or.inr hphase))
  | connected => exact h

/-- A process begins with what the file of its directory holds. -/
theorem resumed (h : w.Paired primitives publicKey) {dir : Nat}
    {config : ClientConfig} {file : IdentityFile}
    (hfile : w.files[dir]? = some file) :
    (w.started publicKey dir config file).Paired primitives publicKey := by
  have hsame : w.files.insert dir file = w.files := by
    have := GoMap.set_get w.files dir
    rwa [hfile] at this
  have hstarted : w.started publicKey dir config file =
      { w with
        clients := w.clients.set dir ((firstPhase config file).map fun phase =>
          ⟨config, file, phase⟩) } := by
    simp only [Deployment.started, hsame, hfile, Option.isNone_some,
      Bool.false_eq_true, ↓reduceIte]
  rw [hstarted]
  refine { h with clients := ?_ }
  intro other client hget
  rw [GoMap.get_set] at hget
  split at hget
  · rename_i hdir
    obtain ⟨phase, -, rfl⟩ := Option.map_eq_some_iff.mp hget
    exact ⟨file, hdir ▸ hfile, le_rfl, rfl⟩
  · exact h.clients other client hget

/-- A process begins with an identity nobody used before. -/
theorem created (h : w.Paired primitives publicKey) {dir : Nat}
    {config : ClientConfig} {identity : IdentityFile}
    (hnone : w.files[dir]? = none)
    (hfresh : w.FreshKey (publicKey identity.identityPrivateKey)) :
    (w.started publicKey dir config identity).Paired primitives publicKey := by
  have hstarted : w.started publicKey dir config identity =
      { w with
        files := w.files.insert dir identity
        clients := w.clients.set dir ((firstPhase config identity).map
          fun phase => ⟨config, identity, phase⟩)
        generated :=
          publicKey identity.identityPrivateKey :: w.generated } := by
    simp only [Deployment.started, hnone, Option.isNone_none, ↓reduceIte]
  have hunused : ∀ sent ∈ w.sent,
      sent.key ≠ publicKey identity.identityPrivateKey := by
    intro sent hsent hsame
    exact hfresh.1 (hsame ▸ h.known sent hsent)
  have hother : ∀ (other : Nat) (file : IdentityFile),
      w.files[other]? = some file → publicKey file.identityPrivateKey ≠
        publicKey identity.identityPrivateKey := by
    intro other file hfile hsame
    exact hfresh.1 (hsame ▸ h.generated other file hfile)
  have hget : ∀ (other : Nat) (file : IdentityFile),
      (w.files.insert dir identity)[other]? = some file →
        other = dir ∧ file = identity ∨ w.files[other]? = some file := by
    intro other file hfile
    rw [GoMap.get_insert] at hfile
    split at hfile
    · rename_i hdir
      exact Or.inl ⟨hdir.symm, (Option.some.inj hfile).symm⟩
    · exact Or.inr hfile
  rw [hstarted]
  refine
    { h with
      generated := ?_
      bounded := ?_
      own := ?_
      clients := ?_
      known := fun sent hsent => List.mem_cons_of_mem _ (h.known sent hsent)
      honest := ?_ }
  · intro other file hfile
    rcases hget other file hfile with ⟨-, rfl⟩ | hold
    · exact List.mem_cons_self
    · exact List.mem_cons_of_mem _ (h.generated other file hold)
  · intro other file hfile sent hsent hown
    rcases hget other file hfile with ⟨-, rfl⟩ | hold
    · exact absurd hown (hunused sent hsent)
    · exact h.bounded other file hold sent hsent hown
  · intro other other' file file' hfile hfile' hsame
    rcases hget other file hfile with ⟨rfl, rfl⟩ | hold
    · rcases hget other' file' hfile' with ⟨rfl, -⟩ | hold'
      · rfl
      · exact absurd hsame.symm (hother other' file' hold')
    · rcases hget other' file' hfile' with ⟨rfl, rfl⟩ | hold'
      · exact absurd hsame (hother other file hold)
      · exact h.own other other' file file' hold hold' hsame
  · intro other client hclient
    change ∃ file, (w.files.insert dir identity)[other]? = some file ∧ _
    rw [GoMap.get_set] at hclient
    split at hclient
    · rename_i hdir
      obtain ⟨phase, -, rfl⟩ := Option.map_eq_some_iff.mp hclient
      exact ⟨identity, by rw [GoMap.get_insert, if_pos hdir], le_rfl, rfl⟩
    · rename_i hdir
      obtain ⟨file, hfile, hrest⟩ := h.clients other client hclient
      exact ⟨file, by rw [GoMap.get_insert, if_neg hdir, hfile], hrest⟩
  · intro request key sourceIP hmem hkey
    rcases List.mem_cons.mp hkey with rfl | hold
    · exact absurd hmem (hfresh.2 request sourceIP)
    · exact h.honest request key sourceIP hmem hold

theorem step (h : w.Paired primitives publicKey) {move : Move Addr}
    (hmove : w.Honest primitives publicKey move) :
    (w.step primitives publicKey move).Paired primitives publicKey := by
  cases move with
  | start dir config prepared generated written =>
      simp only [Deployment.step]
      split
      · exact h
      · cases hfile : w.files[dir]? with
        | some file =>
            simp only [loadOrCreateIdentity]
            split
            · exact h
            · rename_i identity hload
              split at hload
              · cases hload
              · split at hload
                · cases hload
                · obtain rfl := Option.some.inj hload
                  exact h.resumed hfile
        | none =>
            simp only [loadOrCreateIdentity]
            split
            · exact h
            · rename_i identity hload
              split at hload
              · obtain rfl := Option.some.inj hload
                exact h.created hfile (hmove hfile)
              · cases hload
  | crash dir => exact h.exit dir
  | turn dir made reached =>
      simp only [Deployment.step]
      cases hclient : w.clients[dir]? with
      | none => exact h
      | some client => exact h.turn hclient (hmove client hclient) reached
  | post dir endpoint made reached =>
      simp only [Deployment.step]
      cases hclient : w.clients[dir]? with
      | none => exact h
      | some client =>
          simp only
          split
          · exact h.exchange hclient (hmove client hclient) reached
          · exact h
  | registry event =>
      apply h.registry
      rintro endpoint call outside rfl
      exact hmove

theorem begin (config : RegistryConfig) :
    (Deployment.begin config : Deployment Addr).Paired primitives
      publicKey where
  trusted := .start config
  traced := by
    refine ⟨?_, ?_⟩
    · intro id record hrecord
      simp [Deployment.begin, World.start, Store.agents] at hrecord
    · intro file hfile
      cases hfile
  generated dir file hfile := by simp [Deployment.begin] at hfile
  bounded dir file hfile := by simp [Deployment.begin] at hfile
  own dir dir' file file' hfile := by simp [Deployment.begin] at hfile
  clients dir client hclient := by simp [Deployment.begin] at hclient
  known sent hsent := by cases hsent
  positive sent hsent := by cases hsent
  ordered := List.Pairwise.nil
  signed sent hsent := by cases hsent
  honest request key sourceIP hmem := by cases hmem

end Paired

/-- The request arrives before every one that was sent after it, and was not
accepted before. -/
def InOrder (w : Deployment Addr) (later : List Sent) (sent : Sent) : Prop :=
  ∀ request sourceIP,
    Entry.accepted request sent.key sourceIP ∈ w.registry.log →
      ∀ other ∈ sent :: later, other.key = sent.key →
        request.signature ≠ other.request.signature

/-- The counter the registry holds of an identity is zero, or that of a request
which was sent and accepted. -/
theorem Paired.counter_sent (h : w.Paired primitives publicKey) {id : Text}
    {record : AgentRecord} (hrecord : w.registry.store.agents[id]? =
      some record)
    (hknown : record.identityPublicKey ∈ w.generated) :
    record.lastSequence = 0 ∨
      ∃ request sourceIP, ∃ sent ∈ w.sent,
        Entry.accepted request record.identityPublicKey sourceIP ∈
            w.registry.log ∧
          sent.request.signature = request.signature ∧
          sent.key = record.identityPublicKey ∧
          sent.request.sequence = record.lastSequence := by
  rcases (h.traced.1 id record hrecord).traced with
    hzero | ⟨request, sourceIP, hmem, -, hcount⟩
  · exact Or.inl hzero
  · right
    obtain ⟨sent, hsent, hsignature⟩ := h.honest request _ sourceIP hmem hknown
    -- one signature has one key and one count
    obtain ⟨payload, hsigner, hsequence⟩ := h.signed sent hsent
    obtain ⟨newer, older, hlog⟩ := List.append_of_mem hmem
    obtain ⟨-, ⟨message, hmessage, hsigner'⟩, -⟩ :=
      h.trusted.grounded newer _ older hlog
    rw [← hsignature, hsigner, Option.some.injEq, Prod.mk.injEq] at hsigner'
    obtain ⟨hsame, rfl⟩ := hsigner'
    refine ⟨request, sourceIP, sent, hsent, hmem, hsignature, hsame, ?_⟩
    rw [← hcount, ← Paired.payload_sequence hmessage, hsequence]

/-- It is behind every request that arrives in order. -/
theorem Paired.behind (h : w.Paired primitives publicKey) {id : Text}
    {record : AgentRecord} (hrecord : w.registry.store.agents[id]? =
      some record)
    {later : List Sent} {sent : Sent} {earlier : List Sent}
    (hsplit : w.sent = later ++ sent :: earlier)
    (hkey : record.identityPublicKey = sent.key)
    (horder : w.InOrder later sent) :
    record.lastSequence < sent.request.sequence := by
  have hsent : sent ∈ w.sent := by
    rw [hsplit]
    exact List.mem_append_right _ List.mem_cons_self
  rcases h.counter_sent hrecord (hkey ▸ h.known sent hsent) with
    hzero | ⟨request, sourceIP, other, hother, hmem, hsignature, hsame, hcount⟩
  · rw [hzero]
    exact h.positive sent hsent
  · rw [hkey] at hmem hsame
    have hnotlater : other ∉ sent :: later := by
      intro hlater
      exact horder request sourceIP hmem other hlater hsame hsignature.symm
    have hearlier : other ∈ earlier := by
      rw [hsplit, List.mem_append, List.mem_cons] at hother
      rw [List.mem_cons, not_or] at hnotlater
      rcases hother with hlater | hnow | hbefore
      · exact absurd hlater hnotlater.2
      · exact absurd hnow hnotlater.1
      · exact hbefore
    have hordered := h.ordered
    rw [hsplit, List.pairwise_append, List.pairwise_cons] at hordered
    rw [← hcount]
    exact hordered.2.1.1 other hearlier hsame.symm

/-- Over every run of the agents and the registry, with crashes and failed
writes on both sides: an identity never signs one count twice, and a request
that is signed with the key on record and arrives in order is never refused as
a replay. -/
theorem honest_agent_never_locked_out (config : RegistryConfig)
    (moves : List (Move Addr))
    (hrun : Admissible (Deployment.step primitives publicKey)
      (Deployment.Honest primitives publicKey) (Deployment.begin config)
      moves) :
    let w := run (Deployment.step primitives publicKey)
      (Deployment.begin config) moves
    (w.sent.Pairwise fun later earlier => later.key = earlier.key →
      later.request.sequence ≠ earlier.request.sequence) ∧
    ∀ later sent earlier, w.sent = later ++ sent :: earlier →
      w.InOrder later sent →
      ∀ sourceIP agentID authentication,
        parseProbeControlAuthentication primitives (sent.request.call sourceIP)
            agentID sent.request.path = some authentication →
        (∀ record, w.registry.store.agents[trimSpace agentID]? = some record →
          primitives.ed25519.verify record.identityPublicKey
            authentication.payload authentication.signature = true) →
        ∀ outside,
          (∀ input, trimSpace input.agentID = trimSpace agentID →
            (w.registry.store.acceptHeartbeat primitives input authentication
              outside).2 ≠ .error .controlReplay) ∧
          (w.registry.store.acceptControlRequest primitives agentID
            authentication outside).2 ≠ .error .controlReplay := by
  intro w
  have h : w.Paired primitives publicKey :=
    run_invariant (Deployment.Paired primitives publicKey) hrun (.begin config)
      fun _ _ hpaired hmove => hpaired.step hmove
  refine ⟨h.ordered.imp fun hlt hsame => (hlt hsame).ne', ?_⟩
  intro later sent earlier hsplit horder sourceIP agentID authentication hparse
    hverified outside
  obtain ⟨hsignature, hsequence⟩ := parse_headers hparse
  have hsent : sent ∈ w.sent := by
    rw [hsplit]
    exact List.mem_append_right _ List.mem_cons_self
  obtain ⟨payload, hsigner, -⟩ := h.signed sent hsent
  have hbehind : ∀ record : AgentRecord,
      w.registry.store.agents[trimSpace agentID]? = some record →
        record.lastSequence < authentication.sequence := by
    intro record hrecord
    have hmade := primitives.ed25519.unforgeable (hverified record hrecord)
    rw [← Option.some.inj hsignature, hsigner, Option.some.injEq,
      Prod.mk.injEq] at hmade
    rw [← Option.some.inj hsequence]
    exact h.behind hrecord hsplit hmade.1.symm horder
  refine ⟨?_, acceptControlRequest_ne_replay hbehind outside⟩
  intro input hinput
  exact acceptHeartbeat_ne_replay (hinput.symm ▸ hbehind) outside

end Steps

end Deployment

namespace Sample

/-- The envelope of the agent's heartbeat with a count; the body names the
health. -/
def beat (sequence : Nat) (body : Bytes) : ControlSignatureEnvelope :=
  ⟨"POST", heartbeatPath, generatedID, now, sequence, body⟩

/-- The same with a clock that is ten minutes ahead. -/
def earlyBeat (sequence : Nat) (body : Bytes) : ControlSignatureEnvelope :=
  { beat sequence body with timestamp := now + 600000000000 }

/-- The heartbeats the agent signs, and their signatures. -/
def beats : List (ControlSignatureEnvelope × Bytes) :=
  [(beat 1 [1], signature 1), (beat 2 [1], signature 2),
    (beat 1 [2], signature 3), (earlyBeat 1 [2], signature 4)]

/-- The same agent with heartbeats in place of polls. -/
def agentPrimitives : Primitives Nat :=
  { primitives with
    decodeHeartbeat := fun body =>
      if body = [1] then some ⟨1, generatedID, "1.0", [], "healthy"⟩
      else if body = [2] then some ⟨1, generatedID, "1.0", [], "starting"⟩
      else none
    ed25519 :=
      { verify := fun key message made =>
          key = identityKey ∧ (message, made) ∈ beats
        signer := fun made =>
          if made = signature 1 then some (identityKey, beat 1 [1])
          else if made = signature 2 then some (identityKey, beat 2 [1])
          else if made = signature 3 then some (identityKey, beat 1 [2])
          else if made = signature 4 then some (identityKey, earlyBeat 1 [2])
          else none
        unforgeable := by
          intro key message made h
          obtain ⟨rfl, hmem⟩ := of_decide_eq_true h
          simp only [beats, List.mem_cons, Prod.mk.injEq, List.not_mem_nil,
            or_false] at hmem
          rcases hmem with ⟨rfl, rfl⟩ | ⟨rfl, rfl⟩ | ⟨rfl, rfl⟩ | ⟨rfl, rfl⟩
          · rfl
          · decide
          · decide
          · decide } }

/-- The public halves of the two keys of the identity. -/
def publicKey (key : Bytes) : Bytes :=
  if key.head? = some 1 then identityKey else observationKey

/-- The agent is created. -/
def createAgent : Event Nat :=
  .create
    { displayName := "Probe", expectedSourceIP := "203.0.113.40"
      controllerIP := "192.0.2.1", controllerURL := "https://checker.example" }
    { now := now, agentID := .ok generatedID, token := .ok "enroll-1" }

def agentConfig : ClientConfig where
  agentID := generatedID
  enrollmentToken := "enroll-1"
  agentVersion := "1.0"
  capabilities := []

def identityPair : Bytes × Bytes :=
  (List.replicate 64 1, List.replicate 64 2)

/-- The registry answers from where the agent is expected. -/
def reached : Reached Nat := ⟨some 1, { now := now }⟩

def beating (sequence : Nat) : Made :=
  { now := now, body := [1], signature := signature sequence }

/-- An agent starts, is enrolled and connects; its next heartbeat is on the
way. -/
def beatingRun : List (Move Nat) :=
  [.registry createAgent, .start 0 agentConfig true identityPair true,
    .turn 0 { now := now } (some reached), .turn 0 { now := now } none,
    .turn 0 (beating 1) (some reached), .post 0 .heartbeat (beating 2) none]

abbrev agentStep : Deployment Nat → Move Nat → Deployment Nat :=
  Deployment.step agentPrimitives publicKey

/-- The deployment after the first moves. -/
def after (count : Nat) : Deployment Nat :=
  run agentStep (.begin config) (beatingRun.take count)

theorem signs_of {client : AgentClient} {w : Deployment Nat} {made : Made}
    (payload : ControlSignatureEnvelope)
    (hclient : w.clients[0]? = some client)
    (hkey : (w.clients[0]?).map (AgentClient.key publicKey) = some identityKey)
    (hpayload : (w.clients[0]?).map (fun client =>
      client.nextPayload agentPrimitives .heartbeat made) =
        some (some payload))
    (hmem : (payload, made.signature) ∈ beats) :
    Deployment.Signs agentPrimitives publicKey client .heartbeat made := by
  rw [hclient] at hkey hpayload
  intro payload hnext
  rw [Option.map_some, Option.some.injEq] at hkey hpayload
  rw [hnext, Option.some.injEq] at hpayload
  subst hpayload
  exact decide_eq_true ⟨hkey, hmem⟩

theorem beatingRun_honest :
    Admissible agentStep (Deployment.Honest agentPrimitives publicKey)
      (.begin config) beatingRun := by
  have hquiet : ∀ (made : Made) (reached : Option (Reached Nat))
      (w : Deployment Nat),
      (w.clients[0]?).map AgentClient.phase = some .enrolling ∨
        (w.clients[0]?).map AgentClient.phase = some .marking →
      w.Honest agentPrimitives publicKey (.turn 0 made reached) := by
    intro made reached w hphase client hclient hsigns
    rw [hclient] at hphase
    rcases hphase with hphase | hphase <;> rcases hsigns with h | h <;>
      simp [h] at hphase
  simp only [beatingRun, admissible_cons]
  refine ⟨trivial, fun _ => ⟨?_, ?_⟩, hquiet _ _ _ (Or.inl ?_),
    hquiet _ _ _ (Or.inr ?_),
    ?_, ?_, admissible_nil _⟩
  · change publicKey identityPair.1 ∉ (after 1).generated
    decide
  · intro request sourceIP hmem
    have hnone : acceptedRequests (after 1).registry.log = [] := by
      decide
    have : request ∈ acceptedRequests (after 1).registry.log :=
      List.mem_filterMap.mpr ⟨_, hmem, rfl⟩
    rw [hnone] at this
    cases this
  · change ((after 2).clients[0]?).map AgentClient.phase = some .enrolling
    decide
  · change ((after 3).clients[0]?).map AgentClient.phase = some .marking
    decide
  · intro client hclient _
    change (after 4).clients[0]? = some client at hclient
    exact signs_of (beat 1 [1]) hclient (by decide) (by decide)
      (by decide)
  · intro client hclient
    change (after 5).clients[0]? = some client at hclient
    exact signs_of (beat 2 [1]) hclient (by decide) (by decide)
      (by decide)

/-- The heartbeat as it was sent. -/
def sentBeat (sequence : Nat) : Sent :=
  ⟨identityKey,
    ⟨heartbeatPath, generatedID, now, sequence, [1], signature sequence⟩⟩

/-- The second heartbeat is on the way, the first was accepted. -/
theorem honest_agent_never_locked_out_sample :
    let w := run agentStep (.begin config) beatingRun
    w.sent = [sentBeat 2, sentBeat 1] ∧
      (w.registry.store.acceptHeartbeat agentPrimitives
        ⟨1, generatedID, "1.0", [], "healthy"⟩
        ⟨some 1, now, 2, beat 2 [1], signature 2⟩ { now := now }).2 ≠
          .error .controlReplay := by
  intro w
  have hsent : w.sent = [sentBeat 2, sentBeat 1] := by decide
  have haccepted : (acceptedRequests w.registry.log).map
      SignedRequest.signature = [signature 1] := by decide
  have hkey : (w.registry.store.agents[generatedID]?).map
      AgentRecord.identityPublicKey = some identityKey := by decide
  refine ⟨hsent, ?_⟩
  refine ((Deployment.honest_agent_never_locked_out config beatingRun
    beatingRun_honest).2 [] (sentBeat 2) [sentBeat 1] hsent ?_ (some 1)
    generatedID ⟨some 1, now, 2, beat 2 [1], signature 2⟩ (by rfl) ?_
    { now := now }).1 ⟨1, generatedID, "1.0", [], "healthy"⟩ rfl
  · intro request sourceIP hmem other hother _
    have hrequest : request ∈ acceptedRequests w.registry.log :=
      List.mem_filterMap.mpr ⟨_, hmem, rfl⟩
    have := List.mem_map_of_mem (f := SignedRequest.signature) hrequest
    rw [haccepted, List.mem_singleton] at this
    obtain rfl := List.mem_singleton.mp hother
    rw [this]
    decide
  · intro record hrecord
    rw [show trimSpace generatedID = generatedID from rfl] at hrecord
    rw [hrecord] at hkey
    exact decide_eq_true ⟨Option.some.inj hkey, by decide⟩

end Sample

end XrayChecker.Probeagent

import XrayChecker.Probeagent.Sequences

/-
Enrollment converges on one identity: once the registry has recorded it, every
later start on its directory proves the recorded key with a heartbeat, whatever
was lost before.
-/

namespace XrayChecker.Probeagent

open Go Machine

section Accepting

variable {Addr : Type} [DecidableEq Addr] {primitives : Primitives Addr}
  {store : Store}

theorem sourceMatches_some {expected : Text} {actual : Option Addr}
    (h : sourceMatches primitives expected actual = true) :
    ∃ address, actual = some address := by
  cases actual with
  | none =>
      unfold sourceMatches at h
      split at h
      · contradiction
      · cases h
  | some address => exact ⟨address, rfl⟩

/-- A record that is written to the file. -/
theorem replaceRecord_ok {previous record : AgentRecord} {outside : Outside}
    (hpersisted : outside.persisted = .ok ()) :
    (store.replaceRecord previous record outside).2 = .ok () := by
  unfold Store.replaceRecord Store.persist
  rw [hpersisted]

/-- A signed request passes every test of its record. -/
theorem authenticated_ok {record : AgentRecord}
    {authentication : Store.Authentication Addr}
    (hsource : sourceMatches primitives record.expectedSourceIP
      authentication.sourceIP = true)
    (hkey : record.identityPublicKey.length = publicKeySize)
    (henrolled : record.enrolledAt.isZero = false)
    (hcount : record.lastSequence < authentication.sequence)
    (hlength : authentication.signature.length = signatureSize)
    (hverify : primitives.ed25519.verify record.identityPublicKey
      authentication.payload authentication.signature = true) :
    Store.authenticated primitives record authentication = .ok () := by
  have hne : record.identityPublicKey ≠ [] := by
    intro hnil
    rw [hnil] at hkey
    cases hkey
  simp [Store.authenticated, hsource, hkey, henrolled, hne, hlength, hverify,
    Nat.not_le.mpr hcount]

/-- What a heartbeat needs to be accepted, besides its signature and count. -/
structure Timely (store : Store) (timestamp : Time) (outside : Outside) :
    Prop where
  enabled : store.registry.config.enabled = true
  set : timestamp.isZero = false
  inTime : store.skewed timestamp outside.now = false
  persisted : outside.persisted = .ok ()

theorem acceptHeartbeat_ok {input : HeartbeatRequest} {record : AgentRecord}
    {authentication : Store.Authentication Addr} {outside : Outside}
    (htimely : Timely store authentication.timestamp outside)
    (hversion : input.protocolVersion = protocolVersion)
    (hagent : input.agentID ≠ [])
    (htext : validShortText input.agentVersion 128 = true)
    (hhealth : validHealth input.health = true)
    (hcount : authentication.sequence ≠ 0)
    (hfound : store.agents[trimSpace input.agentID]? = some record)
    (henabled : record.enabled = true)
    (hauth : Store.authenticated primitives record authentication = .ok ()) :
    (store.acceptHeartbeat primitives input authentication outside).2.isOk =
      true := by
  simp only [Store.acceptHeartbeat, htimely.enabled, htimely.set,
    htimely.inTime, hversion, hagent, htext, hhealth, hcount, hfound, henabled,
    hauth]
  have hwritten := @replaceRecord_ok store record
    (Store.heartbeatRecord input record authentication.sequence outside.now)
    outside htimely.persisted
  simp only [Bool.not_true, Bool.false_eq_true, ↓reduceIte, ne_eq,
    not_true_eq_false, decide_false, Bool.or_self]
  revert hwritten
  generalize store.replaceRecord record _ outside = answer
  rcases answer with ⟨next, error | _⟩
  · intro herror
    cases herror
  · intro _
    rfl

/-- An enrollment of an agent whose token is used is refused. -/
theorem enroll_refused {request : EnrollRequest} {sourceIP : Option Addr}
    {outside : Outside} {record : AgentRecord}
    (hfound : store.agents[trimSpace request.agentID]? = some record)
    (hused : record.enrollmentTokenHash = []) :
    (store.enroll primitives request sourceIP outside).2.isOk = false := by
  have hrefused : ∃ error, Store.enrollable primitives request sourceIP record
      outside.now = .error error := by
    unfold Store.enrollable
    split
    · exact ⟨_, rfl⟩
    · split
      · exact ⟨_, rfl⟩
      · rw [if_pos (Or.inr hused)]
        exact ⟨_, rfl⟩
  obtain ⟨error, herror⟩ := hrefused
  simp only [Store.enroll, hfound, herror]
  split_ifs <;> rfl

/-- The request of an agent as the handler accepts it. -/
theorem handle_heartbeat {request : SignedRequest} {input : HeartbeatRequest}
    {sourceIP : Option Addr} {outside : Outside}
    {payload : ControlSignatureEnvelope} {address : Addr}
    (hpath : request.path = heartbeatPath)
    (hsource : sourceIP = some address)
    (hdecode : primitives.decodeHeartbeat request.body = some input)
    (hagent : input.agentID = request.agentID)
    (hne : trimSpace request.agentID ≠ [])
    (hpayload : controlSigningPayload primitives "POST" heartbeatPath
      (trimSpace request.agentID) request.timestamp request.sequence
        request.body = some payload)
    (haccepted : (store.acceptHeartbeat primitives input
      ⟨sourceIP, request.timestamp, request.sequence, payload,
        request.signature⟩ outside).2.isOk = true) :
    (Endpoint.heartbeat.handle primitives store (request.call sourceIP)
      outside).2 =
      some { request with agentID := trimSpace request.agentID } := by
  subst hsource
  have hparse : parseProbeControlAuthentication primitives
      (request.call (some address)) request.agentID heartbeatPath =
        some ⟨some address, request.timestamp, request.sequence, payload,
          request.signature⟩ := by
    simp only [parseProbeControlAuthentication, SignedRequest.call, hne,
      false_or, ne_eq, not_true_eq_false, ↓reduceIte, hpayload]
  simp only [Endpoint.handle, SignedRequest.call, Endpoint.bodyAgent, hdecode,
    Option.map_some, Endpoint.path, ne_eq, not_true_eq_false, ↓reduceIte,
    hagent]
  simp only [SignedRequest.call] at hparse
  simp only [hparse, Endpoint.accept, hdecode, haccepted, hpath]

end Accepting

section Recorded

variable {Addr : Type} [DecidableEq Addr] {primitives : Primitives Addr}
  {world : World Addr} {event : Event Addr} {id : Text} {key : Bytes}

/-- The identity is on record. -/
def Recorded (id : Text) (key : Bytes) (world : World Addr) : Prop :=
  ∃ record : AgentRecord, world.store.agents[id]? = some record ∧
    record.identityPublicKey = key ∧ record.enabled = true

/-- Nobody revokes, reissues or deletes the agent. -/
def Event.Spares (id : Text) : Event Addr → Prop
  | .reissue agentID _ | .revoke agentID _ | .delete agentID _ =>
      trimSpace agentID ≠ id
  | _ => True

/-- What the registry keeps over every run with its clock set. -/
structure Steady (primitives : Primitives Addr) (world : World Addr) :
    Prop where
  trusted : Trusted primitives world
  sound : Sound primitives world.store
  filed : world.log ≠ [] → ∃ file, world.store.file = some file
  tokens : TokensOnce world.log

namespace Steady

/-- The records in force where a step adds no answer. -/
theorem agents_of_quiet {next : World Addr} (h : Steady primitives world)
    (hsound : Sound primitives next.store)
    (hfile : next.store.file = world.store.file) (hlog : world.log ≠ []) :
    next.store.agents = world.store.agents := by
  obtain ⟨file, hheld⟩ := h.filed hlog
  rw [← (hsound.file file (hfile.trans hheld)).2, (h.sound.file file hheld).2]

theorem step (h : Steady primitives world)
    (hdigest : ∀ token, (primitives.tokenDigest token).length = sha256Size)
    (hordinary : event.Ordinary) (hassumed : Assumed primitives world event) :
    Steady primitives (world.step primitives event) := by
  refine ⟨h.trusted.step event, h.sound.step hdigest hordinary, ?_,
    h.tokens.step h.trusted hassumed⟩
  have hchange : Change primitives world event _ :=
    step_change h.trusted.known.keyed event
  cases hchange with
  | quiet hlog hfile _ =>
      rw [hlog, hfile]
      exact h.filed
  | reloaded hlog hfile _ =>
      rw [hlog, hfile]
      exact h.filed
  | @wrote file entry record hwrote hlog hfile _ _ =>
      intro _
      exact ⟨file, hfile⟩

/-- A recorded key that is not empty belongs to an enrolled record whose token
is used. -/
theorem enrolled_of_key (h : Steady primitives world) {record : AgentRecord}
    (hrecord : world.store.agents[id]? = some record)
    (hne : record.identityPublicKey ≠ []) :
    record.identityPublicKey.length = publicKeySize ∧
      record.enrolledAt.isZero = false ∧ record.enrollmentTokenHash = [] := by
  have hconsistent := (h.sound.memory id record hrecord).consistent
  obtain ⟨-, -, henrolled, -, htoken⟩ :=
    hconsistent.identity.resolve_left fun hnone => hne hnone.1
  exact ⟨hconsistent.identityKey.resolve_left hne, henrolled, htoken⟩

/-- A recorded identity stays on record, unless the agent is revoked, reissued
or deleted. -/
theorem recorded_step (h : Steady primitives world)
    (hdigest : ∀ token, (primitives.tokenDigest token).length = sha256Size)
    (hordinary : event.Ordinary) (hspared : event.Spares id)
    (hne : key ≠ []) (hlog : world.log ≠ [])
    (hrecorded : Recorded id key world) :
    Recorded id key (world.step primitives event) := by
  obtain ⟨record, hrecord, hkey, henabled⟩ := hrecorded
  have hsound := h.sound.step hdigest hordinary
  by_cases hcreate : ∃ request outside, event = .create request outside
  · obtain ⟨request, outside, rfl⟩ := hcreate
    unfold Recorded
    rw [World.step, answered_store]
    rcases create_agents primitives world.store request
        outside with hsame | ⟨added, hfree, -, -, hadded⟩
    · exact ⟨record, hsame ▸ hrecord, hkey, henabled⟩
    · refine ⟨record, ?_, hkey, henabled⟩
      rw [hadded, GoMap.get_insert, if_neg]
      · exact hrecord
      · rintro rfl
        rw [hfree] at hrecord
        cases hrecord
  · have hchange : Change primitives world event _ :=
      step_change h.trusted.known.keyed event
    cases hchange with
    | quiet _ _ hagents => exact ⟨record, hagents ▸ hrecord, hkey, henabled⟩
    | reloaded _ hfile _ =>
        have hagents := h.agents_of_quiet hsound hfile hlog
        exact ⟨record, hagents ▸ hrecord, hkey, henabled⟩
    | @wrote file entry written hwrote _ _ hagents hnext =>
        by_cases hid : entry.agentID = id
        · have hwritten : (world.step primitives event).store.agents[id]? =
              written := by
            rw [hagents, hnext, hid, GoMap.get_set_self]
          cases hwrote with
          | created request outside _ _ _ _ _ =>
              exact absurd ⟨request, outside, rfl⟩ hcreate
          | reissued agentID outside previous token _ _ =>
              exact absurd hid hspared
          | revoked agentID outside previous _ => exact absurd hid hspared
          | deleted agentID outside => exact absurd hid hspared
          | enrolled request sourceIP outside previous hfound hallowed =>
              -- the token of a recorded identity is used
              obtain rfl : previous = record := by
                rw [← hid] at hrecord
                exact Option.some.inj (hfound.symm.trans hrecord)
              have hused := (h.enrolled_of_key hrecord (hkey ▸ hne)).2.2
              unfold Store.enrollable at hallowed
              split at hallowed
              · cases hallowed
              · split at hallowed
                · cases hallowed
                · rw [if_pos (Or.inr hused)] at hallowed
                  cases hallowed
          | accepted _ _ _ previous _ request _ hfound _ _ _ _ _ hsame _ =>
              obtain rfl : previous = record := by
                rw [← hid] at hrecord
                exact Option.some.inj (hfound.symm.trans hrecord)
              exact ⟨_, hwritten, hsame.key.trans hkey,
                hsame.enabled.trans henabled⟩
        · refine ⟨record, ?_, hkey, henabled⟩
          rw [hagents, hnext, GoMap.get_set_of_ne _ hid]
          exact hrecord

/-- An enrollment records the key it brings. -/
theorem recorded_of_enrolled (h : Steady primitives world) {token : Text}
    (hdigest : ∀ token, (primitives.tokenDigest token).length = sha256Size)
    (hordinary : event.Ordinary)
    (hentry : (world.step primitives event).log =
      .enrolled id token key :: world.log) :
    key ≠ [] ∧ Recorded id key (world.step primitives event) := by
  have hsound := h.sound.step hdigest hordinary
  have hchange : Change primitives world event _ :=
    step_change h.trusted.known.keyed event
  cases hchange with
  | quiet hlog _ _ =>
      rw [hlog] at hentry
      exact absurd hentry.symm (List.cons_ne_self _ _)
  | reloaded hlog _ _ =>
      rw [hlog] at hentry
      exact absurd hentry.symm (List.cons_ne_self _ _)
  | @wrote file entry written hwrote hlog _ hagents hnext =>
      rw [hlog, List.cons.injEq] at hentry
      obtain ⟨rfl, -⟩ := hentry
      cases hwrote with
      | enrolled request sourceIP outside previous hfound hallowed =>
          have hwritten : (world.step primitives (.enroll request sourceIP
              outside)).store.agents[trimSpace request.agentID]? =
                some (Store.enrolledRecord request previous outside.now) := by
            rw [hagents, hnext]
            exact GoMap.get_set_self _ _ _
          have hconsistent := (hsound.memory _ _ hwritten).consistent
          have henabled : previous.enabled = true := by
            unfold Store.enrollable at hallowed
            split at hallowed
            · cases hallowed
            · rename_i hallowed'
              simpa using hallowed'
          refine ⟨?_, _, hwritten, rfl, henabled⟩
          intro hnone
          have hset := hconsistent.identity.resolve_right fun hset =>
            hset.1 hnone
          have hzero : outside.now.isZero = true := hset.2.2
          rw [show outside.now.isZero = false from hordinary] at hzero
          cases hzero

end Steady

end Recorded

namespace Deployment

section

variable {Addr : Type} [DecidableEq Addr] (primitives : Primitives Addr)
  (publicKey : Bytes → Bytes)

/-- What the registry meets in a move. -/
inductive Meets (w : Deployment Addr) : Move Addr → Event Addr → Prop where
  | registry (event : Event Addr) : Meets w (.registry event) event
  | enroll (dir : Nat) (client : AgentClient) (made : Made)
        (reached : Reached Addr)
      (hclient : w.clients[dir]? = some client)
      (hphase : client.phase = .enrolling) :
      Meets w (.turn dir made (some reached))
        (.enroll (client.enrollRequest publicKey) reached.sourceIP
          reached.outside)
  | heartbeat (dir : Nat) (made : Made) (reached : Reached Addr)
      (request : SignedRequest) :
      Meets w (.turn dir made (some reached))
        (.control .heartbeat (request.call reached.sourceIP) reached.outside)
  | signed (dir : Nat) (endpoint : Endpoint) (made : Made)
      (reached : Reached Addr) (request : SignedRequest) :
      Meets w (.post dir endpoint made (some reached))
        (.control endpoint (request.call reached.sourceIP) reached.outside)

/-- The registry's clock is set, its IDs come from the generator, and its
tokens are new. -/
def Orderly (w : Deployment Addr) (move : Move Addr) : Prop :=
  ∀ event, w.Meets publicKey move event →
    event.Ordinary ∧ Assumed primitives w.registry event

/-- The agent is not revoked, reissued or deleted, and its token is known to
the agents alone. -/
def Kept (id token : Text) (w : Deployment Addr) : Move Addr → Prop
  | .registry event =>
      event.Spares id ∧ ∀ request sourceIP outside,
        event = .enroll request sourceIP outside →
          request.enrollmentToken = token → request ∈ w.enrollments
  | _ => True

end

section Frames

variable {Addr : Type} {primitives : Primitives Addr}
  {publicKey : Bytes → Bytes} {w : Deployment Addr}

@[simp] theorem registry_goOn (dir : Nat) (phase : Phase) :
    (w.goOn dir phase).registry = w.registry := by
  unfold goOn
  split <;> rfl

@[simp] theorem files_goOn (dir : Nat) (phase : Phase) :
    (w.goOn dir phase).files = w.files := by
  unfold goOn
  split <;> rfl

@[simp] theorem enrollments_goOn (dir : Nat) (phase : Phase) :
    (w.goOn dir phase).enrollments = w.enrollments := by
  unfold goOn
  split <;> rfl

@[simp] theorem registry_post (dir : Nat) (client : AgentClient)
    (endpoint : Endpoint) (made : Made) :
    (w.post primitives publicKey dir client endpoint made).1.registry =
      w.registry := by
  simp only [post]
  split_ifs
  · rfl
  · rfl
  · split <;> rfl

@[simp] theorem enrollments_post (dir : Nat) (client : AgentClient)
    (endpoint : Endpoint) (made : Made) :
    (w.post primitives publicKey dir client endpoint made).1.enrollments =
      w.enrollments := by
  simp only [post]
  split_ifs
  · rfl
  · rfl
  · split <;> rfl

/-- The registry spares the agent in every move that does. -/
theorem Kept.spares {id token : Text} {move : Move Addr} {event : Event Addr}
    (hkept : w.Kept id token move) (hmeets : w.Meets publicKey move event) :
    event.Spares id := by
  cases hmeets with
  | registry event => exact hkept.1
  | enroll => trivial
  | heartbeat => trivial
  | signed => trivial

end Frames

section Steps

variable {Addr : Type} [DecidableEq Addr] {primitives : Primitives Addr}
  {publicKey : Bytes → Bytes} {w : Deployment Addr}

/-- An answer is of the registry alone. -/
theorem answer_rest (endpoint : Endpoint) (request : Option SignedRequest)
    (reached : Option (Reached Addr)) :
    (w.answer primitives endpoint request reached).1.files = w.files ∧
      (w.answer primitives endpoint request reached).1.clients = w.clients ∧
      (w.answer primitives endpoint request reached).1.enrollments =
        w.enrollments := by
  unfold answer
  split <;> exact ⟨rfl, rfl, rfl⟩

variable (primitives publicKey) in
/-- The registry stays as it is, or meets the request. -/
theorem registry_exchange (dir : Nat) (client : AgentClient)
    (endpoint : Endpoint)
    (made : Made) (reached : Option (Reached Addr)) :
    (w.exchange primitives publicKey dir client endpoint made
        reached).1.registry = w.registry ∨
      ∃ (request : SignedRequest) (answered : Reached Addr),
        reached = some answered ∧
        (w.exchange primitives publicKey dir client endpoint made
          reached).1.registry = w.registry.step primitives
            (.control endpoint (request.call answered.sourceIP)
              answered.outside) := by
  simp only [exchange]
  cases hrequest : (w.post primitives publicKey dir client endpoint made).2 with
  | none =>
      left
      simp [answer]
  | some request =>
      cases reached with
      | none =>
          left
          simp [answer]
      | some answered =>
          right
          exact ⟨request, answered, rfl, by simp [answer]⟩

variable (primitives publicKey) in
/-- A move leaves the registry as it is, or the registry meets an event. -/
theorem registry_step (move : Move Addr) :
    (w.step primitives publicKey move).registry = w.registry ∨
      ∃ event, w.Meets publicKey move event ∧
        (w.step primitives publicKey move).registry =
          w.registry.step primitives event := by
  cases move with
  | start dir config prepared generated written =>
      left
      simp only [step]
      split
      · rfl
      · split <;> rfl
  | crash dir => exact Or.inl rfl
  | registry event => exact Or.inr ⟨event, .registry event, rfl⟩
  | post dir endpoint made reached =>
      simp only [step]
      cases w.clients[dir]? with
      | none => exact Or.inl rfl
      | some client =>
          simp only
          split
          · rcases w.registry_exchange primitives
                publicKey dir client endpoint made reached with
              hsame | ⟨request, answered, rfl, hstep⟩
            · exact Or.inl hsame
            · exact Or.inr ⟨_, .signed dir endpoint made answered
                  request, hstep⟩
          · exact Or.inl rfl
  | turn dir made reached =>
      simp only [step]
      cases hclient : w.clients[dir]? with
      | none => exact Or.inl rfl
      | some client =>
          have hbeat : ∀ next, (w.heartbeatTurn primitives publicKey dir client
              made reached next).registry = (w.exchange primitives publicKey dir
                client .heartbeat made reached).1.registry := by
            intro next
            simp only [heartbeatTurn]
            split
            · simp
            · rfl
          have hexchange := w.registry_exchange primitives
            publicKey dir client .heartbeat made reached
          simp only [turn]
          cases hphase : client.phase with
          | enrolling =>
              cases reached with
              | none => exact Or.inl (by simp [enrollTurn])
              | some answered =>
                  exact Or.inr ⟨_, .enroll dir client made answered hclient
                    hphase, by simp [enrollTurn]⟩
          | marking =>
              left
              simp only [markTurn]
              split <;> rfl
          | connected => exact Or.inl rfl
          | recovering =>
              simp only [hbeat]
              rcases hexchange with hsame | ⟨request, answered, rfl, hstep⟩
              · exact Or.inl hsame
              · exact Or.inr ⟨_, .heartbeat dir made answered request, hstep⟩
          | greeting =>
              simp only [hbeat]
              rcases hexchange with hsame | ⟨request, answered, rfl, hstep⟩
              · exact Or.inl hsame
              · exact Or.inr ⟨_, .heartbeat dir made answered request, hstep⟩

/-- What the registry keeps over the runs of the deployment. -/
theorem steady_step
    (hdigest : ∀ token, (primitives.tokenDigest token).length = sha256Size)
    (h : Steady primitives w.registry) {move : Move Addr}
    (horderly : w.Orderly primitives publicKey move) :
    Steady primitives (w.step primitives publicKey move).registry := by
  rcases w.registry_step primitives publicKey
      move with hsame | ⟨event, hmeets, hstep⟩
  · rw [hsame]
    exact h
  · obtain ⟨hordinary, hassumed⟩ := horderly event hmeets
    rw [hstep]
    exact h.step hdigest hordinary hassumed

end Steps

end Deployment

/-- A process that `NewClient` let through, and that is past `EnsureEnrolled`
with its flag set only. -/
structure AgentClient.Ready (client : AgentClient) : Prop where
  agentID : client.config.agentID = client.identity.agentID
  valid : client.config.valid = true
  version : client.identity.version = identityVersion
  keys : client.identity.validKeys = true
  enrolled : client.phase = .greeting ∨ client.phase = .connected →
    client.identity.enrolled = true

theorem AgentClient.Ready.named {client : AgentClient} (h : client.Ready) :
    trimSpace client.config.agentID = client.config.agentID ∧
      client.config.agentID ≠ [] := by
  have hvalid := h.valid
  rw [ClientConfig.valid, Bool.and_eq_true] at hvalid
  refine ⟨trimSpace_identifier hvalid.1, ?_⟩
  intro hnil
  rw [hnil] at hvalid
  simp [validIdentifier] at hvalid

theorem AgentClient.Ready.counted {client : AgentClient} (h : client.Ready) :
    client.counted.Ready :=
  ⟨h.agentID, h.valid, h.version, h.keys, h.enrolled⟩

theorem AgentClient.Ready.marked {client : AgentClient} (h : client.Ready) :
    client.marked.Ready :=
  ⟨h.agentID, h.valid, h.version, h.keys, fun _ => rfl⟩

/-- The identity a start comes to hold. -/
theorem loadOrCreateIdentity_spec {agentID : Text} {generated : Bytes × Bytes}
    {written : Bool} {file : Option IdentityFile} {identity : IdentityFile}
    (h : loadOrCreateIdentity agentID generated written file = some identity) :
    identity.agentID = agentID ∧ identity.version = identityVersion ∧
      (identity.enrolled = true → identity.validKeys = true) ∧
      ∀ kept, file = some kept → identity = kept := by
  cases file with
  | none =>
      simp only [loadOrCreateIdentity] at h
      split at h
      · obtain rfl := Option.some.inj h
        exact ⟨rfl, rfl, by rintro ⟨⟩, by rintro _ ⟨⟩⟩
      · cases h
  | some kept =>
      simp only [loadOrCreateIdentity] at h
      split at h
      · cases h
      · rename_i hsame
        push Not at hsame
        split at h
        · cases h
        · rename_i hkeys
          obtain rfl := Option.some.inj h
          exact ⟨hsame.2, hsame.1, fun _ => by simpa using hkeys,
            fun _ heq => Option.some.inj heq⟩

theorem firstPhase_ready {config : ClientConfig} {identity : IdentityFile}
    {phase : Phase} (h : firstPhase config identity = some phase)
    (hagent : config.agentID = identity.agentID) (hvalid : config.valid = true)
    (hversion : identity.version = identityVersion)
    (hkeys : identity.enrolled = true → identity.validKeys = true) :
    AgentClient.Ready ⟨config, identity, phase⟩ := by
  unfold firstPhase at h
  split at h
  · rename_i henrolled
    exact ⟨hagent, hvalid, hversion, hkeys henrolled, fun _ => henrolled⟩
  · split at h
    · cases h
    · split at h
      · cases h
      · rename_i hset
        obtain rfl := Option.some.inj h
        exact ⟨hagent, hvalid, hversion, by simpa using hset, by simp⟩

namespace Deployment

section Processes

variable {Addr : Type} [DecidableEq Addr] {primitives : Primitives Addr}
  {publicKey : Bytes → Bytes} {w : Deployment Addr}

variable (primitives publicKey) in
omit [DecidableEq Addr] in
/-- Posting counts in memory, or changes no process. -/
theorem clients_post (dir : Nat) (client : AgentClient) (endpoint : Endpoint)
    (made : Made) :
    (w.post primitives publicKey dir client endpoint made).1.clients =
        w.clients ∨
      (w.post primitives publicKey dir client endpoint made).1.clients =
        w.clients.insert dir client.counted := by
  simp only [post]
  split_ifs
  · exact Or.inl rfl
  · exact Or.inr rfl
  · split <;> exact Or.inr rfl

variable (primitives publicKey) in
omit [DecidableEq Addr] in
/-- The file follows, or stays as it is. -/
theorem files_post (dir : Nat) (client : AgentClient) (endpoint : Endpoint)
    (made : Made) :
    (w.post primitives publicKey dir client endpoint made).1.files = w.files ∨
      (w.post primitives publicKey dir client endpoint made).1.files =
        w.files.insert dir client.counted.identity := by
  simp only [post]
  split_ifs
  · exact Or.inl rfl
  · exact Or.inl rfl
  · split <;> exact Or.inr rfl

def AllReady (w : Deployment Addr) : Prop :=
  ∀ (dir : Nat) (client : AgentClient), w.clients[dir]? = some client →
    client.Ready

namespace AllReady

omit [DecidableEq Addr] in
theorem insert (h : w.AllReady) {dir : Nat} {next : AgentClient}
    (hnext : next.Ready) :
    ∀ (other : Nat) (client : AgentClient),
      (w.clients.insert dir next)[other]? = some client → client.Ready := by
  intro other client hget
  rw [GoMap.get_insert] at hget
  split at hget
  · obtain rfl := Option.some.inj hget
    exact hnext
  · exact h other client hget

omit [DecidableEq Addr] in
theorem goOn (h : w.AllReady) {dir : Nat} {phase : Phase}
    (hphase : ∀ client, w.clients[dir]? = some client →
      phase = .greeting ∨ phase = .connected →
        client.identity.enrolled = true) :
    (w.goOn dir phase).AllReady := by
  unfold Deployment.goOn
  split
  · exact h
  · rename_i client hclient
    have hready := h dir client hclient
    exact h.insert ⟨hready.agentID, hready.valid, hready.version, hready.keys,
      hphase client hclient⟩

omit [DecidableEq Addr] in
theorem exit (h : w.AllReady) (dir : Nat) : (w.exit dir).AllReady := by
  intro other client hget
  change (w.clients.erase dir)[other]? = some client at hget
  rw [GoMap.get_erase] at hget
  split at hget
  · cases hget
  · exact h other client hget

theorem exchange (h : w.AllReady) {dir : Nat} {client : AgentClient}
    (hclient : w.clients[dir]? = some client) (endpoint : Endpoint)
    (made : Made) (reached : Option (Reached Addr)) :
    (w.exchange primitives publicKey dir client endpoint made
      reached).1.AllReady := by
  unfold AllReady
  simp only [Deployment.exchange, (answer_rest _ _ _).2.1]
  rcases w.clients_post primitives publicKey dir
      client endpoint made with hsame | hcounted
  · rw [hsame]
    exact h
  · rw [hcounted]
    exact h.insert (h dir client hclient).counted

theorem heartbeatTurn (h : w.AllReady) {dir : Nat} {client : AgentClient}
    (hclient : w.clients[dir]? = some client) (made : Made)
    (reached : Option (Reached Addr)) {next : Phase}
    (hnext : next = .greeting ∨ next = .connected →
      client.identity.enrolled = true) :
    (w.heartbeatTurn primitives publicKey dir client made reached
      next).AllReady := by
  have hexchange := @exchange _ _ primitives publicKey _ h _ _ hclient
    .heartbeat made
    reached
  simp only [Deployment.heartbeatTurn]
  split
  · refine hexchange.goOn ?_
    intro after hafter hphase
    simp only [Deployment.exchange, (answer_rest _ _ _).2.1] at hafter
    rcases w.clients_post primitives publicKey
        dir client .heartbeat made with hsame | hcounted
    · rw [hsame, hclient] at hafter
      obtain rfl := Option.some.inj hafter
      exact hnext hphase
    · rw [hcounted, GoMap.get_insert, if_pos rfl] at hafter
      obtain rfl := Option.some.inj hafter
      exact hnext hphase
  · exact hexchange.exit dir

theorem enrollTurn (h : w.AllReady) (dir : Nat) (client : AgentClient)
    (reached : Option (Reached Addr)) :
    (w.enrollTurn primitives publicKey dir client reached).AllReady := by
  cases reached with
  | none =>
      change (Deployment.goOn { w with enrollments := _ } dir
        .recovering).AllReady
      apply goOn
      · exact h
      · simp
  | some answered =>
      simp only [Deployment.enrollTurn]
      apply goOn
      · exact h
      · intro _ _ hnext
        split at hnext <;> simp at hnext

theorem step (h : w.AllReady) (move : Move Addr) :
    (w.step primitives publicKey move).AllReady := by
  cases move with
  | start dir config prepared generated written =>
      simp only [Deployment.step]
      split
      · exact h
      · rename_i hvalid
        simp only [Bool.or_eq_true, Bool.not_eq_true', not_or,
          Bool.not_eq_false] at hvalid
        split
        · exact h
        · rename_i identity hload
          obtain ⟨hagent, hversion, hkeys, -⟩ := loadOrCreateIdentity_spec hload
          intro other client hget
          change (w.clients.set dir _)[other]? = some client at hget
          rw [GoMap.get_set] at hget
          split at hget
          · obtain ⟨phase, hphase, rfl⟩ := Option.map_eq_some_iff.mp hget
            exact firstPhase_ready hphase hagent.symm hvalid.2 hversion hkeys
          · exact h other client hget
  | crash dir => exact h.exit dir
  | registry event => exact h
  | post dir endpoint made reached =>
      simp only [Deployment.step]
      cases hclient : w.clients[dir]? with
      | none => exact h
      | some client =>
          simp only
          split
          · exact h.exchange hclient endpoint made reached
          · exact h
  | turn dir made reached =>
      simp only [Deployment.step]
      cases hclient : w.clients[dir]? with
      | none => exact h
      | some client =>
          simp only [Deployment.turn]
          cases hphase : client.phase with
          | enrolling =>
              exact h.enrollTurn dir client reached
          | recovering => exact h.heartbeatTurn hclient made reached (by simp)
          | marking =>
              simp only [markTurn]
              split
              · exact h.insert (h dir client hclient).marked
              · exact h.exit dir
          | greeting =>
              exact h.heartbeatTurn hclient made reached fun _ =>
                (h dir client hclient).enrolled (Or.inl hphase)
          | connected => exact h

end AllReady

/-- One identity at two times. -/
def Same (file later : IdentityFile) : Prop :=
  later = { file with
    nextSequence := later.nextSequence, enrolled := later.enrolled }

/-- A directory keeps its identity. -/
theorem files_step (h : w.Paired primitives publicKey) (move : Move Addr)
    {dir : Nat} {file : IdentityFile} (hfile : w.files[dir]? = some file) :
    ∃ later, (w.step primitives publicKey move).files[dir]? = some later ∧
      Same file later := by
  have hkept : ∃ later, w.files[dir]? = some later ∧ Same file later :=
    ⟨file, hfile, rfl⟩
  have hinsert : ∀ (other : Nat) (client : AgentClient)
    (identity : IdentityFile),
      w.clients[other]? = some client →
      identity = { client.identity with
        nextSequence := identity.nextSequence
        enrolled := identity.enrolled } →
      ∃ later, (w.files.insert other identity)[dir]? = some later ∧
        Same file later := by
    intro other client identity hclient hidentity
    rw [GoMap.get_insert]
    split
    · rename_i hother
      obtain ⟨known, hknown, -, hclientIdentity⟩ :=
        h.clients other client hclient
      rw [hother, hfile] at hknown
      obtain rfl := Option.some.inj hknown
      refine ⟨identity, rfl, ?_⟩
      rw [Same]
      rw [hclientIdentity] at hidentity
      exact hidentity
    · exact hkept
  have hexchange : ∀ (other : Nat) (client : AgentClient) endpoint made reached,
      w.clients[other]? = some client →
      ∃ later, (w.exchange primitives publicKey other client endpoint made
        reached).1.files[dir]? = some later ∧ Same file later := by
    intro other client endpoint made reached hclient
    simp only [exchange, (answer_rest _ _ _).1]
    rcases w.files_post primitives publicKey
        other client endpoint made with hsame | hwritten
    · rw [hsame]
      exact hkept
    · rw [hwritten]
      exact hinsert other client _ hclient rfl
  cases move with
  | start other config prepared generated written =>
      simp only [step]
      split
      · exact hkept
      · split
        · exact hkept
        · rename_i identity hload
          change ∃ later, (w.files.insert other identity)[dir]? = some later ∧ _
          rw [GoMap.get_insert]
          split
          · rename_i hother
            refine ⟨identity, rfl, ?_⟩
            obtain ⟨-, -, -, hsame⟩ := loadOrCreateIdentity_spec hload
            rw [hsame file (hother ▸ hfile)]
            rfl
          · exact hkept
  | crash other => exact hkept
  | registry event => exact hkept
  | post other endpoint made reached =>
      simp only [step]
      cases hclient : w.clients[other]? with
      | none => exact hkept
      | some client =>
          simp only
          split
          · exact hexchange other client endpoint made reached hclient
          · exact hkept
  | turn other made reached =>
      simp only [step]
      cases hclient : w.clients[other]? with
      | none => exact hkept
      | some client =>
          have hbeat : ∀ next, ∃ later, (w.heartbeatTurn primitives publicKey
              other client made reached next).files[dir]? = some later ∧
                Same file later := by
            intro next
            have := hexchange other client .heartbeat made reached hclient
            simp only [heartbeatTurn]
            split
            · simpa using this
            · exact this
          simp only [turn]
          cases hphase : client.phase with
          | enrolling =>
              simp only [enrollTurn]
              split <;> simpa using hkept
          | recovering => exact hbeat _
          | greeting => exact hbeat _
          | connected => exact hkept
          | marking =>
              simp only [markTurn]
              split
              · exact hinsert other client _ hclient rfl
              · exact hkept

variable (primitives publicKey) in
/-- A move adds no enrollment but that of a process. -/
theorem enrollments_step (move : Move Addr) :
    (w.step primitives publicKey move).enrollments = w.enrollments ∨
      ∃ (dir : Nat) (client : AgentClient), w.clients[dir]? = some client ∧
        (w.step primitives publicKey move).enrollments =
          client.enrollRequest publicKey :: w.enrollments := by
  have hexchange : ∀ dir client endpoint made reached,
      (w.exchange primitives publicKey dir client endpoint made
        reached).1.enrollments = w.enrollments := by
    intro dir client endpoint made reached
    simp only [exchange, (answer_rest _ _ _).2.2, enrollments_post]
  cases move with
  | start dir config prepared generated written =>
      left
      simp only [step]
      split
      · rfl
      · split <;> rfl
  | crash dir => exact Or.inl rfl
  | registry event => exact Or.inl rfl
  | post dir endpoint made reached =>
      left
      simp only [step]
      split
      · rfl
      · split
        · exact hexchange _ _ _ _ _
        · rfl
  | turn dir made reached =>
      simp only [step]
      cases hclient : w.clients[dir]? with
      | none => exact Or.inl rfl
      | some client =>
          have hbeat : ∀ next, (w.heartbeatTurn primitives publicKey dir client
              made reached next).enrollments = w.enrollments := by
            intro next
            simp only [heartbeatTurn]
            split
            · rw [enrollments_goOn, hexchange]
            · exact hexchange _ _ _ _ _
          simp only [turn]
          cases hphase : client.phase with
          | enrolling =>
              right
              refine ⟨dir, client, hclient, ?_⟩
              simp only [enrollTurn]
              split <;> simp
          | recovering => exact Or.inl (hbeat _)
          | greeting => exact Or.inl (hbeat _)
          | connected => exact Or.inl rfl
          | marking =>
              left
              simp only [markTurn]
              split <;> rfl

/-- The directory an enrollment came from. -/
structure Origin (publicKey : Bytes → Bytes) (w : Deployment Addr)
    (request : EnrollRequest) (dir : Nat) (file : IdentityFile) : Prop where
  held : w.files[dir]? = some file
  key : publicKey file.identityPrivateKey = request.identityPublicKey
  agentID : file.agentID = request.agentID
  version : file.version = identityVersion
  keys : file.validKeys = true
  identifier : validIdentifier request.agentID 96 = true

/-- What holds in every run of the agent whose token is its own: its
enrollments come from its directories, and what is enrolled with the token is
on record. -/
structure Enlisted (primitives : Primitives Addr) (publicKey : Bytes → Bytes)
    (id token : Text) (w : Deployment Addr) : Prop where
  paired : w.Paired primitives publicKey
  steady : Steady primitives w.registry
  ready : w.AllReady
  origins : ∀ request ∈ w.enrollments, ∃ dir file,
    Origin publicKey w request dir file
  logged : ∀ id' key, Entry.enrolled id' token key ∈ w.registry.log →
    ∃ request ∈ w.enrollments, trimSpace request.agentID = id' ∧
      request.identityPublicKey = key
  recorded : ∀ key, Entry.enrolled id token key ∈ w.registry.log →
    key ≠ [] ∧ Recorded id key w.registry

end Processes

end Deployment

section Enrolled

variable {Addr : Type} [DecidableEq Addr] {primitives : Primitives Addr}
  {world : World Addr}

/-- An enrollment is in the log already, or is the event met now. -/
theorem enrolled_of_step (hkeyed : Keyed world.store) {event : Event Addr}
    {id token : Text} {key : Bytes}
    (h : Entry.enrolled id token key ∈ (world.step primitives event).log) :
    Entry.enrolled id token key ∈ world.log ∨
      ∃ request sourceIP outside, event = .enroll request sourceIP outside ∧
        trimSpace request.agentID = id ∧ request.enrollmentToken = token ∧
        request.identityPublicKey = key ∧
        (world.step primitives event).log =
          .enrolled id token key :: world.log := by
  have hchange : Change primitives world event _ := step_change hkeyed event
  cases hchange with
  | quiet hlog _ _ =>
      rw [hlog] at h
      exact Or.inl h
  | reloaded hlog _ _ =>
      rw [hlog] at h
      exact Or.inl h
  | wrote hwrote hlog _ _ _ =>
      rw [hlog] at h ⊢
      rcases List.mem_cons.mp h with hnew | hold
      · right
        subst hnew
        cases hwrote with
        | enrolled request sourceIP outside previous hfound hallowed =>
            exact ⟨request, sourceIP, outside, rfl, rfl, rfl, rfl, rfl⟩
      · exact Or.inl hold

end Enrolled

namespace Deployment

section Runs

variable {Addr : Type} [DecidableEq Addr] {primitives : Primitives Addr}
  {publicKey : Bytes → Bytes} {w : Deployment Addr} {id token : Text}

omit [DecidableEq Addr] in
theorem Origin.later {request : EnrollRequest} {dir : Nat}
    {file later : IdentityFile} {w' : Deployment Addr}
    (h : Origin publicKey w request dir file)
    (hlater : w'.files[dir]? = some later) (hsame : Same file later) :
    Origin publicKey w' request dir later := by
  refine ⟨hlater, ?_, ?_, ?_, ?_, h.identifier⟩
  · rw [hsame]
    exact h.key
  · rw [hsame]
    exact h.agentID
  · rw [hsame]
    exact h.version
  · rw [hsame]
    exact h.keys

/-- The enrollment a process makes comes from its directory. -/
theorem Enlisted.origin (h : w.Enlisted primitives publicKey id token)
    {dir : Nat} {client : AgentClient} (hclient : w.clients[dir]? =
      some client) :
    ∃ file, Origin publicKey w (client.enrollRequest publicKey) dir file := by
  have hready := h.ready dir client hclient
  obtain ⟨file, hfile, -, hidentity⟩ := h.paired.clients dir client hclient
  have hvalid := hready.valid
  rw [ClientConfig.valid, Bool.and_eq_true] at hvalid
  refine ⟨file, hfile, ?_, ?_, ?_, ?_, hvalid.1⟩
  · simp only [AgentClient.enrollRequest, AgentClient.key]
    rw [hidentity]
  · simp only [AgentClient.enrollRequest]
    rw [hready.agentID, hidentity]
  · have := hready.version
    rwa [hidentity] at this
  · have := hready.keys
    rwa [hidentity] at this

namespace Enlisted

/-- The log after a move holds what it held, or the enrollment of an agent. -/
theorem enrolled_cases (h : w.Enlisted primitives publicKey id token)
    {move : Move Addr} (hkept : w.Kept id token move) {id' : Text} {key : Bytes}
    (hmem : Entry.enrolled id' token key ∈
      (w.step primitives publicKey move).registry.log) :
    Entry.enrolled id' token key ∈ w.registry.log ∨
      (∃ event, w.Meets publicKey move event ∧
        (w.step primitives publicKey move).registry =
          w.registry.step primitives event ∧
        (w.registry.step primitives event).log =
          .enrolled id' token key :: w.registry.log) ∧
      ∃ request ∈ (w.step primitives publicKey move).enrollments,
        trimSpace request.agentID = id' ∧ request.identityPublicKey = key := by
  rcases w.registry_step primitives publicKey
      move with hsame | ⟨event, hmeets, hstep⟩
  · rw [hsame] at hmem
    exact Or.inl hmem
  · rw [hstep] at hmem
    rcases enrolled_of_step h.paired.trusted.known.keyed hmem with
      hold | ⟨request, sourceIP, outside, hevent, hid, htoken, hkey, hlog⟩
    · exact Or.inl hold
    · refine Or.inr ⟨⟨event, hmeets, hstep, hlog⟩, request, ?_, hid, hkey⟩
      subst hevent
      cases hmeets with
      | registry event => exact hkept.2 request sourceIP outside rfl htoken
      | enroll dir client made reached hclient hphase =>
          simp only [step, hclient, turn, hphase, enrollTurn,
            enrollments_goOn]
          exact List.mem_cons_self

theorem step (h : w.Enlisted primitives publicKey id token)
    (hdigest : ∀ token, (primitives.tokenDigest token).length = sha256Size)
    {move : Move Addr} (hhonest : w.Honest primitives publicKey move)
    (horderly : w.Orderly primitives publicKey move)
    (hkept : w.Kept id token move) :
    (w.step primitives publicKey move).Enlisted primitives publicKey id
      token := by
  refine ⟨h.paired.step hhonest, steady_step hdigest h.steady horderly,
    h.ready.step move, ?_, ?_, ?_⟩
  · have hlater : ∀ {request dir file}, Origin publicKey w request dir file →
        ∃ dir file, Origin publicKey (w.step primitives publicKey move) request
          dir file := by
      intro request dir file horigin
      obtain ⟨later, hheld, hsame⟩ := files_step h.paired move horigin.held
      exact ⟨dir, later, horigin.later hheld hsame⟩
    intro request hrequest
    rcases w.enrollments_step primitives publicKey move with hsame |
      ⟨dir, client, hclient, hnew⟩
    · rw [hsame] at hrequest
      obtain ⟨dir, file, horigin⟩ := h.origins request hrequest
      exact hlater horigin
    · rw [hnew] at hrequest
      rcases List.mem_cons.mp hrequest with rfl | hold
      · obtain ⟨file, horigin⟩ := h.origin hclient
        exact hlater horigin
      · obtain ⟨dir, file, horigin⟩ := h.origins request hold
        exact hlater horigin
  · intro id' key hmem
    rcases h.enrolled_cases hkept hmem with hold | ⟨-, hnew⟩
    · obtain ⟨request, hrequest, hrest⟩ := h.logged id' key hold
      refine ⟨request, ?_, hrest⟩
      rcases w.enrollments_step primitives publicKey move with hsame |
        ⟨_, _, _, hmore⟩
      · rwa [hsame]
      · rw [hmore]
        exact List.mem_cons_of_mem _ hrequest
    · exact hnew
  · intro key hmem
    rcases h.enrolled_cases hkept hmem with
      hold | ⟨⟨event, hmeets, hstep, hlog⟩, -⟩
    · obtain ⟨hne, hrecorded⟩ := h.recorded key hold
      refine ⟨hne, ?_⟩
      rcases w.registry_step primitives publicKey move with hsame |
        ⟨event, hmeets, hstep⟩
      · rw [hsame]
        exact hrecorded
      · rw [hstep]
        exact h.steady.recorded_step hdigest (horderly event hmeets).1
          (hkept.spares hmeets) hne (List.ne_nil_of_mem hold) hrecorded
    · rw [hstep]
      exact h.steady.recorded_of_enrolled hdigest (horderly event hmeets).1 hlog

theorem begin
    {given : RegistryConfig} {registry : Registry}
    (hnew : newRegistry primitives given = .ok registry) :
    (Deployment.begin registry.config : Deployment Addr).Enlisted primitives
      publicKey id token := by
  have hempty : registry = { config := registry.config } := by
    have := newRegistry_agents hnew
    cases registry
    simp only at this
    rw [this]
  have hsound := Sound.start hnew
  rw [hempty] at hsound
  refine ⟨.begin _, ⟨.start _, hsound, ?_, ?_⟩, ?_, ?_, ?_, ?_⟩
  · intro hne
    exact absurd rfl hne
  · exact ⟨List.nodup_nil, List.nodup_nil, by simp [Deployment.begin,
      World.start, enrolledTokens], by simp [Deployment.begin, World.start,
        openToken, latest], by simp [Deployment.begin, World.start, openToken,
          latest]⟩
  · intro dir client hclient
    simp [Deployment.begin] at hclient
  · intro request hrequest
    cases hrequest
  · intro id' key hmem
    cases hmem
  · intro key hmem
    cases hmem

end Enlisted

/-- A heartbeat of the start reaches the registry, which can take it in. -/
structure Proves (primitives : Primitives Addr) (id : Text)
    (w : Deployment Addr) (client : AgentClient) (health : Text) (made : Made)
    (reached : Option (Reached Addr)) : Prop where
  written : made.written = true
  body : primitives.decodeHeartbeat made.body =
    some (client.heartbeatRequest health)
  length : made.signature.length = signatureSize
  answered : ∃ answered, reached = some answered ∧
    Timely w.registry.store made.now answered.outside ∧
    ∀ record, w.registry.store.agents[id]? = some record →
      sourceMatches primitives record.expectedSourceIP answered.sourceIP = true

/-- The start goes on and can reach the controller. -/
def Reaches (primitives : Primitives Addr) (id : Text) (dir : Nat)
    (w : Deployment Addr) : Move Addr → Prop
  | .crash other => other ≠ dir
  | .turn other made reached =>
      other = dir → ∀ client, w.clients[dir]? = some client →
        (client.phase = .recovering →
          w.Proves primitives id client "starting" made reached) ∧
        (client.phase = .marking → made.written = true) ∧
        (client.phase = .greeting →
          w.Proves primitives id client "healthy" made reached)
  | _ => True

omit [DecidableEq Addr] in
/-- The payload of a valid identity is complete. -/
theorem nextPayload_isSome (primitives : Primitives Addr) {client : AgentClient}
    (hready : client.Ready) {made : Made} (hset : made.now.isZero = false) :
    ∃ payload, client.nextPayload primitives .heartbeat made =
      some payload := by
  have hne := hready.named.2
  have hmethod : trimSpace ("POST" : Text) ≠ [] := by decide
  have hpath : trimSpace Endpoint.heartbeat.path ≠ [] := by decide
  refine ⟨_, if_neg ?_⟩
  simp only [hready.named.1, hset, hne, or_false, not_or, Bool.false_eq_true,
    Nat.succ_ne_zero]
  exact ⟨hmethod, hpath⟩

/-- A heartbeat that reaches the registry proves the recorded key. -/
theorem Enlisted.proves (h : w.Enlisted primitives publicKey id token)
    {dir : Nat} {client : AgentClient} {key : Bytes} {health : Text}
      {made : Made}
    {reached : Option (Reached Addr)} (hclient : w.clients[dir]? = some client)
    (hid : client.config.agentID = id) (hkey : client.key publicKey = key)
    (hnonempty : key ≠ []) (hrecorded : Recorded id key w.registry)
    (hhealth : validHealth health = true)
    (hsigns : Signs primitives publicKey client .heartbeat made)
    (hproves : w.Proves primitives id client health made reached) :
    let answered := w.exchange primitives publicKey dir client .heartbeat made
      reached
    answered.2 = true ∧
      answered.1.clients = w.clients.insert dir client.counted ∧
      ∃ request sourceIP, request.agentID = id ∧ request.path = heartbeatPath ∧
        answered.1.registry.log =
          .accepted request key sourceIP :: w.registry.log := by
  obtain ⟨answered, rfl, htimely, hsource⟩ := hproves.answered
  obtain ⟨record, hrecord, hsame, henabled⟩ := hrecorded
  have hready := h.ready dir client hclient
  obtain ⟨file, hfile, hle, hidentity⟩ := h.paired.clients dir client hclient
  obtain ⟨htrim, hne⟩ := hready.named
  obtain ⟨payload, hpayload⟩ := nextPayload_isSome primitives hready htimely.set
  -- the key on record is that of the file
  have hfileKey : record.identityPublicKey =
      publicKey file.identityPrivateKey := by
    rw [hsame, ← hkey, AgentClient.key, hidentity]
  have hknown : record.identityPublicKey ∈ w.generated :=
    hfileKey ▸ h.paired.generated dir file hfile
  have hcount : record.lastSequence < client.identity.nextSequence + 1 := by
    rcases h.paired.counter_sent hrecord hknown with
      hzero | ⟨_, _, sent, hsent, _, _, hsentKey, hsequence⟩
    · omega
    · have := h.paired.bounded dir file hfile sent hsent
        (hsentKey.trans hfileKey)
      omega
  obtain ⟨hlength, henrolled, -⟩ :=
    h.steady.enrolled_of_key hrecord (hsame ▸ hnonempty)
  obtain ⟨address, haddress⟩ := sourceMatches_some (hsource record hrecord)
  have hauth : Store.authenticated primitives record
      ⟨answered.sourceIP, made.now, client.identity.nextSequence + 1, payload,
        made.signature⟩ = .ok () := by
    refine authenticated_ok (hsource record hrecord) hlength henrolled hcount
      hproves.length ?_
    rw [hsame, ← hkey]
    exact hsigns payload hpayload
  have hfound : w.registry.store.agents[trimSpace client.config.agentID]? =
      some record := by
    rw [htrim, hid]
    exact hrecord
  have hversion : validShortText client.config.agentVersion 128 = true := by
    have hvalid := hready.valid
    rw [ClientConfig.valid, Bool.and_eq_true] at hvalid
    exact hvalid.2
  have haccepted := @acceptHeartbeat_ok _ _ primitives w.registry.store
    (client.heartbeatRequest health) record _ _ htimely rfl hne hversion hhealth
    (Nat.succ_ne_zero _) hfound henabled hauth
  have hhandled := @handle_heartbeat _ _ primitives w.registry.store
    (client.nextRequest .heartbeat made) (client.heartbeatRequest health)
    answered.sourceIP answered.outside payload address rfl haddress
    hproves.body rfl (by rw [AgentClient.nextRequest, htrim]; exact hne)
    (by rw [AgentClient.nextRequest, htrim]; exact hpayload) haccepted
  have hposted : w.post primitives publicKey dir client .heartbeat made =
      ({ w with
          clients := w.clients.insert dir client.counted
          files := w.files.insert dir client.counted.identity
          sent := ⟨client.key publicKey, client.nextRequest .heartbeat made⟩ ::
            w.sent },
        some (client.nextRequest .heartbeat made)) := by
    simp only [post, hready.keys, hproves.written, hpayload, Bool.not_true,
      Bool.false_eq_true, ↓reduceIte]
  simp only [exchange, hposted, answer, hhandled, Option.isSome_some, true_and]
  refine ⟨{ client.nextRequest .heartbeat made with
      agentID := trimSpace client.config.agentID }, answered.sourceIP,
    htrim.trans hid, rfl, ?_⟩
  simp only [World.step]
  split
  · rename_i hnone
    rw [hnone] at hhandled
    cases hhandled
  · rename_i store request hsome
    rw [hsome] at hhandled
    obtain rfl := Option.some.inj hhandled
    simp only [World.currentKey, AgentClient.nextRequest, hfound, hsame,
      SignedRequest.call]

variable (publicKey) in
/-- The log of the registry only grows. -/
theorem log_grows (h : Steady primitives w.registry) (move : Move Addr) :
    ∃ newer, (w.step primitives publicKey move).registry.log =
      newer ++ w.registry.log := by
  rcases registry_step primitives publicKey move (w := w) with
    hsame | ⟨event, -, hstep⟩
  · exact ⟨[], by rw [hsame]; rfl⟩
  · have hchange : Change primitives w.registry event _ :=
      step_change h.trusted.known.keyed event
    rw [hstep]
    cases hchange with
    | quiet hlog _ _ => exact ⟨[], hlog⟩
    | reloaded hlog _ _ => exact ⟨[], hlog⟩
    | @wrote _ entry _ _ hlog _ _ _ => exact ⟨[entry], hlog⟩

/-- The directory a move is about. -/
def moveDir : Move Addr → Option Nat
  | .start dir _ _ _ _ | .crash dir | .turn dir _ _ | .post dir _ _ _ =>
      some dir
  | .registry _ => none

/-- The processes of the other directories stay as they are. -/
theorem clients_other {move : Move Addr} {dir : Nat}
    (hdir : moveDir move ≠ some dir) :
    (w.step primitives publicKey move).clients[dir]? = w.clients[dir]? := by
  have hgoOn : ∀ (v : Deployment Addr) other phase, other ≠ dir →
      (v.goOn other phase).clients[dir]? = v.clients[dir]? := by
    intro v other phase hne
    unfold goOn
    split
    · rfl
    · rw [GoMap.get_insert, if_neg hne]
  have hexit : ∀ (v : Deployment Addr) other, other ≠ dir →
      (v.exit other).clients[dir]? = v.clients[dir]? := by
    intro v other hne
    exact (GoMap.get_erase _ _ _).trans (if_neg hne)
  have hexchange : ∀ other client endpoint made reached, other ≠ dir →
      (w.exchange primitives publicKey other client endpoint made
        reached).1.clients[dir]? = w.clients[dir]? := by
    intro other client endpoint made reached hne
    simp only [exchange, (answer_rest _ _ _).2.1]
    rcases clients_post primitives publicKey other client endpoint made
        (w := w) with hsame | hcounted
    · rw [hsame]
    · rw [hcounted, GoMap.get_insert, if_neg hne]
  cases move with
  | registry event => rfl
  | start other config prepared generated written =>
      have hne : other ≠ dir := fun h => hdir (congrArg some h)
      simp only [step]
      split
      · rfl
      · split
        · rfl
        · exact GoMap.get_set_of_ne _ hne _
  | crash other => exact hexit w other fun h => hdir (congrArg some h)
  | post other endpoint made reached =>
      have hne : other ≠ dir := fun h => hdir (congrArg some h)
      simp only [step]
      split
      · rfl
      · split
        · exact hexchange _ _ _ _ _ hne
        · rfl
  | turn other made reached =>
      have hne : other ≠ dir := fun h => hdir (congrArg some h)
      simp only [step]
      cases w.clients[other]? with
      | none => rfl
      | some client =>
          have hbeat : ∀ next, (w.heartbeatTurn primitives publicKey other
              client made reached next).clients[dir]? = w.clients[dir]? := by
            intro next
            simp only [heartbeatTurn]
            split
            · rw [hgoOn _ _ _ hne, hexchange _ _ _ _ _ hne]
            · rw [hexit _ _ hne, hexchange _ _ _ _ _ hne]
          simp only [turn]
          cases client.phase with
          | enrolling =>
              simp only [enrollTurn]
              split <;> exact hgoOn _ _ _ hne
          | recovering => exact hbeat _
          | greeting => exact hbeat _
          | connected => rfl
          | marking =>
              simp only [markTurn]
              split
              · exact (GoMap.get_insert _ _ _ _).trans (if_neg hne)
              · exact hexit _ _ hne

/-- How many turns a start has left before the loops of `Run`. -/
def turnsLeft : Phase → Nat
  | .enrolling => 4
  | .recovering => 3
  | .marking => 2
  | .greeting => 1
  | .connected => 0

/-- A turn of the process of the directory. -/
def isTurn (dir : Nat) : Move Addr → Bool
  | .turn other _ _ => other = dir
  | _ => false

/-- A start on the recorded identity, after so many of its turns. -/
structure Starting (primitives : Primitives Addr) (publicKey : Bytes → Bytes)
    (id token : Text) (key : Bytes) (dir : Nat) (base : List (Entry Addr))
    (turns : Nat) (w : Deployment Addr) : Prop where
  enlisted : w.Enlisted primitives publicKey id token
  enrolled : Entry.enrolled id token key ∈ w.registry.log
  process : ∃ client, w.clients[dir]? = some client ∧
    client.config.agentID = id ∧ client.key publicKey = key ∧
    (client.phase = .connected ∨ turnsLeft client.phase + turns ≤ 4) ∧
    ∃ newer, w.registry.log = newer ++ base ∧
      (client.phase = .connected → ∃ request sourceIP,
        Entry.accepted request key sourceIP ∈ newer ∧ request.agentID = id ∧
          request.path = heartbeatPath)

omit [DecidableEq Addr] in
theorem get_goOn {dir : Nat} {client : AgentClient} (phase : Phase)
    (h : w.clients[dir]? = some client) :
    (w.goOn dir phase).clients[dir]? = some { client with phase := phase } := by
  unfold goOn
  rw [h]
  exact (GoMap.get_insert _ _ _ _).trans (if_pos rfl)

namespace Starting

variable {key : Bytes} {dir : Nat} {base : List (Entry Addr)} {turns : Nat}

/-- The heartbeat of a start is accepted, and the process goes on. -/
theorem beat (h : w.Starting primitives publicKey id token key dir base turns)
    {client : AgentClient} {health : Text} {made : Made}
    {reached : Option (Reached Addr)} (next : Phase)
    (hclient : w.clients[dir]? = some client) (hid : client.config.agentID = id)
    (hkey : client.key publicKey = key) (hhealth : validHealth health = true)
    (hsigns : Signs primitives publicKey client .heartbeat made)
    (hproves : w.Proves primitives id client health made reached) :
    let beaten := w.heartbeatTurn primitives publicKey dir client made reached
      next
    beaten.clients[dir]? = some { client.counted with phase := next } ∧
      ∃ request sourceIP, request.agentID = id ∧ request.path = heartbeatPath ∧
        beaten.registry.log =
          .accepted request key sourceIP :: w.registry.log := by
  obtain ⟨hne, hrecorded⟩ := h.enlisted.recorded key h.enrolled
  obtain ⟨hanswer, hclients, request, sourceIP, hagent, hpath, hlog⟩ :=
    h.enlisted.proves hclient hid hkey hne hrecorded hhealth hsigns hproves
  simp only [heartbeatTurn, hanswer, ↓reduceIte, registry_goOn]
  refine ⟨get_goOn next ?_, request, sourceIP, hagent, hpath, hlog⟩
  rw [hclients, GoMap.get_insert, if_pos rfl]

/-- The start after a move: its process, and what the log gained. -/
theorem next (h : w.Starting primitives publicKey id token key dir base turns)
    {w' : Deployment Addr} (henlisted : w'.Enlisted primitives publicKey
      id token)
    {more : List (Entry Addr)} (hlog : w'.registry.log = more ++ w.registry.log)
    {turns' : Nat} {client : AgentClient} (hclient : w'.clients[dir]? =
      some client)
    (hid : client.config.agentID = id) (hkey : client.key publicKey = key)
    (hleft : client.phase = .connected ∨
      turnsLeft client.phase + turns' ≤ 4)
    (hdone : client.phase = .connected →
      (∃ before, w.clients[dir]? = some before ∧ before.phase = .connected) ∨
        ∃ request sourceIP, Entry.accepted request key sourceIP ∈ more ∧
          request.agentID = id ∧ request.path = heartbeatPath) :
    w'.Starting primitives publicKey id token key dir base turns' := by
  obtain ⟨before, hbefore, -, -, -, newer, hnewer, hconnected⟩ := h.process
  refine ⟨henlisted, ?_, client, hclient, hid, hkey, hleft, more ++ newer, ?_,
    ?_⟩
  · rw [hlog]
    exact List.mem_append_right _ h.enrolled
  · rw [hlog, hnewer, List.append_assoc]
  · intro hphase
    rcases hdone hphase with ⟨other, hother, hwas⟩ | ⟨request, sourceIP,
      hmem, hrest⟩
    · rw [hbefore] at hother
      obtain rfl := Option.some.inj hother
      obtain ⟨request, sourceIP, hmem, hrest⟩ := hconnected hwas
      exact ⟨request, sourceIP, List.mem_append_right _ hmem, hrest⟩
    · exact ⟨request, sourceIP, List.mem_append_left _ hmem, hrest⟩

/-- The enrollment of a recorded identity is refused. -/
theorem refused (h : w.Starting primitives publicKey id token key dir
    base turns)
    {client : AgentClient} (hclient : w.clients[dir]? = some client)
    (hid : client.config.agentID = id) (reached : Option (Reached Addr)) :
    (w.enrollTurn primitives publicKey dir client reached).clients[dir]? =
      some { client with phase := .recovering } := by
  obtain ⟨hne, record, hrecord, hkey, -⟩ :=
    h.enlisted.recorded key h.enrolled
  obtain ⟨-, -, hused⟩ :=
    h.enlisted.steady.enrolled_of_key hrecord (hkey ▸ hne)
  have htrim := (h.enlisted.ready dir client hclient).named.1
  cases reached with
  | none =>
      simp only [enrollTurn]
      exact get_goOn _ hclient
  | some answered =>
      have hfound : w.registry.store.agents[trimSpace
          (client.enrollRequest publicKey).agentID]? = some record := by
        simp only [AgentClient.enrollRequest]
        rw [htrim, hid]
        exact hrecord
      have hrefused := @enroll_refused _ _ primitives _ _ answered.sourceIP
        answered.outside _ hfound hused
      simp only [enrollTurn, hrefused, Bool.false_eq_true, ↓reduceIte]
      exact get_goOn _ hclient

/-- A turn brings a start that reaches the controller one phase further. -/
theorem turn (h : w.Starting primitives publicKey id token key dir base turns)
    (hdigest : ∀ token, (primitives.tokenDigest token).length = sha256Size)
    {made : Made} {reached : Option (Reached Addr)}
    (hhonest : w.Honest primitives publicKey (.turn dir made reached))
    (horderly : w.Orderly primitives publicKey (.turn dir made reached))
    (hreaches : w.Reaches primitives id dir (.turn dir made reached)) :
    (w.step primitives publicKey (.turn dir made reached)).Starting primitives
      publicKey id token key dir base (turns + 1) := by
  obtain ⟨client, hclient, hid, hkey, hleft, -⟩ := h.process
  have henlisted := h.enlisted.step hdigest hhonest horderly trivial
  obtain ⟨hrecovering, hmarking, hgreeting⟩ := hreaches rfl client hclient
  have hsigns := hhonest client hclient
  obtain ⟨more, hmore⟩ := log_grows publicKey h.enlisted.steady
    (.turn dir made reached)
  have hstep : w.step primitives publicKey (.turn dir made reached) =
      w.turn primitives publicKey dir client made reached := by
    simp only [Deployment.step, hclient]
  rw [hstep] at henlisted hmore ⊢
  simp only [Deployment.turn] at henlisted hmore ⊢
  cases hphase : client.phase with
  | enrolling =>
      simp only [hphase, turnsLeft, reduceCtorEq, false_or] at hleft
      simp only [hphase] at henlisted hmore ⊢
      refine h.next henlisted hmore (h.refused hclient hid reached) hid hkey
        (Or.inr ?_) (by rintro ⟨⟩)
      simp only [turnsLeft]
      omega
  | recovering =>
      simp only [hphase, turnsLeft, reduceCtorEq, false_or] at hleft
      simp only [hphase] at henlisted hmore ⊢
      obtain ⟨hafter, -⟩ := h.beat .marking hclient hid hkey (by decide)
        (hsigns (Or.inl hphase)) (hrecovering hphase)
      refine h.next henlisted hmore hafter hid hkey (Or.inr ?_)
        (by rintro ⟨⟩)
      simp only [turnsLeft]
      omega
  | marking =>
      simp only [hphase, turnsLeft, reduceCtorEq, false_or] at hleft
      simp only [hphase] at henlisted hmore ⊢
      have hafter : (w.markTurn dir client made).clients[dir]? =
          some client.marked := by
        simp only [markTurn, hmarking hphase, ↓reduceIte]
        exact (GoMap.get_insert _ _ _ _).trans (if_pos rfl)
      refine h.next henlisted hmore hafter hid hkey (Or.inr ?_)
        (by rintro ⟨⟩)
      simp only [AgentClient.marked, turnsLeft]
      omega
  | greeting =>
      simp only [hphase, turnsLeft, reduceCtorEq, false_or] at hleft
      simp only [hphase] at henlisted hmore ⊢
      obtain ⟨hafter, request, sourceIP, hagent, hpath, hlog⟩ :=
        h.beat .connected hclient hid hkey (by decide)
          (hsigns (Or.inr hphase)) (hgreeting hphase)
      have hnew : Entry.accepted request key sourceIP ∈ more := by
        rw [hlog, ← List.singleton_append, List.append_left_inj] at hmore
        rw [← hmore]
        exact List.mem_singleton_self _
      exact h.next henlisted hmore hafter hid hkey (Or.inl rfl) fun _ =>
        Or.inr ⟨request, sourceIP, hnew, hagent, hpath⟩
  | connected =>
      simp only [hphase] at henlisted hmore ⊢
      exact h.next henlisted hmore hclient hid hkey (Or.inl hphase) fun _ =>
        Or.inl ⟨client, hclient, hphase⟩

/-- Every move of a start that reaches the controller. -/
theorem step (h : w.Starting primitives publicKey id token key dir base turns)
    (hdigest : ∀ token, (primitives.tokenDigest token).length = sha256Size)
    {move : Move Addr} (hhonest : w.Honest primitives publicKey move)
    (horderly : w.Orderly primitives publicKey move)
    (hkept : w.Kept id token move) (hreaches : w.Reaches primitives id dir
      move) :
    (w.step primitives publicKey move).Starting primitives publicKey id token
      key dir base (turns + if isTurn dir move then 1 else 0) := by
  have henlisted := h.enlisted.step hdigest hhonest horderly hkept
  obtain ⟨more, hmore⟩ := log_grows publicKey h.enlisted.steady move
  obtain ⟨client, hclient, hid, hkey, hleft, -⟩ := h.process
  by_cases hdir : moveDir move = some dir
  · cases move with
    | registry event => cases hdir
    | crash other => exact absurd (Option.some.inj hdir) hreaches
    | turn other made reached =>
        obtain rfl := Option.some.inj hdir
        simpa [isTurn] using h.turn hdigest hhonest horderly hreaches
    | start other config prepared generated written =>
        obtain rfl := Option.some.inj hdir
        simpa [isTurn, Deployment.step, hclient] using h
    | post other endpoint made reached =>
        obtain rfl := Option.some.inj hdir
        simp only [isTurn, Bool.false_eq_true, ↓reduceIte, Nat.add_zero]
        by_cases hphase : client.phase = .connected
        · have hclients : (w.step primitives publicKey
              (.post other endpoint made reached)).clients =
                (w.post primitives publicKey other client endpoint
                  made).1.clients := by
            simp only [Deployment.step, hclient, hphase, ↓reduceIte, exchange,
              (answer_rest _ _ _).2.1]
          rcases clients_post primitives publicKey other client endpoint made
              (w := w) with hsame | hcounted
          · rw [hsame] at hclients
            exact h.next henlisted hmore (hclients ▸ hclient) hid hkey
              (Or.inl hphase) fun _ => Or.inl ⟨client, hclient, hphase⟩
          · have hafter : (w.step primitives publicKey
                (.post other endpoint made reached)).clients[other]? =
                  some client.counted := by
              rw [hclients, hcounted, GoMap.get_insert, if_pos rfl]
            exact h.next henlisted hmore hafter hid hkey (Or.inl hphase)
              fun _ => Or.inl ⟨client, hclient, hphase⟩
        · simpa [Deployment.step, hclient, hphase] using h
  · have hnot : isTurn dir move = false := by
      cases move with
      | turn other made reached =>
          simpa [isTurn] using fun hother : other = dir =>
            hdir (by rw [hother]; rfl)
      | _ => rfl
    rw [hnot]
    simp only [Bool.false_eq_true, ↓reduceIte, Nat.add_zero]
    refine h.next henlisted hmore ((clients_other hdir).trans hclient) hid hkey
      hleft ?_
    intro hphase
    exact Or.inl ⟨client, hclient, hphase⟩

end Starting

/-- The random generator, Ed25519, the clock and the operators do as assumed,
and nobody else knows the token. -/
def Undisturbed (primitives : Primitives Addr) (publicKey : Bytes → Bytes)
    (id token : Text) (w : Deployment Addr) (move : Move Addr) : Prop :=
  w.Honest primitives publicKey move ∧ w.Orderly primitives publicKey move ∧
    w.Kept id token move

/-- A start on the directory of the recorded identity. -/
theorem Enlisted.started (h : w.Enlisted primitives publicKey id token)
    (hdigest : ∀ token, (primitives.tokenDigest token).length = sha256Size)
    {key : Bytes} (hrecorded : Entry.enrolled id token key ∈ w.registry.log)
    {request : EnrollRequest} {dir : Nat} {file : IdentityFile}
    (horigin : Origin publicKey w request dir file)
    (hagent : trimSpace request.agentID = id)
    (hkey : request.identityPublicKey = key) {config : ClientConfig}
    (generated : Bytes × Bytes) (written : Bool)
    (hstopped : w.clients[dir]? = none) (hid : trimSpace config.agentID = id)
    (hvalid : config.normalized.valid = true)
    (htoken : trimSpace config.enrollmentToken ≠ []) :
    (w.step primitives publicKey
      (.start dir config true generated written)).Starting primitives publicKey
        id token key dir w.registry.log 0 := by
  have hsame : file.agentID = config.normalized.agentID := by
    rw [horigin.agentID, ← trimSpace_identifier horigin.identifier, hagent]
    exact hid.symm
  have hload : loadOrCreateIdentity config.normalized.agentID generated written
      w.files[dir]? = some file := by
    simp only [horigin.held, loadOrCreateIdentity, horigin.version, hsame,
      horigin.keys, ne_eq, not_true_eq_false, or_self, ↓reduceIte,
      Bool.not_true, Bool.false_eq_true]
  have hstep : w.step primitives publicKey
      (.start dir config true generated written) =
        w.started publicKey dir config.normalized file := by
    simp only [Deployment.step, hstopped, hvalid, hload, Option.isSome_none,
      Bool.not_true, Bool.or_self, Bool.false_eq_true, ↓reduceIte]
  have henlisted : (w.step primitives publicKey
      (.start dir config true generated written)).Enlisted primitives publicKey
        id token := by
    refine h.step hdigest ?_ ?_ trivial
    · intro hnone
      rw [horigin.held] at hnone
      cases hnone
    · intro event hmeets
      cases hmeets
  obtain ⟨phase, hphase, hleft, hnot⟩ : ∃ phase,
      firstPhase config.normalized file = some phase ∧ turnsLeft phase ≤ 4 ∧
        phase ≠ .connected := by
    unfold firstPhase
    split
    · exact ⟨_, rfl, by decide, by rintro ⟨⟩⟩
    · have hset : trimSpace config.normalized.enrollmentToken ≠ [] := htoken
      rw [if_neg hset, horigin.keys]
      exact ⟨_, rfl, by decide, by rintro ⟨⟩⟩
  refine ⟨henlisted, ?_, ⟨config.normalized, file, phase⟩, ?_, hid,
    horigin.key.trans hkey, Or.inr hleft,
      [], ?_, fun hdone => absurd hdone hnot⟩
  · rw [hstep]
    exact hrecorded
  · rw [hstep, Deployment.started, hphase]
    exact GoMap.get_set_self _ _ _
  · rw [hstep]
    rfl

end Runs

end Deployment

namespace Sample

open Deployment

/-- The agent is enrolled, and its process ends before the flag is written. -/
def interruptedRun : List (Move Nat) :=
  [.registry createAgent, .start 0 agentConfig true identityPair true,
    .turn 0 { now := now } (some reached), .crash 0]

/-- The next start: its enrollment is refused, its heartbeat is not. -/
def recoveringRun : List (Move Nat) :=
  [.turn 0 { now := now } (some reached),
    .turn 0 { now := now, body := [2], signature := signature 3 }
      (some reached),
    .turn 0 { now := now } none, .turn 0 (beating 2) (some reached)]

def interrupted : Deployment Nat :=
  run agentStep (.begin config) interruptedRun

def restarted : Deployment Nat :=
  agentStep interrupted (.start 0 agentConfig true identityPair true)

/-- After the first turns of the next start. -/
def recovered (count : Nat) : Deployment Nat :=
  run agentStep restarted (recoveringRun.take count)

end Sample

end XrayChecker.Probeagent

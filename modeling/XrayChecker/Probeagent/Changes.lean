import XrayChecker.Probeagent.Runs

/-
What one step of the registry can do: write one record to memory and file
alike with an answer that tells so, load the file again, or change nothing.
-/

namespace XrayChecker.Probeagent

open Go

def Entry.agentID {Addr : Type} : Entry Addr → Text
  | .created agentID _ _ => agentID
  | .reissued agentID _ => agentID
  | .withdrawn agentID => agentID
  | .enrolled agentID _ _ => agentID
  | .accepted request _ _ => request.agentID

section

variable {Addr : Type} [DecidableEq Addr] (primitives : Primitives Addr)

/-- The parts of a record that no accepted request changes. -/
structure SameAgent (previous record : AgentRecord) : Prop where
  agentID : record.agentID = previous.agentID
  enabled : record.enabled = previous.enabled
  key : record.identityPublicKey = previous.identityPublicKey
  token : record.enrollmentTokenHash = previous.enrollmentTokenHash
  source : record.expectedSourceIP = previous.expectedSourceIP

/-- What a successful operation found, wrote and answered. -/
inductive Wrote (world : World Addr) :
    Event Addr → Entry Addr → Option AgentRecord → Prop where
  | created (request : CreateAgentRequest) (outside : Outside)
      (record : AgentRecord) (token : Text)
      (hissued : outside.token = .ok token)
      (hkey : record.identityPublicKey = [])
      (htoken : record.enrollmentTokenHash = primitives.tokenDigest token) :
      Wrote world (.create request outside)
        (.created record.agentID token record.expectedSourceIP) (some record)
  | reissued (agentID : Text) (outside : Outside) (previous : AgentRecord)
      (token : Text) (hissued : outside.token = .ok token)
      (hfound : world.store.agents[trimSpace agentID]? = some previous) :
      Wrote world (.reissue agentID outside)
        (.reissued (trimSpace agentID) token)
        (some (world.store.reissuedRecord primitives previous token
          outside.now))
  | revoked (agentID : Text) (outside : Outside) (previous : AgentRecord)
      (hfound : world.store.agents[trimSpace agentID]? = some previous) :
      Wrote world (.revoke agentID outside) (.withdrawn (trimSpace agentID))
        (some (Store.revokedRecord previous outside.now))
  | deleted (agentID : Text) (outside : Outside) :
      Wrote world (.delete agentID outside) (.withdrawn (trimSpace agentID))
        none
  | enrolled (request : EnrollRequest) (sourceIP : Option Addr)
      (outside : Outside) (previous : AgentRecord)
      (hfound : world.store.agents[trimSpace request.agentID]? = some previous)
      (hallowed : Store.enrollable primitives request sourceIP previous
        outside.now = .ok ()) :
      Wrote world (.enroll request sourceIP outside)
        (.enrolled (trimSpace request.agentID) request.enrollmentToken
          request.identityPublicKey)
        (some (Store.enrolledRecord request previous outside.now))
  | accepted (endpoint : Endpoint) (call : SignedCall Addr) (outside : Outside)
      (previous record : AgentRecord) (request : SignedRequest)
      (authentication : Store.Authentication Addr)
      (hfound : world.store.agents[request.agentID]? = some previous)
      (henabled : previous.enabled = true)
      (hauth : Store.authenticated primitives previous authentication = .ok ())
      (hpayload : controlSigningPayload primitives "POST" request.path
        request.agentID request.timestamp request.sequence request.body =
          some authentication.payload)
      (hsequence : authentication.sequence = request.sequence)
      (hsignature : authentication.signature = request.signature)
      (hsame : SameAgent previous record)
      (hcounter : record.lastSequence = request.sequence) :
      Wrote world (.control endpoint call outside)
        (.accepted request previous.identityPublicKey authentication.sourceIP)
        (some record)

/-- What one step can do. -/
inductive Change (world : World Addr) (event : Event Addr) :
    World Addr → Prop where
  | quiet {next : World Addr} (hlog : next.log = world.log)
      (hfile : next.store.file = world.store.file)
      (hagents : next.store.agents = world.store.agents) :
      Change world event next
  | reloaded {next : World Addr} (hlog : next.log = world.log)
      (hfile : next.store.file = world.store.file)
      (hagents : ∀ (id : Text) (record : AgentRecord),
        next.store.agents[id]? = some record →
        ∃ (file : RegistryFile) (kept : AgentRecord),
          world.store.file = some file ∧ file.agents[id]? = some kept ∧
            record.agentID = id ∧
            record = { kept with
              agentID := record.agentID, capabilities :=
                record.capabilities }) :
      Change world event next
  | wrote {next : World Addr} {file : RegistryFile} {entry : Entry Addr}
      {record : Option AgentRecord}
      (hwrote : Wrote primitives world event entry record)
      (hlog : next.log = entry :: world.log)
      (hfile : next.store.file = some file)
      (hagents : next.store.agents = file.agents)
      (hnext : file.agents = world.store.agents.set entry.agentID record) :
      Change world event next

/-- Every record lies under its own ID. -/
def Keyed (store : Store) : Prop :=
  ∀ (id : Text) (record : AgentRecord),
    store.agents[id]? = some record → record.agentID = id

end

namespace Store

theorem persist_cases (store : Store) (next restored : RegistryFile)
    (outside : Outside) :
    (∃ error, (store.persist next restored outside).2 = .error error ∧
      (store.persist next restored outside).1.file = store.file ∧
      (store.persist next restored outside).1.agents = restored.agents) ∨
    ((store.persist next restored outside).2 = .ok () ∧
      (store.persist next restored outside).1.file = some next ∧
      (store.persist next restored outside).1.agents = next.agents) := by
  unfold persist
  cases outside.persisted with
  | error text => exact Or.inl ⟨_, rfl, rfl, rfl⟩
  | ok _ => exact Or.inr ⟨rfl, rfl, rfl⟩

/-- A record is written to memory and file alike, or nothing changes. -/
theorem replaceRecord_cases (store : Store) {previous record : AgentRecord}
    (outside : Outside)
    (hfound : store.agents[record.agentID]? = some previous) :
    (∃ error, (store.replaceRecord previous record outside).2 = .error error ∧
      (store.replaceRecord previous record outside).1.file = store.file ∧
      (store.replaceRecord previous record outside).1.agents = store.agents) ∨
    ((store.replaceRecord previous record outside).2 = .ok () ∧
      ∃ file, (store.replaceRecord previous record outside).1.file =
          some file ∧
        (store.replaceRecord previous record outside).1.agents = file.agents ∧
        file.agents = store.agents.set record.agentID (some record)) := by
  have hundo : (store.agents.insert record.agentID record).insert
      record.agentID previous = store.agents :=
    GoMap.insert_insert_of_get hfound record
  rcases store.persist_cases
      (withAgents (store.agents.insert record.agentID record) outside.now)
      (withAgents ((store.agents.insert record.agentID record).insert
        record.agentID previous) store.registry.state.updatedAt) outside with
    ⟨error, hanswer, hfile, hagents⟩ | ⟨hanswer, hfile, hagents⟩
  · exact Or.inl ⟨error, hanswer, hfile, hagents.trans hundo⟩
  · exact Or.inr ⟨hanswer, _, hfile, hagents, rfl⟩

end Store

section

variable {Addr : Type} [DecidableEq Addr] {primitives : Primitives Addr}
  {world : World Addr} {event : Event Addr}

/-- An operation that was refused before it wrote anything. -/
theorem Change.of_refused {α : Type} {answer : Store × Except RegistryError α}
    {entry : α → Entry Addr} (error : RegistryError)
    (h : answer = (world.store, .error error)) :
    Change primitives world event (world.answered answer entry) := by
  subst h
  exact .quiet rfl rfl rfl

/-- The steps that end in `replaceRecord` change one record or nothing. -/
theorem Change.of_replaceRecord {α : Type} {previous record : AgentRecord}
    {outside : Outside} {result : Store → α} {entry : α → Entry Addr}
    (written : Entry Addr)
    (hfound : world.store.agents[record.agentID]? = some previous)
    (hentry : ∀ store, entry (result store) = written)
    (hid : written.agentID = record.agentID)
    (hwrote : Wrote primitives world event written (some record)) :
    Change primitives world event
      (world.answered
        (match world.store.replaceRecord previous record outside with
          | (store, .error error) => (store, .error error)
          | (store, .ok ()) => (store, .ok (result store)))
        entry) := by
  rcases hcases : world.store.replaceRecord previous record outside with
    ⟨store, answer⟩
  rcases world.store.replaceRecord_cases outside hfound with
    ⟨error, hanswer, hfile, hagents⟩ | ⟨hanswer, file, hfile, hagents, hnext⟩
  · rw [hcases] at hanswer hfile hagents
    subst hanswer
    exact .quiet rfl hfile hagents
  · rw [hcases] at hanswer hfile hagents
    subst hanswer
    refine .wrote hwrote ?_ hfile hagents (hid ▸ hnext)
    simp [World.answered, hentry]

theorem create_change (request : CreateAgentRequest) (outside : Outside) :
    Change primitives world (.create request outside)
      (world.step primitives (.create request outside)) := by
  simp only [World.step, Store.create]
  split
  · exact .of_refused _ rfl
  · split
    · exact .of_refused _ rfl
    · split
      · exact .of_refused _ rfl
      · rename_i agentID token htokens
        split
        · exact .of_refused _ rfl
        · rename_i hfresh
          have hissued : outside.token = .ok token := by
            unfold Store.generatedTokens at htokens
            split at htokens
            · cases htokens
            · cases htokens
            · rename_i htoken
              cases htokens
              exact htoken
          have hnone : world.store.agents[agentID]? = none := by
            apply Std.ExtTreeMap.getElem?_eq_none
            simpa using hfresh
          set record := world.store.newRecord primitives
            (world.store.applyControllerDefaults
              (normalizeCreateRequest primitives request)) agentID token
            outside.now with hrecord
          set agents := world.store.agents.insert agentID record with hagents'
          have hundo : agents.erase agentID = world.store.agents :=
            GoMap.erase_insert_of_none hnone record
          rcases hcases : world.store.persist
              (Store.withAgents agents outside.now)
              (Store.withAgents (agents.erase agentID)
                world.store.registry.state.updatedAt) outside with
            ⟨store, answer⟩
          rcases world.store.persist_cases
              (Store.withAgents agents outside.now)
              (Store.withAgents (agents.erase agentID)
                world.store.registry.state.updatedAt) outside with
            ⟨error, hanswer, hfile, hagents⟩ | ⟨hanswer, hfile, hagents⟩
          · rw [hcases] at hanswer hfile hagents
            subst hanswer
            exact .quiet rfl hfile (hagents.trans hundo)
          · rw [hcases] at hanswer hfile hagents
            subst hanswer
            exact .wrote (.created request outside record token hissued rfl rfl)
              rfl hfile hagents rfl

theorem reissue_change (hkeyed : Keyed world.store) (agentID : Text)
    (outside : Outside) :
    Change primitives world (.reissue agentID outside)
      (world.step primitives (.reissue agentID outside)) := by
  simp only [World.step, Store.reissue]
  split
  · exact .of_refused _ rfl
  · split
    · exact .of_refused _ rfl
    · rename_i token htoken
      split
      · exact .of_refused _ rfl
      · rename_i previous hfound
        have hid : previous.agentID = trimSpace agentID := hkeyed _ _ hfound
        refine .of_replaceRecord (.reissued (trimSpace agentID) token)
          ?_ (fun _ => rfl) hid.symm
          (.reissued agentID outside previous token htoken hfound)
        change world.store.agents[previous.agentID]? = some previous
        rw [hid, hfound]

theorem revoke_change (hkeyed : Keyed world.store) (agentID : Text)
    (outside : Outside) :
    Change primitives world (.revoke agentID outside)
      (world.step primitives (.revoke agentID outside)) := by
  simp only [World.step, Store.revoke]
  split
  · exact .of_refused _ rfl
  · rename_i previous hfound
    have hid : previous.agentID = trimSpace agentID := hkeyed _ _ hfound
    refine .of_replaceRecord (.withdrawn (trimSpace agentID))
      ?_ (fun _ => rfl) hid.symm (.revoked agentID outside previous hfound)
    change world.store.agents[previous.agentID]? = some previous
    rw [hid, hfound]

theorem delete_change (agentID : Text) (outside : Outside) :
    Change primitives world (.delete agentID outside)
      (world.step primitives (.delete agentID outside)) := by
  simp only [World.step, Store.delete]
  split
  · exact .of_refused _ rfl
  · split
    · exact .of_refused _ rfl
    · rename_i record hfound
      split
      · exact .of_refused _ rfl
      · have hundo : (world.store.agents.erase (trimSpace agentID)).insert
            (trimSpace agentID) record = world.store.agents :=
          GoMap.insert_erase_of_get hfound
        simp only [World.answered]
        rcases world.store.persist_cases
            (Store.withAgents
              (world.store.agents.erase (trimSpace agentID)) outside.now)
            (Store.withAgents
              ((world.store.agents.erase (trimSpace agentID)).insert
                (trimSpace agentID) record)
              world.store.registry.state.updatedAt) outside with
          ⟨error, hanswer, hfile, hagents⟩ | ⟨hanswer, hfile, hagents⟩
        · rw [hanswer]
          exact .quiet rfl hfile (hagents.trans hundo)
        · rw [hanswer]
          exact .wrote (.deleted agentID outside) rfl hfile hagents rfl

theorem enroll_change (hkeyed : Keyed world.store) (request : EnrollRequest)
    (sourceIP : Option Addr) (outside : Outside) :
    Change primitives world (.enroll request sourceIP outside)
      (world.step primitives (.enroll request sourceIP outside)) := by
  simp only [World.step, Store.enroll]
  split
  · exact .of_refused _ rfl
  · split
    · exact .of_refused _ rfl
    · split
      · exact .of_refused _ rfl
      · rename_i previous hfound
        have hid : previous.agentID = trimSpace request.agentID :=
          hkeyed _ _ hfound
        split
        · exact .of_refused _ rfl
        · rename_i hallowed
          refine .of_replaceRecord
            (.enrolled (trimSpace request.agentID) request.enrollmentToken
              request.identityPublicKey)
            ?_ (fun _ => rfl) hid.symm
            (.enrolled request sourceIP outside previous hfound hallowed)
          change world.store.agents[previous.agentID]? = some previous
          rw [hid, hfound]

/-- What an accepting endpoint found in the registry and wrote there. -/
structure AcceptedFrom (primitives : Primitives Addr) (store next : Store)
    (agentID : Text) (authentication : Store.Authentication Addr)
    (previous record : AgentRecord) (file : RegistryFile) : Prop where
  found : store.agents[trimSpace agentID]? = some previous
  enabled : previous.enabled = true
  authenticated :
    Store.authenticated primitives previous authentication = .ok ()
  same : SameAgent previous record
  counter : record.lastSequence = authentication.sequence
  written : next.file = some file
  inForce : next.agents = file.agents
  replaced : file.agents = store.agents.set (trimSpace agentID) (some record)

/-- The end both control requests share. -/
theorem acceptedFrom_of_replaceRecord {store : Store} (hkeyed : Keyed store)
    {agentID : Text} {authentication : Store.Authentication Addr}
    {previous : AgentRecord} (record : AgentRecord) (outside : Outside)
    (hfound : store.agents[trimSpace agentID]? = some previous)
    (henabled : previous.enabled = true)
    (hauth : Store.authenticated primitives previous authentication = .ok ())
    (hsame : SameAgent previous record)
    (hcounter : record.lastSequence = authentication.sequence) :
    (∃ error, (store.replaceRecord previous record outside).2 = .error error ∧
      (store.replaceRecord previous record outside).1.file = store.file ∧
      (store.replaceRecord previous record outside).1.agents = store.agents) ∨
    ((store.replaceRecord previous record outside).2 = .ok () ∧
      ∃ file, AcceptedFrom primitives store
        (store.replaceRecord previous record outside).1 agentID authentication
        previous record file) := by
  have hid : record.agentID = trimSpace agentID :=
    hsame.agentID.trans (hkeyed _ _ hfound)
  rcases store.replaceRecord_cases outside (hid ▸ hfound) with
    hfailed | ⟨hanswer, file, hfile, hagents, hnext⟩
  · exact Or.inl hfailed
  · exact Or.inr ⟨hanswer, file, hfound, henabled, hauth, hsame, hcounter,
      hfile, hagents, hid ▸ hnext⟩

/-- An endpoint accepts by writing one record, or changes nothing. -/
theorem accept_cases {store : Store} (hkeyed : Keyed store)
    {endpoint : Endpoint} {call : SignedCall Addr} {agentID : Text}
    (hbody : endpoint.bodyAgent primitives call.body = some agentID)
    (authentication : Store.Authentication Addr) (outside : Outside) :
    ((endpoint.accept primitives store agentID call authentication outside).2 =
        false ∧
      (endpoint.accept primitives store agentID call authentication
        outside).1.file = store.file ∧
      (endpoint.accept primitives store agentID call authentication
        outside).1.agents = store.agents) ∨
    ((endpoint.accept primitives store agentID call authentication outside).2 =
        true ∧
      ∃ previous record file, AcceptedFrom primitives store
        (endpoint.accept primitives store agentID call authentication
          outside).1 agentID authentication previous record file) := by
  have hcontrol : ∀ answer, answer =
      store.acceptControlRequest primitives agentID authentication outside →
      (answer.2.isOk = false ∧ answer.1.file = store.file ∧
        answer.1.agents = store.agents) ∨
      (answer.2.isOk = true ∧ ∃ previous record file,
        AcceptedFrom primitives store answer.1 agentID authentication previous
          record file) := by
    rintro answer rfl
    simp only [Store.acceptControlRequest]
    split
    · exact Or.inl ⟨rfl, rfl, rfl⟩
    · split
      · exact Or.inl ⟨rfl, rfl, rfl⟩
      · split
        · exact Or.inl ⟨rfl, rfl, rfl⟩
        · split
          · exact Or.inl ⟨rfl, rfl, rfl⟩
          · rename_i previous hfound
            split
            · exact Or.inl ⟨rfl, rfl, rfl⟩
            · rename_i hallowed
              split
              · exact Or.inl ⟨rfl, rfl, rfl⟩
              · rename_i hauth
                have henabled : previous.enabled = true := by
                  by_contra hdisabled
                  exact hallowed (by simp [hdisabled])
                rcases acceptedFrom_of_replaceRecord hkeyed
                    (Store.seenRecord previous authentication.sequence
                      outside.now) outside hfound henabled hauth
                    ⟨rfl, rfl, rfl, rfl, rfl⟩ rfl with
                  ⟨error, hanswer, hsame⟩ | ⟨hanswer, file, hfrom⟩
                · exact Or.inl ⟨by rw [hanswer]; rfl, hsame⟩
                · exact Or.inr ⟨by rw [hanswer]; rfl, _, _, file, hfrom⟩
  cases endpoint with
  | jobs => exact hcontrol _ rfl
  | observations => exact hcontrol _ rfl
  | heartbeat =>
      simp only [Endpoint.bodyAgent, Option.map_eq_some_iff] at hbody
      obtain ⟨input, hinput, rfl⟩ := hbody
      simp only [Endpoint.accept, hinput, Store.acceptHeartbeat]
      split
      · exact Or.inl ⟨rfl, rfl, rfl⟩
      · split
        · exact Or.inl ⟨rfl, rfl, rfl⟩
        · split
          · exact Or.inl ⟨rfl, rfl, rfl⟩
          · split
            · exact Or.inl ⟨rfl, rfl, rfl⟩
            · rename_i previous hfound
              split
              · exact Or.inl ⟨rfl, rfl, rfl⟩
              · rename_i hallowed
                split
                · exact Or.inl ⟨rfl, rfl, rfl⟩
                · rename_i hauth
                  rcases acceptedFrom_of_replaceRecord hkeyed
                      (Store.heartbeatRecord input previous
                        authentication.sequence outside.now) outside hfound
                      (by simpa using hallowed) hauth
                      ⟨rfl, rfl, rfl, rfl, rfl⟩ rfl with
                    ⟨error, hanswer, hfile, hagents⟩ | ⟨hanswer, file, hfrom⟩
                  · left
                    revert hanswer hfile hagents
                    generalize store.replaceRecord previous _ outside = answer
                    rcases answer with ⟨next, _ | _⟩
                    · intro _ hfile hagents
                      exact ⟨rfl, hfile, hagents⟩
                    · intro hanswer
                      simp at hanswer
                  · right
                    revert hanswer hfrom
                    generalize store.replaceRecord previous _ outside = answer
                    rcases answer with ⟨next, _ | _⟩
                    · intro hanswer
                      simp at hanswer
                    · intro _ hfrom
                      exact ⟨rfl, _, _, file, hfrom⟩

omit [DecidableEq Addr] in
/-- The payload a handler built is that of the request as it was signed. -/
theorem parse_payload {call : SignedCall Addr} {agentID path : Text}
    {authentication : Store.Authentication Addr}
    (hmethod : call.method = "POST")
    (h : parseProbeControlAuthentication primitives call agentID path =
      some authentication) :
    controlSigningPayload primitives "POST" path (trimSpace agentID)
        authentication.timestamp authentication.sequence call.body =
      some authentication.payload ∧
      authentication.sourceIP = call.sourceIP := by
  unfold parseProbeControlAuthentication at h
  split at h
  · rename_i sourceIP timestamp sequence signature hsource _ _ _
    simp only at h
    split at h
    · cases h
    · rename_i hagent
      push Not at hagent
      split at h
      · cases h
      · rename_i payload hpayload
        cases h
        rw [hagent.2, hmethod] at hpayload
        exact ⟨hpayload, hsource.symm⟩
  · cases h

theorem control_change (hkeyed : Keyed world.store) (endpoint : Endpoint)
    (call : SignedCall Addr) (outside : Outside) :
    Change primitives world (.control endpoint call outside)
      (world.step primitives (.control endpoint call outside)) := by
  simp only [World.step, Endpoint.handle]
  by_cases hmethod : call.method = "POST"
  · simp only [hmethod, ne_eq, not_true_eq_false, ↓reduceIte]
    cases hbody : endpoint.bodyAgent primitives call.body with
    | none => exact .quiet rfl rfl rfl
    | some agentID =>
        simp only
        cases hparse : parseProbeControlAuthentication primitives call agentID
            endpoint.path with
        | none => exact .quiet rfl rfl rfl
        | some authentication =>
            simp only
            obtain ⟨hpayload, hsource⟩ :=
              parse_payload hmethod hparse
            rcases hcases : endpoint.accept primitives world.store agentID call
                authentication outside with ⟨store, answer⟩
            rcases accept_cases hkeyed hbody authentication outside with
              ⟨hanswer, hfile, hagents⟩ |
                ⟨hanswer, previous, record, file, hfrom⟩
            · rw [hcases] at hanswer hfile hagents
              subst hanswer
              exact .quiet rfl hfile hagents
            · rw [hcases] at hanswer hfrom
              subst hanswer
              have hkey : world.currentKey (trimSpace agentID) =
                  previous.identityPublicKey := by
                simp only [World.currentKey, hfrom.found]
              refine .wrote (.accepted endpoint call outside previous record
                ⟨endpoint.path, trimSpace agentID, authentication.timestamp,
                  authentication.sequence, call.body, authentication.signature⟩
                authentication hfrom.found hfrom.enabled hfrom.authenticated
                hpayload rfl rfl hfrom.same hfrom.counter) ?_ hfrom.written
                hfrom.inForce hfrom.replaced
              simp only [hkey, hsource]
  · simp only [ne_eq, hmethod, not_false_eq_true, ↓reduceIte]
    exact .quiet rfl rfl rfl

omit [DecidableEq Addr] in
theorem decodeRecord_spec {id : Text} {kept record : AgentRecord}
    (h : decodeRecord primitives id kept = .ok record) :
    record.agentID = id ∧ record = { kept with
      agentID := record.agentID, capabilities := record.capabilities } := by
  unfold decodeRecord at h
  split at h
  · cases h
  · by_cases hid : id = (readRecord id kept).agentID
    · rw [if_neg (not_not.mpr hid)] at h
      cases h
      exact ⟨hid.symm, rfl⟩
    · rw [if_pos hid] at h
      cases h

omit [DecidableEq Addr] in
/-- Every record of the result was decoded, unless its entry was not visited
at all. -/
theorem decodeRecords_spec {entries : List (Text × AgentRecord)}
    {agents result : GoMap Text AgentRecord}
    (h : decodeRecords primitives agents entries = .ok result) {id : Text}
    {record : AgentRecord} (hrecord : result[id]? = some record) :
    (∃ kept, (id, kept) ∈ entries ∧
      decodeRecord primitives id kept = .ok record) ∨
    (agents[id]? = some record ∧ ∀ kept, (id, kept) ∉ entries) := by
  induction entries generalizing agents with
  | nil =>
      cases h
      exact Or.inr ⟨hrecord, by simp⟩
  | cons entry rest ih =>
      rcases entry with ⟨key, value⟩
      rw [decodeRecords] at h
      split at h
      · cases h
      · rename_i decoded hdecoded
        rcases ih h with ⟨kept, hkept, hok⟩ | ⟨hold, hnone⟩
        · exact Or.inl ⟨kept, List.mem_cons_of_mem _ hkept, hok⟩
        · rw [GoMap.get_insert] at hold
          by_cases hkey : key = id
          · rw [if_pos hkey] at hold
            cases hold
            subst hkey
            exact Or.inl ⟨value, List.mem_cons_self, hdecoded⟩
          · rw [if_neg hkey] at hold
            refine Or.inr ⟨hold, ?_⟩
            intro kept hmem
            rcases List.mem_cons.mp hmem with heq | hrest
            · exact hkey (Prod.mk.inj heq).1.symm
            · exact hnone kept hrest

omit [DecidableEq Addr] in
/-- The records `DecodeRegistry` reads are those of the file, each under its
own ID. -/
theorem decodeRegistry_spec {file state : RegistryFile}
    (h : decodeRegistry primitives file = .ok state) {id : Text}
    {record : AgentRecord} (hrecord : state.agents[id]? = some record) :
    ∃ kept : AgentRecord, file.agents[id]? = some kept ∧
      record.agentID = id ∧ record = { kept with
        agentID := record.agentID, capabilities := record.capabilities } := by
  unfold decodeRegistry at h
  split at h
  · cases h
  · split at h
    · cases h
    · rename_i agents hagents
      cases h
      rcases decodeRecords_spec hagents hrecord with
        ⟨kept, hkept, hok⟩ | ⟨hold, hnone⟩
      · exact ⟨kept,
          Std.ExtTreeMap.mem_toList_iff_getElem?_eq_some.mp hkept,
          decodeRecord_spec hok⟩
      · exact absurd (Std.ExtTreeMap.mem_toList_iff_getElem?_eq_some.mpr hold)
          (hnone record)

omit [DecidableEq Addr] in
theorem newRegistry_agents {config : RegistryConfig} {registry : Registry}
    (h : newRegistry primitives config = .ok registry) :
    registry.state = {} := by
  unfold newRegistry at h
  simp only [bind, Except.bind] at h
  split at h
  · cases h
  · split at h
    · cases h
    · split at h
      · split at h
        · cases h
        · cases h
          rfl
      · cases h
        rfl

theorem restart_change (config : RegistryConfig) :
    Change primitives world (.restart config)
      (world.step primitives (.restart config)) := by
  simp only [World.step]
  split
  · exact .quiet rfl rfl rfl
  · rename_i registry hregistry
    have hempty := newRegistry_agents hregistry
    have hnone : ∀ id : Text,
        (({ world.store with registry := registry } : Store).agents)[id]? =
          none := by
      intro id
      simp [Store.agents, hempty]
    simp only [Store.load]
    split
    · refine .reloaded rfl rfl ?_
      intro id record hrecord
      rw [hnone id] at hrecord
      cases hrecord
    · rename_i file hfile
      split
      · refine .reloaded rfl rfl ?_
        intro id record hrecord
        rw [hnone id] at hrecord
        cases hrecord
      · rename_i state hstate
        refine .reloaded rfl rfl ?_
        intro id record hrecord
        obtain ⟨kept, hkept, hid, hsame⟩ := decodeRegistry_spec hstate hrecord
        exact ⟨file, kept, hfile, hkept, hid, hsame⟩

theorem step_change (hkeyed : Keyed world.store) (event : Event Addr) :
    Change primitives world event (world.step primitives event) := by
  cases event with
  | create request outside => exact create_change request outside
  | reissue agentID outside => exact reissue_change hkeyed agentID outside
  | revoke agentID outside => exact revoke_change hkeyed agentID outside
  | delete agentID outside => exact delete_change agentID outside
  | enroll request sourceIP outside =>
      exact enroll_change hkeyed request sourceIP outside
  | control endpoint call outside =>
      exact control_change hkeyed endpoint call outside
  | restart config => exact restart_change config

end

end XrayChecker.Probeagent

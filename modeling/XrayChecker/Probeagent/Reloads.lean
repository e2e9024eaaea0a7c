import XrayChecker.Go.Decimal
import XrayChecker.Diagnostics.Validate
import XrayChecker.Probeagent.AcceptedOnce

/-
The registry file can always be read again: a record the registry accepts
passes `validateRecord` as it stands and is not changed by reading it.  The
texts of a request come out of a JSON decoder, which leaves no invalid UTF-8
in them, and so does the file.
-/

namespace XrayChecker.Probeagent

open Go

/-- The alphabet of `base64.URLEncoding`. -/
def urlAlphabet : List Char :=
  ['A', 'B', 'C', 'D', 'E', 'F', 'G', 'H', 'I', 'J', 'K', 'L', 'M', 'N', 'O',
    'P', 'Q', 'R', 'S', 'T', 'U', 'V', 'W', 'X', 'Y', 'Z', 'a', 'b', 'c', 'd',
    'e', 'f', 'g', 'h', 'i', 'j', 'k', 'l', 'm', 'n', 'o', 'p', 'q', 'r', 's',
    't', 'u', 'v', 'w', 'x', 'y', 'z', '0', '1', '2', '3', '4', '5', '6', '7',
    '8', '9', '-', '_']

/-- The digit of a group of six bits. -/
def urlDigit (bits : Nat) : Char :=
  (urlAlphabet[bits % 64]?).getD 'A'

/-- `base64.RawURLEncoding.EncodeToString`. -/
def rawURLEncode : Bytes → Text
  | a :: b :: c :: rest =>
      urlDigit (a.toNat / 4) :: urlDigit (a.toNat * 16 + b.toNat / 16) ::
        urlDigit (b.toNat * 4 + c.toNat / 64) :: urlDigit c.toNat ::
        rawURLEncode rest
  | [a, b] =>
      [urlDigit (a.toNat / 4), urlDigit (a.toNat * 16 + b.toNat / 16),
        urlDigit (b.toNat * 4)]
  | [a] => [urlDigit (a.toNat / 4), urlDigit (a.toNat * 16)]
  | [] => []

/-- `randomToken` of the bytes the generator delivered. -/
def randomToken (kind : Text) (buffer : Bytes) : Text :=
  kind ++ "_" ++ rawURLEncode buffer

example : randomToken "agent" [0xfb, 0xff, 0xbf] = "agent_-_-_" := by decide

theorem isIdentifierRune_urlDigit (bits : Nat) :
    isIdentifierRune (urlDigit bits) = true := by
  have hall : ∀ c ∈ urlAlphabet, isIdentifierRune c = true := by
    simp [urlAlphabet, isIdentifierRune]
  have hlength : bits % 64 < urlAlphabet.length := Nat.mod_lt _ (by decide)
  rw [urlDigit, List.getElem?_eq_getElem hlength]
  exact hall _ (List.getElem_mem hlength)

theorem rawURLEncode_identifier (buffer : Bytes) :
    ∀ c ∈ rawURLEncode buffer, isIdentifierRune c = true := by
  induction buffer using rawURLEncode.induct with
  | case1 a b c rest ih =>
      simpa [rawURLEncode, isIdentifierRune_urlDigit] using ih
  | case2 a b => simp [rawURLEncode, isIdentifierRune_urlDigit]
  | case3 a => simp [rawURLEncode, isIdentifierRune_urlDigit]
  | case4 => simp [rawURLEncode]

theorem length_rawURLEncode_le (buffer : Bytes) :
    (rawURLEncode buffer).length ≤ 2 * buffer.length := by
  induction buffer using rawURLEncode.induct with
  | case1 a b c rest ih =>
      simp only [rawURLEncode, List.length_cons]
      omega
  | case2 a b => simp [rawURLEncode]
  | case3 a => simp [rawURLEncode]
  | case4 => simp [rawURLEncode]

theorem byteLen_identifier {s : Text}
    (h : ∀ c ∈ s, isIdentifierRune c = true) : byteLen s = s.length := by
  induction s with
  | nil => rfl
  | cons head rest ih =>
      rw [List.forall_mem_cons] at h
      have hsize : head.utf8Size = 1 := by
        rw [Char.utf8Size_eq_one_iff]
        exact Nat.le_trans (Diagnostics.toNat_of_isTokenRune h.1).2 (by decide)
      have hrest := ih h.2
      simp only [byteLen, List.map_cons, List.sum_cons, List.length_cons]
        at hrest ⊢
      omega

/-- The ID of a new agent is an identifier. -/
theorem validIdentifier_agentID {buffer : Bytes} (h : buffer.length = 16) :
    validIdentifier (randomToken "agent" buffer) 96 = true := by
  have hrunes : ∀ c ∈ randomToken "agent" buffer,
      isIdentifierRune c = true := by
    intro c hc
    rcases List.mem_append.mp hc with hc | hc
    · have hkind : ∀ c ∈ (("agent" : Text) ++ "_"),
          isIdentifierRune c = true := by
        simp [isIdentifierRune]
      exact hkind c hc
    · exact rawURLEncode_identifier buffer c hc
  have hlength : (randomToken "agent" buffer).length ≤ 38 := by
    have := length_rawURLEncode_le buffer
    have hkind : (("agent" : Text) ++ "_").length = 6 := rfl
    simp only [randomToken, List.length_append] at hkind ⊢
    omega
  have hne : randomToken "agent" buffer ≠ [] := by
    intro hempty
    have := congrArg List.head? hempty
    simp [randomToken] at this
  simp only [validIdentifier, byteLen_identifier hrunes, Bool.and_eq_true,
    List.all_eq_true, decide_eq_true_eq]
  exact ⟨⟨by simpa using hne, by omega⟩, hrunes⟩

/-- An identifier has no space around it. -/
theorem trimSpace_identifier {s : Text} {max : Nat}
    (h : validIdentifier s max = true) : trimSpace s = s := by
  have hspace : ∀ c ∈ s, isSpace c = false := by
    intro c hc
    simp only [validIdentifier, Bool.and_eq_true, List.all_eq_true] at h
    exact Diagnostics.isSpace_of_isTokenRune (h.2 c hc)
  rw [trimSpace_eq_self_iff]
  exact ⟨fun c hc => hspace c (List.mem_of_mem_head? hc),
    fun c hc => hspace c (List.mem_of_mem_getLast? hc)⟩

/-- One iteration of `normalizeCapabilities`. -/
def keepCapability (result : List Text) (raw : Text) : List Text :=
  let value := trimSpace raw
  if !validIdentifier value 64 || result.elem value then result
  else result ++ [value]

theorem normalizeCapabilities_eq (values : List Text) :
    normalizeCapabilities values =
      (sortStrings (values.foldl keepCapability [])).take 16 := rfl

/-- What `normalizeCapabilities` lets through. -/
structure Normalized (values : List Text) : Prop where
  valid : ∀ value ∈ values, validIdentifier value 64 = true
  distinct : values.Nodup
  sorted : values.Pairwise (· ≤ ·)
  short : values.length ≤ 16

theorem normalized_normalizeCapabilities (values : List Text) :
    Normalized (normalizeCapabilities values) := by
  obtain ⟨hvalid, hdistinct⟩ := @foldl_invariant _ _ keepCapability
    (fun _ (result : List Text) =>
      (∀ value ∈ result, validIdentifier value 64 = true) ∧ result.Nodup)
    values [] (by simp) (by
      intro done raw result hraw ⟨hvalid, hdistinct⟩
      unfold keepCapability
      by_cases hskip : (!validIdentifier (trimSpace raw) 64 ||
          result.elem (trimSpace raw)) = true
      · rw [if_pos hskip]
        exact ⟨hvalid, hdistinct⟩
      · rw [if_neg hskip]
        simp only [Bool.or_eq_true, Bool.not_eq_true', not_or,
          Bool.not_eq_false, List.elem_eq_mem, decide_eq_true_eq] at hskip
        refine ⟨?_, ?_⟩
        · intro value hvalue
          rcases List.mem_append.mp hvalue with hvalue | hvalue
          · exact hvalid value hvalue
          · rw [List.mem_singleton.mp hvalue]
            exact hskip.1
        · rw [List.nodup_append]
          refine ⟨hdistinct, List.nodup_singleton _, ?_⟩
          intro a ha b hb hab
          rw [hab, List.mem_singleton.mp hb] at ha
          exact hskip.2 ha)
  have hperm := List.perm_insertionSort (· ≤ ·)
    (values.foldl keepCapability [])
  rw [normalizeCapabilities_eq, sortStrings]
  refine ⟨?_, ?_, ?_, ?_⟩
  · intro value hvalue
    exact hvalid value (hperm.mem_iff.mp (List.mem_of_mem_take hvalue))
  · exact (hperm.nodup_iff.mpr hdistinct).sublist (List.take_sublist _ _)
  · exact (List.pairwise_insertionSort _ _).sublist (List.take_sublist _ _)
  · simp

/-- Valid and distinct capabilities are all kept. -/
theorem foldl_keepCapability (values kept : List Text)
    (hvalid : ∀ value ∈ values, validIdentifier value 64 = true)
    (hdistinct : (kept ++ values).Nodup) :
    values.foldl keepCapability kept = kept ++ values := by
  induction values generalizing kept with
  | nil => simp
  | cons head rest ih =>
      rw [List.forall_mem_cons] at hvalid
      have hnew : head ∉ kept := by
        intro hmem
        exact (List.nodup_append.mp hdistinct).2.2 head hmem head
          List.mem_cons_self rfl
      have hkept : keepCapability kept head = kept ++ [head] := by
        simp [keepCapability, trimSpace_identifier hvalid.1, hvalid.1, hnew]
      rw [List.foldl_cons, hkept, ih _ hvalid.2 (by simpa using hdistinct)]
      simp

/-- Normalized capabilities are read back as they are. -/
theorem Normalized.eq {values : List Text} (h : Normalized values) :
    normalizeCapabilities values = values := by
  rw [normalizeCapabilities_eq, foldl_keepCapability values [] h.valid
    (by simpa using h.distinct), List.nil_append, sortStrings,
    h.sorted.insertionSort_eq, List.take_of_length_le h.short]

/-- What `validateRecord` asks of a record besides its ID and its request. -/
structure Consistent (record : AgentRecord) : Prop where
  created : record.createdAt.isZero = false
  updated : record.updatedAt.isZero = false
  version : record.agentVersion = [] ∨
    validShortText record.agentVersion 128 = true
  health : record.health = [] ∨ validHealth record.health = true
  identityKey : record.identityPublicKey = [] ∨
    record.identityPublicKey.length = publicKeySize
  observationKey : record.observationPublicKey = [] ∨
    record.observationPublicKey.length = publicKeySize
  tokenHash : record.enrollmentTokenHash = [] ∨
    record.enrollmentTokenHash.length = sha256Size
  identity : (record.identityPublicKey = [] ∧
      record.observationPublicKey = [] ∧ record.enrolledAt.isZero = true) ∨
    (record.identityPublicKey ≠ [] ∧ record.observationPublicKey ≠ [] ∧
      record.enrolledAt.isZero = false ∧
      record.enrollmentUsedAt.isZero = false ∧
      record.enrollmentTokenHash = [])
  token : record.enrollmentTokenHash = [] ∨
    (record.enrollmentExpiresAt.isZero = false ∧
      record.enrollmentUsedAt.isZero = true)

/-- A record that is read back from the file as it was written. -/
structure Reloadable {Addr : Type} (primitives : Primitives Addr) (id : Text)
    (record : AgentRecord) : Prop where
  agentID : record.agentID = id
  identifier : validIdentifier id 96 = true
  request : validateCreateRequest primitives record.request = .ok ()
  capabilities : normalizeCapabilities record.capabilities =
    record.capabilities
  consistent : Consistent record

section

variable {Addr : Type} {primitives : Primitives Addr} {id : Text}
  {record : AgentRecord}

theorem Reloadable.validate (h : Reloadable primitives id record) :
    validateRecord primitives record = .ok () := by
  have hname : validDisplayName record.displayName = true := by
    simpa [AgentRecord.request] using (guard_eq_ok.mp h.request).1
  obtain ⟨hcreated, hupdated, hversion, hhealth, hidentityKey, hobservationKey,
    htokenHash, hidentity, htoken⟩ := h.consistent
  simp only [validateRecord, guard_eq_ok, bind_unit_eq_ok, h.agentID,
    h.identifier, hname, hcreated, hupdated]
  refine ⟨by simp, h.request, by simp, ?_, ?_, ?_, ?_, ?_, ?_, trivial⟩
  · rintro ⟨hne, hbad⟩
    rw [hversion.resolve_left hne] at hbad
    cases hbad
  · rintro ⟨hne, hbad⟩
    rw [hhealth.resolve_left hne] at hbad
    cases hbad
  · simp only [List.any_cons, List.any_nil, Bool.or_false, Bool.or_eq_true,
      decide_eq_true_eq, not_or, not_and, not_not]
    exact ⟨hidentityKey.resolve_left, hobservationKey.resolve_left⟩
  · rintro ⟨hne, hbad⟩
    exact hbad (htokenHash.resolve_left hne)
  · rintro ⟨hset, hbad⟩
    rcases hidentity with ⟨h1, h2, h3⟩ | ⟨h1, h2, h3, h4, h5⟩
    · simp [h1, h2, h3] at hset
    · simp [h1, h2, h3, h4, h5] at hbad
  · rintro ⟨hne, hbad⟩
    obtain ⟨h1, h2⟩ := htoken.resolve_left hne
    simp [h1, h2] at hbad

/-- Reading an entry of the file gives the record that was written. -/
theorem Reloadable.decode (h : Reloadable primitives id record) :
    decodeRecord primitives id record = .ok record := by
  have htrim := trimSpace_identifier h.identifier
  have hne : id ≠ [] := by
    rintro rfl
    have := h.identifier
    simp [validIdentifier] at this
  have hread : readRecord id record = record := by
    simp only [readRecord, h.agentID, htrim, if_neg hne, h.capabilities]
    rw [← h.agentID]
  rw [decodeRecord, hread, h.validate]
  simp [h.agentID]

/-- A file whose records are all reloadable is read back as it is. -/
theorem decodeRegistry_of_reloadable {file : RegistryFile}
    (hversion : file.version = registryVersion)
    (hagents : ∀ (id : Text) (record : AgentRecord),
      file.agents[id]? = some record → Reloadable primitives id record) :
    decodeRegistry primitives file = .ok file := by
  have hrecords : ∀ entries : List (Text × AgentRecord),
      (∀ entry ∈ entries, file.agents[entry.1]? = some entry.2) →
      decodeRecords primitives file.agents entries = .ok file.agents := by
    intro entries
    induction entries with
    | nil => intro _; rfl
    | cons entry rest ih =>
        intro hentries
        rw [List.forall_mem_cons] at hentries
        obtain ⟨hentry, hrest⟩ := hentries
        have hsame : file.agents.insert entry.1 entry.2 = file.agents := by
          have := GoMap.set_get file.agents entry.1
          rwa [hentry] at this
        rw [decodeRecords, (hagents _ _ hentry).decode]
        simp only [hsame]
        exact ih hrest
  have hall := hrecords file.agents.toList (by
    intro entry hentry
    exact Std.ExtTreeMap.mem_toList_iff_getElem?_eq_some.mp hentry)
  have heffective : file.effectiveVersion = registryVersion := by
    rw [RegistryFile.effectiveVersion, hversion]
    rfl
  rw [decodeRegistry, if_neg (not_not.mpr heffective), hall, heffective,
    ← hversion]

/-- Every record in force is reloadable, and the file holds the same ones. -/
structure Sound {Addr : Type} (primitives : Primitives Addr) (store : Store) :
    Prop where
  memory : ∀ (id : Text) (record : AgentRecord),
    store.agents[id]? = some record → Reloadable primitives id record
  file : ∀ file, store.file = some file →
    file.version = registryVersion ∧ file.agents = store.agents
  lifetime : minutes 1 ≤ store.registry.config.enrollmentTTL

namespace Sound

variable {store : Store}

/-- A state written anew is in force, or the one before it is again. -/
theorem persist (h : Sound primitives store) {next restored : RegistryFile}
    (hnext : ∀ (id : Text) (record : AgentRecord),
      next.agents[id]? = some record → Reloadable primitives id record)
    (hversion : next.version = registryVersion)
    (hrestored : restored.agents = store.agents) (outside : Outside) :
    Sound primitives (store.persist next restored outside).1 := by
  unfold Store.persist
  cases outside.persisted with
  | error text =>
      refine ⟨?_, ?_, h.lifetime⟩
      · intro id record hrecord
        exact h.memory id record (hrestored ▸ hrecord)
      · intro file hfile
        obtain ⟨hversion, hagents⟩ := h.file file hfile
        exact ⟨hversion, hagents.trans hrestored.symm⟩
  | ok _ =>
      refine ⟨hnext, ?_, h.lifetime⟩
      intro file hfile
      cases hfile
      exact ⟨hversion, rfl⟩

/-- Storing a reloadable record in the place of another one. -/
theorem replaceRecord (h : Sound primitives store)
    {previous record : AgentRecord}
    (hfound : store.agents[record.agentID]? = some previous)
    (hrecord : Reloadable primitives record.agentID record)
    (outside : Outside) :
    Sound primitives (store.replaceRecord previous record outside).1 := by
  refine h.persist ?_ rfl (GoMap.insert_insert_of_get hfound record) outside
  intro id other hother
  simp only [Store.withAgents, GoMap.get_insert] at hother
  by_cases hid : record.agentID = id
  · rw [if_pos hid] at hother
    cases hother
    exact hid ▸ hrecord
  · rw [if_neg hid] at hother
    exact h.memory id other hother

/-- The common shape of the operations on one record. -/
theorem answered {α : Type} (h : Sound primitives store)
    {previous record : AgentRecord} {outside : Outside} {result : Store → α}
    (hfound : store.agents[record.agentID]? = some previous)
    (hrecord : Reloadable primitives record.agentID record) :
    Sound primitives
      (match store.replaceRecord previous record outside with
        | (store, .error error) => (store, .error error)
        | (store, .ok ()) => (store, .ok (result store)) :
        Store × Except RegistryError α).1 := by
  have hsound := h.replaceRecord hfound hrecord outside
  rcases hcases : store.replaceRecord previous record outside with
    ⟨next, _ | _⟩
  · rw [hcases] at hsound
    exact hsound
  · rw [hcases] at hsound
    exact hsound

/-- The deadline of an enrollment is a time. -/
theorem enrollmentDeadline_set (h : Sound primitives store) (now : Time) :
    (store.enrollmentDeadline now).isZero = false := by
  have hlifetime := h.lifetime
  have hpositive :
      0 < ((now : Int) + store.registry.config.enrollmentTTL).toNat := by
    simp only [minutes] at hlifetime
    omega
  simp only [Store.enrollmentDeadline, Time.isZero, beq_eq_false_iff_ne]
  exact Nat.ne_of_gt hpositive

theorem create (h : Sound primitives store) (request : CreateAgentRequest)
    {outside : Outside} (hnow : outside.now.isZero = false)
    (hdigest : ∀ token, (primitives.tokenDigest token).length = sha256Size)
    (hid : ∀ id, outside.agentID = .ok id → validIdentifier id 96 = true) :
    Sound primitives (store.create primitives request outside).1 := by
  simp only [Store.create]
  split
  · exact h
  · split
    · exact h
    · rename_i hvalid
      split
      · exact h
      · rename_i agentID token htokens
        split
        · exact h
        · rename_i hfresh
          have hnone : store.agents[agentID]? = none := by
            apply Std.ExtTreeMap.getElem?_eq_none
            simpa using hfresh
          have hissued : outside.agentID = .ok agentID := by
            unfold Store.generatedTokens at htokens
            split at htokens
            · cases htokens
            · cases htokens
            · rename_i hagent htoken
              cases htokens
              exact hagent
          set record := store.newRecord primitives
            (store.applyControllerDefaults
              (normalizeCreateRequest primitives request)) agentID token
            outside.now with hnew
          have hrecord : Reloadable primitives agentID record := by
            refine ⟨rfl, hid agentID hissued, hvalid, rfl, ?_⟩
            exact ⟨hnow, hnow, Or.inl rfl, Or.inl rfl, Or.inl rfl, Or.inl rfl,
              Or.inr (hdigest token), Or.inl ⟨rfl, rfl, rfl⟩,
              Or.inr ⟨h.enrollmentDeadline_set outside.now, rfl⟩⟩
          have hsound : Sound primitives (store.persist
              (Store.withAgents (store.agents.insert agentID record)
                outside.now)
              (Store.withAgents
                ((store.agents.insert agentID record).erase agentID)
                store.registry.state.updatedAt) outside).1 := by
            apply h.persist
            · intro id other hother
              simp only [Store.withAgents, GoMap.get_insert] at hother
              by_cases hsame : agentID = id
              · rw [if_pos hsame] at hother
                cases hother
                exact hsame ▸ hrecord
              · rw [if_neg hsame] at hother
                exact h.memory id other hother
            · rfl
            · exact GoMap.erase_insert_of_none hnone record
          revert hsound
          generalize store.persist _ _ outside = answer
          rcases answer with ⟨next, _ | _⟩
          · exact id
          · exact id

theorem reissue (h : Sound primitives store) (agentID : Text)
    {outside : Outside} (hnow : outside.now.isZero = false)
    (hdigest : ∀ token, (primitives.tokenDigest token).length = sha256Size) :
    Sound primitives (store.reissue primitives agentID outside).1 := by
  simp only [Store.reissue]
  split
  · exact h
  · split
    · exact h
    · rename_i token htoken
      split
      · exact h
      · rename_i previous hfound
        have hprevious := h.memory _ _ hfound
        refine h.answered (hprevious.agentID ▸ hfound)
          ⟨rfl, hprevious.agentID ▸ hprevious.identifier, hprevious.request,
            rfl, ?_⟩
        exact ⟨hprevious.consistent.created, hnow, Or.inl rfl, Or.inl rfl,
          Or.inl rfl, Or.inl rfl, Or.inr (hdigest token),
          Or.inl ⟨rfl, rfl, rfl⟩,
          Or.inr ⟨h.enrollmentDeadline_set outside.now, rfl⟩⟩

theorem revoke (h : Sound primitives store) (agentID : Text)
    {outside : Outside} (hnow : outside.now.isZero = false) :
    Sound primitives (store.revoke agentID outside).1 := by
  simp only [Store.revoke]
  split
  · exact h
  · rename_i previous hfound
    have hprevious := h.memory _ _ hfound
    obtain ⟨hcreated, -, hversion, hhealth, hidentityKey, hobservationKey, -,
      hidentity, -⟩ := hprevious.consistent
    refine h.answered (hprevious.agentID ▸ hfound)
      ⟨rfl, hprevious.agentID ▸ hprevious.identifier, hprevious.request,
        hprevious.capabilities, ?_⟩
    refine ⟨hcreated, hnow, hversion, hhealth, hidentityKey, hobservationKey,
      Or.inl rfl, ?_, Or.inl rfl⟩
    rcases hidentity with hnone | ⟨hkey, hother, henrolled, hused, -⟩
    · exact Or.inl hnone
    · exact Or.inr ⟨hkey, hother, henrolled, hused, rfl⟩

theorem delete (h : Sound primitives store) (agentID : Text)
    (outside : Outside) :
    Sound primitives (store.delete agentID outside).1 := by
  simp only [Store.delete]
  split
  · exact h
  · split
    · exact h
    · rename_i record hfound
      split
      · exact h
      · refine h.persist ?_ rfl (GoMap.insert_erase_of_get hfound) outside
        intro id other hother
        simp only [Store.withAgents, GoMap.get_erase] at hother
        by_cases hsame : trimSpace agentID = id
        · rw [if_pos hsame] at hother
          cases hother
        · rw [if_neg hsame] at hother
          exact h.memory id other hother

variable [DecidableEq Addr]

theorem enroll (h : Sound primitives store) (request : EnrollRequest)
    (sourceIP : Option Addr) {outside : Outside}
    (hnow : outside.now.isZero = false) :
    Sound primitives (store.enroll primitives request sourceIP outside).1 := by
  simp only [Store.enroll]
  split
  · exact h
  · split
    · exact h
    · rename_i hrequest
      split
      · exact h
      · rename_i previous hfound
        have hprevious := h.memory _ _ hfound
        split
        · exact h
        · simp only [Store.validEnrollment, Bool.not_eq_true',
            Bool.not_eq_false, Bool.and_eq_true, decide_eq_true_eq] at hrequest
          obtain ⟨⟨⟨⟨-, hkey⟩, hother⟩, -⟩, hversion⟩ := hrequest
          have hset : ∀ key : Bytes, key.length = publicKeySize → key ≠ [] := by
            rintro _ hlength rfl
            simp [publicKeySize] at hlength
          refine h.answered (hprevious.agentID ▸ hfound)
            ⟨rfl, hprevious.agentID ▸ hprevious.identifier, hprevious.request,
              (normalized_normalizeCapabilities _).eq, ?_⟩
          exact ⟨hprevious.consistent.created, hnow, Or.inr hversion,
            Or.inr (by decide : validHealth "starting" = true), Or.inr hkey, Or.inr hother, Or.inl rfl,
            Or.inr ⟨hset _ hkey, hset _ hother, hnow, hnow, rfl⟩, Or.inl rfl⟩

omit [DecidableEq Addr] in
/-- The counter and the clock of a record can move on. -/
theorem seenRecord_reloadable {id : Text} {previous : AgentRecord}
    (hprevious : Reloadable primitives id previous) (sequence : Nat)
    {now : Time} (hnow : now.isZero = false) :
    Reloadable primitives id (Store.seenRecord previous sequence now) := by
  obtain ⟨hid, hidentifier, hrequest, hcapabilities, hconsistent⟩ := hprevious
  refine ⟨hid, hidentifier, hrequest, hcapabilities, ?_⟩
  exact ⟨hconsistent.created, hnow, hconsistent.version, hconsistent.health,
    hconsistent.identityKey, hconsistent.observationKey, hconsistent.tokenHash,
    hconsistent.identity, hconsistent.token⟩

theorem acceptControlRequest (h : Sound primitives store) (agentID : Text)
    (authentication : Store.Authentication Addr) {outside : Outside}
    (hnow : outside.now.isZero = false) :
    Sound primitives (store.acceptControlRequest primitives agentID
      authentication outside).1 := by
  simp only [Store.acceptControlRequest]
  split
  · exact h
  · split
    · exact h
    · split
      · exact h
      · split
        · exact h
        · rename_i previous hfound
          have hprevious := h.memory _ _ hfound
          split
          · exact h
          · split
            · exact h
            · exact h.replaceRecord (hprevious.agentID ▸ hfound)
                (hprevious.agentID ▸ seenRecord_reloadable hprevious _ hnow)
                outside

theorem acceptHeartbeat (h : Sound primitives store)
    (request : HeartbeatRequest) (authentication : Store.Authentication Addr)
    {outside : Outside} (hnow : outside.now.isZero = false) :
    Sound primitives (store.acceptHeartbeat primitives request authentication
      outside).1 := by
  simp only [Store.acceptHeartbeat]
  by_cases hon : store.registry.config.enabled = true
  · simp only [hon, Bool.not_true, Bool.false_eq_true, ↓reduceIte]
    split
    · exact h
    · rename_i hrequest
      split
      · exact h
      · split
        · exact h
        · rename_i previous hfound
          have hprevious := h.memory _ _ hfound
          split
          · exact h
          · split
            · exact h
            · simp only [Bool.or_eq_true, not_or, Bool.not_eq_true',
                Bool.not_eq_false] at hrequest
              obtain ⟨⟨⟨⟨-, hversion⟩, hhealth⟩, -⟩, -⟩ := hrequest
              obtain ⟨hid, hidentifier, hvalid, -, hconsistent⟩ :=
                seenRecord_reloadable hprevious authentication.sequence hnow
              refine h.answered (hprevious.agentID ▸ hfound)
                ⟨rfl, hprevious.agentID ▸ hidentifier, hvalid,
                  (normalized_normalizeCapabilities _).eq, ?_⟩
              exact ⟨hconsistent.created, hnow, Or.inr hversion,
                Or.inr hhealth, hconsistent.identityKey,
                hconsistent.observationKey, hconsistent.tokenHash,
                hconsistent.identity, hconsistent.token⟩
  · simp only [hon, Bool.not_false, ↓reduceIte]
    exact h

/-- The endpoints only make calls of the registry. -/
theorem handle (h : Sound primitives store) (endpoint : Endpoint)
    (call : SignedCall Addr) {outside : Outside}
    (hnow : outside.now.isZero = false) :
    Sound primitives (endpoint.handle primitives store call outside).1 := by
  have haccept : ∀ agentID authentication, Sound primitives
      (endpoint.accept primitives store agentID call authentication
        outside).1 := by
    intro agentID authentication
    cases endpoint with
    | heartbeat =>
        simp only [Endpoint.accept]
        split
        · exact h
        · exact h.acceptHeartbeat _ authentication hnow
    | jobs => exact h.acceptControlRequest agentID authentication hnow
    | observations => exact h.acceptControlRequest agentID authentication hnow
  simp only [Endpoint.handle]
  split
  · exact h
  · split
    · exact h
    · rename_i agentID hbody
      split
      · exact h
      · rename_i authentication hparse
        have hsound := haccept agentID authentication
        revert hsound
        generalize endpoint.accept primitives store agentID call authentication
          outside = answer
        rcases answer with ⟨next, _ | _⟩
        · exact id
        · exact id

omit [DecidableEq Addr] in
/-- `NewRegistry` refuses an enrollment lifetime under a minute. -/
theorem newRegistry_lifetime {config : RegistryConfig} {registry : Registry}
    (h : newRegistry primitives config = .ok registry) :
    minutes 1 ≤ registry.config.enrollmentTTL := by
  simp only [newRegistry, guard_eq_ok] at h
  obtain ⟨-, hlimits, h⟩ := h
  push Not at hlimits
  simp only [bind, Except.bind] at h
  split at h
  · split at h
    · cases h
    · cases h
      exact hlimits.1
  · cases h
    exact hlimits.1

omit [DecidableEq Addr] in
/-- A registry that was just built is empty. -/
theorem start {config : RegistryConfig} {registry : Registry}
    (hnew : newRegistry primitives config = .ok registry) :
    Sound primitives { registry := registry } := by
  refine ⟨?_, ?_, newRegistry_lifetime hnew⟩
  · intro id record hrecord
    simp [Store.agents, newRegistry_agents hnew] at hrecord
  · intro file hfile
    cases hfile

omit [DecidableEq Addr] in
/-- Loading the file brings every record back. -/
theorem load (h : Sound primitives store) {config : RegistryConfig}
    {registry : Registry} (hnew : newRegistry primitives config =
      .ok registry) :
    Sound primitives
      (({ store with registry := registry } : Store).load primitives).1 := by
  have hlifetime := newRegistry_lifetime hnew
  simp only [Store.load]
  split
  · rename_i hnone
    refine ⟨?_, ?_, hlifetime⟩
    · intro id record hrecord
      simp [Store.agents, newRegistry_agents hnew] at hrecord
    · intro file hfile
      rw [hnone] at hfile
      cases hfile
  · rename_i file hfile
    obtain ⟨hversion, hagents⟩ := h.file file hfile
    have hreloadable : ∀ (id : Text) (record : AgentRecord),
        file.agents[id]? = some record → Reloadable primitives id record := by
      intro id record hrecord
      exact h.memory id record (hagents ▸ hrecord)
    rw [decodeRegistry_of_reloadable hversion hreloadable]
    refine ⟨hreloadable, ?_, hlifetime⟩
    intro other hother
    have : other = file := Option.some.inj (hother.symm.trans hfile)
    subst this
    exact ⟨hversion, rfl⟩

end Sound

/-- What happens at a time that is set, with IDs from the generator. -/
def Event.Ordinary : Event Addr → Prop
  | .create _ outside =>
      outside.now.isZero = false ∧ ∀ id, outside.agentID = .ok id →
        ∃ buffer : Bytes, buffer.length = 16 ∧ id = randomToken "agent" buffer
  | .reissue _ outside | .revoke _ outside | .delete _ outside
  | .enroll _ _ outside | .control _ _ outside => outside.now.isZero = false
  | .restart _ => True

theorem answered_store {α : Type} (world : World Addr)
    (answer : Store × Except RegistryError α) (entry : α → Entry Addr) :
    (world.answered answer entry).store = answer.1 := by
  unfold World.answered
  split <;> rfl

variable [DecidableEq Addr]

/-- Every step leaves the records reloadable. -/
theorem Sound.step {world : World Addr} (h : Sound primitives world.store)
    (hdigest : ∀ token, (primitives.tokenDigest token).length = sha256Size)
    {event : Event Addr} (hevent : event.Ordinary) :
    Sound primitives (world.step primitives event).store := by
  cases event with
  | create request outside =>
      obtain ⟨hnow, hgenerated⟩ := hevent
      rw [World.step, answered_store]
      apply h.create request hnow hdigest
      intro id hid
      obtain ⟨buffer, hlength, rfl⟩ := hgenerated id hid
      exact validIdentifier_agentID hlength
  | reissue agentID outside =>
      rw [World.step, answered_store]
      exact h.reissue agentID hevent hdigest
  | revoke agentID outside =>
      rw [World.step, answered_store]
      exact h.revoke agentID hevent
  | delete agentID outside =>
      rw [World.step, answered_store]
      exact h.delete agentID outside
  | enroll request sourceIP outside =>
      rw [World.step, answered_store]
      exact h.enroll request sourceIP hevent
  | control endpoint call outside =>
      have hhandled := h.handle endpoint call hevent
      simp only [World.step]
      revert hhandled
      generalize endpoint.handle primitives world.store call outside = answer
      rcases answer with ⟨next, _ | _⟩
      · exact id
      · exact id
  | restart config =>
      simp only [World.step]
      split
      · exact h
      · rename_i registry hregistry
        exact h.load hregistry

/-- The registry and its file after a run that begins without a file. -/
def reached (primitives : Primitives Addr) (registry : Registry)
    (events : List (Event Addr)) : Store :=
  (Machine.run (World.step primitives) { store := { registry := registry } }
    events).store

theorem reached_sound
    (hdigest : ∀ token, (primitives.tokenDigest token).length = sha256Size)
    {config : RegistryConfig} {registry : Registry}
    (hnew : newRegistry primitives config = .ok registry)
    {events : List (Event Addr)} (hevents : ∀ event ∈ events, event.Ordinary) :
    Sound primitives (reached primitives registry events) := by
  have hrun : Machine.Admissible (World.step primitives)
      (fun _ event => event.Ordinary)
      ({ store := { registry := registry } } : World Addr) events := by
    intro taken htaken
    apply hevents
    rw [← @Machine.map_snd_steps _ _ (World.step primitives)
      ({ store := { registry := registry } } : World Addr) events]
    exact List.mem_map_of_mem htaken
  exact Machine.run_invariant
    (fun world : World Addr => Sound primitives world.store) hrun
    (Sound.start hnew) (fun world event h hevent => h.step hdigest hevent)

/-- After every run of the registry, `DecodeRegistry` takes what
`persistLocked` writes of the state in force, and the file as it is, and gives
back the same records. -/
theorem registry_always_reloads
    (hdigest : ∀ token, (primitives.tokenDigest token).length = sha256Size)
    {config : RegistryConfig} {registry : Registry}
    (hnew : newRegistry primitives config = .ok registry)
    (events : List (Event Addr)) (hevents : ∀ event ∈ events, event.Ordinary) :
    (∀ updatedAt, decodeRegistry primitives
        (Store.withAgents (reached primitives registry events).agents
          updatedAt) =
        .ok (Store.withAgents (reached primitives registry events).agents
          updatedAt)) ∧
      ∀ file, (reached primitives registry events).file = some file →
        decodeRegistry primitives file = .ok file ∧
          file.agents = (reached primitives registry events).agents := by
  have hsound := reached_sound hdigest hnew hevents
  refine ⟨?_, ?_⟩
  · intro updatedAt
    exact decodeRegistry_of_reloadable rfl hsound.memory
  · intro file hfile
    obtain ⟨hversion, hagents⟩ := hsound.file file hfile
    refine ⟨decodeRegistry_of_reloadable hversion ?_, hagents⟩
    intro id record hrecord
    exact hsound.memory id record (hagents ▸ hrecord)

end

namespace Sample

/-- The ID the generator makes of sixteen zero bytes. -/
def generatedID : Text :=
  randomToken "agent" (List.replicate 16 0)

/-- An agent with unusual texts is created, enrolled, withdrawn and issued
again, with a restart in between. -/
def unusualRun : List (Event Nat) :=
  [.create
    { displayName := " Probe <1> & \u2028 ", expectedSourceIP := "203.0.113.40"
      controllerIP := "192.0.2.1", controllerURL := "https://checker.example"
      region := "  " }
    { now := now, agentID := .ok generatedID, token := .ok "enroll-1" },
   .enroll
    { protocolVersion := 1, agentID := generatedID
      enrollmentToken := "enroll-1"
      identityPublicKey := identityKey, observationPublicKey := observationKey
      agentVersion := " 1.0 ", capabilities := ["b", " a ", "b", "no good"] }
    (some 1) { now := now },
   .restart config,
   .revoke generatedID { now := now },
   .reissue generatedID { now := now, token := .ok "enroll-2" }]

theorem registry_always_reloads_sample :
    (reached primitives { config := config } unusualRun).file.isSome ∧
      ∀ file, (reached primitives { config := config } unusualRun).file =
          some file →
        decodeRegistry primitives file = .ok file ∧
          file.agents =
            (reached primitives { config := config } unusualRun).agents := by
  have hordinary : ∀ event ∈ unusualRun, event.Ordinary := by
    simp only [unusualRun, List.forall_mem_cons, Event.Ordinary]
    refine ⟨⟨rfl, ?_⟩, rfl, trivial, rfl, rfl, by simp⟩
    intro id hid
    exact ⟨List.replicate 16 0, rfl, (Except.ok.inj hid).symm⟩
  have hdigest : ∀ token,
      (primitives.tokenDigest token).length = sha256Size :=
    fun token => List.takeD_length _ _ _
  have hnew : newRegistry primitives config = .ok { config := config } := rfl
  exact ⟨by decide,
    (registry_always_reloads hdigest hnew unusualRun hordinary).2⟩

end Sample

end XrayChecker.Probeagent

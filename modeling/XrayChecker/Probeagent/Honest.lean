import XrayChecker.Diagnostics.Minted
import XrayChecker.Probeagent.Executor

/-
What the agents answer against what the controller accepts: every branch of
the executor, checked by the validator of the session manager, and exactly
which of them produce an observation that is refused.
-/

namespace XrayChecker.Probeagent

open Go Diagnostics

/-- A failure the controller knows the code and the stage of. -/
structure KnownFailure (failure : FailureEvidence) : Prop where
  code : validFailureCode failure.code = true
  stage : validFailureStage failure.stage = true

/-- A status and a failure the controller accepts together. -/
def Classified (status : ProbeStatus) (failure : FailureEvidence) : Prop :=
  validateProbeResult status failure = .ok ()

theorem KnownFailure.classified {status : ProbeStatus}
    {failure : FailureEvidence}
    (h : KnownFailure failure) (hstatus : status = .proxyFailure ∨ status =
      .offline) :
    Classified status failure := by
  rcases hstatus with rfl | rfl
  · simp [Classified, validateProbeResult, h.code, h.stage]
  · simp [Classified, validateProbeResult, h.code, h.stage]

theorem classified_online : Classified .online {} := by
  simp [Classified, validateProbeResult]

theorem classified_failed_iff {status : ProbeStatus} {failure : FailureEvidence}
    (hstatus : status = .proxyFailure ∨ status = .offline) :
    Classified status failure ↔ KnownFailure failure := by
  refine ⟨fun h => ?_, fun h => h.classified hstatus⟩
  rcases hstatus with rfl | rfl <;>
  · simp only [Classified, validateProbeResult, invalidRequest] at h
    split at h
    · cases h
    · rename_i hknown
      simp only [Bool.or_eq_true, Bool.not_eq_eq_eq_not, Bool.not_true, not_or,
        Bool.not_eq_false] at hknown
      exact ⟨hknown.1, hknown.2⟩

/-- A failure stays classified when the node turns out to be offline. -/
theorem Classified.downgraded {status other : ProbeStatus}
    {failure : FailureEvidence} (h : Classified status failure)
    (hfailed : status ≠ .online) (hother : other = status ∨ other = .offline) :
    Classified other failure := by
  have hstatus : status = .proxyFailure ∨ status = .offline := by
    cases status with
    | proxyFailure => exact Or.inl rfl
    | offline => exact Or.inr rfl
    | online => exact absurd rfl hfailed
    | unknown => cases h
    | other value => cases h
  have hknown := (classified_failed_iff hstatus).mp h
  rcases hother with rfl | rfl
  · exact h
  · exact hknown.classified (Or.inr rfl)

section Codes

theorem classifyProxyError_known (error : NetError) :
    KnownFailure (classifyProxyError error) := by
  constructor
  · simp only [classifyProxyError]
    repeat' split
    all_goals decide
  · rfl

theorem tcpFailureCode_valid (error : NetError) :
    validFailureCode (tcpFailureCode error) = true := by
  simp only [tcpFailureCode]
  repeat' split
  all_goals decide

theorem tlsFailureCode_valid (error : NetError) :
    validFailureCode (tlsFailureCode error) = true := by
  simp only [tlsFailureCode]
  repeat' split
  all_goals decide

theorem known_configuration :
    KnownFailure { code := "configuration", stage := .configuration } :=
  ⟨by decide, rfl⟩

theorem known_xrayStart :
    KnownFailure { code := "configuration", stage := .xrayStart } :=
  ⟨by decide, rfl⟩

theorem known_httpStatus : KnownFailure { code := "http_status", stage := .endpoint } :=
  ⟨by decide, rfl⟩

theorem known_downloadIncomplete :
    KnownFailure { code := "download_incomplete", stage := .endpoint } :=
  ⟨by decide, rfl⟩

end Codes

theorem millis_nonneg (duration : Nat) : 0 ≤ millis duration :=
  Int.natCast_nonneg _

section Evidence

theorem validateCheckEvidence_online {latency : Int} (h : 0 ≤ latency) :
    validateCheckEvidence
      { checked := true, online := true, latencyMillis := latency } =
        .ok () := by
  simp [validateCheckEvidence, not_lt.mpr h]

theorem validateCheckEvidence_failed {latency : Int} {code : Text}
    (h : 0 ≤ latency) (hcode : validFailureCode code = true) :
    validateCheckEvidence
      { checked := true, latencyMillis := latency, failureCode := code } =
        .ok () := by
  simp [validateCheckEvidence, not_lt.mpr h, hcode]

theorem directConnectivity_valid (world : Outcomes) :
    (directConnectivity world).1.checked = true ∧
      validateCheckEvidence (directConnectivity world).1 = .ok () := by
  have hlatency := millis_nonneg world.directElapsed
  have hcode : validFailureCode "check_endpoint" = true := by decide
  simp only [directConnectivity]
  split
  · exact ⟨rfl, validateCheckEvidence_failed le_rfl hcode⟩
  · exact ⟨rfl, validateCheckEvidence_failed hlatency hcode⟩
  · split
    · exact ⟨rfl, validateCheckEvidence_failed hlatency hcode⟩
    · split
      · exact ⟨rfl, validateCheckEvidence_failed hlatency hcode⟩
      · exact ⟨rfl, validateCheckEvidence_online hlatency⟩

theorem tcpEvidence_valid (world : Outcomes) :
    validateCheckEvidence (tcpEvidence world) = .ok () := by
  have hlatency := millis_nonneg world.tcpElapsed
  unfold tcpEvidence
  split
  · exact validateCheckEvidence_online hlatency
  · exact validateCheckEvidence_failed hlatency (tcpFailureCode_valid _)

theorem pingAddresses_valid (replies : List (Nat × Bool))
    {latency : Int} {code : Text} (hlatency : 0 ≤ latency)
    (hcode : validFailureCode code = true) :
    validateCheckEvidence
      (pingAddresses
        { checked := true, latencyMillis := latency, failureCode := code }
        replies) = .ok () := by
  induction replies generalizing latency with
  | nil => exact validateCheckEvidence_failed hlatency hcode
  | cons reply rest ih =>
      obtain ⟨elapsed, answered⟩ := reply
      rw [pingAddresses]
      split
      · exact validateCheckEvidence_online (millis_nonneg elapsed)
      · exact ih (millis_nonneg elapsed)

theorem pingEvidence_valid (world : Outcomes) :
    validateCheckEvidence (pingEvidence world) = .ok () := by
  have hcode : validFailureCode "host_unreachable" = true := by decide
  unfold pingEvidence
  split
  · exact validateCheckEvidence_failed le_rfl (by decide)
  · exact validateCheckEvidence_failed le_rfl (by decide)
  · exact pingAddresses_valid _ le_rfl hcode

end Evidence

namespace Executor

variable (e : Executor)

/-- A probe through the tunnel that the controller can file. -/
def Filed (result : ProxyCheckResult) : Prop :=
  Classified result.status result.failure

theorem filed_failedResult {latency : Nat} {failure : FailureEvidence}
    (h : KnownFailure failure) : Filed (failedResult latency failure) :=
  h.classified (Or.inl rfl)

theorem filed_configurationResult : Filed configurationResult :=
  known_configuration.classified (Or.inl rfl)

theorem filed_transferred (profile : TestProfile) (ttfb : Nat)
    (body : ResponseBody) : Filed (e.transferred profile ttfb body) := by
  simp only [transferred]
  split
  · exact filed_failedResult (classifyProxyError_known _)
  · split
    · exact filed_failedResult known_downloadIncomplete
    · exact classified_online

theorem filed_fetch (tunnel : Tunnel) (profile : TestProfile)
    (endpoint directBody : Text) :
    Filed (e.fetch tunnel profile endpoint directBody) := by
  unfold fetch
  split
  · exact filed_configurationResult
  · exact filed_failedResult (classifyProxyError_known _)
  · split
    · exact filed_failedResult known_httpStatus
    · split
      · exact e.filed_transferred profile _ _
      · split
        · exact filed_failedResult (classifyProxyError_known _)
        · split
          · exact filed_failedResult ⟨by decide, rfl⟩
          · exact classified_online

theorem filed_stabilityProbe (tunnel : Tunnel) :
    Filed (e.stabilityProbe tunnel) := by
  unfold stabilityProbe
  split
  · exact filed_configurationResult
  · exact filed_failedResult (classifyProxyError_known _)
  · split
    · exact filed_failedResult known_httpStatus
    · simp only
      split
      · exact filed_failedResult (classifyProxyError_known _)
      · split
        · exact filed_failedResult known_downloadIncomplete
        · exact classified_online

/-- What the loop over the samples keeps after some of them: a failure has
been noted if one has, and it is a known one. -/
structure LatencySeries.Noted (series : LatencySeries)
    (taken : Nat) : Prop where
  missing : series.samples.length < taken → KnownFailure series.lastFailure
  noted : series.lastFailure.code ≠ [] → KnownFailure series.lastFailure

theorem singleLatencySample_known (tunnel : Tunnel) (index : Nat)
    (h : (singleLatencySample tunnel index).2.code ≠ []) :
    KnownFailure (singleLatencySample tunnel index).2 := by
  unfold singleLatencySample at h ⊢
  split
  · exact known_configuration
  · exact classifyProxyError_known _
  · split
    · exact known_httpStatus
    · rename_i hexchange hok
      simp [hexchange, hok] at h

/-- Every sample of a context that stays open is taken. -/
theorem latencyLoop_noted (tunnel : Tunnel) {done : Nat → Bool}
    (hopen : ∀ index, done index = false) (remaining index : Nat)
    {series : LatencySeries} {taken : Nat} (h : series.Noted taken) :
    (latencyLoop tunnel done remaining index series).Noted
      (taken + remaining) := by
  induction remaining generalizing index series taken with
  | zero => exact h
  | succ remaining ih =>
      rw [show taken + (remaining + 1) = taken + 1 + remaining by omega]
      simp only [latencyLoop, hopen index, Bool.false_eq_true, ↓reduceIte]
      have hknown := singleLatencySample_known tunnel index
      generalize singleLatencySample tunnel index = sample at hknown ⊢
      obtain ⟨latency, failure⟩ := sample
      split
      · rename_i hfailed
        exact ih _ ⟨fun _ => hknown hfailed, fun _ => hknown hfailed⟩
      · refine ih _ ⟨fun hmissing => h.missing ?_, h.noted⟩
        simp only [List.length_append, List.length_singleton] at hmissing
        omega

theorem filed_latencyProfile (tunnel : Tunnel) {done : Nat → Bool}
    (hopen : ∀ index, done index = false) :
    Filed (e.latencyProfile tunnel done) := by
  have hnoted := @latencyLoop_noted tunnel done hopen e.latencySamples 0 {} 0
    ⟨fun hmissing => absurd hmissing (Nat.not_lt_zero _), fun h => absurd rfl h⟩
  rw [Nat.zero_add] at hnoted
  simp only [latencyProfile]
  generalize latencyLoop tunnel done e.latencySamples 0 {} = series at hnoted
  split
  · split
    · exact filed_failedResult ⟨by decide, rfl⟩
    · rename_i hfailure
      exact filed_failedResult (hnoted.noted hfailure)
  · split
    · rename_i hmissing
      exact filed_failedResult (hnoted.missing hmissing)
    · exact classified_online

/-- No probe through the tunnel leaves a failure the controller cannot
file. -/
theorem filed_proxyCheck (platform : Platform) (tunnel : Tunnel)
    {done : Nat → Bool} (hopen : ∀ index, done index = false)
    (profile : TestProfile) (directBody : Text) :
    Filed (e.proxyCheck platform tunnel done profile directBody) := by
  unfold proxyCheck
  split
  · split
    · exact filed_configurationResult
    · exact e.filed_latencyProfile tunnel hopen
  · split
    · split
      · exact filed_configurationResult
      · exact e.filed_stabilityProbe tunnel
    · split
      · exact filed_configurationResult
      · exact e.filed_fetch tunnel profile _ directBody

end Executor

/-- What the validator asks of the measured part of an observation. -/
structure Presentable (observation : Observation) : Prop where
  checked : observation.directConnectivity.checked = true
  latency : 0 ≤ observation.latencyMillis
  result : Classified observation.status observation.failure
  evidence : validateEvidence "invalid connectivity evidence"
    [observation.tcp, observation.ping, observation.directConnectivity] = .ok ()
  alternative : validateAlternative observation.alternativeEndpoint = .ok ()

/-- The part of an observation that names its job. -/
def heading (observation : Observation) : Observation :=
  { observation with
    durationMillis := 0, status := .proxyFailure, latencyMillis := 0
    failure := {}, tcp := {}, ping := {}, directConnectivity := {}
    alternativeEndpoint := none, speedServerID := [] }

theorem validateEvidence_ok {refusal : Text} {tcp ping direct : CheckEvidence}
    (htcp : validateCheckEvidence tcp = .ok ())
    (hping : validateCheckEvidence ping = .ok ())
    (hdirect : validateCheckEvidence direct = .ok ()) :
    validateEvidence refusal [tcp, ping, direct] = .ok () := by
  simp [validateEvidence, htcp, hping, hdirect]

theorem validateCheckEvidence_unchecked :
    validateCheckEvidence {} = .ok () := by
  simp [validateCheckEvidence]

/-- The observation once the direct control has been made. -/
def controlled (world : Outcomes) (assignment : JobAssignment) : Observation :=
  { startedObservation world assignment with
    directConnectivity := (directConnectivity world).1 }

/-- A failure found before any host check. -/
theorem presentable_controlled {world : Outcomes} {assignment : JobAssignment}
    {failure : FailureEvidence} (h : KnownFailure failure) :
    Presentable { controlled world assignment with failure := failure } := by
  obtain ⟨hchecked, hdirect⟩ := directConnectivity_valid world
  exact ⟨hchecked, le_rfl, h.classified (Or.inl rfl),
    validateEvidence_ok validateCheckEvidence_unchecked
      validateCheckEvidence_unchecked hdirect, rfl⟩

section Transport

variable {platform : Platform} {world : Outcomes} {assignment : JobAssignment}

/-- The addresses a resolver has found. -/
def Lookup.found (lookup : Lookup) : List Text :=
  lookup.addresses.getD []

/-- The target is a name, some resolver finds it, and where both do they share
an address. -/
structure Resolved (platform : Platform) (world : Outcomes)
    (assignment : JobAssignment) : Prop where
  hostname : platform.isIPLiteral (trimSpace assignment.targetHost) = false
  answered : world.systemLookup.found ≠ [] ∨ world.resolverLookup.found ≠ []
  agreed : world.systemLookup.found ≠ [] → world.resolverLookup.found ≠ [] →
    ∃ address ∈ world.systemLookup.found,
      address ∈ world.resolverLookup.found

/-- The handshake completes, or the port does not answer at all. -/
def Shaken (world : Outcomes) : Prop :=
  (world.tlsDial = none ∧ world.tlsHandshake = none) ∨ world.tcpDial ≠ none

theorem not_classified_stage {status : ProbeStatus} {failure : FailureEvidence}
    (hstatus : status = .proxyFailure ∨ status = .offline)
    (hstage : validFailureStage failure.stage = false) :
    ¬Classified status failure := by
  rw [classified_failed_iff hstatus]
  intro hknown
  rw [hknown.stage] at hstage
  cases hstage

theorem tlsProbe_cases (world : Outcomes) :
    0 ≤ (tlsProbe world).latencyMillis ∧
      (((tlsProbe world).handshake = true ∧ world.tlsDial = none ∧
        world.tlsHandshake = none) ∨
      ((tlsProbe world).handshake = false ∧
        validFailureCode (tlsProbe world).failureCode = true ∧
        ¬(world.tlsDial = none ∧ world.tlsHandshake = none))) := by
  have hlatency := millis_nonneg world.tlsElapsed
  unfold tlsProbe
  cases hdial : world.tlsDial with
  | some error =>
      exact ⟨hlatency, Or.inr ⟨rfl, tcpFailureCode_valid error, by simp⟩⟩
  | none =>
      cases hhandshake : world.tlsHandshake with
      | some error =>
          exact ⟨hlatency, Or.inr ⟨rfl, tlsFailureCode_valid error, by simp⟩⟩
      | none => exact ⟨hlatency, Or.inl ⟨rfl, rfl, rfl⟩⟩

theorem tcpEvidence_online (world : Outcomes) :
    ((tcpEvidence world).checked && !(tcpEvidence world).online) = true ↔
      world.tcpDial ≠ none := by
  unfold tcpEvidence
  cases world.tcpDial with
  | none => simp
  | some error => simp

/-- A handshake that fails on a port that answers names a stage the
controller does not know. -/
theorem presentable_runTLSProbe_iff :
    Presentable (runTLSProbe world (controlled world assignment)) ↔
      Shaken world := by
  obtain ⟨hchecked, hdirect⟩ := directConnectivity_valid world
  obtain ⟨hlatency, hprobe⟩ := tlsProbe_cases world
  have hevidence : validateEvidence "invalid connectivity evidence"
      [tcpEvidence world, {}, (directConnectivity world).1] = .ok () :=
    validateEvidence_ok (tcpEvidence_valid world)
      validateCheckEvidence_unchecked hdirect
  simp only [runTLSProbe]
  rcases hprobe with ⟨hhandshake, hshaken⟩ | ⟨hhandshake, hcode, hnot⟩
  · rw [if_pos hhandshake]
    exact ⟨fun _ => Or.inl hshaken, fun _ =>
      ⟨hchecked, hlatency, classified_online, hevidence, rfl⟩⟩
  · rw [if_neg (by rw [hhandshake]; exact Bool.false_ne_true)]
    split
    · rename_i htcp
      have hdown := (tcpEvidence_online world).mp htcp
      refine ⟨fun _ => Or.inr hdown, fun _ =>
        ⟨hchecked, hlatency, ?_, hevidence, rfl⟩⟩
      exact KnownFailure.classified ⟨hcode, rfl⟩ (Or.inr rfl)
    · rename_i htcp
      have hup := fun h => htcp ((tcpEvidence_online world).mpr h)
      refine ⟨fun h => ?_, fun h => absurd h (not_or.mpr ⟨hnot, hup⟩)⟩
      exact absurd h.result (not_classified_stage (Or.inl rfl) rfl)

theorem mem_evidence {lookup : Lookup} {address : Text} :
    address ∈ lookup.evidence.addresses ↔ address ∈ lookup.found :=
  (List.perm_insertionSort _ _).mem_iff

theorem evidence_isEmpty (lookup : Lookup) :
    lookup.evidence.addresses.isEmpty = lookup.found.isEmpty := by
  have hlength := (List.perm_insertionSort (· ≤ ·) lookup.found).length_eq
  rw [Bool.eq_iff_iff, List.isEmpty_iff_length_eq_zero,
    List.isEmpty_iff_length_eq_zero, ← hlength]
  rfl

theorem sharesAddress_evidence {left right : Lookup} :
    sharesAddress left.evidence.addresses right.evidence.addresses = true ↔
      ∃ address ∈ left.found, address ∈ right.found := by
  simp only [sharesAddress, List.any_eq_true, List.elem_eq_mem,
    decide_eq_true_eq, mem_evidence]
  exact exists_congr fun address => and_comm

/-- Every unwelcome answer of a resolver names a stage the controller does not
know. -/
theorem presentable_runDNSProbe_iff :
    Presentable (runDNSProbe platform world assignment
      (controlled world assignment)) ↔
      Resolved platform world assignment := by
  obtain ⟨hchecked, hdirect⟩ := directConnectivity_valid world
  have hevidence : validateEvidence "invalid connectivity evidence"
      [{}, {}, (directConnectivity world).1] = .ok () :=
    validateEvidence_ok validateCheckEvidence_unchecked
      validateCheckEvidence_unchecked hdirect
  have hsystem := evidence_isEmpty world.systemLookup
  have hresolver := evidence_isEmpty world.resolverLookup
  simp only [runDNSProbe, dnsProbe]
  cases hhost : platform.isIPLiteral (trimSpace assignment.targetHost) with
  | true =>
      simp only [↓reduceIte]
      refine ⟨fun h => ?_, fun h => ?_⟩
      · cases h.result
      · rw [h.hostname] at hhost
        cases hhost
  | false =>
      simp only [Bool.false_eq_true, ↓reduceIte, List.find?_cons,
        List.find?_nil, List.map_cons, List.map_nil, List.filter_cons,
        List.filter_nil, hsystem, hresolver]
      have hmismatch := @sharesAddress_evidence world.systemLookup
        world.resolverLookup
      cases hfirst : world.systemLookup.found with
      | nil =>
          cases hsecond : world.resolverLookup.found with
          | nil =>
              refine ⟨fun h => ?_, fun h => ?_⟩
              · exact absurd h.result (not_classified_stage (Or.inr rfl) rfl)
              · rcases h.answered with h | h
                · exact absurd hfirst h
                · exact absurd hsecond h
          | cons address rest =>
              refine ⟨fun _ => ⟨hhost, Or.inr (by simp [hsecond]),
                fun h => absurd hfirst h⟩, fun _ => ?_⟩
              exact ⟨hchecked, millis_nonneg _, classified_online, hevidence,
                rfl⟩
      | cons address rest =>
          cases hsecond : world.resolverLookup.found with
          | nil =>
              refine ⟨fun _ => ⟨hhost, Or.inl (by simp [hfirst]),
                fun _ h => absurd hsecond h⟩, fun _ => ?_⟩
              exact ⟨hchecked, millis_nonneg _, classified_online, hevidence,
                rfl⟩
          | cons other others =>
              simp only [List.isEmpty_cons, Bool.not_false, ↓reduceIte]
              split
              · rename_i hdisagree
                refine ⟨fun h => ?_, fun h => ?_⟩
                · exact absurd h.result
                    (not_classified_stage (Or.inl rfl) rfl)
                · have hshared := hmismatch.mpr
                    (h.agreed (by simp [hfirst]) (by simp [hsecond]))
                  rw [hshared] at hdisagree
                  cases hdisagree
              · rename_i hagree
                refine ⟨fun _ => ⟨hhost, Or.inl (by simp [hfirst]),
                  fun _ _ => hmismatch.mp (by simpa using hagree)⟩,
                  fun _ => ?_⟩
                exact ⟨hchecked, millis_nonneg _, classified_online, hevidence,
                  rfl⟩

end Transport

/-- A profile of the catalogue: its ID and its method are those of an
entry. -/
def FromCatalogue (profile : TestProfile) : Prop :=
  ∃ descriptor ∈ profileCatalogue, profile.id = descriptor.id ∧
    profile.method = descriptor.method

instance (profile : TestProfile) : Decidable (FromCatalogue profile) :=
  inferInstanceAs (Decidable (∃ descriptor ∈ profileCatalogue, _ ∧ _))

/-- The contexts of a job stay open while its samples are taken. -/
def Open (world : Outcomes) (assignment : JobAssignment) : Prop :=
  ∀ index, world.contextDone assignment (world.tunnel.sampleAt index) = false ∧
    world.contextDone assignment (world.alternative.sampleAt index) = false

namespace Executor

variable (e : Executor) {platform : Platform} {world : Outcomes}
  {assignment : JobAssignment}

theorem latencyProfile_speedServerID (tunnel : Tunnel) (done : Nat → Bool) :
    (e.latencyProfile tunnel done).speedServerID = [] := by
  simp only [latencyProfile]
  split
  · rfl
  · split <;> rfl

theorem stabilityProbe_speedServerID (tunnel : Tunnel) :
    (e.stabilityProbe tunnel).speedServerID = [] := by
  unfold stabilityProbe
  split
  · rfl
  · rfl
  · split
    · rfl
    · simp only
      split
      · rfl
      · split <;> rfl

/-- Only a download names a server. -/
theorem proxyCheck_speedServerID (platform : Platform) (tunnel : Tunnel)
    (done : Nat → Bool) {profile : TestProfile}
    (hprofile : FromCatalogue profile) (directBody : Text) :
    (e.proxyCheck platform tunnel done profile directBody).speedServerID =
      if profile.method = .download then (e.downloadEndpoint platform profile).2
      else [] := by
  obtain ⟨descriptor, hdescriptor, hid, hmethod⟩ := hprofile
  simp only [proxyCheck, endpointFor, hid, hmethod]
  simp only [profileCatalogue, List.mem_cons, List.not_mem_nil,
    or_false] at hdescriptor
  rcases hdescriptor with rfl | rfl | rfl | rfl | rfl | rfl | rfl
  · rfl
  · rfl
  · rfl
  · exact e.latencyProfile_speedServerID tunnel done
  · exact e.stabilityProbe_speedServerID tunnel
  · rfl
  · rfl

/-- What the retry against a second endpoint reports. -/
theorem alternativeCheck_some {directBody : Text}
    {alternative : AlternativeEndpointObservation}
    (h : e.alternativeCheck platform world assignment directBody =
      some alternative) :
    trimSpace assignment.job.profile.alternativeProfileID ≠ [] ∧
      ∃ descriptor result, descriptor ∈ profileCatalogue ∧
        descriptor.id =
          trimSpace (trimSpace assignment.job.profile.alternativeProfileID) ∧
        (Open world assignment → Filed result) ∧
        alternative =
          { profileID := descriptor.id
            status := result.status
            latencyMillis := millis result.latency
            failure := result.failure } := by
  simp only [alternativeCheck] at h
  split at h
  · cases h
  · rename_i hne
    split at h
    · cases h
    · rename_i descriptor hfound
      split at h
      · cases h
      · obtain ⟨hmem, hid⟩ := profileByID_mem hfound
        refine ⟨hne, descriptor, _, hmem, hid, fun hopen => ?_,
          (Option.some.inj h).symm⟩
        exact e.filed_proxyCheck platform world.alternative
          (fun index => (hopen index).2) _ directBody

/-- Every profile of the catalogue has an ID the controller lets in. -/
theorem validProfileID_catalogue {descriptor : ProfileDescriptor}
    (h : descriptor ∈ profileCatalogue) :
    validProfileID descriptor.id = true := by
  revert descriptor
  decide

theorem validateAlternative_alternativeCheck (hopen : Open world assignment)
    (directBody : Text) :
    validateAlternative
      (e.alternativeCheck platform world assignment directBody) = .ok () := by
  cases hcheck : e.alternativeCheck platform world assignment directBody with
  | none => rfl
  | some alternative =>
      obtain ⟨-, descriptor, result, hmem, -, hfiled, rfl⟩ :=
        e.alternativeCheck_some hcheck
      simp only [validateAlternative, validProfileID_catalogue hmem,
        not_lt.mpr (millis_nonneg _), Bool.not_true, decide_false,
        Bool.or_self, Bool.false_eq_true, ↓reduceIte]
      exact hfiled hopen

/-- What is measured through the tunnel can always be presented. -/
theorem presentable_measured (hopen : Open world assignment)
    (directBody : Text) :
    Presentable (e.measured platform world assignment directBody
      (controlled world assignment)) := by
  obtain ⟨hchecked, hdirect⟩ := directConnectivity_valid world
  have hunchecked : validateEvidence "invalid connectivity evidence"
      [{}, {}, (directConnectivity world).1] = .ok () :=
    validateEvidence_ok validateCheckEvidence_unchecked
      validateCheckEvidence_unchecked hdirect
  have hevidence : validateEvidence "invalid connectivity evidence"
      [tcpEvidence world, pingEvidence world, (directConnectivity world).1] =
        .ok () :=
    validateEvidence_ok (tcpEvidence_valid world) (pingEvidence_valid world)
      hdirect
  have hfiled := e.filed_proxyCheck platform world.tunnel
    (fun index => (hopen index).1) assignment.job.profile directBody
  have halternative := @validateAlternative_alternativeCheck e platform world
    assignment hopen directBody
  simp only [measured]
  generalize e.proxyCheck platform world.tunnel _ assignment.job.profile
    directBody = result at hfiled ⊢
  split
  · exact ⟨hchecked, millis_nonneg _, hfiled, hunchecked, rfl⟩
  · rename_i hfailed
    have hresult : ∀ status, status = result.status ∨ status = .offline →
        Classified status result.failure :=
      fun status hstatus => hfiled.downgraded hfailed hstatus
    split
    · refine ⟨hchecked, millis_nonneg _, hresult _ ?_, hevidence, rfl⟩
      simp only [hostChecked]
      split
      · exact Or.inr rfl
      · exact Or.inl rfl
    · rename_i alternative hcheck
      rw [hcheck] at halternative
      split
      · exact ⟨hchecked, millis_nonneg _, hfiled, hunchecked, halternative⟩
      · refine ⟨hchecked, millis_nonneg _, hresult _ ?_, hevidence,
          halternative⟩
        simp only [hostChecked]
        split
        · exact Or.inr rfl
        · exact Or.inl rfl

theorem observe_refused (h : takes platform world assignment = false) :
    e.observe platform world assignment =
      configurationFailure (startedObservation world assignment) := by
  simp only [observe, h, Bool.not_false, ↓reduceIte]

/-- A job that is taken up is run as its method is. -/
theorem observe_taken (h : takes platform world assignment = true)
    (hprofile : FromCatalogue assignment.job.profile) :
    e.observe platform world assignment =
      match assignment.job.profile.method with
      | .tls => runTLSProbe world (controlled world assignment)
      | .dns =>
          runDNSProbe platform world assignment (controlled world assignment)
      | _ =>
          e.throughTunnel platform world assignment (directConnectivity world).2
            (controlled world assignment) := by
  obtain ⟨descriptor, hdescriptor, hid, hmethod⟩ := hprofile
  have hfound := profileByID_catalogue hdescriptor
  rw [← hid] at hfound
  simp only [observe, h, Bool.not_true, Bool.false_eq_true, ↓reduceIte, hfound,
    hmethod, ne_eq, not_true_eq_false]
  simp only [profileCatalogue, List.mem_cons, List.not_mem_nil,
    or_false] at hdescriptor
  rcases hdescriptor with rfl | rfl | rfl | rfl | rfl | rfl | rfl <;> rfl

theorem presentable_throughTunnel (hopen : Open world assignment)
    (directBody : Text) :
    Presentable (e.throughTunnel platform world assignment directBody
      (controlled world assignment)) := by
  unfold throughTunnel
  split
  · exact presentable_controlled known_configuration
  · split
    · exact presentable_controlled known_xrayStart
    · exact e.presentable_measured hopen directBody

/-- Exactly when the measured part of an observation can be presented. -/
theorem presentable_observe_iff
    (hprofile : FromCatalogue assignment.job.profile)
    (hopen : Open world assignment) :
    Presentable (e.observe platform world assignment) ↔
      takes platform world assignment = true ∧
        (assignment.job.profile.method = .dns →
          Resolved platform world assignment) ∧
        (assignment.job.profile.method = .tls → Shaken world) := by
  cases htakes : takes platform world assignment with
  | false =>
      rw [e.observe_refused htakes]
      refine ⟨fun h => ?_, fun h => by cases h.1⟩
      cases h.checked
  | true =>
      rw [e.observe_taken htakes hprofile]
      split
      · rename_i hmethod
        rw [presentable_runTLSProbe_iff]
        simp [hmethod]
      · rename_i hmethod
        rw [presentable_runDNSProbe_iff]
        simp [hmethod]
      · rename_i htls hdns
        refine ⟨fun _ => ⟨rfl, fun h => absurd h hdns, fun h => absurd h htls⟩,
          fun _ => e.presentable_throughTunnel hopen _⟩

theorem heading_hostChecked (observation : Observation) :
    heading (hostChecked world observation) = heading observation :=
  rfl

theorem heading_measured (directBody : Text) (observation : Observation) :
    heading (e.measured platform world assignment directBody observation) =
      heading observation := by
  simp only [measured]
  split
  · rfl
  · split
    · rfl
    · split <;> rfl

theorem heading_throughTunnel (directBody : Text) (observation : Observation) :
    heading (e.throughTunnel platform world assignment directBody
      observation) = heading observation := by
  unfold throughTunnel
  split
  · rfl
  · split
    · rfl
    · exact e.heading_measured directBody observation

/-- Every observation names its job. -/
theorem heading_observe (hprofile : FromCatalogue assignment.job.profile) :
    heading (e.observe platform world assignment) =
      startedObservation world assignment := by
  cases htakes : takes platform world assignment with
  | false =>
      rw [e.observe_refused htakes]
      rfl
  | true =>
      rw [e.observe_taken htakes hprofile]
      split
      · simp only [runTLSProbe]
        split
        · rfl
        · split <;> rfl
      · simp only [runDNSProbe]
        split
        · rfl
        · split
          · rfl
          · split <;> rfl
      · rw [e.heading_throughTunnel]
        rfl

theorem runTLSProbe_rest (observation : Observation) :
    (runTLSProbe world observation).speedServerID = observation.speedServerID ∧
      (runTLSProbe world observation).alternativeEndpoint =
        observation.alternativeEndpoint := by
  simp only [runTLSProbe]
  split
  · exact ⟨rfl, rfl⟩
  · split <;> exact ⟨rfl, rfl⟩

theorem runDNSProbe_rest (observation : Observation) :
    (runDNSProbe platform world assignment observation).speedServerID =
        observation.speedServerID ∧
      (runDNSProbe platform world assignment observation).alternativeEndpoint =
        observation.alternativeEndpoint := by
  simp only [runDNSProbe]
  split
  · exact ⟨rfl, rfl⟩
  · split
    · exact ⟨rfl, rfl⟩
    · split <;> exact ⟨rfl, rfl⟩

/-- What a measurement says of servers and second endpoints. -/
theorem measured_rest (directBody : Text) (observation : Observation) :
    (e.measured platform world assignment directBody
      observation).speedServerID =
        (e.proxyCheck platform world.tunnel
          (fun index : Nat =>
            world.contextDone assignment (world.tunnel.sampleAt index))
          assignment.job.profile directBody).speedServerID ∧
      ((e.measured platform world assignment directBody
          observation).alternativeEndpoint = observation.alternativeEndpoint ∨
        (e.measured platform world assignment directBody
          observation).alternativeEndpoint =
          e.alternativeCheck platform world assignment directBody) := by
  simp only [measured]
  split
  · exact ⟨rfl, Or.inl rfl⟩
  · split
    · exact ⟨rfl, Or.inl rfl⟩
    · rename_i hcheck
      split
      · exact ⟨rfl, Or.inr hcheck.symm⟩
      · exact ⟨rfl, Or.inr hcheck.symm⟩

/-- The server an observation names is the one a download was made from. -/
theorem observe_speedServerID
    (hprofile : FromCatalogue assignment.job.profile) :
    (e.observe platform world assignment).speedServerID =
      if takes platform world assignment = true ∧
          assignment.job.profile.method = .download ∧
          world.configWritten = true ∧ world.xrayStarts = true then
        (e.downloadEndpoint platform assignment.job.profile).2
      else [] := by
  cases htakes : takes platform world assignment with
  | false =>
      rw [e.observe_refused htakes]
      rfl
  | true =>
      rw [e.observe_taken htakes hprofile]
      split
      · rename_i hmethod
        rw [(runTLSProbe_rest _).1, if_neg (by simp [hmethod])]
        rfl
      · rename_i hmethod
        rw [(runDNSProbe_rest _).1, if_neg (by simp [hmethod])]
        rfl
      · unfold throughTunnel
        split
        · rename_i hwritten
          rw [if_neg (by simp_all)]
          rfl
        · rename_i hwritten
          split
          · rename_i hstarts
            rw [if_neg (by simp_all)]
            rfl
          · rename_i hstarts
            rw [(e.measured_rest _ _).1,
              e.proxyCheck_speedServerID _ _ _ hprofile]
            simp only [Bool.not_eq_true', Bool.not_eq_false] at hwritten hstarts
            simp only [hwritten, hstarts, true_and, and_true]

/-- The second endpoint an observation reports on. -/
theorem observe_alternativeEndpoint
    (hprofile : FromCatalogue assignment.job.profile)
    {alternative : AlternativeEndpointObservation}
    (h : (e.observe platform world assignment).alternativeEndpoint =
      some alternative) :
    trimSpace assignment.job.profile.alternativeProfileID ≠ [] ∧
      alternative.profileID =
        trimSpace (trimSpace assignment.job.profile.alternativeProfileID) := by
  cases htakes : takes platform world assignment with
  | false =>
      rw [e.observe_refused htakes] at h
      cases h
  | true =>
      have hmeasured : e.alternativeCheck platform world assignment
          (directConnectivity world).2 = some alternative := by
        rw [e.observe_taken htakes hprofile] at h
        split at h
        · rw [(runTLSProbe_rest _).2] at h
          cases h
        · rw [(runDNSProbe_rest _).2] at h
          cases h
        · unfold throughTunnel at h
          split at h
          · cases h
          · split at h
            · cases h
            · rcases (e.measured_rest _ _).2 with hsame | hcheck
              · rw [hsame] at h
                cases h
              · rwa [hcheck] at h
      obtain ⟨hne, descriptor, result, -, hid, -, rfl⟩ :=
        e.alternativeCheck_some hmeasured
      exact ⟨hne, hid⟩

end Executor

end XrayChecker.Probeagent

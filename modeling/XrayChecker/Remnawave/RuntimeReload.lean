import XrayChecker.Remnawave.Pass

/-
The ownership file a pass builds passes the checks it is written and loaded
with.  Every takeover yields a base the checks accept, every text a pass
publishes has been checked, and the other records are kept as they were.
-/

namespace XrayChecker.Remnawave

open Go

/-- A base as the ownership file may record it. -/
def AnnounceBase.Valid (base : AnnounceBase) : Prop :=
  (base.present = true → isManagedBaseAnnounce base.value = true) ∧
    (base.present = false → base.value = [])

/-- An entry of the ownership map that `validateRuntime` accepts. -/
structure ValidManaged (externalUUID : Text) (managed : ManagedAnnouncement) :
    Prop where
  identifier : invalidIdentifier externalUUID = false
  message : managed.message ≠ []
  base : AnnounceBase.Valid ⟨managed.basePresent, managed.baseValue⟩
  value : managed.value = composeManagedAnnounce managed.basePresent
    managed.baseValue managed.message
  publishable : Publishable managed.message

/-- A remembered text that `validateRuntime` accepts. -/
structure ValidRestored (externalUUID value : Text) : Prop where
  identifier : invalidIdentifier externalUUID = false
  base : isManagedBaseAnnounce value = true

theorem validateManaged_eq_ok {entry : Text × ManagedAnnouncement} {u : Unit} :
    validateManaged entry = .ok u ↔ ValidManaged entry.1 entry.2 := by
  simp only [validateManaged, bind_unit_eq_ok, reject_eq_ok,
    validateDisplayText_eq_ok]
  constructor
  · rintro ⟨hid, hmessage, -, hbase, hnone, hvalue, hfits⟩
    refine ⟨hid, by simpa using hmessage, ⟨?_, ?_⟩, by simpa using hvalue,
      hfits⟩
    · intro hpresent
      simpa [show entry.2.basePresent = true from hpresent] using hbase
    · intro habsent
      simpa [show entry.2.basePresent = false from habsent] using hnone
  · rintro ⟨hid, hmessage, ⟨hbase, hnone⟩, hvalue, hfits⟩
    have hstarts := hasPrefix_composeManagedAnnounce hmessage hbase
    rw [← hvalue] at hstarts
    refine ⟨hid, by simpa using hmessage, by simp [hstarts], ?_, ?_,
      by simpa using hvalue, hfits⟩
    · cases hpresent : entry.2.basePresent with
      | false => rfl
      | true => simp [hbase hpresent]
    · cases hpresent : entry.2.basePresent with
      | false =>
          have hempty : entry.2.baseValue = [] := hnone hpresent
          simp [hempty]
      | true => rfl

theorem validateRestored_eq_ok {entry : Text × Text} {u : Unit} :
    validateRestored entry = .ok u ↔ ValidRestored entry.1 entry.2 := by
  simp only [validateRestored, bind_unit_eq_ok, reject_eq_ok]
  constructor
  · rintro ⟨hid, hbase⟩
    exact ⟨hid, by simpa using hbase⟩
  · rintro ⟨hid, hbase⟩
    exact ⟨hid, by simp [hbase]⟩

/-- The records of one squad are as `validateRuntime` wants them. -/
def ValidRecords (externalUUID : Text) (managed : Option ManagedAnnouncement)
    (restored : Option Text) : Prop :=
  (∀ m, managed = some m → ValidManaged externalUUID m) ∧
    ∀ v, restored = some v → ValidRestored externalUUID v

theorem validateRuntime_eq_ok {runtime : RuntimeFile} {u : Unit} :
    validateRuntime runtime = .ok u ↔
      runtime.version = runtimeVersion ∧
        ∀ externalUUID, ValidRecords externalUUID
          runtime.managed[externalUUID]? runtime.restored[externalUUID]? := by
  simp only [validateRuntime, bind_unit_eq_ok, reject_eq_ok, checkAll_eq_ok,
    validateManaged_eq_ok, validateRestored_eq_ok]
  constructor
  · rintro ⟨hversion, hmanaged, hrestored⟩
    refine ⟨by simpa using hversion, fun externalUUID => ⟨?_, ?_⟩⟩
    · intro m hm
      exact hmanaged (externalUUID, m)
        (Std.ExtTreeMap.mem_toList_iff_getElem?_eq_some.mpr hm)
    · intro v hv
      exact hrestored (externalUUID, v)
        (Std.ExtTreeMap.mem_toList_iff_getElem?_eq_some.mpr hv)
  · rintro ⟨hversion, hrecords⟩
    refine ⟨by simp [hversion], ?_, ?_⟩
    · intro entry hentry
      exact (hrecords entry.1).1 entry.2
        (Std.ExtTreeMap.mem_toList_iff_getElem?_eq_some.mp hentry)
    · intro entry hentry
      exact (hrecords entry.1).2 entry.2
        (Std.ExtTreeMap.mem_toList_iff_getElem?_eq_some.mp hentry)

/-- A takeover builds on a text the ownership file may record. -/
theorem takeOver_valid {adopted remembered : Option Text}
    {target : DesiredAnnouncement} {value : Text} {base : AnnounceBase}
    (hadopted : ∀ b, adopted = some b → isManagedBaseAnnounce b = true)
    (hremembered : ∀ v, remembered = some v → isManagedBaseAnnounce v = true)
    (h : takeOver adopted remembered target value = some base) :
    base.Valid := by
  cases takeOver_cases h with
  | adopted b hb _ =>
      exact ⟨fun _ => hadopted b hb, fun hpresent => nomatch hpresent⟩
  | restored hsame =>
      exact ⟨fun _ => hremembered value hsame,
        fun hpresent => nomatch hpresent⟩
  | known known hknown =>
      obtain ⟨-, -, -, -, rfl | ⟨hpresent, hbase⟩⟩ :=
        splitKnownManagedAnnounce_sound hknown
      · exact ⟨fun hpresent => (nomatch hpresent), fun _ => rfl⟩
      · refine ⟨fun _ => hbase, fun habsent => ?_⟩
        rw [show known.1 = false from habsent] at hpresent
        cases hpresent
  | appendable happendable _ =>
      exact ⟨fun _ => (isAppendableBaseAnnounce_iff.mp happendable).1,
        fun hpresent => nomatch hpresent⟩

/-- An update leaves valid records behind, whatever its outcome. -/
theorem sendSquad_valid {externalUUID : Text}
    {send : GoMap Text Text → Except Text Unit} {now : Time}
    {target : DesiredAnnouncement} {squad : ExternalSquad}
    {base : AnnounceBase} {start : SquadOutcome}
    (hid : invalidIdentifier externalUUID = false)
    (hbase : base.Valid) (htarget : Publishable target.message)
    (hstart : ValidRecords externalUUID start.managed start.restored) :
    ValidRecords externalUUID
      (sendSquad send now target squad base start).managed
      (sendSquad send now target squad base start).restored := by
  cases sendSquad_cases send now target squad base start with
  | failed hupdate hmanaged hrestored =>
      rw [hmanaged, hrestored]
      exact hstart
  | withdrawn hmessage hmanaged hrestored =>
      rw [hmanaged, hrestored]
      refine ⟨fun m hm => (nomatch hm), fun v hv => ?_⟩
      split_ifs at hv with hpresent
      · obtain rfl := Option.some.inj hv
        exact ⟨hid, hbase.1 hpresent⟩
      · exact hstart.2 v hv
  | published hmessage hmanaged hrestored =>
      rw [hmanaged, hrestored]
      refine ⟨fun m hm => ?_, fun v hv => nomatch hv⟩
      obtain rfl := Option.some.inj hm
      exact ⟨hid, hmessage, hbase, rfl, htarget⟩

theorem rememberedText_valid {externalUUID : Text} {squad : ExternalSquad}
    {previous : Option ManagedAnnouncement} {restored : Option Text}
    (h : ∀ v, restored = some v → ValidRestored externalUUID v) :
    ∀ v, rememberedText squad previous restored = some v →
      ValidRestored externalUUID v := by
  intro v hv
  exact h v (Option.filter_eq_some_iff.mp hv).1

/-- One iteration keeps the records of its squad valid. -/
theorem reconcileSquad_valid {externalUUID : Text} {adopted : Option Text}
    {send : GoMap Text Text → Except Text Unit} {now : Time}
    {target : DesiredAnnouncement} {squad : ExternalSquad}
    {previous : Option ManagedAnnouncement} {restored : Option Text}
    (hid : invalidIdentifier externalUUID = false)
    (hadopted : ∀ b, adopted = some b → isManagedBaseAnnounce b = true)
    (htarget : Publishable target.message)
    (hrecords : ValidRecords externalUUID previous restored) :
    ValidRecords externalUUID
      (reconcileSquad adopted send now target squad previous restored).managed
      (reconcileSquad adopted send now target squad previous
        restored).restored := by
  cases reconcileSquad_cases adopted send now target squad previous
    restored with
  | duplicate _ hmanaged hrestored =>
      rw [hmanaged, hrestored]
      exact ⟨fun m hm => (nomatch hm), fun v hv => nomatch hv⟩
  | changedOutside p _ _ hmanaged hrestored =>
      rw [hmanaged, hrestored]
      exact ⟨fun m hm => (nomatch hm), fun v hv => nomatch hv⟩
  | refreshed p q hprevious _ hmessage hvalue hrecord hmanaged hrestored =>
      rw [hmanaged, hrestored]
      refine ⟨fun m hm => ?_, fun v hv => nomatch hv⟩
      obtain rfl := Option.some.inj hm
      have hp := hrecords.1 p hprevious
      rcases hrecord with ⟨rfl, -⟩ | rfl
      · exact hp
      · exact ⟨hid, hmessage, hp.base, hvalue, htarget⟩
  | rewritten p start hprevious _ hstart houtcome =>
      rw [houtcome]
      have hp := hrecords.1 p hprevious
      refine sendSquad_valid hid hp.base htarget ⟨?_, ?_⟩
      · rw [hstart.1]
        intro m hm
        obtain rfl := Option.some.inj hm
        exact hp
      · rw [hstart.2.1]
        exact fun v hv => nomatch hv
  | idle _ _ hmanaged hrestored =>
      rw [hmanaged, hrestored]
      exact ⟨fun m hm => (nomatch hm), rememberedText_valid hrecords.2⟩
  | claimed base start _ hfound hstart houtcome =>
      rw [houtcome]
      have hremembered : ∀ v, rememberedText squad none restored = some v →
          ValidRestored externalUUID v := rememberedText_valid hrecords.2
      refine sendSquad_valid hid ?_ htarget ⟨?_, ?_⟩
      · cases hfound with
        | absent => exact ⟨fun hpresent => (nomatch hpresent), fun _ => rfl⟩
        | taken value _ _ htaken =>
            exact takeOver_valid hadopted
              (fun v hv => (hremembered v hv).base) htaken
      · rw [hstart.1]
        exact fun m hm => nomatch hm
      · rw [hstart.2.1]
        exact hremembered
  | unrecognized value _ _ _ _ hmanaged hrestored =>
      rw [hmanaged, hrestored]
      exact ⟨fun m hm => (nomatch hm), rememberedText_valid hrecords.2⟩

/-- A pass announces only to squads whose UUID the ownership file accepts. -/
theorem desired_identifier {config : ConfigFile} {runtime : RuntimeFile}
    {topology : Topology} {fleet : Fleet} {recoverySince : GoMap Text Time}
    {result : DesiredProgress} (hconfig : ValidConfig config)
    (hruntime : validateRuntime runtime = .ok ())
    (h : computeDesiredAnnouncements config runtime topology fleet
      recoverySince = .ok result) {u : Text} {target : DesiredAnnouncement}
    (htarget : result.desired[u]? = some target) :
    invalidIdentifier u = false := by
  have hpairs (v : Text) (hactive : ActivePair config v) :
      invalidIdentifier v = false := by
    obtain ⟨pair, hpair, -, rfl⟩ := hactive
    exact hconfig.pairs_spec.1 pair hpair
  refine desired_forall (fun v _ => invalidIdentifier v = false) h ?_ hpairs
    (fun v _ _ _ _ hactive _ => hpairs v hactive) u target htarget
  intro v hv
  rw [Std.ExtTreeMap.mem_iff_isSome_getElem?, Option.isSome_iff_exists] at hv
  obtain ⟨managed, hmanaged⟩ := hv
  exact (((validateRuntime_eq_ok.mp hruntime).2 v).1 managed
    hmanaged).identifier

/-- The loop does not touch the version of the ownership file. -/
theorem reconcileSquads_version (bases : GoMap Text Text)
    (update : Text → GoMap Text Text → Except Text Unit) (now : Time)
    (desired : GoMap Text DesiredAnnouncement) (start : PassProgress) :
    (reconcileSquads bases update now desired start).runtime.version =
      start.runtime.version := by
  refine foldl_invariant (fun _ (progress : PassProgress) =>
    progress.runtime.version = start.runtime.version) desired.keys rfl ?_
  intro _ u progress _ hprogress
  unfold reconcileStep
  cases progress.externalByUUID[u]? with
  | none => exact hprogress
  | some squad => exact hprogress

/-- The file a pass builds passes the checks. -/
theorem passProgress_valid {s : Service} {input : PassInput}
    {squads : List ExternalSquad} {desired : DesiredProgress}
    (hconfig : ValidConfig s.config)
    (hruntime : validateRuntime s.runtime = .ok ())
    (hdesired : passDesired s input squads = .ok desired) :
    validateRuntime (passProgress s input squads desired).runtime = .ok () := by
  obtain ⟨hversion, hrecords⟩ := validateRuntime_eq_ok.mp hruntime
  refine validateRuntime_eq_ok.mpr
    ⟨(reconcileSquads_version _ _ _ _ _).trans hversion, fun u => ?_⟩
  have hview := view_reconcileSquads s.config.announceBases
    input.updateExternalHeaders input.now desired.desired
    { runtime := s.runtime
      externalByUUID := indexBy ExternalSquad.uuid (sortByName squads) } u
  change (passProgress s input squads desired).view u = _ at hview
  suffices hsuffices : ValidRecords u
      ((passProgress s input squads desired).view u).managed
      ((passProgress s input squads desired).view u).restored from hsuffices
  rw [hview]
  split
  · rename_i hmem
    rw [Std.ExtTreeMap.mem_iff_isSome_getElem?,
      Option.isSome_iff_exists] at hmem
    obtain ⟨target, htarget⟩ := hmem
    rw [SquadView.reconciled]
    split
    · exact hrecords u
    · rw [htarget]
      exact reconcileSquad_valid
        (desired_identifier hconfig hruntime hdesired htarget)
        (fun b hb => hconfig.adopted_base hb)
        (desired_publishable hdesired htarget).1 (hrecords u)
  · exact hrecords u

theorem stampRuntime_valid {runtime : RuntimeFile} (now : Time)
    (h : validateRuntime runtime = .ok ()) :
    validateRuntime (stampRuntime runtime now) = .ok () :=
  validateRuntime_eq_ok.mpr ⟨rfl, (validateRuntime_eq_ok.mp h).2⟩

/-- Only the disk can keep a valid file from being written. -/
theorem writeRuntimeFile_of_valid {runtime : RuntimeFile} (now : Time)
    (h : validateRuntime runtime = .ok ()) (disk : Except Text Unit) :
    writeRuntimeFile disk runtime now =
      disk.map fun _ => stampRuntime runtime now := by
  have hnormal : normalizeRuntime (stampRuntime runtime now) =
      stampRuntime runtime now := rfl
  rw [writeRuntimeFile, hnormal, stampRuntime_valid now h]
  cases disk <;> rfl

theorem readRuntimeFile_of_valid {document : RuntimeFile}
    (h : validateRuntime document = .ok ()) :
    readRuntimeFile (some document) = .ok document := by
  have hnormal : normalizeRuntime document = document := by
    rw [normalizeRuntime, (validateRuntime_eq_ok.mp h).1]
    obtain ⟨version, updatedAt, managed, restored⟩ := document
    have hversion : version = runtimeVersion := (validateRuntime_eq_ok.mp h).1
    subst hversion
    rfl
  rw [readRuntimeFile, hnormal, bind_unit_eq_ok]
  exact ⟨h, rfl⟩

theorem restart_of_valid {s : Service} {document : RuntimeFile}
    (hfile : s.runtimeFile = some document)
    (h : validateRuntime document = .ok ()) :
    (restart s).runtimeOK = true ∧ (restart s).runtime = document := by
  have hrestart : restart s =
      { config := s.config, runtimeFile := s.runtimeFile
        runtime := document, runtimeOK := true : Service } := by
    simp [restart, loadRuntime, hfile, readRuntimeFile_of_valid h]
  rw [hrestart]
  exact ⟨rfl, rfl⟩

/-- What a pass builds is written whenever the disk takes it, and a restart
loads it and goes on writing to the panel. -/
theorem built_runtime_reloads (s : Service) (input : PassInput)
    (squads : List ExternalSquad) (desired : DesiredProgress)
    (hconfig : validateConfig s.config = .ok ())
    (hruntime : validateRuntime s.runtime = .ok ())
    (hdesired : passDesired s input squads = .ok desired) :
    validateRuntime (passProgress s input squads desired).runtime = .ok () ∧
      ∃ stored,
        (∀ disk, writeRuntimeFile disk
          (passProgress s input squads desired).runtime input.now =
            disk.map fun _ => stored) ∧
        SameRecords stored (passProgress s input squads desired).runtime ∧
        readRuntimeFile (some stored) = .ok stored ∧
        ∀ service : Service, service.runtimeFile = some stored →
          (restart service).runtimeOK = true ∧
            (restart service).runtime = stored := by
  have hbuilt := passProgress_valid (validateConfig_eq_ok.mp hconfig) hruntime
    hdesired
  have hstored := stampRuntime_valid input.now hbuilt
  exact ⟨hbuilt, _, writeRuntimeFile_of_valid input.now hbuilt,
    SameRecords.rfl, readRuntimeFile_of_valid hstored,
    fun service hservice => restart_of_valid hservice hstored⟩

namespace Sample

def messages : MessageScenarios where
  singleLocation := ⟨true, "D"⟩
  multipleLocations := ⟨true, "D"⟩
  allLocations := ⟨true, "D"⟩
  partialSingleLocation := ⟨true, "P"⟩
  partialMultipleLocations := ⟨true, "P"⟩
  maintenanceSingleLocation := ⟨true, "M"⟩
  maintenanceMultipleLocations := ⟨true, "M"⟩
  healthy := ⟨true, "ok"⟩
  partialFallback := "D"
  partialAvailabilityFallback := "P"
  maintenanceFallback := "M"
  maintenanceMixedFallback := "X"

/-- One location with one node, announced to one squad. -/
def config : ConfigFile where
  version := configVersion
  policy := {
    enabled := true
    outageMinutes := 1
    minimumFailures := 2
    recoveryMinutes := 1
    messages := messages }
  squadPairs := [{ internalSquadUUID := "i", externalSquadUUID := "e" }]
  locations := some ((∅ : GoMap Text AnnounceLocation).insert "L"
    { publicLabel := "L", members := (∅ : GoMap Text Text).insert "n" "h" })

def service : Service where
  config := config
  topology := {
    loadedAt := 1
    hosts := [{ uuid := "h", configProfileInboundUUID := "b" }]
    internalSquads := [{ uuid := "i", inbounds := ["b"] }] }
  failureObservations := (∅ : GoMap Text Int).insert "n" 2

def up : Checker.ProxyStatusDetails := { online := true, status := .online }

def down : Checker.ProxyStatusDetails :=
  { status := .offline, downSince := 1, failingSince := 1 }

def announce (value : Text) : GoMap Text Text :=
  (∅ : GoMap Text Text).insert announceHeader value

/-- A pass that finds the node and the squad's headers as given. -/
def pass (details : Checker.ProxyStatusDetails) (headers : GoMap Text Text)
    (now : Time) : PassInput where
  externalSquads :=
    .ok [{ uuid := "e", name := "E", responseHeadersAdd := headers }]
  proxySource := {
    proxies := [{ stableID := "n", server := "s", port := 1 }]
    statusDetails := fun _ => some details }
  now := now

/-- What the passes over a healthy node want to announce. -/
def healthyDesired : DesiredProgress where
  desired := (∅ : GoMap Text DesiredAnnouncement).insert "e"
    { message := "ok", knownHealthyMessage := "ok" }

theorem built_runtime_reloads_healthy :
    validateRuntime (passProgress service (pass up ∅ 1)
        [{ uuid := "e", name := "E" }] healthyDesired).runtime = .ok () ∧
      ∃ stored,
        (∀ disk, writeRuntimeFile disk (passProgress service (pass up ∅ 1)
          [{ uuid := "e", name := "E" }] healthyDesired).runtime 1 =
            disk.map fun _ => stored) ∧
        SameRecords stored (passProgress service (pass up ∅ 1)
          [{ uuid := "e", name := "E" }] healthyDesired).runtime ∧
        readRuntimeFile (some stored) = .ok stored ∧
        ∀ service : Service, service.runtimeFile = some stored →
          (restart service).runtimeOK = true ∧
            (restart service).runtime = stored :=
  built_runtime_reloads service (pass up ∅ 1) [{ uuid := "e", name := "E" }]
    healthyDesired (by decide_cbv) (by decide_cbv) (by decide_cbv)

end Sample

end XrayChecker.Remnawave

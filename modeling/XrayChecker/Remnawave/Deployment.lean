import XrayChecker.Remnawave.RuntimeReload

/-
The service over time, together with the panel headers of one external squad:
settings are saved, the topology is read again, checks are observed, passes
run, the process restarts, and the ownership file may get lost.
-/

namespace XrayChecker.Remnawave

open Go Machine

inductive Event where
  | configure (config : ConfigFile)
  | refresh (topology : Topology)
  | observe (source : ProxySource)
  | reconcile (input : PassInput)
  | restart
  | lose

def Service.next (s : Service) : Event → Service
  | .configure config => { s with config := config }
  | .refresh topology => { s with topology := topology }
  | .observe source => observeFullCheck s source
  | .reconcile input => (reconcileNow s input).service
  | .restart => Remnawave.restart s
  | .lose => Remnawave.restart { s with runtimeFile := none }

/-- The headers of a squad after the panel updates it was sent. -/
def headersAfter (update : GoMap Text Text → Except Text Unit)
    (requests : List (GoMap Text Text)) (headers : GoMap Text Text) :
    GoMap Text Text :=
  requests.foldl (fun headers sent =>
    match update sent with
    | .ok _ => sent
    | .error _ => headers) headers

/-- The service and the headers the panel holds for the squad watched. -/
structure World where
  service : Service
  headers : GoMap Text Text

def World.next (externalUUID : Text) (w : World) (e : Event) : World where
  service := w.service.next e
  headers :=
    match e with
    | .reconcile input =>
        headersAfter (input.updateExternalHeaders externalUUID)
          (requestsFor externalUUID (reconcileNow w.service input).requests)
          w.headers
    | _ => w.headers

/-- Nobody but the checker writes the headers of the squad: the panel lists it
with the headers it holds. -/
def ShowsHeaders (externalUUID : Text) (headers : GoMap Text Text)
    (input : PassInput) : Prop :=
  ∀ squads, input.externalSquads = .ok squads →
    ∀ squad ∈ squads, squad.uuid = externalUUID →
      squad.responseHeadersAdd = headers

/-- Only settings that pass validation are ever saved. -/
def Event.WellFormed : Event → Prop
  | .configure config => validateConfig config = .ok ()
  | _ => True

/-- The configuration and the ownership records are valid, in memory and on
disk. -/
structure Service.Sound (s : Service) : Prop where
  config : validateConfig s.config = .ok ()
  runtime : validateRuntime s.runtime = .ok ()
  file : ∀ document, s.runtimeFile = some document →
    validateRuntime document = .ok ()

theorem defaultRuntime_valid : validateRuntime defaultRuntime = .ok () := by
  decide

theorem reconcileNow_config (s : Service) (input : PassInput) :
    (reconcileNow s input).service.config = s.config := by
  unfold reconcileNow
  split
  · rfl
  · dsimp only
    rw [(setLastError_fields _ _).2.2.2.2]
    unfold reconcileLocked
    split
    · rfl
    · dsimp only
      split
      · rfl
      · unfold finishPass
        dsimp only
        split
        · rfl
        · split <;> rfl

theorem restart_config (s : Service) : (restart s).config = s.config := by
  unfold restart loadRuntime
  split <;> rfl

theorem restart_runtimeFile (s : Service) :
    (restart s).runtimeFile = s.runtimeFile := by
  unfold restart loadRuntime
  split <;> rfl

/-- A restart over a missing file starts with no records. -/
theorem restart_of_missing {s : Service} (hfile : s.runtimeFile = none) :
    (restart s).runtime = defaultRuntime ∧ (restart s).runtimeOK = true := by
  have hrestart : restart s =
      { config := s.config, runtimeFile := s.runtimeFile
        runtime := defaultRuntime, runtimeOK := true : Service } := by
    simp [restart, loadRuntime, hfile, readRuntimeFile]
  rw [hrestart]
  exact ⟨rfl, rfl⟩

namespace Service.Sound

variable {s : Service}

theorem restart (h : s.Sound) : (Remnawave.restart s).Sound := by
  refine ⟨by rw [restart_config]; exact h.config, ?_, by
    rw [restart_runtimeFile]; exact h.file⟩
  cases hfile : s.runtimeFile with
  | none =>
      rw [(restart_of_missing hfile).1]
      exact defaultRuntime_valid
  | some document =>
      rw [(restart_of_valid hfile (h.file document hfile)).2]
      exact h.file document hfile

theorem reconcileNow (h : s.Sound) (input : PassInput) :
    (Remnawave.reconcileNow s input).service.Sound := by
  refine ⟨by rw [reconcileNow_config]; exact h.config, ?_, ?_⟩
  · cases reconcileNow_cases s input with
    | skipped _ hruntime =>
        rw [hruntime]
        exact h.runtime
    | completed squads desired _ _ hdesired hruntime hversion =>
        obtain ⟨hbuilt, hrecords⟩ := validateRuntime_eq_ok.mp
          (passProgress_valid (validateConfig_eq_ok.mp h.config) h.runtime
            hdesired)
        refine validateRuntime_eq_ok.mpr ⟨hversion.trans hbuilt, fun u => ?_⟩
        rw [hruntime.1, hruntime.2]
        exact hrecords u
  · intro document hdocument
    cases reconcileNow_cases s input with
    | skipped _ _ hfile =>
        rw [hfile] at hdocument
        exact h.file document hdocument
    | completed squads desired _ _ _ _ _ hfile =>
        rcases hfile with ⟨hfile, -⟩ | ⟨stored, hfile, hwrite⟩
        · rw [hfile] at hdocument
          exact h.file document hdocument
        · rw [hfile] at hdocument
          obtain rfl := Option.some.inj hdocument
          exact (writeRuntimeFile_eq_ok hwrite).2.1

theorem next (h : s.Sound) {e : Event} (he : e.WellFormed) :
    (s.next e).Sound := by
  cases e with
  | configure config => exact ⟨he, h.runtime, h.file⟩
  | refresh topology => exact ⟨h.config, h.runtime, h.file⟩
  | observe source => exact ⟨h.config, h.runtime, h.file⟩
  | reconcile input => exact h.reconcileNow input
  | restart => exact h.restart
  | lose =>
      exact Service.Sound.restart
        ⟨h.config, h.runtime, fun document hdocument => nomatch hdocument⟩

end Service.Sound

/-- After a pass on a working disk the ownership file holds what the service
has in memory. -/
theorem Service.Persisted.reconcileNow {s : Service} (hpersisted : s.Persisted)
    (hsound : s.Sound) {input : PassInput} (hdisk : input.disk = .ok ()) :
    (Remnawave.reconcileNow s input).service.Persisted := by
  cases reconcileNow_cases s input with
  | skipped _ hruntime hfile =>
      rw [Service.Persisted, hruntime, hfile]
      exact hpersisted
  | completed squads desired _ _ hdesired hruntime _ hfile =>
      have hbuilt := passProgress_valid (validateConfig_eq_ok.mp hsound.config)
        hsound.runtime hdesired
      rcases hfile with ⟨hfile, hchanged | ⟨cause, hwrite⟩⟩ |
        ⟨stored, hfile, hwrite⟩
      · have hkept := reconcileSquads_unchanged _ _ _ _ _ hchanged
        rw [Service.Persisted, hfile]
        refine ⟨hpersisted.1.trans ?_, hpersisted.2.trans ?_⟩
        · exact (hruntime.1.trans (congrArg RuntimeFile.managed hkept)).symm
        · exact (hruntime.2.trans (congrArg RuntimeFile.restored hkept)).symm
      · rw [writeRuntimeFile_of_valid _ hbuilt, hdisk] at hwrite
        cases hwrite
      · rw [(writeRuntimeFile_eq_ok hwrite).1] at hfile
        rw [Service.Persisted, hfile]
        exact ⟨hruntime.1.symm, hruntime.2.symm⟩

theorem Service.Persisted.restart {s : Service} (hpersisted : s.Persisted)
    (hsound : s.Sound) :
    (Remnawave.restart s).Persisted ∧
      SameRecords (Remnawave.restart s).runtime s.runtime := by
  rw [Service.Persisted, restart_runtimeFile]
  rw [Service.Persisted] at hpersisted
  cases hfile : s.runtimeFile with
  | none =>
      rw [(restart_of_missing hfile).1]
      rw [hfile] at hpersisted
      exact ⟨SameRecords.rfl, hpersisted⟩
  | some document =>
      rw [(restart_of_valid hfile (hsound.file document hfile)).2]
      rw [hfile] at hpersisted
      exact ⟨SameRecords.rfl, hpersisted⟩

end XrayChecker.Remnawave

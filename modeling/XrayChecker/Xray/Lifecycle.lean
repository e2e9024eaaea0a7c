import XrayChecker.Checker.Store
import XrayChecker.Xray.StableIDs
import XrayChecker.Machine.Run

/-
A refresh swaps the configuration Xray runs with.  Every step of it can fail;
what each one does where it fails decides whether Xray is left running with
the last known good configuration.
-/

namespace XrayChecker.Xray

open Go Machine Checker

/-- The bytes of a configuration. -/
abbrev ConfigBytes := List UInt8

/-- The Xray process.  The configuration the last `Start` since the last stop
found is kept beside it. -/
structure Runner where
  running : Option ConfigBytes := none
  attempted : Option (Option ConfigBytes) := none
deriving DecidableEq

namespace Runner

/-- `Start`, with the configuration file as it finds it and what decoding,
building and starting it ends in. -/
def start (r : Runner) (configFile : Option ConfigBytes)
    (outcome : Option Text) : Runner × Option Text :=
  let r := { r with attempted := some configFile }
  match configFile, outcome with
  | none, _ => (r, some "error reading config file")
  | some _, some text => (r, some text)
  | some config, none => ({ r with running := some config }, none)

/-- `Stop`: the instance is dropped whatever its `Close` returns. -/
def stop (r : Runner) (outcome : Option Text) : Runner × Option Text :=
  match r.running with
  | none => (r, none)
  | some _ =>
      ({ running := none, attempted := none },
        outcome.map ("error stopping Xray: " ++ ·))

end Runner

/-- The errors a refresh joins, by the step that returned each. -/
inductive RefreshError where
  | resolve (text : Text)
  | read (text : Text)
  | generate (text : Text)
  | stop (text : Text)
  | preserve (text : Text)
  | activate (text : Text)
  | start (text : Text)
  | remove (text : Text)
  | restore (text : Text)
  | restart (text : Text)
deriving DecidableEq

/-- How the steps of one refresh end; `none` where one succeeds. -/
structure Outcomes where
  resolved : Option Text := none
  inspected : Option Text := none
  written : Option Text := none
  closed : Option Text := none
  preserved : Option Text := none
  activated : Option Text := none
  removed : Option Text := none
  restored : Option Text := none
  /-- The start with the candidate. -/
  started : Option Text := none
  /-- The start after a recovery. -/
  restarted : Option Text := none
deriving DecidableEq

/-- The active configuration file and the process. -/
structure Lifecycle where
  configFile : Option ConfigBytes
  runner : Runner
deriving DecidableEq

namespace Lifecycle

variable (x : Lifecycle) (o : Outcomes)

/-- `os.Stat` of the active file. -/
def stat : Option Text :=
  match x.configFile, o.inspected with
  | none, _ => some "no such file or directory"
  | some _, outcome => outcome

/-- `GenerateAndSaveConfig`, which writes the candidate. -/
def candidate (generated : Except Text ConfigBytes) :
    Except Text ConfigBytes :=
  match generated, o.written with
  | .error text, _ => .error ("error generating config: " ++ text)
  | .ok _, some text => .error ("error saving config: " ++ text)
  | .ok config, none => .ok config

/-- The start after a recovery, which ends a refresh that failed. -/
def recover (configFile : Option ConfigBytes) (errors : List RefreshError) :
    Lifecycle × Except (List RefreshError) Unit :=
  let (runner, restartErr) := x.runner.start configFile o.restarted
  ({ configFile := configFile, runner := runner },
    .error (errors ++ (restartErr.map RefreshError.restart).toList))

/-- `RestartWithConfigRollback`. -/
def restartWithConfigRollback (generated : Except Text ConfigBytes) :
    Lifecycle × Except (List RefreshError) Unit :=
  match o.resolved, x.stat o, candidate o generated with
  | some text, _, _ => (x, .error [.resolve text])
  | none, some text, _ => (x, .error [.read text])
  | none, none, .error text => (x, .error [.generate text])
  | none, none, .ok config =>
      match x.runner.stop o.closed with
      | (runner, some text) =>
          ({ x with runner := runner }, .error [.stop text])
      | (runner, none) =>
          let lastGood := x.configFile
          let x := { x with runner := runner }
          match o.preserved, o.activated with
          | some text, _ => x.recover o x.configFile [.preserve text]
          | none, some text =>
              x.recover o (if o.restored.isNone then lastGood else none)
                (.activate text :: (o.restored.map RefreshError.restore).toList)
          | none, none =>
              match x.runner.start (some config) o.started with
              | (runner, none) =>
                  ({ configFile := some config, runner := runner }, .ok ())
              | (runner, some text) =>
                  let left := if o.removed.isNone then none else some config
                  ({ x with runner := runner } : Lifecycle).recover o
                    (if o.restored.isNone then lastGood else left)
                    (.start text :: (o.removed.map RefreshError.remove).toList
                      ++ (o.restored.map RefreshError.restore).toList)

end Lifecycle

/-- `PrepareProxyConfigs`. -/
def prepareProxyConfigs (digest : Text → Text) (proxies : List ProxyConfig) :
    List ProxyConfig :=
  proxies.mapIdx fun index proxy =>
    fillStableID digest { proxy with index := index }

/-- What a refresh replaces: the configuration of Xray, the nodes of the
checker, the current list and the endpoints made of it. -/
structure Deployment where
  xray : Lifecycle
  checker : ProxyChecker
  current : List ProxyConfig
  endpoints : List ProxyConfig

/-- `updateConfiguration`. -/
def updateConfiguration (options : Options)
    (generateConfig : List ProxyConfig → Except Text ConfigBytes)
    (d : Deployment) (newConfigs : List ProxyConfig) (o : Outcomes) :
    Deployment × Except (List RefreshError) Unit :=
  let newConfigs := prepareProxyConfigs options.digest newConfigs
  match d.xray.restartWithConfigRollback o (generateConfig newConfigs) with
  | (xray, .error errors) => ({ d with xray := xray }, .error errors)
  | (xray, .ok ()) =>
      ({ xray := xray
         checker := d.checker.updateProxies options newConfigs
         current := newConfigs
         endpoints := newConfigs }, .ok ())

/-- Xray runs with the active configuration, or the last start since the last
stop was one with it. -/
def Lifecycle.Live (x : Lifecycle) : Prop :=
  x.runner.attempted = some x.configFile ∧
    ∀ config ∈ x.runner.running, x.configFile = some config

instance (x : Lifecycle) : Decidable x.Live :=
  inferInstanceAs (Decidable (_ ∧ _))

/-- A refresh commits, or leaves everything as it was. -/
structure Transaction (options : Options)
    (generateConfig : List ProxyConfig → Except Text ConfigBytes)
    (newConfigs : List ProxyConfig) (before after : Deployment)
    (result : Except (List RefreshError) Unit) : Prop where
  committed : result = .ok () → ∃ config,
    generateConfig (prepareProxyConfigs options.digest newConfigs) =
      .ok config ∧
    after.xray.configFile = some config ∧
    after.xray.runner.running = some config ∧
    after.checker = before.checker.updateProxies options
      (prepareProxyConfigs options.digest newConfigs) ∧
    after.current = prepareProxyConfigs options.digest newConfigs
  rolledBack : ∀ errors, result = .error errors →
    after.checker = before.checker ∧ after.current = before.current ∧
    ((∃ text, .restore text ∈ errors) ∨
      (after.xray.configFile = before.xray.configFile ∧
        after.xray.runner.attempted = some before.xray.configFile))
  /-- Xray is not left stopped without an attempt to start it. -/
  live : after.xray.Live

/-- The refresh gets as far as stopping Xray, and the instance that runs
reports an error. -/
def StopFails (generated : Except Text ConfigBytes) (x : Lifecycle)
    (o : Outcomes) : Prop :=
  o.resolved = none ∧ x.stat o = none ∧
    (Lifecycle.candidate o generated).isOk = true ∧
    x.runner.running.isSome ∧ o.closed.isSome

instance (generated : Except Text ConfigBytes) (x : Lifecycle) (o : Outcomes) :
    Decidable (StopFails generated x o) :=
  inferInstanceAs (Decidable (_ ∧ _))

namespace Runner

variable (r : Runner) (configFile : Option ConfigBytes) (outcome : Option Text)

@[simp]
theorem start_attempted :
    (r.start configFile outcome).1.attempted = some configFile := by
  cases configFile <;> cases outcome <;> rfl

/-- A start leaves the instance that ran, or one with the file it found. -/
theorem start_running {config : ConfigBytes}
    (h : config ∈ (r.start configFile outcome).1.running) :
    config ∈ r.running ∨ configFile = some config := by
  cases configFile with
  | none => exact Or.inl h
  | some found =>
      cases outcome with
      | some text => exact Or.inl h
      | none => exact Or.inr h

theorem start_ok {found : ConfigBytes}
    (h : (r.start (some found) outcome).2 = none) :
    (r.start (some found) outcome).1.running = some found := by
  cases outcome with
  | none => rfl
  | some text => exact nomatch h

theorem start_failed {text : Text}
    (h : (r.start configFile outcome).2 = some text) :
    (r.start configFile outcome).1.running = r.running := by
  cases configFile with
  | none => rfl
  | some found =>
      cases outcome with
      | some text => rfl
      | none => exact nomatch h

theorem stop_running : (r.stop outcome).1.running = none := by
  rw [stop]
  split
  · assumption
  · rfl

/-- Only the instance that runs can fail to stop. -/
theorem stop_failed {text : Text} (h : (r.stop outcome).2 = some text) :
    r.running.isSome ∧ outcome.isSome ∧
      (r.stop outcome).1 = { running := none, attempted := none } := by
  rw [stop] at h ⊢
  cases hrunning : r.running with
  | none => simp [hrunning] at h
  | some config =>
      cases outcome with
      | none => simp [hrunning] at h
      | some text => exact ⟨rfl, rfl, rfl⟩

theorem stop_fails (hrunning : r.running.isSome) (houtcome : outcome.isSome) :
    ∃ text, r.stop outcome =
      ({ running := none, attempted := none }, some text) := by
  obtain ⟨config, hconfig⟩ := Option.isSome_iff_exists.mp hrunning
  obtain ⟨text, rfl⟩ := Option.isSome_iff_exists.mp houtcome
  exact ⟨_, by rw [stop, hconfig]; rfl⟩

end Runner

namespace Lifecycle

variable {x : Lifecycle} {o : Outcomes} {generated : Except Text ConfigBytes}

/-- What a refresh leaves of Xray, where it does not leave it stopped. -/
structure Settled (generated : Except Text ConfigBytes)
    (x after : Lifecycle) (result : Except (List RefreshError) Unit) :
    Prop where
  committed : result = .ok () → ∃ config, generated = .ok config ∧
    after.configFile = some config ∧ after.runner.running = some config
  rolledBack : ∀ errors, result = .error errors →
    (∃ text, .restore text ∈ errors) ∨
      (after.configFile = x.configFile ∧
        after.runner.attempted = some x.configFile)
  live : after.Live

/-- A start after a stop attempts the file it is given, which is the one of
before unless it could not be restored. -/
theorem recover_settled {stopped : Lifecycle} {configFile : Option ConfigBytes}
    {errors : List RefreshError} (hstopped : stopped.runner.running = none)
    (hrestored : (∃ text, .restore text ∈ errors) ∨
      configFile = x.configFile) :
    Settled generated x (stopped.recover o configFile errors).1
      (stopped.recover o configFile errors).2 where
  committed h := nomatch h
  rolledBack joined h := by
    obtain rfl := Except.error.inj h
    apply hrestored.imp
    · rintro ⟨text, htext⟩
      exact ⟨text, List.mem_append_left _ htext⟩
    · intro hfile
      subst hfile
      exact ⟨rfl, Runner.start_attempted ..⟩
  live := by
    refine ⟨Runner.start_attempted .., ?_⟩
    intro config hconfig
    rcases Runner.start_running _ _ _ hconfig with hran | hfound
    · rw [hstopped] at hran
      exact nomatch hran
    · exact hfound

theorem unchanged_settled {error : RefreshError} (hlive : x.Live) :
    Settled generated x x (.error [error]) where
  committed h := nomatch h
  rolledBack _ _ := Or.inr ⟨rfl, hlive.1⟩
  live := hlive

theorem candidate_ok {config : ConfigBytes}
    (h : candidate o generated = .ok config) : generated = .ok config := by
  rw [candidate.eq_def] at h
  split at h
  · exact nomatch h
  · exact nomatch h
  · exact h

/-- A refresh that does not fail to stop Xray settles: every step after the
stop that fails ends in a start. -/
theorem restart_settled (hlive : x.Live) (h : ¬ StopFails generated x o) :
    Settled generated x (x.restartWithConfigRollback o generated).1
      (x.restartWithConfigRollback o generated).2 := by
  rw [restartWithConfigRollback]
  split
  · exact unchanged_settled hlive
  · exact unchanged_settled hlive
  · exact unchanged_settled hlive
  next config hresolved hstat hcandidate =>
    split
    next runner text hstop =>
      have hfailed := x.runner.stop_failed o.closed (congrArg Prod.snd hstop)
      exact absurd ⟨hresolved, hstat, by rw [hcandidate]; rfl, hfailed.1,
        hfailed.2.1⟩ h
    next runner hstop =>
      have hstopped : runner.running = none := by
        rw [← x.runner.stop_running o.closed, hstop]
      have hgenerated : generated = .ok config := by
        exact candidate_ok hcandidate
      dsimp only
      split
      · exact recover_settled hstopped (Or.inr rfl)
      · apply recover_settled hstopped
        cases hrestored : o.restored with
        | none => exact Or.inr rfl
        | some text => exact Or.inl ⟨text, by simp⟩
      · split
        next hstart =>
          refine ⟨fun _ => ⟨config, hgenerated, rfl, ?_⟩, nofun, ?_, ?_⟩
          · have hran := runner.start_ok o.started (congrArg Prod.snd hstart)
            rwa [hstart] at hran
          · have hattempted := runner.start_attempted (some config) o.started
            rwa [hstart] at hattempted
          · intro running hrunning
            have hran := @Runner.start_running runner (some config) o.started
              running (by rw [hstart]; exact hrunning)
            rw [hstopped] at hran
            exact hran.resolve_left nofun
        next started text hstart =>
          apply recover_settled
          · have hfailed := runner.start_failed (some config) o.started
              (congrArg Prod.snd hstart)
            rw [hstart] at hfailed
            exact hfailed.trans hstopped
          · cases hrestored : o.restored with
            | none => exact Or.inr rfl
            | some text => exact Or.inl ⟨text, by simp⟩

/-- A refresh that fails to stop Xray ends there, with the instance gone. -/
theorem restart_of_stopFails (h : StopFails generated x o) :
    ∃ text, x.restartWithConfigRollback o generated =
      ({ x with runner := { running := none, attempted := none } },
        .error [.stop text]) := by
  obtain ⟨hresolved, hstat, hcandidate, hrunning, hclosed⟩ := h
  obtain ⟨config, hconfig⟩ : ∃ config, candidate o generated = .ok config := by
    cases hcase : candidate o generated with
    | ok config => exact ⟨config, rfl⟩
    | error text =>
        rw [hcase] at hcandidate
        exact Bool.noConfusion hcandidate
  obtain ⟨text, hstop⟩ := x.runner.stop_fails o.closed hrunning hclosed
  exists text
  simp only [restartWithConfigRollback, hresolved, hstat, hconfig, hstop]

end Lifecycle

section Runs

variable (options : Options)
  (generateConfig : List ProxyConfig → Except Text ConfigBytes)

/-- A refresh is a transaction unless it fails to stop Xray. -/
theorem updateConfiguration_transaction {d : Deployment}
    (newConfigs : List ProxyConfig) (o : Outcomes) (hlive : d.xray.Live) :
    Transaction options generateConfig newConfigs d
        (updateConfiguration options generateConfig d newConfigs o).1
        (updateConfiguration options generateConfig d newConfigs o).2 ↔
      ¬ StopFails
        (generateConfig (prepareProxyConfigs options.digest newConfigs))
        d.xray o := by
  constructor
  · intro htransaction hfails
    obtain ⟨text, hrestart⟩ := Lifecycle.restart_of_stopFails hfails
    have hattempted := htransaction.live.1
    simp only [updateConfiguration, hrestart] at hattempted
    exact nomatch hattempted
  · intro h
    have hsettled := Lifecycle.restart_settled hlive h
    rw [updateConfiguration]
    split
    next xray errors hrestart =>
      rw [hrestart] at hsettled
      exact ⟨nofun, fun _ hsame =>
        ⟨rfl, rfl, Except.error.inj hsame ▸ hsettled.rolledBack errors rfl⟩,
        hsettled.live⟩
    next xray hrestart =>
      rw [hrestart] at hsettled
      obtain ⟨config, hgenerated, hfile, hrunning⟩ := hsettled.committed rfl
      exact ⟨fun _ => ⟨config, hgenerated, hfile, hrunning, rfl, rfl⟩, nofun,
        hsettled.live⟩

/-- A refresh of a run: what the checks since the last one made of the
checker, the list it fetched and how its steps end. -/
structure Refresh where
  checked : ProxyChecker → ProxyChecker
  newConfigs : List ProxyConfig
  outcomes : Outcomes

/-- The deployment a refresh finds. -/
def Refresh.found (r : Refresh) (d : Deployment) : Deployment :=
  { d with checker := r.checked d.checker }

/-- The deployment a refresh leaves, and what it returns. -/
def Refresh.update (r : Refresh) (d : Deployment) :
    Deployment × Except (List RefreshError) Unit :=
  updateConfiguration options generateConfig (r.found d) r.newConfigs
    r.outcomes

/-- The deployment after a refresh. -/
def refreshStep (d : Deployment) (r : Refresh) : Deployment :=
  (r.update options generateConfig d).1

/-- A refresh of a run is a transaction. -/
def Transactional (d : Deployment) (r : Refresh) : Prop :=
  Transaction options generateConfig r.newConfigs (r.found d)
    (r.update options generateConfig d).1
    (r.update options generateConfig d).2

/-- A refresh of a run does not fail to stop Xray. -/
def Stops (d : Deployment) (r : Refresh) : Prop :=
  ¬ StopFails (generateConfig (prepareProxyConfigs options.digest r.newConfigs))
    d.xray r.outcomes

instance (d : Deployment) (r : Refresh) :
    Decidable (Stops options generateConfig d r) :=
  inferInstanceAs (Decidable (¬ _))

/-- The start of the process, which ends it unless Xray starts. -/
def Deployment.Launched (d : Deployment) : Prop :=
  ∃ config, d.xray =
    { configFile := some config
      runner := { running := some config, attempted := some (some config) } }

theorem Deployment.Launched.live {d : Deployment} (h : d.Launched) :
    d.xray.Live := by
  obtain ⟨config, hxray⟩ := h
  rw [hxray]
  exact ⟨rfl, fun running hrunning => hrunning⟩

theorem refreshes_of_live {d : Deployment} (refreshes : List Refresh)
    (hlive : d.xray.Live) :
    Admissible (refreshStep options generateConfig)
        (Transactional options generateConfig) d refreshes ↔
      Admissible (refreshStep options generateConfig)
        (Stops options generateConfig) d refreshes := by
  induction refreshes generalizing d with
  | nil => exact iff_of_true (admissible_nil d) (admissible_nil d)
  | cons r rest ih =>
      have hstep := updateConfiguration_transaction options generateConfig
        (d := r.found d) r.newConfigs r.outcomes hlive
      rw [admissible_cons, admissible_cons]
      constructor
      · rintro ⟨htransaction, hrest⟩
        exact ⟨hstep.mp htransaction, (ih htransaction.live).mp hrest⟩
      · rintro ⟨hstops, hrest⟩
        have htransaction := hstep.mpr hstops
        exact ⟨htransaction, (ih htransaction.live).mpr hrest⟩

/-- The refreshes of a run of the process are all transactions exactly when
none of them fails to stop Xray. -/
theorem refreshes_transactional {d : Deployment} (refreshes : List Refresh)
    (hlaunched : d.Launched) :
    Admissible (refreshStep options generateConfig)
        (Transactional options generateConfig) d refreshes ↔
      Admissible (refreshStep options generateConfig)
        (Stops options generateConfig) d refreshes :=
  refreshes_of_live options generateConfig refreshes hlaunched.live

end Runs

namespace LifecycleSample

/-- A checker with the options of its build. -/
def options : Options where
  digest := id
  startPort := 10000
  checkMethod := "ip"
  downloadURL := []
  downloadMinSize := 0

/-- Xray started with the configuration `1`. -/
def launched : Deployment where
  xray :=
    { configFile := some [1]
      runner := { running := some [1], attempted := some (some [1]) } }
  checker := {}
  current := []
  endpoints := []

/-- The refresh finds no nodes and generates the configuration `2`. -/
def refreshed : Refresh where
  checked := id
  newConfigs := []
  outcomes := {}

/-- The instance that ran reports an error when it is closed. -/
def unclosed : Refresh :=
  { refreshed with outcomes := { closed := some "broken pipe" } }

theorem refreshes_transactional_sample :
    Admissible (refreshStep options fun _ => .ok [2])
      (Transactional options fun _ => .ok [2]) launched
      [refreshed, refreshed] :=
  (refreshes_transactional options (fun _ => .ok [2]) [refreshed, refreshed]
    ⟨[1], rfl⟩).mpr (by decide)

/-- Nothing of the refresh happened but that Xray is gone: it does not run
and nothing tried to start it. -/
theorem failed_stop_leaves_stopped :
    launched.Launched ∧
    (unclosed.update options (fun _ => .ok [2]) launched).2 =
      .error [.stop "error stopping Xray: broken pipe"] ∧
    (unclosed.update options (fun _ => .ok [2]) launched).1.xray.runner =
      { running := none, attempted := none } ∧
    ¬ Transactional options (fun _ => .ok [2]) launched unclosed :=
  ⟨⟨[1], rfl⟩, rfl, rfl, fun h => nomatch h.live.1⟩

end LifecycleSample

end XrayChecker.Xray

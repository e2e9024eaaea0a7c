import XrayChecker.Xray.Fingerprint
import XrayChecker.Xray.Lifecycle

/-
A refresh that would remove many nodes is not applied until the operator has
seen it: what `refreshSubscription` asks for before it replaces the
configuration.
-/

namespace XrayChecker.Xray

open Go

structure ConfigDiff where
  before : Nat
  after : Nat
  added : Nat
  removed : Nat
  changed : Nat
  removedNames : List Text

def ConfigDiff.suspicious (d : ConfigDiff) : Bool :=
  if d.before ≤ 0 then false
  else if d.after = 0 then true
  else 3 ≤ d.removed && d.before ≤ d.removed * 2

section Diff

variable (digest : Text → Text)

/-- `configMapByStableID`. -/
def configMapByStableID (proxies : List (Option ProxyConfig)) :
    GoMap Text ProxyConfig :=
  proxies.reduceOption.foldl (fun result proxy =>
    let key := copyKey digest proxy
    if key = [] then result else result.insert key proxy) ∅

/-- `AnalyzeConfigDiff`. -/
def analyzeConfigDiff (old new : List (Option ProxyConfig)) : ConfigDiff :=
  let oldByID := configMapByStableID digest old
  let newByID := configMapByStableID digest new
  let removed := oldByID.toList.filter fun e => newByID[e.1]?.isNone
  { before := old.length
    after := new.length
    added := (newByID.toList.filter fun e => oldByID[e.1]?.isNone).length
    removed := removed.length
    changed := (oldByID.toList.filter fun e =>
      newByID[e.1]?.any fun proxy =>
        configSignature e.2 ≠ configSignature proxy).length
    removedNames := sortStrings (removed.map (·.2.name)) }

/-- One of the two maps of `IsConfigsEqual`; none where an identity
repeats. -/
def signatureMap : List ProxyConfig → Option (GoMap Text Text)
  | [] => some ∅
  | proxy :: rest =>
      (signatureMap rest).bind fun signatures =>
        let stableID := proxy.effectiveStableID digest
        if signatures.contains stableID then none
        else some (signatures.insert stableID
          (configSignature (fillStableID digest proxy)))

/-- `IsConfigsEqual`. -/
def isConfigsEqual (old new : List ProxyConfig) : Bool :=
  old.length = new.length &&
    match signatureMap digest old, signatureMap digest new with
    | some oldMap, some newMap =>
        oldMap.size = newMap.size &&
          oldMap.toList.all fun e => newMap[e.1]?.getD [] = e.2
    | _, _ => false

end Diff

/-- Who asks for a refresh: the scheduler, or the operator. -/
inductive RefreshRequest where
  | scheduled
  | manual (force : Bool) (confirmationToken : Text)
deriving DecidableEq

namespace RefreshRequest

def isManual : RefreshRequest → Bool
  | scheduled => false
  | manual _ _ => true

def force : RefreshRequest → Bool
  | scheduled => false
  | manual force _ => force

def confirmationToken : RefreshRequest → Text
  | scheduled => []
  | manual _ token => token

end RefreshRequest

/-- The errors of `refreshSubscription`. -/
inductive RefreshFailure where
  | maintenance
  | alreadyRunning
  | fetch (text : Text)
  | rejected (error : StableIDError)
  | blocked (message : Text)
  | changedSinceConfirmation
  | update (errors : List RefreshError)

/-- `AdminSubscriptionRefreshResult`. -/
structure AdminSubscriptionRefreshResult where
  updated : Bool := false
  count : Nat := 0
  added : Nat := 0
  removed : Nat := 0
  changed : Nat := 0
  removedNames : List Text := []
  requiresConfirmation : Bool := false
  confirmationToken : Text := []
  message : Text := []

/-- `PreserveStableIDs` fills the empty identities of the current list. -/
def Deployment.filled (digest : Text → Text) (d : Deployment) : Deployment :=
  { d with current := d.current.map (fillStableID digest) }

/-- What a refresh meets: whether the project is in maintenance, when it
starts and when it applies, whether another refresh is running, the nodes it
fetches, with their domains resolved, and how the update ends. -/
structure RefreshInput where
  request : RefreshRequest
  maintenance : Bool := false
  maintenanceLater : Bool := false
  running : Bool := false
  fetched : Except Text (List (Option ProxyConfig))
  outcomes : Outcomes := {}

/-- The candidate that the fetched nodes are made to. -/
def candidateOf (digest : Text → Text) (current : List ProxyConfig)
    (fetched : List (Option ProxyConfig)) :
    Except StableIDError (List ProxyConfig) :=
  let newConfigs := (deduplicateByStableID digest fetched).1
  let newConfigs := (preserveStableIDs digest (current.map some) newConfigs).new
  (validateStableIDs digest newConfigs).map List.reduceOption

section Refresh

variable (options : Checker.Options) (sha256 : Text → Text)
  (generateConfig : List ProxyConfig → Except Text ConfigBytes)

/-- The result that tells what the candidate would change. -/
def refreshResult (candidate : List ProxyConfig) (diff : ConfigDiff) :
    AdminSubscriptionRefreshResult where
  count := candidate.length
  added := diff.added
  removed := diff.removed
  changed := diff.changed
  removedNames := diff.removedNames

/-- `refreshSubscription`, up to what the other services are told of it. -/
def refreshSubscription (d : Deployment) (input : RefreshInput) :
    Deployment × AdminSubscriptionRefreshResult × Option RefreshFailure :=
  if !input.request.isManual && input.maintenance then
    (d, {}, some .maintenance)
  else if input.running then (d, {}, some .alreadyRunning)
  else
    match input.fetched with
    | .error text => (d, {}, some (.fetch text))
    | .ok fetched =>
        let candidate := candidateOf options.digest d.current fetched
        let d := d.filled options.digest
        match candidate with
        | .error error => (d, {}, some (.rejected error))
        | .ok candidate =>
            let diff := analyzeConfigDiff options.digest (d.current.map some)
              (candidate.map some)
            let token := configFingerprint sha256 options.digest
              (candidate.map some)
            let result := refreshResult candidate diff
            if diff.suspicious && !input.request.force then
              let message := "Suspicious subscription update blocked: " ++
                itoa diff.removed ++ (" of " : Text) ++ itoa diff.before ++
                (" nodes would be removed" : Text)
              (d, { result with
                  requiresConfirmation := input.request.isManual
                  confirmationToken := token
                  message := message },
                if input.request.isManual then none else some (.blocked message))
            else if diff.suspicious && input.request.isManual &&
                input.request.confirmationToken ≠ token then
              (d, result, some .changedSinceConfirmation)
            else if isConfigsEqual options.digest d.current candidate then
              (d, { result with
                message := "Subscriptions checked, no changes" }, none)
            else if !input.request.isManual && input.maintenanceLater then
              (d, {}, some .maintenance)
            else
              match updateConfiguration options generateConfig d candidate
                  input.outcomes with
              | (d, .error errors) => (d, {}, some (.update errors))
              | (d, .ok ()) =>
                  (d, { result with
                    updated := true, message := "Configuration updated" }, none)

/-- A refresh of a run. -/
structure RefreshStep where
  before : Deployment
  input : RefreshInput
  after : Deployment
  result : AdminSubscriptionRefreshResult

/-- The candidate a refresh looks at. -/
def RefreshStep.candidate (step : RefreshStep) : Option (List ProxyConfig) :=
  match step.input.fetched with
  | .error _ => none
  | .ok fetched =>
      match candidateOf options.digest step.before.current fetched with
      | .error _ => none
      | .ok candidate => some candidate

/-- The refreshes of a run, one after the other; between them the checker goes
on. -/
def refreshTrace : Deployment → List ((Checker.ProxyChecker →
    Checker.ProxyChecker) × RefreshInput) → List RefreshStep
  | _, [] => []
  | d, (checked, input) :: rest =>
      let d := { d with checker := checked d.checker }
      let done := refreshSubscription options sha256 generateConfig d input
      { before := d, input := input, after := done.1, result := done.2.1 } ::
        refreshTrace done.1 rest

end Refresh

/-! ### What is applied was shown -/

/-- The two texts are no collision of the digest. -/
def NoCollision (sha256 : Text → Text) (text other : Text) : Prop :=
  sha256 text = sha256 other → text = other

section Steps

variable (options : Checker.Options) (sha256 : Text → Text)

/-- The fingerprint of a candidate. -/
def tokenOf (candidate : List ProxyConfig) : Text :=
  configFingerprint sha256 options.digest (candidate.map some)

/-- The candidate of the refresh is suspicious beside the current list. -/
def RefreshStep.Suspicious (step : RefreshStep) (candidate : List ProxyConfig) :
    Prop :=
  step.candidate options = some candidate ∧
    (analyzeConfigDiff options.digest
      ((step.before.filled options.digest).current.map some)
      (candidate.map some)).suspicious = true

/-- The refresh applied its candidate, or tried to. -/
def RefreshStep.Acts (step : RefreshStep) : Prop :=
  step.result.updated = true ∨
    step.after ≠ step.before ∧ step.after ≠ step.before.filled options.digest

/-- A mass removal is applied only as previewed. -/
structure AppliedAsPreviewed (trace : List RefreshStep) : Prop where
  /-- Only the candidate is applied. -/
  applied : ∀ step ∈ trace, step.result.updated = true →
    ∃ candidate, step.candidate options = some candidate ∧
      SameNodes options.digest (step.after.current.map some)
        (candidate.map some)
  /-- Where it is not, the current list stays. -/
  kept : ∀ step ∈ trace, step.result.updated = false →
    step.after.current = step.before.current ∨
      step.after.current = (step.before.filled options.digest).current
  /-- A suspicious one only where the operator insists with its fingerprint. -/
  gated : ∀ step ∈ trace, ∀ candidate, step.Suspicious options candidate →
    step.Acts options →
      step.input.request = .manual true (tokenOf options sha256 candidate)
  /-- Then the current list is the one an earlier refresh showed, if the token
  is the one it showed. -/
  shown : ∀ preview ∈ trace, preview.result.requiresConfirmation = true →
    ∃ candidate, preview.candidate options = some candidate ∧
      preview.result.confirmationToken = tokenOf options sha256 candidate ∧
      ∀ step ∈ trace, ∀ confirmed, step.Suspicious options confirmed →
        step.result.updated = true →
        step.input.request.confirmationToken =
          preview.result.confirmationToken →
        NoCollision sha256
          (fingerprintText options.digest (confirmed.map some))
          (fingerprintText options.digest (candidate.map some)) →
        SameNodes options.digest (step.after.current.map some)
          (candidate.map some)

/-- The fingerprint stands for the nodes, in any order. -/
structure FingerprintOfNodes : Prop where
  anyOrder : ∀ proxies others : List (Option ProxyConfig),
    proxies.Perm others →
      configFingerprint sha256 options.digest proxies =
        configFingerprint sha256 options.digest others
  sameNodes : ∀ proxies others : List (Option ProxyConfig),
    configFingerprint sha256 options.digest proxies =
      configFingerprint sha256 options.digest others →
    NoCollision sha256 (fingerprintText options.digest proxies)
      (fingerprintText options.digest others) →
    SameNodes options.digest proxies others

end Steps

section Candidates

variable {digest : Text → Text}

/-- The nodes of a list that is accepted have an identity. -/
theorem validateLoop_identity {index : Nat} {seen : GoMap Text ProxyConfig}
    {proxies out : List (Option ProxyConfig)}
    (h : validateLoop digest index seen proxies = .ok out) :
    ∀ proxy ∈ out.reduceOption, proxy.stableID ≠ [] := by
  induction proxies generalizing index seen out with
  | nil =>
      obtain rfl := Except.ok.inj h
      exact fun proxy hproxy => absurd hproxy List.not_mem_nil
  | cons head rest ih =>
      cases head with
      | none => cases h
      | some node =>
          simp only [validateLoop] at h
          split at h
          · cases h
          · rename_i hidentity
            split at h
            · cases h
            · cases hrest : validateLoop digest (index + 1)
                (seen.insert (toLower (trimSpace (node.effectiveStableID
                  digest)))
                  { node with
                    stableID := trimSpace (node.effectiveStableID digest) })
                rest with
              | error error =>
                  rw [hrest] at h
                  cases h
              | ok after =>
                  rw [hrest] at h
                  obtain rfl := Except.ok.inj h
                  intro proxy hproxy
                  rw [List.reduceOption_cons_of_some, List.mem_cons] at hproxy
                  rcases hproxy with rfl | hproxy
                  · exact hidentity
                  · exact ih hrest proxy hproxy

theorem candidateOf_identity {current candidate : List ProxyConfig}
    {fetched : List (Option ProxyConfig)}
    (h : candidateOf digest current fetched = .ok candidate) :
    ∀ proxy ∈ candidate, proxy.stableID ≠ [] := by
  unfold candidateOf at h
  cases hvalid : validateStableIDs digest
      (preserveStableIDs digest (current.map some)
        (deduplicateByStableID digest fetched).1).new with
  | error error =>
      simp only [hvalid] at h
      cases h
  | ok out =>
      simp only [hvalid] at h
      obtain rfl := Except.ok.inj h
      exact validateLoop_identity hvalid

/-- Preparing a list gives its nodes their positions and nothing else. -/
theorem prepareProxyConfigs_nodes {proxies : List ProxyConfig}
    (h : ∀ proxy ∈ proxies, proxy.stableID ≠ []) :
    (prepareProxyConfigs digest proxies).map (nodeKey digest) =
      proxies.map (nodeKey digest) := by
  apply List.ext_getElem?
  intro i
  rw [prepareProxyConfigs, List.getElem?_map, List.getElem?_map,
    List.getElem?_mapIdx, Option.map_map]
  cases hnode : proxies[i]? with
  | none => rfl
  | some node =>
      have hidentity := h node (List.mem_of_getElem? hnode)
      simp only [Option.map_some, Function.comp_apply, Option.some.injEq]
      have hfilled : fillStableID digest { node with index := (i : Int) } =
          { node with index := (i : Int) } := by
        simp [fillStableID, ProxyConfig.effectiveStableID, hidentity]
      rw [hfilled]
      rfl

end Candidates

section Steps

variable {options : Checker.Options} {sha256 : Text → Text}
  {generateConfig : List ProxyConfig → Except Text ConfigBytes}

variable (options sha256 generateConfig) in
/-- One refresh as a step. -/
def RefreshStep.of (d : Deployment) (input : RefreshInput) : RefreshStep where
  before := d
  input := input
  after := (refreshSubscription options sha256 generateConfig d input).1
  result := (refreshSubscription options sha256 generateConfig d input).2.1

theorem updateConfiguration_current (d : Deployment)
    (candidate : List ProxyConfig) (o : Outcomes) :
    match updateConfiguration options generateConfig d candidate o with
    | (d', .error _) => d'.current = d.current
    | (d', .ok ()) =>
        d'.current = prepareProxyConfigs options.digest candidate := by
  unfold updateConfiguration
  rcases hrestart : d.xray.restartWithConfigRollback o
    (generateConfig (prepareProxyConfigs options.digest candidate)) with
    ⟨xray, errors | done⟩
  · simp only [hrestart]
  · simp only [hrestart]

/-- What one refresh does: it leaves everything as it was, perhaps to show a
candidate, or the candidate passed the gate. -/
inductive RefreshOutcome (options : Checker.Options) (sha256 : Text → Text)
    (step : RefreshStep) : Prop where
  | left
      (hafter : step.after = step.before ∨
        step.after = step.before.filled options.digest)
      (hupdated : step.result.updated = false)
      (hshown : step.result.requiresConfirmation = true →
        ∃ candidate, step.candidate options = some candidate ∧
          step.result.confirmationToken = tokenOf options sha256 candidate)
  | passed (candidate : List ProxyConfig)
      (hcandidate : step.candidate options = some candidate)
      (hgate : step.Suspicious options candidate →
        step.input.request = .manual true (tokenOf options sha256 candidate))
      (hshown : step.result.requiresConfirmation = false)
      (hcurrent : step.result.updated = true ∧
          step.after.current =
            prepareProxyConfigs options.digest candidate ∨
        step.result.updated = false ∧
          step.after.current = (step.before.filled options.digest).current)

theorem refreshSubscription_outcome (d : Deployment) (input : RefreshInput) :
    RefreshOutcome options sha256
      (RefreshStep.of options sha256 generateConfig d input) := by
  have hstep : ∀ done, refreshSubscription options sha256 generateConfig d input
      = done → RefreshStep.of options sha256 generateConfig d input =
        { before := d, input := input, after := done.1, result := done.2.1 } := by
    rintro done rfl
    rfl
  cases hdone : refreshSubscription options sha256 generateConfig d input with
  | mk after rest =>
      rw [hstep _ hdone]
      unfold refreshSubscription at hdone
      split at hdone
      · cases hdone
        exact .left (Or.inl rfl) rfl nofun
      split at hdone
      · cases hdone
        exact .left (Or.inl rfl) rfl nofun
      split at hdone
      · cases hdone
        exact .left (Or.inl rfl) rfl nofun
      rename_i fetched hfetched
      dsimp only at hdone
      split at hdone
      · cases hdone
        exact .left (Or.inr rfl) rfl nofun
      rename_i candidate hcandidate
      have hlooked : ∀ after result, RefreshStep.candidate options
          { before := d, input := input, after := after, result := result } =
            some candidate := by
        intro after result
        simp only [RefreshStep.candidate, hfetched, hcandidate]
      split at hdone
      · cases hdone
        exact .left (Or.inr rfl) rfl fun _ => ⟨candidate, hlooked _ _, rfl⟩
      rename_i hforced
      split at hdone
      · cases hdone
        exact .left (Or.inr rfl) rfl nofun
      rename_i htoken
      have hgate : ∀ after result, RefreshStep.Suspicious options
          { before := d, input := input, after := after, result := result }
            candidate →
          input.request = .manual true (tokenOf options sha256 candidate) := by
        rintro after result ⟨-, hsuspicious⟩
        simp only [hsuspicious, Bool.true_and, Bool.not_eq_true'] at hforced
        simp only [hsuspicious, Bool.true_and] at htoken
        cases hrequest : input.request with
        | scheduled => simp [hrequest, RefreshRequest.force] at hforced
        | manual force token =>
            simp only [hrequest, RefreshRequest.force, Bool.not_eq_false]
              at hforced
            simp only [hrequest, RefreshRequest.isManual, Bool.true_and,
              RefreshRequest.confirmationToken, decide_eq_true_eq,
              not_not] at htoken
            rw [hforced, htoken]
            rfl
      split at hdone
      · cases hdone
        exact .left (Or.inr rfl) rfl nofun
      split at hdone
      · cases hdone
        exact .left (Or.inr rfl) rfl nofun
      have hcurrent := @updateConfiguration_current options generateConfig
        (d.filled options.digest) candidate input.outcomes
      split at hdone
      · rename_i d' errors hupdate
        rw [hupdate] at hcurrent
        cases hdone
        exact .passed candidate (hlooked _ _) (hgate _ _) rfl
          (Or.inr ⟨rfl, hcurrent⟩)
      · rename_i d' hupdate
        rw [hupdate] at hcurrent
        cases hdone
        exact .passed candidate (hlooked _ _) (hgate _ _) rfl
          (Or.inl ⟨rfl, hcurrent⟩)

/-- Every refresh of a run is a step. -/
theorem mem_refreshTrace {d : Deployment}
    {inputs : List ((Checker.ProxyChecker → Checker.ProxyChecker) ×
      RefreshInput)} {step : RefreshStep}
    (h : step ∈ refreshTrace options sha256 generateConfig d inputs) :
    ∃ before input,
      step = RefreshStep.of options sha256 generateConfig before input := by
  induction inputs generalizing d with
  | nil => exact absurd h List.not_mem_nil
  | cons first rest ih =>
      obtain ⟨checked, input⟩ := first
      rw [refreshTrace] at h
      rcases List.mem_cons.mp h with rfl | hrest
      · exact ⟨_, input, rfl⟩
      · exact ih hrest

theorem outcome_of_mem {d : Deployment}
    {inputs : List ((Checker.ProxyChecker → Checker.ProxyChecker) ×
      RefreshInput)} {step : RefreshStep}
    (h : step ∈ refreshTrace options sha256 generateConfig d inputs) :
    RefreshOutcome options sha256 step := by
  obtain ⟨before, input, rfl⟩ := mem_refreshTrace h
  exact refreshSubscription_outcome before input

theorem candidate_identity {step : RefreshStep} {candidate : List ProxyConfig}
    (h : step.candidate options = some candidate) :
    ∀ proxy ∈ candidate, proxy.stableID ≠ [] := by
  unfold RefreshStep.candidate at h
  split at h
  · cases h
  · split at h
    · cases h
    · rename_i hcandidate
      obtain rfl := Option.some.inj h
      exact candidateOf_identity hcandidate

/-- A refresh that applied has the nodes of its candidate. -/
theorem RefreshOutcome.applied {step : RefreshStep}
    (h : RefreshOutcome options sha256 step)
    (hupdated : step.result.updated = true) :
    ∃ candidate, step.candidate options = some candidate ∧
      SameNodes options.digest (step.after.current.map some)
        (candidate.map some) := by
  cases h with
  | left _ hnot _ =>
      rw [hupdated] at hnot
      cases hnot
  | passed candidate hcandidate _ _ hcurrent =>
      rcases hcurrent with ⟨-, hafter⟩ | ⟨hnot, -⟩
      · refine ⟨candidate, hcandidate, ?_⟩
        have hsome : ∀ nodes : List ProxyConfig,
            (nodes.map some).reduceOption = nodes := by
          simp [List.reduceOption]
        rw [SameNodes, hsome, hsome, hafter,
          prepareProxyConfigs_nodes (candidate_identity hcandidate)]
      · rw [hupdated] at hnot
        cases hnot

theorem RefreshOutcome.gated {step : RefreshStep}
    (h : RefreshOutcome options sha256 step) {candidate : List ProxyConfig}
    (hsuspicious : step.Suspicious options candidate)
    (hacts : step.Acts options) :
    step.input.request = .manual true (tokenOf options sha256 candidate) := by
  cases h with
  | left hafter hnot _ =>
      rcases hacts with hupdated | ⟨hbefore, hfilled⟩
      · rw [hnot] at hupdated
        cases hupdated
      · exact absurd hafter (not_or.mpr ⟨hbefore, hfilled⟩)
  | passed looked hcandidate hgate _ _ =>
      obtain rfl : looked = candidate :=
        Option.some.inj (hcandidate.symm.trans hsuspicious.1)
      exact hgate hsuspicious

/-- A mass removal is applied only as previewed, in every run of refreshes,
and the fingerprint that confirms it stands for the nodes. -/
theorem refreshes_applied_as_previewed (options : Checker.Options)
    (sha256 : Text → Text)
    (generateConfig : List ProxyConfig → Except Text ConfigBytes)
    (d : Deployment)
    (inputs : List ((Checker.ProxyChecker → Checker.ProxyChecker) ×
      RefreshInput)) :
    AppliedAsPreviewed options sha256
      (refreshTrace options sha256 generateConfig d inputs) ∧
      FingerprintOfNodes options sha256 := by
  refine ⟨⟨?_, ?_, ?_, ?_⟩, ⟨?_, ?_⟩⟩
  · exact fun step hstep => (outcome_of_mem hstep).applied
  · intro step hstep hnot
    cases outcome_of_mem hstep with
    | left hafter _ _ =>
        exact hafter.imp (congrArg Deployment.current)
          (congrArg Deployment.current)
    | passed candidate _ _ _ hcurrent =>
        rcases hcurrent with ⟨hupdated, -⟩ | ⟨-, hkept⟩
        · rw [hnot] at hupdated
          cases hupdated
        · exact Or.inr hkept
  · exact fun step hstep candidate => (outcome_of_mem hstep).gated
  · intro preview hpreview hshown
    cases outcome_of_mem hpreview with
    | passed _ _ _ hnot _ =>
        rw [hshown] at hnot
        cases hnot
    | left _ _ hlooked =>
        obtain ⟨candidate, hcandidate, htoken⟩ := hlooked hshown
        refine ⟨candidate, hcandidate, htoken, ?_⟩
        intro step hstep confirmed hsuspicious hupdated hsame hcollision
        have houtcome := outcome_of_mem hstep
        have hrequest := houtcome.gated hsuspicious (Or.inl hupdated)
        obtain ⟨applied, happlied, hnodes⟩ := houtcome.applied hupdated
        obtain rfl : applied = confirmed :=
          Option.some.inj (happlied.symm.trans hsuspicious.1)
        rw [hrequest, RefreshRequest.confirmationToken, htoken] at hsame
        exact hnodes.trans (fingerprintText_sameNodes (hcollision hsame))
  · intro proxies others hperm
    rw [configFingerprint, configFingerprint, fingerprintText_perm hperm]
  · intro proxies others hsame hcollision
    exact fingerprintText_sameNodes (hcollision hsame)

end Steps

end XrayChecker.Xray

import XrayChecker.Go.MostFrequent
import XrayChecker.Go.Paired
import XrayChecker.NodeArchive.Record

/-
When many nodes fail alike: the codes a majority of a group of nodes shares,
and what `correlateMassIncidents` makes of them.
-/

namespace XrayChecker.NodeArchive

open Go Checker

section Majority

variable (details : Text → Option ProxyStatusDetails)

/-- The code a node fails with, if its status is known and not online. -/
def failureOf (proxy : ProxyConfig) : Option Text :=
  match details proxy.stableID with
  | some status =>
      if status.online then none
      else some (IncidentNodeFailure.mk proxy status).causeCode
  | none => none

/-- The nodes of a group that fail with the code. -/
def failingNodes (group : List ProxyConfig) (code : Text) :
    List ProxyConfig :=
  group.filter fun proxy => failureOf details proxy = some code

/-- At least three nodes of the group, and at least half of them, fail with
the code. -/
def Shared (group : List ProxyConfig) (code : Text) : Prop :=
  max 3 ((group.length + 1) / 2) ≤ (failingNodes details group code).length

/-- The most frequent shared code, the first in order on a tie. -/
def MostShared (group : List ProxyConfig) (code : Text) : Prop :=
  Shared details group code ∧
    ∀ other,
      (failingNodes details group other).length <
          (failingNodes details group code).length ∨
        (failingNodes details group other).length =
            (failingNodes details group code).length ∧ code ≤ other

instance (group : List ProxyConfig) (code : Text) :
    Decidable (Shared details group code) :=
  inferInstanceAs (Decidable (_ ≤ _))

variable {details} in
/-- A shared code is one that nodes of the group fail with. -/
theorem exists_shared_iff {group : List ProxyConfig} :
    (∃ code ∈ group.filterMap (failureOf details),
        Shared details group code) ↔ ∃ code, Shared details group code := by
  constructor
  · rintro ⟨code, -, hshared⟩
    exact ⟨code, hshared⟩
  · rintro ⟨code, hshared⟩
    refine ⟨code, ?_, hshared⟩
    have hmany : 0 < (failingNodes details group code).length := by
      unfold Shared at hshared
      omega
    obtain ⟨proxy, hproxy⟩ := List.exists_mem_of_length_pos hmany
    rw [failingNodes, List.mem_filter, decide_eq_true_eq] at hproxy
    exact List.mem_filterMap.mpr ⟨proxy, hproxy⟩

instance (group : List ProxyConfig) :
    Decidable (∃ code, Shared details group code) :=
  decidable_of_iff _ exists_shared_iff

end Majority

/-- What a mass incident is about: all nodes, or those of a subscription. -/
abbrev Target := Option Text

namespace Target

def scope : Target → Text
  | none => "global"
  | some subscription => subscriptionScope subscription

def group (proxies : List ProxyConfig) : Target → List ProxyConfig
  | none => proxies
  | some subscription => proxies.filter (·.subName = subscription)

/-- The target deserves an incident: a code is shared, and no code is shared
by all nodes where the target is a subscription. -/
def Selected (proxies : List ProxyConfig)
    (details : Text → Option ProxyStatusDetails) : Target → Prop
  | none => ∃ code, Shared details proxies code
  | some subscription =>
      (∀ code, ¬Shared details proxies code) ∧
        ∃ code, Shared details (group proxies (some subscription)) code

instance (proxies : List ProxyConfig)
    (details : Text → Option ProxyStatusDetails) (target : Target) :
    Decidable (target.Selected proxies details) :=
  match target with
  | none => inferInstanceAs (Decidable (∃ code, Shared details proxies code))
  | some subscription =>
      have : Decidable (∀ code, ¬Shared details proxies code) :=
        decidable_of_iff _ not_exists
      inferInstanceAs (Decidable ((∀ code, ¬Shared details proxies code) ∧
        ∃ code, Shared details (group proxies (some subscription)) code))

end Target

/-- The lists name the failing nodes with the most shared code of the group,
in the order of their identities. -/
def NamesMajority (details : Text → Option ProxyStatusDetails)
    (group : List ProxyConfig) (stableIDs nodeNames : List Text) : Prop :=
  ∃ (code : Text) (nodes : List ProxyConfig), MostShared details group code ∧
    nodes.Perm (failingNodes details group code) ∧
    nodes.Pairwise (fun a b => a.stableID ≤ b.stableID) ∧
    stableIDs = nodes.map (·.stableID) ∧ nodeNames = nodes.map (·.name)

/-- How the scope of a subscription without a name reads. -/
def unnamedSubscription : Text := "(unnamed)"

/-- Two targets of one scope: a subscription without a name, and one that is
called as such a subscription is shown. -/
theorem Target.eq_of_scope {target other : Target}
    (h : target.scope = other.scope) :
    target = other ∨ target = some [] ∧ other = some unnamedSubscription ∨
      target = some unnamedSubscription ∧ other = some [] := by
  have hglobal : ∀ subscription,
      Target.scope none ≠ Target.scope (some subscription) := by
    intro subscription hscope
    have hfirst := congrArg List.head? hscope
    simp only [Target.scope, subscriptionScope] at hfirst
    split at hfirst
    · exact absurd hfirst (by decide)
    · exact absurd hfirst (by simp)
  have hunnamed : ∀ subscription : Text, subscription ≠ [] →
      Target.scope (some []) = Target.scope (some subscription) →
      subscription = unnamedSubscription := by
    intro subscription hne hscope
    simp only [Target.scope, subscriptionScope, hne, ↓reduceIte] at hscope
    have hsame : ("subscription:" : Text) ++ unnamedSubscription =
        "subscription:" ++ subscription := hscope
    exact (List.append_cancel_left hsame).symm
  rcases target with _ | subscription <;> rcases other with _ | another
  · exact Or.inl rfl
  · exact absurd h (hglobal another)
  · exact absurd h.symm (hglobal subscription)
  · by_cases hsub : subscription = [] <;> by_cases hanother : another = []
    · exact Or.inl (by rw [hsub, hanother])
    · subst hsub
      exact Or.inr (Or.inl ⟨rfl, by rw [hunnamed another hanother h]⟩)
    · subst hanother
      exact Or.inr (Or.inr ⟨by rw [hunnamed subscription hsub h.symm], rfl⟩)
    · simp only [Target.scope, subscriptionScope, hsub, hanother, ↓reduceIte]
        at h
      exact Or.inl (congrArg some (List.append_cancel_left h))

section Reordered

variable {details : Text → Option ProxyStatusDetails}
  {group other : List ProxyConfig}

theorem failingNodes_perm (h : group.Perm other) (code : Text) :
    (failingNodes details group code).Perm (failingNodes details other code) :=
  h.filter _

theorem shared_congr (h : group.Perm other) (code : Text) :
    Shared details group code ↔ Shared details other code := by
  rw [Shared, Shared, h.length_eq, (failingNodes_perm h code).length_eq]

theorem NamesMajority.perm {stableIDs nodeNames : List Text}
    (h : NamesMajority details group stableIDs nodeNames)
    (hperm : group.Perm other) :
    NamesMajority details other stableIDs nodeNames := by
  obtain ⟨code, nodes, ⟨hshared, hmost⟩, hnodes, hrest⟩ := h
  refine ⟨code, nodes, ⟨(shared_congr hperm code).mp hshared, ?_⟩,
    hnodes.trans (failingNodes_perm hperm code), hrest⟩
  intro another
  rw [← (failingNodes_perm hperm another).length_eq,
    ← (failingNodes_perm hperm code).length_eq]
  exact hmost another

theorem Target.group_perm (h : group.Perm other) (target : Target) :
    (target.group group).Perm (target.group other) := by
  cases target with
  | none => exact h
  | some subscription => exact h.filter _

theorem Target.selected_congr (h : group.Perm other) (target : Target) :
    target.Selected group details ↔ target.Selected other details := by
  cases target with
  | none => simp only [Target.Selected, shared_congr h]
  | some subscription =>
      simp only [Target.Selected, shared_congr h,
        shared_congr (Target.group_perm h (some subscription))]

/-- Only the status of the nodes themselves counts. -/
theorem failingNodes_of_status {status : Text → Option ProxyStatusDetails}
    (h : ∀ proxy ∈ group, details proxy.stableID = status proxy.stableID)
    (code : Text) :
    failingNodes details group code = failingNodes status group code := by
  apply List.filter_congr
  intro proxy hproxy
  have hsame : failureOf details proxy = failureOf status proxy := by
    simp only [failureOf, h proxy hproxy]
  rw [hsame]

theorem NamesMajority.of_status {status : Text → Option ProxyStatusDetails}
    (h : ∀ proxy ∈ group, details proxy.stableID = status proxy.stableID)
    {stableIDs nodeNames : List Text} :
    NamesMajority details group stableIDs nodeNames ↔
      NamesMajority status group stableIDs nodeNames := by
  simp only [NamesMajority, MostShared, Shared, failingNodes_of_status h]

theorem Target.group_subset {target : Target} {proxy : ProxyConfig}
    (h : proxy ∈ target.group group) : proxy ∈ group := by
  cases target with
  | none => exact h
  | some subscription => exact List.mem_of_mem_filter h

theorem Target.selected_of_status
    {status : Text → Option ProxyStatusDetails}
    (h : ∀ proxy ∈ group, details proxy.stableID = status proxy.stableID)
    (target : Target) :
    target.Selected group details ↔ target.Selected group status := by
  cases target with
  | none => simp only [Target.Selected, Shared, failingNodes_of_status h]
  | some subscription =>
      have hmembers : ∀ proxy ∈ Target.group group (some subscription),
          details proxy.stableID = status proxy.stableID :=
        fun proxy hproxy => h proxy (Target.group_subset hproxy)
      simp only [Target.Selected, Shared, failingNodes_of_status h,
        failingNodes_of_status hmembers]

end Reordered

/-! ### The most frequent code -/

theorem selectCause_eq (required : Nat) (failed : List IncidentNodeFailure) :
    selectCause required failed =
      mostFrequent required IncidentNodeFailure.causeCode failed := rfl

section Candidate

variable {details : Text → Option ProxyStatusDetails}

variable (details) in
/-- The failures of a group, as `correlateMassIncidents` collects them. -/
def failuresOf (group : List ProxyConfig) : List IncidentNodeFailure :=
  group.filterMap fun proxy =>
    match details proxy.stableID with
    | some status => if status.online then none else some ⟨proxy, status⟩
    | none => none

theorem failuresOf_filter (group : List ProxyConfig)
    (keep : ProxyConfig → Bool) :
    (failuresOf details group).filter (fun item => keep item.proxy) =
      failuresOf details (group.filter keep) := by
  induction group with
  | nil => rfl
  | cons proxy rest ih =>
      simp only [failuresOf] at ih ⊢
      cases hkeep : keep proxy <;> cases hstatus : details proxy.stableID with
      | none => simp [hkeep, hstatus, ih]
      | some status =>
          cases honline : status.online
          · simp [hkeep, hstatus, honline, ih]
          · simp [hkeep, hstatus, honline, ih]

/-- The failures of one code are those of the nodes that fail with it. -/
theorem failuresOf_cause (group : List ProxyConfig) (code : Text) :
    ((failuresOf details group).filter (·.causeCode = code)).map (·.proxy) =
      failingNodes details group code := by
  induction group with
  | nil => rfl
  | cons proxy rest ih =>
      simp only [failuresOf, failingNodes] at ih ⊢
      cases hstatus : details proxy.stableID with
      | none => simp [failureOf, hstatus, ih]
      | some status =>
          cases honline : status.online
          · by_cases hcode :
              (IncidentNodeFailure.mk proxy status).causeCode = code
            · simp [failureOf, hstatus, honline, hcode, ih]
            · simp [failureOf, hstatus, honline, hcode, ih]
          · simp [failureOf, hstatus, honline, ih]

theorem occurrences_failuresOf (group : List ProxyConfig) (code : Text) :
    occurrences IncidentNodeFailure.causeCode (failuresOf details group) code =
      (failingNodes details group code).length := by
  rw [← failuresOf_cause, List.length_map, occurrences]

/-- Where a code is shared there are nodes, and failures. -/
theorem Shared.nonempty {group : List ProxyConfig} {code : Text}
    (h : Shared details group code) :
    group ≠ [] ∧ failuresOf details group ≠ [] := by
  have hmany : 0 < (failingNodes details group code).length := by
    unfold Shared at h
    omega
  constructor
  · rintro rfl
    exact absurd hmany (by simp [failingNodes])
  · intro hnone
    rw [← occurrences_failuresOf, hnone] at hmany
    exact absurd hmany (by simp [occurrences])

/-- `massCandidate` finds a candidate where a code is shared, and it names the
nodes failing with the most shared one. -/
theorem massCandidate_majority (scope subscription : Text)
    (group : List ProxyConfig) :
    match massCandidate scope subscription group (failuresOf details group) with
    | none => ∀ code, ¬Shared details group code
    | some candidate =>
        candidate.scope = scope ∧
          NamesMajority details group candidate.stableIDs
            candidate.nodeNames := by
  have hchosen := @mostFrequent_spec _ (max 3 ((group.length + 1) / 2))
    IncidentNodeFailure.causeCode (failuresOf details group) (by omega)
  simp only [occurrences_failuresOf, ← selectCause_eq] at hchosen
  unfold massCandidate
  by_cases hempty : group = [] ∨ (failuresOf details group).isEmpty
  · rw [if_pos hempty]
    intro code hshared
    rcases hempty with hgroup | hfailures
    · exact hshared.nonempty.1 hgroup
    · exact hshared.nonempty.2 (by simpa using hfailures)
  · rw [if_neg hempty]
    cases hselected : selectCause (max 3 ((group.length + 1) / 2))
        (failuresOf details group) with
    | none =>
        simp only [hselected] at hchosen
        intro code hshared
        exact absurd hshared (Nat.not_le.mpr (hchosen code))
    | some code =>
        simp only [hselected] at hchosen
        refine ⟨rfl, code,
          (((failuresOf details group).filter (·.causeCode = code)).insertionSort
            fun a b => a.proxy.stableID ≤ b.proxy.stableID).map (·.proxy),
          hchosen, ?_, ?_, ?_, ?_⟩
        · rw [← failuresOf_cause]
          exact (List.perm_insertionSort _ _).map _
        · rw [List.pairwise_map]
          exact List.pairwise_insertionSort (fun a b : IncidentNodeFailure =>
            a.proxy.stableID ≤ b.proxy.stableID) _
        · simp
        · simp

end Candidate

section Correlate

variable (proxies : List ProxyConfig)
  (detailsByStableID : GoMap Text ProxyStatusDetails)

/-- The nodes `correlateMassIncidents` looks at. -/
def namedNodes : List ProxyConfig :=
  proxies.filter (·.stableID ≠ [])

/-- The candidate is the one of the target. -/
def MassIncidentCandidate.IsFor (candidate : MassIncidentCandidate)
    (target : Target) : Prop :=
  candidate.scope = target.scope ∧
    NamesMajority (detailsByStableID[·]?) (target.group (namedNodes proxies))
      candidate.stableIDs candidate.nodeNames

variable {proxies detailsByStableID}

theorem NamesMajority.shared {details : Text → Option ProxyStatusDetails}
    {group : List ProxyConfig} {stableIDs nodeNames : List Text}
    (h : NamesMajority details group stableIDs nodeNames) :
    ∃ code, Shared details group code := by
  obtain ⟨code, -, hmost, -⟩ := h
  exact ⟨code, hmost.1⟩

theorem isFor_of_massCandidate {target : Target} {subscription : Text}
    {candidate : MassIncidentCandidate}
    (h : massCandidate target.scope subscription
        (target.group (namedNodes proxies))
        (failuresOf (detailsByStableID[·]?)
          (target.group (namedNodes proxies))) = some candidate) :
    candidate.IsFor proxies detailsByStableID target := by
  have hmajority := @massCandidate_majority (detailsByStableID[·]?)
    target.scope subscription (target.group (namedNodes proxies))
  rw [h] at hmajority
  exact hmajority

theorem isSome_massCandidate {target : Target} {subscription : Text} :
    (massCandidate target.scope subscription
        (target.group (namedNodes proxies))
        (failuresOf (detailsByStableID[·]?)
          (target.group (namedNodes proxies)))).isSome ↔
      ∃ code, Shared (detailsByStableID[·]?)
        (target.group (namedNodes proxies)) code := by
  have hmajority := @massCandidate_majority (detailsByStableID[·]?)
    target.scope subscription (target.group (namedNodes proxies))
  cases hcandidate : massCandidate target.scope subscription
      (target.group (namedNodes proxies))
      (failuresOf (detailsByStableID[·]?)
        (target.group (namedNodes proxies))) with
  | none =>
      rw [hcandidate] at hmajority
      simpa using hmajority
  | some candidate =>
      rw [hcandidate] at hmajority
      simpa using hmajority.2.shared

theorem correlateMassIncidents_eq :
    correlateMassIncidents proxies detailsByStableID =
      match massCandidate (Target.scope none) [] (namedNodes proxies)
          (failuresOf (detailsByStableID[·]?) (namedNodes proxies)) with
      | some candidate => [candidate]
      | none =>
          (((namedNodes proxies).map (·.subName)).dedup.filterMap
            fun subscription =>
              massCandidate (Target.scope (some subscription)) subscription
                (Target.group (namedNodes proxies) (some subscription))
                (failuresOf (detailsByStableID[·]?)
                  (Target.group (namedNodes proxies)
                    (some subscription)))).insertionSort
            fun a b => a.scope ≤ b.scope := by
  have hfiltered : ∀ subscription,
      failuresOf (detailsByStableID[·]?)
          (Target.group (namedNodes proxies) (some subscription)) =
        (failuresOf (detailsByStableID[·]?) (namedNodes proxies)).filter
          fun item => item.proxy.subName = subscription := by
    intro subscription
    rw [failuresOf_filter _ fun proxy => proxy.subName = subscription,
      Target.group]
  simp only [hfiltered]
  rfl

/-- `correlateMassIncidents` finds one candidate for each selected target. -/
theorem correlateMassIncidents_selected :
    ∃ (targets : List Target) (candidates : List MassIncidentCandidate),
      targets.Nodup ∧
      (∀ target, target ∈ targets ↔
        target.Selected (namedNodes proxies) (detailsByStableID[·]?)) ∧
      candidates.Perm (correlateMassIncidents proxies detailsByStableID) ∧
      List.Forall₂
        (fun candidate target =>
          candidate.IsFor proxies detailsByStableID target)
        candidates targets := by
  have hall := @isSome_massCandidate proxies detailsByStableID none []
  simp only [Target.group] at hall
  rw [correlateMassIncidents_eq]
  cases hglobal : massCandidate (Target.scope none) [] (namedNodes proxies)
      (failuresOf (detailsByStableID[·]?) (namedNodes proxies)) with
  | some candidate =>
      obtain ⟨code, hshared⟩ := hall.mp (Option.isSome_of_mem hglobal)
      refine ⟨[none], [candidate], List.nodup_singleton _, ?_, .refl _, ?_⟩
      · rintro (- | subscription)
        · simpa [Target.Selected] using ⟨code, hshared⟩
        · simpa [Target.Selected] using fun hnone => absurd hshared (hnone code)
      · exact .cons (isFor_of_massCandidate hglobal) .nil
  | none =>
      have hnone : ∀ code,
          ¬Shared (detailsByStableID[·]?) (namedNodes proxies) code := by
        intro code hshared
        have hsome := hall.mpr ⟨code, hshared⟩
        rw [hglobal] at hsome
        exact absurd hsome (by simp)
      generalize hfound : (fun subscription =>
        massCandidate (Target.scope (some subscription)) subscription
          (Target.group (namedNodes proxies) (some subscription))
          (failuresOf (detailsByStableID[·]?)
            (Target.group (namedNodes proxies) (some subscription)))) = found
      have hfoundAt : ∀ subscription, found subscription = massCandidate
          (Target.scope (some subscription)) subscription
          (Target.group (namedNodes proxies) (some subscription))
          (failuresOf (detailsByStableID[·]?)
            (Target.group (namedNodes proxies) (some subscription))) := by
        intro subscription
        rw [← hfound]
      refine ⟨((((namedNodes proxies).map (·.subName)).dedup).filter
          fun subscription => (found subscription).isSome).map some,
        (((namedNodes proxies).map (·.subName)).dedup).filterMap found, ?_, ?_,
        (List.perm_insertionSort _ _).symm, ?_⟩
      · exact ((List.nodup_dedup _).filter _).map (Option.some_injective _)
      · rintro (- | subscription)
        · simpa [Target.Selected] using hnone
        · simp only [List.mem_map, Option.some.injEq, exists_eq_right,
            List.mem_filter, List.mem_dedup, hfoundAt, isSome_massCandidate,
            Target.Selected, hnone, not_false_eq_true, implies_true, true_and,
            and_iff_right_iff_imp]
          rintro ⟨code, hshared⟩
          obtain ⟨proxy, hproxy⟩ := List.exists_mem_of_ne_nil _
            hshared.nonempty.1
          rw [Target.group, List.mem_filter, decide_eq_true_eq] at hproxy
          exact ⟨proxy, hproxy⟩
      · rw [List.forall₂_map_right_iff]
        apply forall₂_filterMap
        intro subscription candidate hcandidate
        exact isFor_of_massCandidate ((hfoundAt _).symm.trans hcandidate)

end Correlate

end XrayChecker.NodeArchive

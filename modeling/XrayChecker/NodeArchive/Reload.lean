import XrayChecker.Go.Decimal
import XrayChecker.NodeArchive.OpenIncidents

/-
The journal across a restart.  Every entry the archive writes has one shape;
which journals made of such entries the next start reads back unchanged is a
condition on their scopes, instants and number.
-/

namespace XrayChecker.NodeArchive

open Go Checker

/-- A scope as the identity of an incident spells it. -/
def dashed (scope : Text) : Text :=
  replacer [(" ", "-"), (":", "-"), ("/", "-")] scope

/-- Where an incident of the kind has its scope from: that of a node is made
of its identity, that of a mass incident stands for itself. -/
inductive ScopeOf : Text → Text → Text → Prop where
  | node (stableID : Text) :
      ScopeOf incidentKindNode stableID (nodeScope stableID)
  | mass (scope : Text) : ScopeOf incidentKindMass scope scope

/-- An entry as the archive writes it. -/
structure IncidentRecord.Written (incident : IncidentRecord) : Prop where
  identity : ∃ subject, subject ≠ [] ∧
    ScopeOf incident.kind subject incident.scope ∧
    incident.id = incidentID incident.kind subject incident.startedAt
  status : incident.status = incidentStatusActive ∨
    incident.status = incidentStatusResolved
  sorted : incident.stableIDs.Pairwise (· ≤ ·)
  named : ∀ stableID ∈ incident.stableIDs, stableID ≠ []
  cause : incident.causeCode ≠ []

/-- A start reads the entry back as it is. -/
structure IncidentRecord.Readable (incident : IncidentRecord) : Prop where
  started : incident.startedAt ≠ 0
  scope : trimSpace incident.scope = incident.scope
  stableIDs : ∀ stableID ∈ incident.stableIDs, trimSpace stableID = stableID
  distinct : incident.stableIDs.Nodup
  summary : incident.causeSummary ≠ []

/-- Two entries of one kind that began at the same instant, for scopes that
differ at most in spaces, colons, slashes and dashes. -/
def IncidentRecord.Collides (incident other : IncidentRecord) : Prop :=
  incident.kind = other.kind ∧ incident.startedAt = other.startedAt ∧
    dashed incident.scope = dashed other.scope

/-- The journals a start reads back as they are. -/
structure Lasting (incidents : List IncidentRecord) : Prop where
  size : incidents.length ≤ maxIncidentRecords
  readable : ∀ incident ∈ incidents, incident.Readable
  distinct : incidents.Pairwise fun a b => ¬a.Collides b

section Identity

/-- The rune an identity has for a rune of the scope. -/
def dashedRune (c : Char) : Char :=
  if c = ' ' ∨ c = ':' ∨ c = '/' then '-' else c

theorem dashed_eq (scope : Text) : dashed scope = scope.map dashedRune := by
  have hrunes := replacer_runes [(' ', '-'), (':', '-'), ('/', '-')] scope
  refine Eq.trans hrunes (List.map_congr_left fun c _ => ?_)
  unfold dashedRune
  by_cases hspace : c = ' '
  · simp [hspace]
  · by_cases hcolon : c = ':'
    · simp [hcolon]
    · by_cases hslash : c = '/'
      · simp [hslash]
      · simp [hspace, hcolon, hslash, Ne.symm hspace, Ne.symm hcolon,
          Ne.symm hslash]

theorem isSpace_dashedRune {c : Char} (h : isSpace c = false) :
    isSpace (dashedRune c) = false := by
  unfold dashedRune
  split
  · decide
  · exact h

theorem unixNano_injective {t u : Time} (h : unixNano t = unixNano u) :
    t = u := by
  unfold unixNano Time.sub at h
  exact Int.ofNat_inj.mp (by omega)

namespace ScopeOf

variable {kind subject scope other otherSubject otherScope : Text}

theorem kind_eq (h : ScopeOf kind subject scope) :
    kind = incidentKindNode ∨ kind = incidentKindMass := by
  cases h with
  | node stableID => exact Or.inl rfl
  | mass scope => exact Or.inr rfl

theorem ne_nil (h : ScopeOf kind subject scope) (hsubject : subject ≠ []) :
    scope ≠ [] := by
  cases h with
  | node stableID => simp [nodeScope]
  | mass scope => exact hsubject

/-- The scope ends as what it is made of. -/
theorem getLast?_eq (h : ScopeOf kind subject scope) (hsubject : subject ≠ []) :
    scope.getLast? = subject.getLast? := by
  cases h with
  | node stableID => exact List.getLast?_append_of_ne_nil _ hsubject
  | mass scope => rfl

/-- Two incidents share an identity when they began at the same instant and
their scopes differ in dashed runes only. -/
theorem incidentID_eq_iff (h : ScopeOf kind subject scope)
    (hother : ScopeOf other otherSubject otherScope)
    (startedAt otherStart : Time) :
    incidentID kind subject startedAt =
        incidentID other otherSubject otherStart ↔
      kind = other ∧ startedAt = otherStart ∧
        dashed scope = dashed otherScope := by
  have hscopes : kind = other →
      (dashed subject = dashed otherSubject ↔
        dashed scope = dashed otherScope) := by
    intro hkind
    cases h with
    | node stableID =>
        cases hother with
        | node _ =>
            simp only [dashed_eq, nodeScope, List.map_append,
              List.append_cancel_left_eq]
        | mass _ => exact absurd hkind (by decide)
    | mass scope =>
        cases hother with
        | node _ => exact absurd hkind (by decide)
        | mass _ => exact Iff.rfl
  constructor
  · intro hid
    have hlength : kind.length = other.length := by
      rcases h.kind_eq with rfl | rfl <;>
        rcases hother.kind_eq with rfl | rfl <;> rfl
    simp only [incidentID, List.append_assoc] at hid
    obtain ⟨hkinds, hrest⟩ := List.append_inj hid hlength
    have hnumber := List.append_cancel_left hrest
    obtain ⟨hnano, hscope⟩ := itoaInt_dash_inj hnumber
    exact ⟨hkinds, unixNano_injective hnano, (hscopes hkinds).mp hscope⟩
  · rintro ⟨hkinds, hstart, hscope⟩
    have hsubjects := (hscopes hkinds).mpr hscope
    subst hkinds hstart
    change _ ++ dashed subject = _ ++ dashed otherSubject
    rw [hsubjects]

end ScopeOf

end Identity

section Reading

theorem failureSummary_ne_nil (code : Text) : failureSummary code ≠ [] := by
  have hite : ∀ (p : Prop) [Decidable p] {a b : Text}, a ≠ [] → b ≠ [] →
      (if p then a else b) ≠ [] := by
    intro p _ a b ha hb
    split
    · exact ha
    · exact hb
  unfold failureSummary
  iterate 13 refine hite _ (by decide) ?_
  decide

theorem uniqueSortedStrings_eq_self_iff {values : List Text}
    (hsorted : values.Pairwise (· ≤ ·)) (hnamed : ∀ value ∈ values,
      value ≠ []) :
    uniqueSortedStrings values = values ↔
      (∀ value ∈ values, trimSpace value = value) ∧ values.Nodup := by
  unfold uniqueSortedStrings sortStrings
  constructor
  · intro h
    constructor
    · intro value hvalue
      rw [← h, List.mem_insertionSort, List.mem_dedup, List.mem_filter,
        List.mem_map] at hvalue
      obtain ⟨⟨original, -, rfl⟩, -⟩ := hvalue
      exact trimSpace_idem original
    · rw [← h]
      exact (List.perm_insertionSort _ _).nodup_iff.mpr (List.nodup_dedup _)
  · rintro ⟨htrimmed, hdistinct⟩
    have hmap : values.map trimSpace = values :=
      (List.map_congr_left htrimmed).trans (List.map_id values)
    have hfilter : values.filter (· ≠ []) = values :=
      List.filter_eq_self.mpr fun value hvalue => by
        simpa using hnamed value hvalue
    rw [hmap, hfilter, hdistinct.dedup]
    exact hsorted.insertionSort_eq

theorem trimSpace_incidentID {kind subject : Text} (startedAt : Time)
    (hkind : kind = incidentKindNode ∨ kind = incidentKindMass)
    (hsubject : subject ≠ [])
    (hlast : ∀ c ∈ subject.getLast?, isSpace c = false) :
    trimSpace (incidentID kind subject startedAt) =
      incidentID kind subject startedAt := by
  have hid : incidentID kind subject startedAt =
      kind ++ "-" ++ itoaInt (unixNano startedAt) ++ "-" ++
        subject.map dashedRune := by
    rw [← dashed_eq]
    rfl
  rw [hid, trimSpace_eq_self_iff]
  constructor
  · rcases hkind with rfl | rfl
    · simp [incidentKindNode]
      decide
    · simp [incidentKindMass]
      decide
  · intro c hc
    rw [List.getLast?_append_of_ne_nil _ (by simpa using hsubject),
      List.getLast?_map, Option.mem_def, Option.map_eq_some_iff] at hc
    obtain ⟨last, hmem, rfl⟩ := hc
    exact isSpace_dashedRune (hlast last hmem)

theorem incidentID_ne_nil {kind subject : Text} {startedAt : Time}
    (hkind : kind = incidentKindNode ∨ kind = incidentKindMass) :
    incidentID kind subject startedAt ≠ [] := by
  rcases hkind with rfl | rfl <;>
    simp [incidentID, incidentKindNode, incidentKindMass]

/-- What a start makes of one written entry. -/
theorem IncidentRecord.Written.normalize_iff {incident : IncidentRecord}
    (h : incident.Written) :
    (normalizeIncident incident = incident ∧ incident.Wellformed) ↔
      incident.Readable := by
  constructor
  · rintro ⟨hsame, -, -, hstarted, -⟩
    have hstableIDs := congrArg IncidentRecord.stableIDs hsame
    have hsummary := congrArg IncidentRecord.causeSummary hsame
    have hlist :=
      (uniqueSortedStrings_eq_self_iff h.sorted h.named).mp hstableIDs
    refine ⟨?_, congrArg IncidentRecord.scope hsame, hlist.1, hlist.2, ?_⟩
    · simpa [Time.isZero] using hstarted
    · intro hempty
      simp only [normalizeIncident, hempty, if_true] at hsummary
      exact failureSummary_ne_nil _ hsummary
  · intro hreadable
    obtain ⟨subject, hsubject, hscope, hincident⟩ := h.identity
    have hid : trimSpace incident.id = incident.id := by
      rw [hincident]
      apply trimSpace_incidentID _ hscope.kind_eq hsubject
      rw [← hscope.getLast?_eq hsubject]
      exact (trimSpace_eq_self_iff.mp hreadable.scope).2
    have hkind : trimSpace incident.kind = incident.kind := by
      rcases hscope.kind_eq with hkind | hkind <;> rw [hkind] <;> decide
    have hstatus : ¬(incident.status ≠ incidentStatusActive ∧
        incident.status ≠ incidentStatusResolved) := by
      rintro ⟨hactive, hresolved⟩
      exact h.status.elim hactive hresolved
    have hstableIDs := (uniqueSortedStrings_eq_self_iff h.sorted h.named).mpr
      ⟨hreadable.stableIDs, hreadable.distinct⟩
    constructor
    · simp only [normalizeIncident, hid, hkind, hreadable.scope, hstableIDs,
        if_neg hstatus, if_neg h.cause, if_neg hreadable.summary]
    · refine ⟨?_, hscope.ne_nil hsubject, ?_, hscope.kind_eq⟩
      · rw [hincident]
        exact incidentID_ne_nil hscope.kind_eq
      · simpa [Time.isZero] using hreadable.started

theorem keptIncidents_length (seen : List Text)
    (incidents : List IncidentRecord) :
    (keptIncidents seen incidents).length ≤ incidents.length := by
  induction incidents generalizing seen with
  | nil => exact Nat.le_refl 0
  | cons incident rest ih =>
      simp only [keptIncidents]
      split
      · exact Nat.succ_le_succ (ih _)
      · exact Nat.le_succ_of_le (ih _)

/-- The loop keeps a journal as it is when every entry is already normal and
none repeats an identity. -/
theorem keptIncidents_eq_self_iff {seen : List Text}
    {incidents : List IncidentRecord} :
    keptIncidents seen incidents = incidents ↔
      (∀ incident ∈ incidents,
        (normalizeIncident incident = incident ∧ incident.Wellformed) ∧
          incident.id ∉ seen) ∧
        incidents.Pairwise fun a b => a.id ≠ b.id := by
  induction incidents generalizing seen with
  | nil => simp [keptIncidents]
  | cons incident rest ih =>
      simp only [keptIncidents, List.forall_mem_cons, List.pairwise_cons]
      split
      · rename_i hkept
        rw [List.cons.injEq, ih]
        constructor
        · rintro ⟨hsame, hrest, hdistinct⟩
          rw [hsame] at hkept hrest
          refine ⟨⟨⟨⟨hsame, hkept.1⟩, hkept.2⟩, ?_⟩, ?_, hdistinct⟩
          · intro other hother
            have hnew := (hrest other hother).2
            exact ⟨(hrest other hother).1, fun h =>
              hnew (List.mem_cons_of_mem _ h)⟩
          · intro other hother heq
            exact (hrest other hother).2 (heq ▸ List.mem_cons_self)
        · rintro ⟨⟨⟨⟨hsame, -⟩, -⟩, hrest⟩, hfirst, hdistinct⟩
          refine ⟨hsame, ?_, hdistinct⟩
          intro other hother
          refine ⟨(hrest other hother).1, ?_⟩
          rw [hsame, List.mem_cons, not_or]
          exact ⟨(hfirst other hother).symm, (hrest other hother).2⟩
      · rename_i hdropped
        constructor
        · intro h
          have hlength := keptIncidents_length seen rest
          rw [h] at hlength
          simp at hlength
        · rintro ⟨⟨⟨⟨hsame, hwellformed⟩, hnew⟩, -⟩, -⟩
          rw [hsame] at hdropped
          exact absurd ⟨hwellformed, hnew⟩ hdropped

theorem normalizeIncidents_eq_self_iff {incidents : List IncidentRecord} :
    normalizeIncidents incidents = incidents ↔
      incidents.length ≤ maxIncidentRecords ∧
        keptIncidents [] incidents = incidents := by
  have hlength := keptIncidents_length [] incidents
  simp only [normalizeIncidents]
  constructor
  · intro h
    have hsize : incidents.length ≤ maxIncidentRecords := by
      rw [← h, List.length_drop]
      omega
    refine ⟨hsize, ?_⟩
    rwa [Nat.sub_eq_zero_of_le (hlength.trans hsize), List.drop_zero] at h
  · rintro ⟨hsize, hkept⟩
    rw [Nat.sub_eq_zero_of_le (hlength.trans hsize), List.drop_zero, hkept]

/-- A journal the archive wrote is read back as it is if and only if it is a
lasting one. -/
theorem normalizeIncidents_written {incidents : List IncidentRecord}
    (h : ∀ incident ∈ incidents, incident.Written) :
    normalizeIncidents incidents = incidents ↔ Lasting incidents := by
  have hdistinct : (incidents.Pairwise fun a b => a.id ≠ b.id) ↔
      incidents.Pairwise fun a b => ¬a.Collides b := by
    apply List.Pairwise.iff_of_mem
    intro a b ha hb
    obtain ⟨subject, -, hscope, hid⟩ := (h a ha).identity
    obtain ⟨otherSubject, -, hotherScope, hotherID⟩ := (h b hb).identity
    rw [hid, hotherID, Ne, hscope.incidentID_eq_iff hotherScope]
    rfl
  rw [normalizeIncidents_eq_self_iff, keptIncidents_eq_self_iff, hdistinct]
  constructor
  · rintro ⟨hsize, hentries, hpairs⟩
    refine ⟨hsize, fun incident hincident => ?_, hpairs⟩
    exact (h incident hincident).normalize_iff.mp
      (hentries incident hincident).1
  · rintro ⟨hsize, hreadable, hpairs⟩
    refine ⟨hsize, fun incident hincident => ⟨?_, ?_⟩, hpairs⟩
    · exact (h incident hincident).normalize_iff.mpr
        (hreadable incident hincident)
    · exact List.not_mem_nil

end Reading

section Writing

/-- A journal of written entries only. -/
def AllWritten (incidents : List IncidentRecord) : Prop :=
  ∀ incident ∈ incidents, incident.Written

variable {incidents : List IncidentRecord} {now : Time}

theorem IncidentRecord.Written.resolve {incident : IncidentRecord}
    (h : incident.Written) (resolvedAt : Time) :
    (incident.resolve resolvedAt).Written :=
  ⟨h.identity, Or.inr rfl, h.sorted, h.named, h.cause⟩

theorem AllWritten.modify {f : IncidentRecord → IncidentRecord}
    (h : AllWritten incidents) (hf : ∀ incident, incident.Written →
      (f incident).Written) (index : Nat) :
    AllWritten (incidents.modify index f) := by
  intro incident hincident
  obtain ⟨other, old, hold, rfl⟩ := mem_modify.mp hincident
  have hwritten := h old (List.mem_of_getElem? hold)
  split
  · exact hf old hwritten
  · exact hwritten

theorem AllWritten.append {incident : IncidentRecord} (h : AllWritten incidents)
    (hincident : incident.Written) : AllWritten (incidents ++ [incident]) :=
  List.forall_mem_append.mpr ⟨h, List.forall_mem_singleton.mpr hincident⟩

/-- Entries resolved where a condition holds. -/
theorem AllWritten.map_resolve (h : AllWritten incidents)
    (p : IncidentRecord → Prop) [DecidablePred p] :
    AllWritten (incidents.map fun incident =>
      if p incident then incident.resolve now else incident) := by
  intro incident hincident
  obtain ⟨old, hold, rfl⟩ := List.mem_map.mp hincident
  split
  · exact (h old hold).resolve now
  · exact h old hold

theorem AllWritten.resolveNodeIncident (h : AllWritten incidents)
    (stableID : Text) :
    AllWritten (resolveNodeIncident incidents stableID now).1 := by
  unfold NodeArchive.resolveNodeIncident
  split
  · exact h
  · exact h.modify (fun incident hincident => hincident.resolve now) _

theorem incidentFailure_code_ne_nil (failure : FailureDetails) :
    (incidentFailure failure).code ≠ [] := by
  unfold incidentFailure
  split
  · exact (by decide : failureCodeUnknown ≠ [])
  · assumption

theorem nodeIncident_written {proxy : ProxyConfig}
    (hnamed : proxy.stableID ≠ [])
    (details : ProxyStatusDetails) :
    (nodeIncident proxy details now).Written := by
  refine ⟨⟨proxy.stableID, hnamed, .node _, rfl⟩, Or.inl rfl,
    List.pairwise_singleton _ _, ?_, ?_⟩
  · exact List.forall_mem_singleton.mpr hnamed
  · exact incidentFailure_code_ne_nil _

theorem AllWritten.updateNodeIncident (h : AllWritten incidents)
    (proxy : ProxyConfig) (details : ProxyStatusDetails) :
    AllWritten (updateNodeIncident incidents proxy details now).1 := by
  unfold NodeArchive.updateNodeIncident
  split
  · exact h
  · rename_i hnamed
    split
    · exact h.resolveNodeIncident _
    · split
      · exact h.append (nodeIncident_written hnamed details)
      · apply h.modify
        intro incident hincident
        exact ⟨hincident.identity, hincident.status, hincident.sorted,
          hincident.named, incidentFailure_code_ne_nil _⟩

/-- What a candidate needs for its incident to be a written one. -/
structure MassIncidentCandidate.Writable (candidate : MassIncidentCandidate) :
    Prop where
  scope : candidate.scope ≠ []
  sorted : candidate.stableIDs.Pairwise (· ≤ ·)
  named : ∀ stableID ∈ candidate.stableIDs, stableID ≠ []
  cause : candidate.cause.code ≠ []

theorem AllWritten.recordCandidate (h : AllWritten incidents)
    {candidate : MassIncidentCandidate} (hcandidate : candidate.Writable) :
    AllWritten (recordCandidate now incidents candidate) := by
  unfold NodeArchive.recordCandidate
  split
  · apply h.append
    exact ⟨⟨candidate.scope, hcandidate.scope, .mass _, rfl⟩, Or.inl rfl,
      hcandidate.sorted, hcandidate.named, hcandidate.cause⟩
  · apply h.modify
    intro incident hincident
    exact ⟨hincident.identity, hincident.status, hcandidate.sorted,
      hcandidate.named, hcandidate.cause⟩

theorem IncidentNodeFailure.causeCode_ne_nil (item : IncidentNodeFailure) :
    item.causeCode ≠ [] := by
  unfold IncidentNodeFailure.causeCode
  split
  · decide
  · assumption

/-- The cause selected is that of one of the failures. -/
theorem selectCause_mem {required : Nat} {failed : List IncidentNodeFailure}
    {code : Text} (h : selectCause required failed = some code) :
    ∃ item ∈ failed, item.causeCode = code := by
  have hloop : ∀ selected,
      selectCause required failed = selected → ∀ code ∈ selected,
      ∃ item ∈ failed, item.causeCode = code := by
    rintro _ rfl
    unfold selectCause
    apply foldl_invariant (fun _ (selected : Option Text) =>
      ∀ code ∈ selected, ∃ item ∈ failed, item.causeCode = code)
    · intro code hcode
      cases hcode
    · intro done code selected hmem hselected
      have hcode : ∃ item ∈ failed, item.causeCode = code := by
        rw [sortStrings, List.mem_insertionSort, List.mem_dedup,
          List.mem_map] at hmem
        exact hmem
      split
      · exact hselected
      · split
        · intro other hother
          cases hother
          exact hcode
        · split
          · intro other hother
            cases hother
            exact hcode
          · exact hselected
  exact hloop _ h code rfl

theorem massCause_code_ne_nil {scope code : Text} (hcode : code ≠ [])
    (selected : List IncidentNodeFailure) :
    (massCause scope code selected).code ≠ [] := by
  have hcause : ∀ cause : FailureDetails,
      (if cause.code = [] then { cause with code := code } else cause).code ≠
        [] := by
    intro cause
    split
    · exact hcode
    · assumption
  have hsummary : ∀ cause : FailureDetails, cause.code ≠ [] →
      (if cause.summary = [] then
        { cause with summary := failureSummary cause.code }
      else cause).code ≠ [] := by
    intro cause hcause
    split
    · exact hcause
    · exact hcause
  unfold massCause
  extract_lets first cause named
  split
  · exact (by decide : failureCodeCheckEndpoint ≠ [])
  · exact hsummary _ (hcause _)

theorem massCandidate_writable {scope subscription : Text}
    {active : List ProxyConfig} {failed : List IncidentNodeFailure}
    {candidate : MassIncidentCandidate} (hscope : scope ≠ [])
    (hnamed : ∀ item ∈ failed, item.proxy.stableID ≠ [])
    (h : massCandidate scope subscription active failed = some candidate) :
    candidate.Writable := by
  unfold massCandidate at h
  split at h
  · cases h
  · obtain ⟨code, hcode, rfl⟩ := Option.map_eq_some_iff.mp h
    obtain ⟨item, -, rfl⟩ := selectCause_mem hcode
    refine ⟨hscope, ?_, ?_, massCause_code_ne_nil item.causeCode_ne_nil _⟩
    · rw [List.pairwise_map]
      exact List.pairwise_insertionSort
        (fun a b : IncidentNodeFailure => a.proxy.stableID ≤ b.proxy.stableID) _
    · intro stableID hstableID
      obtain ⟨other, hother, rfl⟩ := List.mem_map.mp hstableID
      rw [List.mem_insertionSort, List.mem_filter] at hother
      exact hnamed other hother.1

theorem subscriptionScope_ne_nil (subscription : Text) :
    subscriptionScope subscription ≠ [] := by
  unfold subscriptionScope
  split
  · decide
  · simp

theorem correlateMassIncidents_writable (proxies : List ProxyConfig)
    (detailsByStableID : GoMap Text ProxyStatusDetails) :
    ∀ candidate ∈ correlateMassIncidents proxies detailsByStableID,
      candidate.Writable := by
  simp only [correlateMassIncidents]
  generalize hfailed :
    (proxies.filter (·.stableID ≠ [])).filterMap _ = failed
  have hnamed : ∀ item ∈ failed, item.proxy.stableID ≠ [] := by
    intro item hitem
    rw [← hfailed, List.mem_filterMap] at hitem
    obtain ⟨proxy, hproxy, hitem⟩ := hitem
    have hstableID : proxy.stableID ≠ [] := by
      simpa using (List.mem_filter.mp hproxy).2
    split at hitem
    · split at hitem
      · cases hitem
      · cases hitem
        exact hstableID
    · cases hitem
  split
  · rename_i candidate hglobal
    exact List.forall_mem_singleton.mpr
      (massCandidate_writable (by decide) hnamed hglobal)
  · intro candidate hcandidate
    rw [List.mem_insertionSort, List.mem_filterMap] at hcandidate
    obtain ⟨subscription, -, hcandidate⟩ := hcandidate
    refine massCandidate_writable (subscriptionScope_ne_nil subscription) ?_
      hcandidate
    intro item hitem
    exact hnamed item (List.mem_filter.mp hitem).1

theorem AllWritten.updateMassIncidents (h : AllWritten incidents)
    (proxies : List ProxyConfig)
    (detailsByStableID : GoMap Text ProxyStatusDetails) :
    AllWritten
      (updateMassIncidents incidents proxies detailsByStableID now).1 := by
  have hwritable := correlateMassIncidents_writable proxies detailsByStableID
  simp only [NodeArchive.updateMassIncidents]
  apply AllWritten.map_resolve
  apply foldl_invariant (fun _ incidents => AllWritten incidents) _ h
  intro done candidate incidents hcandidate hincidents
  exact hincidents.recordCandidate (hwritable candidate hcandidate)

theorem AllWritten.pruneIncidents (h : AllWritten incidents) :
    AllWritten (pruneIncidents incidents).1 := by
  unfold NodeArchive.pruneIncidents
  split
  · exact h
  · intro incident hincident
    rcases List.mem_append.mp hincident with hactive | hresolved
    · exact h incident (List.mem_filter.mp hactive).1
    · have hmem := List.mem_of_mem_take hresolved
      rw [List.mem_insertionSort] at hmem
      exact h incident (List.mem_filter.mp hmem).1

end Writing

section Calls

variable {options : Options} {store : Store}

theorem Observed.written {pc : ProxyChecker} {now : Time}
    {incidents after : List IncidentRecord} {proxy : ProxyConfig}
    {record written : NodeRecord}
    (hobserved : Observed options pc now incidents proxy record written after)
    (h : AllWritten incidents) : AllWritten after := by
  cases hobserved with
  | unaccounted _ => exact h.resolveNodeIncident _
  | unread _ _ _ _ =>
      split
      · exact h
      · exact h.resolveNodeIncident _
  | read details _ _ _ =>
      split
      · exact h.updateNodeIncident proxy details
      · exact h.resolveNodeIncident _

theorem AllWritten.recorded (h : AllWritten store.incidents)
    (pc : ProxyChecker) (recordHistory : Bool) (now : Time) :
    AllWritten (store.recorded options pc recordHistory now).1.incidents := by
  have hloop : AllWritten
      (pc.proxies.foldl (recordProxy options pc recordHistory now)
        { store := store }).store.incidents := by
    apply foldl_invariant
      (fun _ (acc : Recording) => AllWritten acc.store.incidents) _ h
    intro done proxy acc _ hacc
    by_cases hnamed : proxy.effectiveStableID options.digest = []
    · simp only [recordProxy, hnamed, ↓reduceIte]
      exact hacc
    · obtain ⟨written, hobserved, -⟩ :=
        @recordProxy_observed options pc now recordHistory acc proxy _ rfl
          hnamed
      exact hobserved.written hacc
  have hretired : ∀ (active : List Text) (finished : Store × Bool),
      AllWritten finished.1.incidents →
      AllWritten (finished.1.nodes.toList.foldl (retireMissing active now)
        finished).1.incidents := by
    intro active finished hfinished
    apply foldl_invariant
      (fun _ (retired : Store × Bool) => AllWritten retired.1.incidents) _
      hfinished
    intro done entry retired _ hretired
    simp only [retireMissing]
    split
    · exact hretired
    · split
      · exact hretired
      · exact hretired
  apply hretired
  exact (hloop.updateMassIncidents _ _).pruneIncidents

/-- The journal in memory and the one in the file written. -/
def OutcomeWritten (performed : Store × Outcome) : Prop :=
  AllWritten performed.1.incidents ∧
    ∀ file ∈ performed.2.written, AllWritten file.incidents

theorem AllWritten.save {failed : Store} (h : AllWritten store.incidents)
    (hfailed : AllWritten failed.incidents) (saveError : Option Text)
    (value : Option NodeRecord) :
    OutcomeWritten (store.save failed saveError value) := by
  cases saveError with
  | none =>
      refine ⟨h, fun file hfile => ?_⟩
      cases hfile
      exact h
  | some error =>
      refine ⟨hfailed, fun file hfile => ?_⟩
      cases hfile

theorem AllWritten.unsaved (h : AllWritten store.incidents)
    (result : Except Text (Option NodeRecord)) :
    OutcomeWritten (store, { result := result }) := by
  refine ⟨h, fun file hfile => ?_⟩
  cases hfile

theorem AllWritten.syncProxies (h : AllWritten store.incidents)
    (proxies : List ProxyConfig) (now : Time) (saveError : Option Text) :
    OutcomeWritten (store.syncProxies options proxies now saveError) := by
  have hproxies : AllWritten
      (proxies.foldl (Store.syncProxy options now)
        (store, false)).1.incidents := by
    apply foldl_invariant
      (fun _ (synced : Store × Bool) => AllWritten synced.1.incidents) _ h
    intro done proxy synced _ hsynced
    simp only [Store.syncProxy]
    split
    · exact hsynced
    · split
      · exact hsynced
      · exact hsynced
  have hmissing : ∀ (active : List Text) (synced : Store × Bool),
      AllWritten synced.1.incidents →
      AllWritten (synced.1.nodes.toList.foldl (Store.syncMissing active now)
        synced).1.incidents := by
    intro active synced hsynced
    apply foldl_invariant
      (fun _ (synced : Store × Bool) => AllWritten synced.1.incidents) _ hsynced
    intro done entry synced _ hentries
    simp only [Store.syncMissing]
    split
    · exact hentries
    · exact hentries.resolveNodeIncident _
  have hsynced := hmissing
    ((proxies.map (·.effectiveStableID options.digest)).filter (· ≠ [])) _
    hproxies
  simp only [Store.syncProxies]
  split
  · exact hsynced.unsaved _
  · exact hsynced.save hsynced _ _

theorem AllWritten.setMaintenance (h : AllWritten store.incidents)
    (stableID : Text) (enabled : Bool) (now : Time) (saveError : Option Text) :
    OutcomeWritten (store.setMaintenance stableID enabled now saveError) := by
  simp only [Store.setMaintenance]
  split
  · exact h.unsaved _
  · split
    · exact h.unsaved _
    · split
      · exact h.unsaved _
      · split
        · exact h.unsaved _
        · apply AllWritten.save
          · cases enabled with
            | true => exact h.resolveNodeIncident _
            | false => exact h
          · exact h

theorem AllWritten.setDisplayName (h : AllWritten store.incidents)
    (stableID displayName : Text) (saveError : Option Text) :
    OutcomeWritten (store.setDisplayName stableID displayName saveError) := by
  simp only [Store.setDisplayName]
  split
  · exact h.unsaved _
  · split
    · exact h.unsaved _
    · split
      · exact h.unsaved _
      · split
        · exact h.unsaved _
        · apply AllWritten.save
          · exact h
          · exact h

theorem AllWritten.pauseProjectMonitoring (h : AllWritten store.incidents)
    (now : Time) (saveError : Option Text) :
    OutcomeWritten (store.pauseProjectMonitoring now saveError) := by
  have hpaused := @AllWritten.map_resolve _ now h
    (·.status = incidentStatusActive) _
  simp only [Store.pauseProjectMonitoring]
  split
  · exact AllWritten.unsaved hpaused _
  · exact AllWritten.save hpaused h _ _

theorem AllWritten.syncSpeedHistory (h : AllWritten store.incidents)
    (history : GoMap Text (List SpeedResult)) (now : Time)
    (saveError : Option Text) :
    OutcomeWritten (store.syncSpeedHistory history now saveError) := by
  simp only [Store.syncSpeedHistory]
  generalize hsynced : history.toList.foldl _ (store, false) = synced
  have hwritten : AllWritten synced.1.incidents := by
    rw [← hsynced]
    apply foldl_invariant
      (fun _ (synced : Store × Bool) => AllWritten synced.1.incidents) _ h
    intro done entry synced _ hentries
    split
    · exact hentries
    · split
      · exact hentries
      · exact hentries
  split
  · exact hwritten.unsaved _
  · exact hwritten.save hwritten _ _

/-- Every call writes written entries only, in memory and on disk. -/
theorem AllWritten.perform (h : AllWritten store.incidents) (event : Event) :
    OutcomeWritten (store.perform options event) := by
  obtain ⟨call, saveError⟩ := event
  cases call with
  | syncProxies proxies now => exact h.syncProxies proxies now saveError
  | setMaintenance stableID enabled now =>
      exact h.setMaintenance stableID enabled now saveError
  | setDisplayName stableID displayName =>
      exact h.setDisplayName stableID displayName saveError
  | pauseProjectMonitoring now => exact h.pauseProjectMonitoring now saveError
  | syncSpeedHistory history now =>
      exact h.syncSpeedHistory history now saveError
  | recordAvailability pc recordHistory now =>
      have hrecorded := @AllWritten.recorded options _ h pc recordHistory now
      simp only [Store.perform, Store.recordAvailability]
      split
      · exact hrecorded.unsaved _
      · exact hrecorded.save hrecorded _ _
  | setAvailabilityHistoryRetentionDays days now =>
      simp only [Store.perform, Store.setAvailabilityHistoryRetentionDays]
      split
      · exact AllWritten.unsaved h _
      · apply AllWritten.save
        · exact h
        · exact h
  | refreshGeo => exact h.save h _ _
  | deleteArchived stableID =>
      simp only [Store.perform, Store.deleteArchived]
      split
      · exact h.unsaved _
      · apply AllWritten.save
        · exact h
        · exact h
  | restoreArchivedState record availabilityHistory mergedFrom now =>
      simp only [Store.perform, Store.restoreArchivedState]
      split
      · exact h.unsaved _
      · split
        · exact h.unsaved _
        · apply AllWritten.save
          · exact h
          · exact h

end Calls

section Restarts

/-- The archive of a running program, and the file it wrote last. -/
structure Site where
  store : Store := {}
  disk : Option StateFile := none

/-- A call, or a start of the program that reads the file.  The retention is
set before the file is read. -/
inductive Happening where
  | call (event : Event)
  | restart (retentionDays : Int) (now : Time)

/-- The archive as a start sets it up. -/
def started (retentionDays : Int) (disk : Option StateFile) (now : Time) :
    Store :=
  let store := ({} : Store).setAvailabilityHistoryRetentionDays retentionDays
    now none
  match disk with
  | none => store.1
  | some file => store.1.load file now

def Site.step (options : Options) (site : Site) : Happening → Site
  | .call event =>
      let performed := site.store.perform options event
      { store := performed.1
        disk := performed.2.written.or site.disk }
  | .restart retentionDays now =>
      { site with store := started retentionDays site.disk now }

/-- A start finds a lasting journal on the disk. -/
def Happening.StartsLasting (site : Site) : Happening → Prop
  | .call _ => True
  | .restart _ _ => ∀ file ∈ site.disk, Lasting file.incidents

/-- Both journals are made of written entries. -/
def Site.Written (site : Site) : Prop :=
  AllWritten site.store.incidents ∧
    ∀ file ∈ site.disk, AllWritten file.incidents

variable {options : Options} {site : Site}

theorem setRetentionDays_incidents (store : Store) (days : Int) (now : Time)
    (saveError : Option Text) :
    (store.setAvailabilityHistoryRetentionDays days now
      saveError).1.incidents = store.incidents := by
  simp only [Store.setAvailabilityHistoryRetentionDays]
  split
  · rfl
  · cases saveError with
    | none => rfl
    | some error => rfl

theorem started_incidents (retentionDays : Int) (disk : Option StateFile)
    (now : Time) :
    (started retentionDays disk now).incidents =
      (disk.map fun file => normalizeIncidents file.incidents).getD [] := by
  cases disk with
  | none =>
      simp only [started, setRetentionDays_incidents]
      rfl
  | some file =>
      simp only [started, Store.load, Option.map_some, Option.getD_some]

theorem Site.Written.step (h : site.Written) {happening : Happening}
    (hstarts : happening.StartsLasting site) :
    (site.step options happening).Written := by
  cases happening with
  | call event =>
      obtain ⟨hmemory, hfile⟩ := @AllWritten.perform options _ h.1 event
      refine ⟨hmemory, fun file hmem => ?_⟩
      rw [Site.step, Option.mem_def, Option.or_eq_some_iff] at hmem
      rcases hmem with hwritten | ⟨-, hbefore⟩
      · exact hfile file hwritten
      · exact h.2 file hbefore
  | restart retentionDays now =>
      refine ⟨?_, h.2⟩
      change AllWritten (started retentionDays site.disk now).incidents
      rw [started_incidents]
      cases hdisk : site.disk with
      | none =>
          intro incident hincident
          cases hincident
      | some file =>
          have hwritten := h.2 file hdisk
          have hlasting := hstarts file hdisk
          rw [Option.map_some, Option.getD_some,
            (normalizeIncidents_written hwritten).mpr hlasting]
          exact hwritten

/-- In every state a run from an empty archive reaches, a start reads back the
journal as it was saved if and only if the journal is a lasting one: it is
within the limit, its scopes, identities and summaries are readable, and no
two of its entries collide. -/
theorem reload_incidents_iff (options : Options)
    {happenings : List Happening}
    (hrun : Machine.Admissible (Site.step options)
      (fun site happening => happening.StartsLasting site) {} happenings)
    (retentionDays : Int) (now : Time) :
    (started retentionDays
        (some (Machine.run (Site.step options) {} happenings).store.file)
        now).incidents =
        (Machine.run (Site.step options) {} happenings).store.incidents ↔
      Lasting
        (Machine.run (Site.step options) {} happenings).store.incidents := by
  have hwritten : (Machine.run (Site.step options) {} happenings).Written := by
    apply Machine.run_invariant Site.Written hrun
    · refine ⟨fun incident hincident => ?_, fun file hfile => ?_⟩
      · cases hincident
      · cases hfile
    · exact fun site happening hsite hstarts => hsite.step hstarts
  generalize Machine.run (Site.step options) {} happenings = site at hwritten
  have hread := started_incidents retentionDays (some site.store.file) now
  simp only [Option.map_some, Option.getD_some, Store.file] at hread
  exact (Eq.congr_left hread).trans (normalizeIncidents_written hwritten.1)

end Restarts

instance (incident : IncidentRecord) : Decidable incident.Readable :=
  decidable_of_iff
    (incident.startedAt ≠ 0 ∧ trimSpace incident.scope = incident.scope ∧
      (∀ stableID ∈ incident.stableIDs, trimSpace stableID = stableID) ∧
      incident.stableIDs.Nodup ∧ incident.causeSummary ≠ [])
    ⟨fun ⟨started, scope, stableIDs, distinct, summary⟩ =>
        ⟨started, scope, stableIDs, distinct, summary⟩,
      fun h => ⟨h.started, h.scope, h.stableIDs, h.distinct, h.summary⟩⟩

instance (incident other : IncidentRecord) :
    Decidable (incident.Collides other) :=
  inferInstanceAs (Decidable (_ ∧ _))

instance (incidents : List IncidentRecord) : Decidable (Lasting incidents) :=
  decidable_of_iff
    (incidents.length ≤ maxIncidentRecords ∧
      (∀ incident ∈ incidents, incident.Readable) ∧
      incidents.Pairwise fun a b => ¬a.Collides b)
    ⟨fun ⟨size, readable, distinct⟩ => ⟨size, readable, distinct⟩,
      fun h => ⟨h.size, h.readable, h.distinct⟩⟩

instance (site : Site) (happening : Happening) :
    Decidable (happening.StartsLasting site) :=
  match happening with
  | .call _ => inferInstanceAs (Decidable True)
  | .restart _ _ => inferInstanceAs (Decidable (∀ file ∈ site.disk, _))

namespace Sample

open ProxyChecker Checker.Sample

/-- A recording of an outage of one node, and a start of the program. -/
def outageAndRestart : List Happening :=
  [.call
      { call := .recordAvailability
          (checkerSeeing [node [] "nl-1"] (instant 1) ["nl-1"]) true
          (instant 2) },
    .restart 60 (instant 3)]

theorem reload_incidents_sample :
    (started 60 (some (Machine.run (Site.step (optionsFor "status")) {}
        outageAndRestart).store.file) (instant 4)).incidents =
        (Machine.run (Site.step (optionsFor "status")) {}
          outageAndRestart).store.incidents ↔
      Lasting (Machine.run (Site.step (optionsFor "status")) {}
        outageAndRestart).store.incidents :=
  reload_incidents_iff (optionsFor "status") (by decide) 60 (instant 4)

/-- Three nodes of each of two subscriptions fail, and two others are up. -/
def twoSubscriptionsFail : ProxyChecker :=
  let member (subName stableID : Text) : ProxyConfig :=
    { node [] stableID with subName := subName }
  let down (code : Text) : ProxyStatusDetails :=
    { status := .offline, downSince := instant 1, failingSince := instant 1
      checkedAt := instant 1, failure := failureDetails code [] }
  { (new (optionsFor "status")
      [member "a b" "x-1", member "a b" "x-2", member "a b" "x-3",
        member "a-b" "y-1", member "a-b" "y-2", member "a-b" "y-3",
        member "c" "z-1", member "c" "z-2"]) with
    statusDetails :=
      [(("x-1" : Text), failureCodeTCPTimeout), ("x-2", failureCodeTCPTimeout),
        ("x-3", failureCodeTCPTimeout), ("y-1", failureCodeTLS),
        ("y-2", failureCodeTLS), ("y-3", failureCodeTLS)].foldl
        (fun details entry => details.insert entry.1 (down entry.2)) ∅ }

/-- The two subscriptions share an identity, and the next start drops one of
their mass incidents while it is open. -/
theorem mass_incident_lost :
    let store := ({} : Store).recordAvailability (optionsFor "status")
      twoSubscriptionsFail true (instant 2) none
    Opens store.1.incidents incidentKindMass (subscriptionScope "a-b") ∧
      ¬Opens (started 60 (some store.1.file) (instant 3)).incidents
        incidentKindMass (subscriptionScope "a-b") := by
  decide

end Sample

end XrayChecker.NodeArchive

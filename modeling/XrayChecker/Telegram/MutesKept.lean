import XrayChecker.Telegram.Mutes

/-
What a mute promises, and when every promise is kept.  The promise of a call
is in force from the step that takes effect on, and binds once the call has
succeeded; an unmute of the node and a prune that does not find the node in the
proxy list end it.
-/

namespace XrayChecker.Telegram

open Go Machine

/-- A mute of a node, up to an instant or without end. -/
structure MutePromise where
  stableID : Text
  scope : MuteScope
  endsAt : Option Time
deriving DecidableEq

/-- The promise has not run out. -/
def MutePromise.Live (now : Time) (p : MutePromise) : Prop :=
  ∀ endsAt, p.endsAt = some endsAt → now < endsAt

/-- The service, the promises of the calls that took effect and have not
returned, and those of the calls that succeeded. -/
structure MuteWatch where
  service : MuteService
  effective : GoMap Nat MutePromise
  promised : List MutePromise

namespace MuteWatch

/-- The promises of some nodes end. -/
def release (w : MuteWatch) (gone : Text → Bool) : MuteWatch :=
  { w with
    effective := w.effective.filter fun _ p => !gone p.stableID
    promised := w.promised.filter fun p => !gone p.stableID }

/-- The call takes effect. -/
def takeEffect (w : MuteWatch) (key : Nat) (p : MutePromise) : MuteWatch :=
  { w with effective := w.effective.insert key p }

/-- The call has returned, with success or not. -/
def settle (w : MuteWatch) (key : Nat) (success : Bool) : MuteWatch :=
  { w with
    effective := w.effective.erase key
    promised :=
      if success then (w.effective[key]?).toList ++ w.promised
      else w.promised }

/-- What a step of a call does to the promises. -/
def account (w : MuteWatch) (key : Nat) (write : FileWrite) :
    MuteCall → MuteWatch
  | .muteFor stableID scope duration =>
      w.takeEffect key ⟨stableID, scope, some (w.service.now + duration)⟩
  | .setting (.mute stableID scope) _ =>
      w.takeEffect key ⟨stableID, scope, none⟩
  | .countdown stableID =>
      if w.service.mutes[stableID]?.isSome then w else w.settle key true
  | .saving => w.settle key (write = .written)
  | .lifting stableID => w.release (· = stableID)
  | .writing (.unmute stableID _) _ => w.release (· = stableID)
  | .deciding .prune _ => w.release (· ∉ w.service.proxies)
  | .collecting => w.release (· ∉ w.service.proxies)
  | .sweeping _ => w.release (· ∉ w.service.proxies)
  | _ => w

/-- One step of the service, with its promises. -/
def step (w : MuteWatch) (e : MuteEvent) : MuteWatch :=
  let watched :=
    match e with
    | .advance key write =>
        match w.service.calls[key]? with
        | some call => w.account key write call
        | none => w
    | .restart => { w with effective := ∅ }
    | _ => w
  { watched with service := w.service.step e }

end MuteWatch

/-- The call is between its copy of the configuration and its last change. -/
def MuteCall.editing : MuteCall → Bool
  | .deciding _ _ | .writing _ _ | .setting _ _ | .countdown _ => true
  | _ => false

namespace MuteService

/-- No call is changing the configuration. -/
def Unedited (s : MuteService) : Prop :=
  ∀ (key : Nat) (call : MuteCall), s.calls[key]? = some call →
    call.editing = false

/-- Every countdown that runs is of an accounted node. -/
def Accounted (s : MuteService) (mutes : GoMap Text NodeMute) : Prop :=
  ∀ (stableID : Text) (mute : NodeMute), mutes[stableID]? = some mute →
    s.now < mute.endsAt → s.accounted stableID = true

/-- A write of the countdowns that loses none. -/
def Saves (s : MuteService) (write : FileWrite) : Prop :=
  write ≠ .torn ∧ (write = .written → s.Accounted s.mutes)

/-- The step of a call ends no other mute. -/
def Spares (s : MuteService) (write : FileWrite) : MuteCall → Prop
  | .muteFor stableID scope duration =>
      ∀ old : NodeMute, s.mutes[stableID]? = some old → s.now < old.endsAt →
        ∀ topic, old.scope.covers topic →
          (scope.covers topic = true ∧ old.endsAt ≤ s.now + duration) ∨
            (stableID ∈ s.config.mutedSet topic ∧ s.Unedited)
  | .reading _ => s.Unedited
  | .writing _ _ => write ≠ .torn
  | .countdown stableID =>
      ∀ old : NodeMute, s.mutes[stableID]? = some old → s.now < old.endsAt →
        ∀ topic, old.scope.covers topic →
          stableID ∈ s.config.mutedSet topic
  | .sweeping active =>
      ∀ (stableID : Text) (mute : NodeMute), s.mutes[stableID]? = some mute →
        s.now < mute.endsAt → stableID ∈ s.proxies → stableID ∈ active
  | .saving => s.Saves write
  | _ => True

/-- A step that loses no mute: a shorter or narrower mute replaces no longer
one, one call at a time changes the configuration, the nodes with a countdown
are monitored when a prune collects them and accounted when the countdowns are
saved or loaded, and no write is torn. -/
def Careful (s : MuteService) : MuteEvent → Prop
  | .advance key write =>
      ∀ call, s.calls[key]? = some call → s.Spares write call
  | .save write => s.Saves write
  | .restart => s.Accounted (s.alertFile.getD ∅)
  | _ => True

/-- The service after a start. -/
structure Started (s : MuteService) : Prop where
  config : s.config = (s.configFile.getD {}).normalize
  calls : s.calls = ∅

end MuteService

/-- A mute of a topic is held by the configuration or by a countdown. -/
def Backed (cfg : MuteLists) (mutes : GoMap Text NodeMute) (p : MutePromise)
    (topic : Topic) : Prop :=
  p.stableID ∈ cfg.mutedSet topic ∨
    ∃ mute endsAt, mutes[p.stableID]? = some mute ∧
      p.endsAt = some endsAt ∧ endsAt ≤ mute.endsAt ∧
        mute.scope.covers topic = true

section Lists

theorem mem_mutedNodeSet {values : List Text} {stableID : Text} :
    stableID ∈ mutedNodeSet values ↔
      stableID ≠ [] ∧ ∃ value ∈ values, trimSpace value = stableID := by
  simp only [mutedNodeSet, List.mem_filter, List.mem_map, ne_eq,
    decide_not, Bool.not_eq_true', decide_eq_false_iff_not]
  exact and_comm

theorem mem_normalizeNodeIDs {values : List Text} {stableID : Text} :
    stableID ∈ normalizeNodeIDs values ↔ stableID ∈ mutedNodeSet values := by
  simp [normalizeNodeIDs, sortStrings, mutedNodeSet, List.mem_insertionSort]

/-- The lists normalise without a change to what they mute. -/
theorem mem_mutedNodeSet_normalize {values : List Text} {stableID : Text} :
    stableID ∈ mutedNodeSet (normalizeNodeIDs values) ↔
      stableID ∈ mutedNodeSet values := by
  rw [mem_mutedNodeSet, mem_mutedNodeSet]
  refine and_congr_right fun hne => ?_
  constructor
  · rintro ⟨value, hvalue, rfl⟩
    obtain ⟨-, original, horiginal, rfl⟩ :=
      mem_mutedNodeSet.mp (mem_normalizeNodeIDs.mp hvalue)
    exact ⟨original, horiginal, (trimSpace_idem _).symm⟩
  · rintro ⟨value, hvalue, rfl⟩
    refine ⟨trimSpace value, ?_, trimSpace_idem _⟩
    exact mem_normalizeNodeIDs.mpr
      (mem_mutedNodeSet.mpr ⟨hne, value, hvalue, rfl⟩)

/-- A list the identity is in, of those that mute a topic. -/
theorem mem_mutedSet {cfg : MuteLists} {topic : Topic} {stableID : Text} :
    stableID ∈ cfg.mutedSet topic ↔
      stableID ∈ mutedNodeSet cfg.mutedNodeIDs ∨
        stableID ∈ mutedNodeSet (match topic with
          | .alerts => cfg.mutedAlertNodeIDs
          | .speed => cfg.mutedSpeedNodeIDs) := by
  cases topic <;>
    simp only [MuteLists.mutedSet, mutedNodeSet, List.map_append,
      List.filter_append, List.mem_append]

/-- A change made to all lists that keeps an identity in each keeps it
muted. -/
theorem mem_mutedSet_map {f : List Text → List Text} {cfg : MuteLists}
    {topic : Topic} {stableID : Text}
    (hkeeps : ∀ values, stableID ∈ mutedNodeSet values →
      stableID ∈ mutedNodeSet (f values))
    (h : stableID ∈ cfg.mutedSet topic) :
    stableID ∈ (cfg.map f).mutedSet topic := by
  rw [mem_mutedSet] at h ⊢
  rcases h with h | h
  · exact Or.inl (hkeeps _ h)
  · right
    cases topic with
    | alerts => exact hkeeps _ h
    | speed => exact hkeeps _ h

theorem mem_mutedSet_normalize {cfg : MuteLists} {topic : Topic}
    {stableID : Text} :
    stableID ∈ cfg.normalize.mutedSet topic ↔
      stableID ∈ cfg.mutedSet topic := by
  rw [mem_mutedSet, mem_mutedSet]
  cases topic <;>
    simp only [MuteLists.normalize, MuteLists.map, mem_mutedNodeSet_normalize]

/-- An identity as the calls pass it on. -/
def CleanID (stableID : Text) : Prop :=
  trimSpace stableID = stableID ∧ stableID ≠ []

theorem mem_appendNodeID {values : List Text} {stableID other : Text}
    (h : other ∈ mutedNodeSet values) :
    other ∈ mutedNodeSet (appendNodeID values stableID) := by
  rw [mem_mutedNodeSet] at h ⊢
  obtain ⟨hne, value, hvalue, htrim⟩ := h
  refine ⟨hne, value, ?_, htrim⟩
  unfold appendNodeID
  split
  · exact hvalue
  · exact List.mem_append_left _ hvalue

theorem self_mem_appendNodeID {values : List Text} {stableID : Text}
    (hclean : CleanID stableID) :
    stableID ∈ mutedNodeSet (appendNodeID values stableID) := by
  rw [mem_mutedNodeSet]
  refine ⟨hclean.2, stableID, ?_, hclean.1⟩
  unfold appendNodeID
  split
  · assumption
  · simp

theorem mem_removeNodeID {values : List Text} {stableID other : Text}
    (hclean : CleanID stableID) (hother : other ≠ stableID)
    (h : other ∈ mutedNodeSet values) :
    other ∈ mutedNodeSet (removeNodeID values stableID) := by
  rw [mem_mutedNodeSet] at h ⊢
  obtain ⟨hne, value, hvalue, htrim⟩ := h
  refine ⟨hne, value, ?_, htrim⟩
  rw [removeNodeID, List.mem_filter]
  refine ⟨hvalue, ?_⟩
  simp only [ne_eq, decide_not, Bool.not_eq_true', decide_eq_false_iff_not]
  rintro rfl
  exact hother (htrim.symm.trans hclean.1)

theorem mem_activeMutedNodeIDs {proxies values : List Text} {stableID : Text}
    (hlisted : stableID ∈ proxies) (h : stableID ∈ mutedNodeSet values) :
    stableID ∈ mutedNodeSet (activeMutedNodeIDs proxies values) := by
  have hclean : trimSpace stableID = stableID := by
    obtain ⟨-, value, -, rfl⟩ := mem_mutedNodeSet.mp h
    exact trimSpace_idem _
  have hne := (mem_mutedNodeSet.mp h).1
  rw [mem_mutedNodeSet]
  refine ⟨hne, stableID, ?_, hclean⟩
  rw [activeMutedNodeIDs, if_neg (List.ne_nil_of_mem hlisted), List.mem_filter]
  exact ⟨mem_normalizeNodeIDs.mpr h, decide_eq_true hlisted⟩

namespace ConfigEdit

/-- The change takes the node's mutes away on purpose. -/
def Lifts : ConfigEdit → Text → Prop
  | .unmute stableID _, other => other = stableID
  | _, _ => False

def Clean : ConfigEdit → Prop
  | .mute stableID _ => CleanID stableID
  | .unmute stableID _ => CleanID stableID
  | .prune => True

/-- What the change leaves muted: every node but the one it unmutes, and those
that are not in the proxy list. -/
theorem next_keeps {edit : ConfigEdit} (hclean : edit.Clean)
    {proxies : List Text} {cfg next : MuteLists}
    (h : edit.next proxies cfg = some next) {stableID : Text} {topic : Topic}
    (hlifts : ¬ edit.Lifts stableID)
    (hlisted : edit = .prune → stableID ∈ proxies)
    (hmuted : stableID ∈ cfg.mutedSet topic) :
    stableID ∈ next.mutedSet topic := by
  cases edit with
  | mute muted scope =>
      obtain rfl := Option.some.inj h
      rw [mem_mutedSet_normalize]
      rw [mem_mutedSet] at hmuted ⊢
      cases scope <;> cases topic <;>
        exact hmuted.imp
          (fun h => by first | exact h | exact mem_appendNodeID h)
          (fun h => by first | exact h | exact mem_appendNodeID h)
  | unmute unmuted had =>
      simp only [ConfigEdit.next] at h
      split at h
      · cases h
      · obtain rfl := Option.some.inj h
        exact mem_mutedSet_map (fun _ => mem_removeNodeID hclean hlifts) hmuted
  | prune =>
      simp only [ConfigEdit.next] at h
      split at h
      · cases h
      · obtain rfl := Option.some.inj h
        exact mem_mutedSet_map (fun _ => mem_activeMutedNodeIDs (hlisted rfl))
          (mem_mutedSet_normalize.mpr hmuted)

/-- A mute puts its node on a list of every topic it covers. -/
theorem next_mutes {stableID : Text} {scope : MuteScope}
    (hclean : CleanID stableID) {proxies : List Text} {cfg next : MuteLists}
    (h : (mute stableID scope).next proxies cfg = some next) {topic : Topic}
    (hcovers : scope.covers topic = true) : stableID ∈ next.mutedSet topic := by
  obtain rfl := Option.some.inj h
  rw [mem_mutedSet_normalize, mem_mutedSet]
  cases scope with
  | all => exact Or.inl (self_mem_appendNodeID hclean)
  | alerts =>
      cases topic with
      | alerts => exact Or.inr (self_mem_appendNodeID hclean)
      | speed => cases hcovers
  | speed =>
      cases topic with
      | alerts => cases hcovers
      | speed => exact Or.inr (self_mem_appendNodeID hclean)

end ConfigEdit

end Lists

/-- Every live promise is backed. -/
def Holds (ps : MutePromise → Prop) (now : Time) (cfg : MuteLists)
    (mutes : GoMap Text NodeMute) : Prop :=
  ∀ p, ps p → p.Live now → ∀ topic, p.scope.covers topic = true →
    Backed cfg mutes p topic

namespace Holds

variable {ps qs : MutePromise → Prop} {now : Time} {cfg next : MuteLists}
  {mutes others : GoMap Text NodeMute}

theorem of_subset (h : Holds ps now cfg mutes) (hsub : ∀ p, qs p → ps p) :
    Holds qs now cfg mutes :=
  fun p hp => h p (hsub p hp)

theorem later {later : Time} (h : Holds ps now cfg mutes)
    (hle : now ≤ later) : Holds ps later cfg mutes := by
  intro p hp hlive
  exact h p hp fun endsAt hends => lt_of_le_of_lt hle (hlive endsAt hends)

/-- Other lists that mute at least the promised nodes. -/
theorem change_lists (h : Holds ps now cfg mutes)
    (hlists : ∀ p topic, ps p → p.stableID ∈ cfg.mutedSet topic →
      p.stableID ∈ next.mutedSet topic) : Holds ps now next mutes := by
  intro p hp hlive topic hcovers
  exact (h p hp hlive topic hcovers).imp_left (hlists p topic hp)

/-- Other countdowns: each that runs for a promised node goes on at least as
long, or the lists mute the node. -/
theorem change_mutes (h : Holds ps now cfg mutes)
    (hmutes : ∀ p mute, ps p → mutes[p.stableID]? = some mute →
      now < mute.endsAt → ∀ topic, mute.scope.covers topic = true →
        p.stableID ∈ cfg.mutedSet topic ∨
          ∃ other, others[p.stableID]? = some other ∧
            mute.endsAt ≤ other.endsAt ∧ other.scope.covers topic = true) :
    Holds ps now cfg others := by
  intro p hp hlive topic hcovers
  rcases h p hp hlive topic hcovers with
    hlist | ⟨mute, endsAt, hmute, hends, hlong, hscope⟩
  · exact Or.inl hlist
  · have hruns := lt_of_lt_of_le (hlive endsAt hends) hlong
    refine (hmutes p mute hp hmute hruns topic hscope).imp_right ?_
    rintro ⟨other, hother, hlonger, hother'⟩
    exact ⟨other, endsAt, hother, hends, hlong.trans hlonger, hother'⟩

/-- Countdowns that are still there. -/
theorem keep_mutes (h : Holds ps now cfg mutes)
    (hmutes : ∀ p mute, ps p → mutes[p.stableID]? = some mute →
      now < mute.endsAt → others[p.stableID]? = some mute) :
    Holds ps now cfg others := by
  apply h.change_mutes
  intro p mute hp hmute hruns topic hcovers
  exact Or.inr ⟨mute, hmutes p mute hp hmute hruns, le_refl _, hcovers⟩

end Holds

namespace MuteWatch

/-- The promises that bind or have taken effect. -/
def Outstanding (w : MuteWatch) (p : MutePromise) : Prop :=
  p ∈ w.promised ∨ ∃ key : Nat, w.effective[key]? = some p

/-- The configuration in its file. -/
def configOnDisk (w : MuteWatch) : MuteLists :=
  w.service.configFile.getD {}

/-- The countdowns in their file. -/
def mutesOnDisk (w : MuteWatch) : GoMap Text NodeMute :=
  w.service.alertFile.getD ∅

/-- A promise the change does not end. -/
def Stays (w : MuteWatch) (edit : ConfigEdit) (p : MutePromise) : Prop :=
  w.Outstanding p ∧ ¬ edit.Lifts p.stableID

/-- What holds of a call under way. -/
def CallOk (w : MuteWatch) (key : Nat) : MuteCall → Prop
  | .muteFor _ _ _ => True
  | .reading edit => edit.Clean
  | .deciding edit base => edit.Clean ∧ base = w.service.config
  | .writing edit next =>
      Holds (w.Stays edit) w.service.now next w.service.mutes ∧
        Holds (fun p => p ∈ w.promised ∧ ¬ edit.Lifts p.stableID)
          w.service.now next w.mutesOnDisk ∧
        ∀ stableID scope, edit = .mute stableID scope → ∀ topic,
          scope.covers topic = true → stableID ∈ next.mutedSet topic
  | .setting edit next =>
      w.service.configFile = some next ∧
        ∀ stableID scope, edit = .mute stableID scope → ∀ topic,
          scope.covers topic = true → stableID ∈ next.mutedSet topic
  | .countdown _ =>
      ∀ p : MutePromise, w.effective[key]? = some p → p.endsAt = none
  | .lifting stableID => CleanID stableID
  | .collecting => True
  | .sweeping _ => True
  | .saving => True

/-- What holds of the service and its files: every promise is backed by what
is in force, by the lists on disk with the countdowns in force, and, once the
call has succeeded, by the files. -/
structure Kept (w : MuteWatch) : Prop where
  backed : Holds w.Outstanding w.service.now w.service.config w.service.mutes
  mixed : Holds w.Outstanding w.service.now w.configOnDisk w.service.mutes
  filed : Holds (· ∈ w.promised) w.service.now w.configOnDisk w.mutesOnDisk
  synced : (∀ (key : Nat) edit next,
      w.service.calls[key]? ≠ some (.setting edit next)) →
    ∀ topic stableID, stableID ∈ w.service.config.mutedSet topic ↔
      stableID ∈ w.configOnDisk.mutedSet topic
  single : ∀ (key other : Nat) (call call' : MuteCall),
    w.service.calls[key]? = some call →
    w.service.calls[other]? = some call' → call.editing = true →
      call'.editing = true → key = other
  calls : ∀ (key : Nat) (call : MuteCall),
    w.service.calls[key]? = some call → w.CallOk key call

/-- What a call that changes no list needs does not depend on the rest. -/
theorem CallOk.of_not_editing {w w' : MuteWatch} {key : Nat} {call : MuteCall}
    (h : w.CallOk key call) (hediting : call.editing = false) :
    w'.CallOk key call := by
  cases call with
  | deciding _ _ | writing _ _ | setting _ _ | countdown _ => cases hediting
  | muteFor _ _ _ | collecting | sweeping _ | saving => trivial
  | reading edit => exact h
  | lifting stableID => exact h

/-- A step that leaves the lists and their file alone: whatever lists back the
promises with the countdowns go on to. -/
structure Quiet (w w' : MuteWatch) : Prop where
  config : w'.service.config = w.service.config
  configFile : w'.service.configFile = w.service.configFile
  memory : ∀ (q : MutePromise → Prop) cfg,
    Holds (fun p => w.Outstanding p ∧ q p) w.service.now cfg
      w.service.mutes →
    Holds (fun p => w'.Outstanding p ∧ q p) w'.service.now cfg
      w'.service.mutes
  disk : ∀ (q : MutePromise → Prop) cfg,
    Holds (fun p => w.Outstanding p ∧ q p) w.service.now cfg
      w.service.mutes →
    Holds (fun p => p ∈ w.promised ∧ q p) w.service.now cfg w.mutesOnDisk →
    Holds (fun p => p ∈ w'.promised ∧ q p) w'.service.now cfg w'.mutesOnDisk
  effective : ∀ (key : Nat) (stableID : Text) (p : MutePromise),
    w.service.calls[key]? = some (.countdown stableID) →
    w'.effective[key]? = some p → w.effective[key]? = some p
  /-- A call goes on as it was, or is new and changes no list. -/
  calls : ∀ (key : Nat) (call : MuteCall), w'.service.calls[key]? = some call →
    w.service.calls[key]? = some call ∨
      call.editing = false ∧ w'.CallOk key call
  setting : ∀ (key : Nat) edit next,
    w.service.calls[key]? = some (.setting edit next) →
    w'.service.calls[key]? = some (.setting edit next)

theorem Kept.quiet {w w' : MuteWatch} (h : w.Kept) (hquiet : w.Quiet w') :
    w'.Kept := by
  have hdisk : w'.configOnDisk = w.configOnDisk := by
    unfold configOnDisk
    rw [hquiet.configFile]
  have hall : ∀ {now cfg mutes} {ps : MutePromise → Prop},
      Holds (fun p => ps p ∧ True) now cfg mutes ↔ Holds ps now cfg mutes := by
    intro now cfg mutes ps
    simp only [and_true]
  refine ⟨?_, ?_, ?_, ?_, ?_, ?_⟩
  · rw [hquiet.config]
    exact hall.mp (hquiet.memory _ _ (hall.mpr h.backed))
  · rw [hdisk]
    exact hall.mp (hquiet.memory _ _ (hall.mpr h.mixed))
  · rw [hdisk]
    exact hall.mp (hquiet.disk _ _ (hall.mpr h.mixed) (hall.mpr h.filed))
  · intro hnone
    rw [hquiet.config, hdisk]
    apply h.synced
    intro key edit next hsetting
    exact hnone key edit next (hquiet.setting key edit next hsetting)
  · intro key other call call' hcall hcall' hediting hediting'
    have hold := (hquiet.calls key call hcall).resolve_right
      (fun hnew => by rw [hnew.1] at hediting; cases hediting)
    have hold' := (hquiet.calls other call' hcall').resolve_right
      (fun hnew => by rw [hnew.1] at hediting'; cases hediting')
    exact h.single key other call call' hold hold' hediting hediting'
  · intro key call hcall
    rcases hquiet.calls key call hcall with hold | hnew
    · have hok := h.calls key call hold
      cases call with
      | muteFor _ _ _ | collecting | sweeping _ | saving => trivial
      | reading edit => exact hok
      | lifting stableID => exact hok
      | deciding edit base => exact ⟨hok.1, hok.2.trans hquiet.config.symm⟩
      | writing edit next =>
          exact ⟨hquiet.memory _ _ hok.1, hquiet.disk _ _ hok.1 hok.2.1,
            hok.2.2⟩
      | setting edit next => exact ⟨hquiet.configFile.trans hok.1, hok.2⟩
      | countdown stableID =>
          intro p hp
          exact hok p (hquiet.effective key stableID p hold hp)
    · exact hnew.2

/-- A step of a call while no other call changes a list. -/
theorem Kept.alone {w w' : MuteWatch} {key : Nat} {rest : Option MuteCall}
    (h : w.Kept)
    (hcalls : w'.service.calls = w.service.calls.set key rest)
    (hothers : ∀ (other : Nat) (call : MuteCall), other ≠ key →
      w.service.calls[other]? = some call → call.editing = false)
    (hbacked : Holds w'.Outstanding w'.service.now w'.service.config
      w'.service.mutes)
    (hmixed : Holds w'.Outstanding w'.service.now w'.configOnDisk
      w'.service.mutes)
    (hfiled : Holds (· ∈ w'.promised) w'.service.now w'.configOnDisk
      w'.mutesOnDisk)
    (hsynced : (∀ edit next, rest ≠ some (.setting edit next)) →
      ∀ topic stableID, stableID ∈ w'.service.config.mutedSet topic ↔
        stableID ∈ w'.configOnDisk.mutedSet topic)
    (hrest : ∀ call, rest = some call → w'.CallOk key call) : w'.Kept := by
  have hget : ∀ other : Nat, w'.service.calls[other]? =
      if key = other then rest else w.service.calls[other]? := by
    intro other
    rw [hcalls, GoMap.get_set]
  have hquiet : ∀ (other : Nat) (call : MuteCall),
      w'.service.calls[other]? = some call → call.editing = true →
        other = key := by
    intro other call hcall hediting
    by_contra hne
    rw [hget, if_neg (Ne.symm hne)] at hcall
    rw [hothers other call hne hcall] at hediting
    cases hediting
  refine ⟨hbacked, hmixed, hfiled, ?_, ?_, ?_⟩
  · intro hnone
    apply hsynced
    rintro edit next rfl
    apply hnone key edit next
    rw [hget, if_pos rfl]
  · intro other other' call call' hcall hcall' hediting hediting'
    rw [hquiet other call hcall hediting, hquiet other' call' hcall' hediting']
  · intro other call hcall
    rw [hget] at hcall
    by_cases hkey : key = other
    · rw [if_pos hkey] at hcall
      subst hkey
      exact hrest call hcall
    · rw [if_neg hkey] at hcall
      exact (h.calls other call hcall).of_not_editing
        (hothers other call (Ne.symm hkey) hcall)

section Promises

variable {w : MuteWatch} {p : MutePromise} {key : Nat}

theorem effective_release {gone : Text → Bool} :
    (w.release gone).effective[key]? = some p ↔
      w.effective[key]? = some p ∧ gone p.stableID = false := by
  simp only [release, Std.ExtTreeMap.getElem?_filter',
    Option.filter_eq_some_iff, Bool.not_eq_true']

theorem promised_release {gone : Text → Bool} :
    p ∈ (w.release gone).promised ↔
      p ∈ w.promised ∧ gone p.stableID = false := by
  simp only [release, List.mem_filter, Bool.not_eq_true']

theorem outstanding_release {gone : Text → Bool} :
    (w.release gone).Outstanding p ↔
      w.Outstanding p ∧ gone p.stableID = false := by
  simp only [Outstanding, promised_release, effective_release,
    exists_and_right, or_and_right]

theorem outstanding_takeEffect {new : MutePromise}
    (h : (w.takeEffect key new).Outstanding p) :
    p = new ∨ w.Outstanding p := by
  rcases h with h | ⟨other, h⟩
  · exact Or.inr (Or.inl h)
  · rw [takeEffect, GoMap.get_insert] at h
    split at h
    · exact Or.inl (Option.some.inj h).symm
    · exact Or.inr (Or.inr ⟨other, h⟩)

theorem promised_settle {success : Bool}
    (h : p ∈ (w.settle key success).promised) :
    p ∈ w.promised ∨ success = true ∧ w.effective[key]? = some p := by
  cases success with
  | false => exact Or.inl h
  | true =>
      rcases List.mem_append.mp h with h | h
      · exact Or.inr ⟨rfl, Option.mem_toList.mp h⟩
      · exact Or.inl h

theorem effective_settle {success : Bool} {other : Nat}
    (h : (w.settle key success).effective[other]? = some p) :
    w.effective[other]? = some p := by
  rw [settle, GoMap.get_erase] at h
  split at h
  · cases h
  · exact h

theorem outstanding_settle {success : Bool}
    (h : (w.settle key success).Outstanding p) : w.Outstanding p := by
  rcases h with h | ⟨other, h⟩
  · rcases promised_settle h with h | ⟨-, h⟩
    · exact Or.inl h
    · exact Or.inr ⟨key, h⟩
  · exact Or.inr ⟨other, effective_settle h⟩

theorem step_advance {write : FileWrite} {call : MuteCall}
    (hcall : w.service.calls[key]? = some call) :
    w.step (.advance key write) =
      { w.account key write call with
        service := w.service.callStep key write call } := by
  simp only [step, MuteService.step, hcall]

/-- What the sweep of a map leaves. -/
theorem get_filter {mutes : GoMap Text NodeMute} {keep : Text → NodeMute → Bool}
    {stableID : Text} {mute : NodeMute}
    (hmute : mutes[stableID]? = some mute) (hkeep : keep stableID mute = true) :
    (mutes.filter keep)[stableID]? = some mute := by
  rw [Std.ExtTreeMap.getElem?_filter', hmute, Option.filter_some, if_pos hkeep]

end Promises

section Steps

variable {w : MuteWatch} {key : Nat} {write : FileWrite}

/-- Where the calls of a step come from. -/
theorem calls_goOn {s : MuteService} {rest : Option MuteCall} {other : Nat}
    {call : MuteCall} (h : (s.goOn key rest).calls[other]? = some call) :
    s.calls[other]? = some call ∧ other ≠ key ∨
      rest = some call ∧ other = key := by
  rw [MuteService.goOn, GoMap.get_set] at h
  split at h
  · rename_i hkey
    exact Or.inr ⟨h, hkey.symm⟩
  · rename_i hkey
    exact Or.inl ⟨h, Ne.symm hkey⟩

/-- A call that sets the lists stays while another one makes a step. -/
theorem setting_goOn {s : MuteService} {rest : Option MuteCall} {other : Nat}
    {call : MuteCall} (hcall : s.calls[key]? = some call)
    (hnot : ∀ edit next, call ≠ .setting edit next) {edit : ConfigEdit}
    {next : MuteLists} (h : s.calls[other]? = some (.setting edit next)) :
    (s.goOn key rest).calls[other]? = some (.setting edit next) := by
  rw [MuteService.goOn, GoMap.get_set_of_ne]
  · exact h
  · rintro rfl
    exact hnot edit next (Option.some.inj (hcall.symm.trans h))

/-- A step that ends the promises of some nodes, and the countdowns of none
but these. -/
theorem kept_release (h : w.Kept) {call : MuteCall}
    (hcall : w.service.calls[key]? = some call)
    (hnot : ∀ edit next, call ≠ .setting edit next) (gone : Text → Bool)
    {mutes : GoMap Text NodeMute}
    (hmutes : ∀ (stableID : Text) (mute : NodeMute), gone stableID = false →
      w.service.mutes[stableID]? = some mute → w.service.now < mute.endsAt →
        mutes[stableID]? = some mute)
    {rest : Option MuteCall}
    (hrest : ∀ next, rest = some next →
      next.editing = false ∧ ∀ w' : MuteWatch, w'.CallOk key next) :
    Kept { w.release gone with
      service := { w.service with mutes := mutes }.goOn key rest } := by
  refine h.quiet ⟨rfl, rfl, ?_, ?_, ?_, ?_, ?_⟩
  · intro q cfg hholds
    have hreleased : ∀ p, (w.release gone).Outstanding p ∧ q p →
        w.Outstanding p ∧ q p := by
      rintro p ⟨hp, hq⟩
      exact ⟨(outstanding_release.mp hp).1, hq⟩
    refine (hholds.of_subset hreleased).keep_mutes ?_
    · rintro p mute ⟨hp, -⟩ hmute hruns
      exact hmutes _ _ (outstanding_release.mp hp).2 hmute hruns
  · intro q cfg _ hholds
    apply hholds.of_subset
    rintro p ⟨hp, hq⟩
    exact ⟨(promised_release.mp hp).1, hq⟩
  · intro other _ p _ hp
    exact (effective_release.mp hp).1
  · intro other next hother
    rcases calls_goOn hother with ⟨hold, -⟩ | ⟨hnew, rfl⟩
    · exact Or.inl hold
    · exact Or.inr ⟨(hrest next hnew).1, (hrest next hnew).2 _⟩
  · intro other edit next hother
    exact setting_goOn hcall hnot hother

theorem kept_lifting (h : w.Kept) {stableID : Text}
    (hcall : w.service.calls[key]? = some (.lifting stableID)) :
    (w.step (.advance key write)).Kept := by
  rw [step_advance hcall]
  refine kept_release h hcall nofun (· = stableID) ?_ ?_
  · intro other mute hother hmute _
    rw [GoMap.get_erase, if_neg (Ne.symm (of_decide_eq_false hother))]
    exact hmute
  · intro next hnext
    obtain rfl := Option.some.inj hnext
    exact ⟨rfl, fun _ => h.calls key _ hcall⟩

theorem kept_collecting (h : w.Kept)
    (hcall : w.service.calls[key]? = some .collecting) :
    (w.step (.advance key write)).Kept := by
  rw [step_advance hcall]
  refine kept_release h hcall nofun (· ∉ w.service.proxies) ?_ ?_
  · intro other mute _ hmute _
    exact hmute
  · intro next hnext
    obtain rfl := Option.some.inj hnext
    exact ⟨rfl, fun _ => trivial⟩

theorem kept_sweeping (h : w.Kept) {active : List Text}
    (hcall : w.service.calls[key]? = some (.sweeping active))
    (hspares : w.service.Spares write (.sweeping active)) :
    (w.step (.advance key write)).Kept := by
  rw [step_advance hcall]
  refine kept_release h hcall nofun (· ∉ w.service.proxies) ?_ ?_
  · intro other mute hother hmute hruns
    have hlisted : other ∈ w.service.proxies := by
      simpa using hother
    apply get_filter hmute
    simp only [MuteService.unswept, Bool.and_eq_true, decide_eq_true_eq]
    exact ⟨hspares other mute hmute hruns hlisted, hruns⟩
  · intro next hnext
    split at hnext
    · cases hnext
    · obtain rfl := Option.some.inj hnext
      exact ⟨rfl, fun _ => trivial⟩

/-- What the disk has after the countdowns were written. -/
theorem holds_saved {ps : MutePromise → Prop} {cfg : MuteLists}
    {s : MuteService} (haccounted : s.Accounted s.mutes)
    (h : Holds ps s.now cfg s.mutes) :
    Holds ps s.now cfg (s.persistable s.mutes) := by
  apply h.keep_mutes
  intro p mute _ hmute hruns
  apply get_filter hmute
  rw [haccounted p.stableID mute hmute hruns, Bool.true_and]
  exact decide_eq_true hruns

theorem kept_saving (h : w.Kept)
    (hcall : w.service.calls[key]? = some .saving)
    (hsaves : w.service.Saves write) :
    (w.step (.advance key write)).Kept := by
  rw [step_advance hcall]
  have hquiet : ∀ s : MuteService, s.config = w.service.config →
      s.configFile = w.service.configFile → s.now = w.service.now →
      s.mutes = w.service.mutes → s.calls = w.service.calls →
      (∀ (q : MutePromise → Prop) cfg,
        Holds (fun p => w.Outstanding p ∧ q p) w.service.now cfg
          w.service.mutes →
        Holds (fun p => p ∈ w.promised ∧ q p) w.service.now cfg
          w.mutesOnDisk →
        Holds (fun p => p ∈ (w.settle key (write = .written)).promised ∧ q p)
          w.service.now cfg (s.alertFile.getD ∅)) →
      Kept { w.settle key (write = .written) with
        service := s.goOn key none } := by
    intro s hconfig hfile hnow hmutes hcalls hdisk
    refine h.quiet ⟨hconfig, hfile, ?_, ?_, ?_, ?_, ?_⟩
    · intro q cfg hholds
      change Holds _ s.now cfg s.mutes
      rw [hnow, hmutes]
      apply hholds.of_subset
      rintro p ⟨hp, hq⟩
      exact ⟨outstanding_settle hp, hq⟩
    · intro q cfg hmemory hfiled
      change Holds _ s.now cfg (s.alertFile.getD ∅)
      rw [hnow]
      exact hdisk q cfg hmemory hfiled
    · intro other _ p _ hp
      exact @effective_settle w p key (decide (write = .written)) other hp
    · intro other next hother
      rcases calls_goOn hother with ⟨hold, -⟩ | ⟨hnew, -⟩
      · exact Or.inl (hcalls ▸ hold)
      · cases hnew
    · intro other edit next hother
      have hsaving : s.calls[key]? = some .saving := hcalls ▸ hcall
      exact setting_goOn hsaving nofun (hcalls ▸ hother)
  cases write with
  | written =>
      refine hquiet _ rfl rfl rfl rfl rfl ?_
      intro q cfg hmemory _
      refine (holds_saved (hsaves.2 rfl) hmemory).of_subset ?_
      rintro p ⟨hp, hq⟩
      refine ⟨?_, hq⟩
      rcases promised_settle hp with hp | ⟨-, hp⟩
      · exact Or.inl hp
      · exact Or.inr ⟨key, hp⟩
  | refused =>
      refine hquiet _ rfl rfl rfl rfl rfl ?_
      intro q cfg _ hfiled
      apply hfiled.of_subset
      rintro p ⟨hp, hq⟩
      rcases promised_settle hp with hp | ⟨hsuccess, -⟩
      · exact ⟨hp, hq⟩
      · cases hsuccess
  | torn => exact absurd rfl hsaves.1

/-- While a call changes the lists no other one does. -/
theorem Kept.others (h : w.Kept) {call : MuteCall}
    (hcall : w.service.calls[key]? = some call)
    (hediting : call.editing = true) (other : Nat) (call' : MuteCall)
    (hne : other ≠ key) (hother : w.service.calls[other]? = some call') :
    call'.editing = false := by
  by_contra htrue
  have := h.single key other call call' hcall hother hediting
    (Bool.eq_true_of_not_eq_false htrue)
  exact hne this.symm

/-- While another call changes the lists, and while none does, the lists in
force and those on disk mute the same. -/
theorem Kept.synced_of_others (h : w.Kept) {call : MuteCall}
    (hcall : w.service.calls[key]? = some call)
    (hnot : ∀ edit next, call ≠ .setting edit next)
    (hothers : ∀ (other : Nat) (call' : MuteCall), other ≠ key →
      w.service.calls[other]? = some call' → call'.editing = false)
    (topic : Topic) (stableID : Text) :
    stableID ∈ w.service.config.mutedSet topic ↔
      stableID ∈ w.configOnDisk.mutedSet topic := by
  apply h.synced
  intro other edit next hsetting
  by_cases hkey : other = key
  · rw [hkey, hcall] at hsetting
    exact hnot edit next (Option.some.inj hsetting)
  · cases hothers other _ hkey hsetting

theorem kept_reading (h : w.Kept) {edit : ConfigEdit}
    (hcall : w.service.calls[key]? = some (.reading edit))
    (halone : w.service.Unedited) :
    (w.step (.advance key write)).Kept := by
  rw [step_advance hcall]
  have hothers : ∀ (other : Nat) (call : MuteCall), other ≠ key →
      w.service.calls[other]? = some call → call.editing = false :=
    fun other call _ hother => halone other call hother
  refine @Kept.alone w _ key (some (.deciding edit w.service.config)) h rfl
    hothers h.backed h.mixed h.filed ?_ ?_
  · intro _
    exact h.synced_of_others hcall nofun hothers
  · intro call hnew
    obtain rfl := Option.some.inj hnew
    exact ⟨h.calls key _ hcall, rfl⟩

theorem kept_deciding (h : w.Kept) {edit : ConfigEdit} {base : MuteLists}
    (hcall : w.service.calls[key]? = some (.deciding edit base)) :
    (w.step (.advance key write)).Kept := by
  rw [step_advance hcall]
  obtain ⟨hclean, rfl⟩ := h.calls key _ hcall
  have hothers := h.others hcall rfl
  have hsynced := h.synced_of_others hcall nofun hothers
  -- A prune ends the promises of the nodes it does not find.
  have hsub : ∀ p, (w.account key write
      (.deciding edit w.service.config)).Outstanding p →
      w.Outstanding p ∧ (edit = .prune → p.stableID ∈ w.service.proxies) := by
    intro p hp
    cases edit with
    | mute _ _ => exact ⟨hp, nofun⟩
    | unmute _ _ => exact ⟨hp, nofun⟩
    | prune =>
        obtain ⟨hold, hlisted⟩ := outstanding_release.mp hp
        exact ⟨hold, fun _ => by simpa using hlisted⟩
  have hsub' : ∀ p, p ∈ (w.account key write
      (.deciding edit w.service.config)).promised → p ∈ w.promised := by
    intro p hp
    cases edit with
    | mute _ _ => exact hp
    | unmute _ _ => exact hp
    | prune => exact (promised_release.mp hp).1
  refine h.alone rfl hothers (h.backed.of_subset fun p hp => (hsub p hp).1)
    (h.mixed.of_subset fun p hp => (hsub p hp).1)
    (h.filed.of_subset hsub') ?_ ?_
  · intro _
    exact hsynced
  · intro call hnew
    cases hnext : edit.next w.service.proxies w.service.config with
    | none =>
        simp only [hnext] at hnew
        cases edit with
        | mute _ _ => cases hnext
        | unmute stableID had =>
            cases had with
            | false => cases hnew
            | true =>
                obtain rfl := Option.some.inj hnew
                trivial
        | prune =>
            obtain rfl := Option.some.inj hnew
            trivial
    | some next =>
        simp only [hnext] at hnew
        obtain rfl := Option.some.inj hnew
        refine ⟨?_, ?_, ?_⟩
        · refine (h.backed.of_subset fun p hp =>
            (hsub p hp.1).1).change_lists ?_
          rintro p topic ⟨hp, hlifts⟩ hmuted
          exact ConfigEdit.next_keeps hclean hnext hlifts (hsub p hp).2 hmuted
        · refine (h.filed.of_subset fun p hp => hsub' p hp.1).change_lists ?_
          rintro p topic ⟨hp, hlifts⟩ hmuted
          exact ConfigEdit.next_keeps hclean hnext hlifts
            (hsub p (Or.inl hp)).2 ((hsynced topic _).mpr hmuted)
        · rintro stableID scope rfl topic hcovers
          exact ConfigEdit.next_mutes hclean hnext hcovers

/-- The write of the lists ends the promises of an unmuted node. -/
theorem stays_writing {edit : ConfigEdit} {next : MuteLists} {p : MutePromise}
    (hp : (w.account key write (.writing edit next)).Outstanding p) :
    w.Stays edit p := by
  cases edit with
  | mute _ _ => exact ⟨hp, nofun⟩
  | prune => exact ⟨hp, nofun⟩
  | unmute stableID had =>
      obtain ⟨hold, hother⟩ := outstanding_release.mp hp
      have hne : p.stableID ≠ stableID := of_decide_eq_false hother
      exact ⟨hold, hne⟩

theorem promised_writing {edit : ConfigEdit} {next : MuteLists}
    {p : MutePromise}
    (hp : p ∈ (w.account key write (.writing edit next)).promised) :
    p ∈ w.promised ∧ ¬ edit.Lifts p.stableID := by
  refine ⟨?_, (stays_writing (Or.inl hp)).2⟩
  cases edit with
  | mute _ _ => exact hp
  | prune => exact hp
  | unmute stableID had => exact (promised_release.mp hp).1

theorem kept_writing (h : w.Kept) {edit : ConfigEdit} {next : MuteLists}
    (hcall : w.service.calls[key]? = some (.writing edit next))
    (hwhole : write ≠ .torn) : (w.step (.advance key write)).Kept := by
  rw [step_advance hcall]
  obtain ⟨hmemory, hdisk, hmutes⟩ := h.calls key _ hcall
  have hothers := h.others hcall rfl
  cases write with
  | written =>
      refine @Kept.alone w _ key (some (.setting edit next)) h rfl hothers
        (h.backed.of_subset fun p hp => (stays_writing hp).1)
        (hmemory.of_subset fun p hp => stays_writing hp)
        (hdisk.of_subset fun p hp => promised_writing hp) ?_ ?_
      · intro hnone
        exact absurd rfl (hnone edit next)
      · intro call hnew
        obtain rfl := Option.some.inj hnew
        exact ⟨rfl, hmutes⟩
  | refused =>
      refine @Kept.alone w _ key none h rfl hothers
        (h.backed.of_subset fun p hp => (stays_writing hp).1)
        (h.mixed.of_subset fun p hp => (stays_writing hp).1)
        (h.filed.of_subset fun p hp => (promised_writing hp).1) ?_ nofun
      intro _
      exact h.synced_of_others hcall nofun hothers
  | torn => exact absurd rfl hwhole

theorem kept_setting (h : w.Kept) {edit : ConfigEdit} {next : MuteLists}
    (hcall : w.service.calls[key]? = some (.setting edit next)) :
    (w.step (.advance key write)).Kept := by
  rw [step_advance hcall]
  obtain ⟨hfile, hmutes⟩ := h.calls key _ hcall
  have hdisk : w.configOnDisk = next := by
    rw [configOnDisk, hfile]
    rfl
  have hmixed := h.mixed
  rw [hdisk] at hmixed
  have hnew : Holds (w.account key write (.setting edit next)).Outstanding
      w.service.now next w.service.mutes := by
    intro p hp hlive topic hcovers
    cases edit with
    | mute stableID scope =>
        rcases outstanding_takeEffect hp with rfl | hold
        · exact Or.inl (hmutes stableID scope rfl topic hcovers)
        · exact hmixed p hold hlive topic hcovers
    | unmute _ _ => exact hmixed p hp hlive topic hcovers
    | prune => exact hmixed p hp hlive topic hcovers
  have hpromised : (w.account key write (.setting edit next)).promised =
      w.promised := by
    cases edit <;> rfl
  refine @Kept.alone w _ key edit.rest h rfl (h.others hcall rfl)
    (hnew.change_lists fun p topic _ => mem_mutedSet_normalize.mpr)
    ?_ ?_ ?_ ?_
  · change Holds _ w.service.now w.configOnDisk w.service.mutes
    rw [hdisk]
    exact hnew
  · intro p hp
    have hold : p ∈ (w.account key write (.setting edit next)).promised := hp
    rw [hpromised] at hold
    exact h.filed p hold
  · intro _ topic stableID
    change _ ↔ stableID ∈ w.configOnDisk.mutedSet topic
    rw [hdisk]
    exact mem_mutedSet_normalize
  · intro call hrest
    cases edit with
    | mute stableID scope =>
        obtain rfl := Option.some.inj hrest
        intro p hp
        change (w.effective.insert key _)[key]? = some p at hp
        rw [GoMap.get_insert, if_pos rfl] at hp
        rw [← Option.some.inj hp]
    | unmute stableID had =>
        cases had with
        | false => cases hrest
        | true =>
            obtain rfl := Option.some.inj hrest
            trivial
    | prune =>
        obtain rfl := Option.some.inj hrest
        trivial

theorem kept_countdown (h : w.Kept) {stableID : Text}
    (hcall : w.service.calls[key]? = some (.countdown stableID))
    (hspares : w.service.Spares write (.countdown stableID)) :
    (w.step (.advance key write)).Kept := by
  rw [step_advance hcall]
  have hothers := h.others hcall rfl
  have hsynced := h.synced_of_others hcall nofun hothers
  have hsub : ∀ p,
      (w.account key write (.countdown stableID)).Outstanding p →
        w.Outstanding p := by
    intro p hp
    simp only [account] at hp
    split at hp
    · exact hp
    · exact outstanding_settle hp
  -- The countdown it drops is of a node the lists mute.
  have herase : ∀ (p : MutePromise) (mute : NodeMute),
      w.service.mutes[p.stableID]? = some mute →
      w.service.now < mute.endsAt → ∀ topic, mute.scope.covers topic = true →
        p.stableID ∈ w.service.config.mutedSet topic ∨
          ∃ other, (w.service.mutes.erase stableID)[p.stableID]? =
            some other ∧ mute.endsAt ≤ other.endsAt ∧
              other.scope.covers topic = true := by
    intro p mute hmute hruns topic hcovers
    by_cases hsame : stableID = p.stableID
    · subst hsame
      exact Or.inl (hspares mute hmute hruns topic hcovers)
    · refine Or.inr ⟨mute, ?_, le_refl _, hcovers⟩
      rw [GoMap.get_erase, if_neg hsame]
      exact hmute
  refine @Kept.alone w _ key
    (if w.service.mutes[stableID]?.isSome then some .saving else none) h rfl
    hothers ?_ ?_ ?_ (fun _ => hsynced) ?_
  · exact (h.backed.of_subset hsub).change_mutes
      fun p mute _ => herase p mute
  · apply (h.mixed.of_subset hsub).change_mutes
    intro p mute _ hmute hruns topic hcovers
    exact (herase p mute hmute hruns topic hcovers).imp_left
      (hsynced topic _).mp
  · intro p hp hlive topic hcovers
    simp only [account] at hp
    split at hp
    · exact h.filed p hp hlive topic hcovers
    · rcases promised_settle hp with hold | ⟨-, hnew⟩
      · exact h.filed p hold hlive topic hcovers
      · -- A mute without end is in the lists, and so in their file.
        have hends := h.calls key _ hcall p hnew
        rcases h.backed p (Or.inr ⟨key, hnew⟩) hlive topic hcovers with
          hlist | ⟨mute, endsAt, -, hsome, -⟩
        · exact Or.inl ((hsynced topic _).mp hlist)
        · rw [hends] at hsome
          cases hsome
  · intro call hrest
    split at hrest
    · obtain rfl := Option.some.inj hrest
      trivial
    · cases hrest

theorem kept_muteFor (h : w.Kept) {stableID : Text} {scope : MuteScope}
    {duration : Nat}
    (hcall : w.service.calls[key]? = some (.muteFor stableID scope duration))
    (hspares : w.service.Spares write (.muteFor stableID scope duration)) :
    (w.step (.advance key write)).Kept := by
  rw [step_advance hcall]
  let mute : NodeMute := ⟨scope, w.service.now + duration⟩
  -- The new countdown backs its own promise, and spares the others as long as
  -- the lists that held the old one do.
  have hinsert : ∀ {ps : MutePromise → Prop} {cfg : MuteLists},
      (w.service.Unedited → ∀ topic,
        stableID ∈ w.service.config.mutedSet topic →
          stableID ∈ cfg.mutedSet topic) →
      Holds ps w.service.now cfg w.service.mutes →
      Holds (fun p => p = ⟨stableID, scope, some (w.service.now + duration)⟩ ∨
        ps p) w.service.now cfg (w.service.mutes.insert stableID mute) := by
    intro ps cfg hlists hholds p hp hlive topic hcovers
    rcases hp with rfl | hp
    · refine Or.inr ⟨mute, _, ?_, rfl, le_refl _, hcovers⟩
      rw [GoMap.get_insert, if_pos rfl]
    · refine hholds.change_mutes ?_ p hp hlive topic hcovers
      intro p old hp hold hruns topic hcovers
      by_cases hsame : stableID = p.stableID
      · subst hsame
        rcases hspares old hold hruns topic hcovers with
          ⟨hscope, hlonger⟩ | ⟨hlisted, hunedited⟩
        · refine Or.inr ⟨mute, ?_, hlonger, hscope⟩
          rw [GoMap.get_insert, if_pos rfl]
        · exact Or.inl (hlists hunedited topic hlisted)
      · refine Or.inr ⟨old, ?_, le_refl _, hcovers⟩
        rw [GoMap.get_insert, if_neg hsame]
        exact hold
  by_cases hunedited : w.service.Unedited
  · have hothers : ∀ (other : Nat) (call : MuteCall), other ≠ key →
        w.service.calls[other]? = some call → call.editing = false :=
      fun other call _ hother => hunedited other call hother
    have hsynced := h.synced_of_others hcall nofun hothers
    refine @Kept.alone w _ key (some .saving) h rfl hothers ?_ ?_ h.filed
      (fun _ => hsynced) ?_
    · exact (hinsert (fun _ _ => id) h.backed).of_subset
        fun p hp => outstanding_takeEffect hp
    · exact (hinsert (fun _ topic => (hsynced topic _).mp)
        h.mixed).of_subset
        fun p hp => outstanding_takeEffect hp
    · intro call hnew
      obtain rfl := Option.some.inj hnew
      trivial
  · refine h.quiet ⟨rfl, rfl, ?_, ?_, ?_, ?_, ?_⟩
    · intro q cfg hholds
      refine (hinsert (fun hyes => absurd hyes hunedited) hholds).of_subset ?_
      rintro p ⟨hp, hq⟩
      have hcases := @outstanding_takeEffect w p key
        ⟨stableID, scope, some (w.service.now + duration)⟩ hp
      exact hcases.imp_right fun hold => ⟨hold, hq⟩
    · intro q cfg _ hfiled
      exact hfiled
    · intro other other' p hother hp
      change (w.effective.insert key _)[other]? = some p at hp
      rw [GoMap.get_insert, if_neg] at hp
      · exact hp
      · rintro rfl
        cases hcall.symm.trans hother
    · intro other next hother
      rcases calls_goOn hother with ⟨hold, -⟩ | ⟨hnew, rfl⟩
      · exact Or.inl hold
      · obtain rfl := Option.some.inj hnew
        exact Or.inr ⟨rfl, trivial⟩
    · intro other edit next hother
      exact setting_goOn hcall nofun hother

/-- A careful step of a call keeps every promise. -/
theorem kept_advance (h : w.Kept)
    (hcareful : w.service.Careful (.advance key write)) :
    (w.step (.advance key write)).Kept := by
  cases hcall : w.service.calls[key]? with
  | none =>
      have hsame : w.step (.advance key write) = w := by
        simp only [step, MuteService.step, hcall]
      rwa [hsame]
  | some call =>
      have hspares := hcareful call hcall
      cases call with
      | muteFor stableID scope duration => exact kept_muteFor h hcall hspares
      | reading edit => exact kept_reading h hcall hspares
      | deciding edit base => exact kept_deciding h hcall
      | writing edit next => exact kept_writing h hcall hspares
      | setting edit next => exact kept_setting h hcall
      | countdown stableID => exact kept_countdown h hcall hspares
      | lifting stableID => exact kept_lifting h hcall
      | collecting => exact kept_collecting h hcall
      | sweeping active => exact kept_sweeping h hcall hspares
      | saving => exact kept_saving h hcall hspares

/-- A step of no call that leaves the lists, the countdowns and the promises
alone. -/
theorem Kept.of_same (h : w.Kept) {s : MuteService}
    (hconfig : s.config = w.service.config)
    (hfile : s.configFile = w.service.configFile)
    (hmutes : s.mutes = w.service.mutes) (hnow : w.service.now ≤ s.now)
    (hcalls : s.calls = w.service.calls)
    (hdisk : ∀ (q : MutePromise → Prop) cfg,
      Holds (fun p => w.Outstanding p ∧ q p) w.service.now cfg
        w.service.mutes →
      Holds (fun p => p ∈ w.promised ∧ q p) w.service.now cfg w.mutesOnDisk →
      Holds (fun p => p ∈ w.promised ∧ q p) s.now cfg (s.alertFile.getD ∅)) :
    Kept { w with service := s } := by
  refine h.quiet ⟨hconfig, hfile, ?_, hdisk, fun _ _ _ _ => id, ?_, ?_⟩
  · intro q cfg hholds
    change Holds _ s.now cfg s.mutes
    rw [hmutes]
    exact hholds.later hnow
  · intro key call hcall
    exact Or.inl (hcalls ▸ hcall)
  · intro key edit next hcall
    exact hcalls ▸ hcall

theorem kept_request (h : w.Kept) (request : MuteRequest) :
    (w.step (.request key request)).Kept := by
  cases hcall : w.service.calls[key]? with
  | some call =>
      have hsame : w.step (.request key request) = w := by
        simp only [step, MuteService.step, hcall]
      rwa [hsame]
  | none =>
      have hstep : w.step (.request key request) =
          { w with service := w.service.goOn key request.call } := by
        simp only [step, MuteService.step, hcall]
      rw [hstep]
      have hclean : ∀ stableID : Text, trimSpace stableID ≠ [] →
          CleanID (trimSpace stableID) :=
        fun stableID hne => ⟨trimSpace_idem _, hne⟩
      refine h.quiet ⟨rfl, rfl, fun _ _ => id, fun _ _ _ => id,
        fun _ _ _ _ => id, ?_, ?_⟩
      · intro other next hother
        rcases calls_goOn hother with ⟨hold, -⟩ | ⟨hnew, rfl⟩
        · exact Or.inl hold
        · right
          cases request with
          | muteNodeFor stableID scope duration =>
              simp only [MuteRequest.call] at hnew
              split at hnew
              · cases hnew
              · split at hnew
                · cases hnew
                · rename_i hne
                  split at hnew
                  · obtain rfl := Option.some.inj hnew
                    exact ⟨rfl, hclean stableID hne⟩
                  · obtain rfl := Option.some.inj hnew
                    exact ⟨rfl, trivial⟩
          | unmuteNode stableID =>
              simp only [MuteRequest.call] at hnew
              split at hnew
              · cases hnew
              · rename_i hne
                obtain rfl := Option.some.inj hnew
                exact ⟨rfl, hclean stableID hne⟩
          | pruneInactiveMutedNodes =>
              obtain rfl := Option.some.inj hnew
              exact ⟨rfl, trivial⟩
      · intro other edit next hother
        change (w.service.calls.set key request.call)[other]? = _
        rw [GoMap.get_set_of_ne]
        · exact hother
        · rintro rfl
          cases hcall.symm.trans hother

theorem kept_restart (h : w.Kept)
    (haccounted : w.service.Accounted w.mutesOnDisk) :
    (w.step .restart).Kept := by
  have hsub : ∀ p, (w.step .restart).Outstanding p → p ∈ w.promised := by
    rintro p (hp | ⟨key, hp⟩)
    · exact hp
    · cases hp
  -- The countdowns on disk are all taken back.
  have hloaded : Holds (· ∈ w.promised) w.service.now w.configOnDisk
      (w.service.persistable w.mutesOnDisk) := by
    apply h.filed.keep_mutes
    intro p mute _ hmute hruns
    apply get_filter hmute
    rw [haccounted p.stableID mute hmute hruns, Bool.true_and]
    exact decide_eq_true hruns
  refine ⟨?_, hloaded.of_subset hsub, h.filed, ?_, nofun, nofun⟩
  · exact (hloaded.of_subset hsub).change_lists
      fun p topic _ => mem_mutedSet_normalize.mpr
  · intro _ topic stableID
    exact mem_mutedSet_normalize

/-- A careful step keeps every promise. -/
theorem kept_step (h : w.Kept) {e : MuteEvent}
    (hcareful : w.service.Careful e) : (w.step e).Kept := by
  cases e with
  | request key request => exact kept_request h request
  | advance key write => exact kept_advance h hcareful
  | restart => exact kept_restart h hcareful
  | save write =>
      cases write with
      | written =>
          refine h.of_same rfl rfl rfl (le_refl _) rfl ?_
          intro q cfg hmemory _
          exact (holds_saved (hcareful.2 rfl) hmemory).of_subset
            fun p hp => ⟨Or.inl hp.1, hp.2⟩
      | refused => exact h
      | torn => exact absurd rfl hcareful.1
  | maintenance stableID enabled =>
      exact h.of_same rfl rfl rfl (le_refl _) rfl fun _ _ _ => id
  | refresh proxies unaccounted =>
      exact h.of_same rfl rfl rfl (le_refl _) rfl fun _ _ _ => id
  | tick duration =>
      exact h.of_same rfl rfl rfl (Nat.le_add_right _ _) rfl
        fun _ _ _ hfiled => hfiled.later (Nat.le_add_right _ _)

/-- A backed promise that has not run out is in the mute set of every topic it
covers. -/
theorem Kept.muted (h : w.Kept) {p : MutePromise} (hp : p ∈ w.promised)
    (hlive : p.Live w.service.now) {topic : Topic}
    (hcovers : p.scope.covers topic = true) :
    w.service.muteSet topic p.stableID = true := by
  rw [MuteService.muteSet, Bool.or_eq_true]
  rcases h.backed p (Or.inl hp) hlive topic hcovers with
    hlist | ⟨mute, endsAt, hmute, hends, hlong, hscope⟩
  · exact Or.inl (decide_eq_true hlist)
  · right
    rw [hmute]
    simp only [Option.any_some, Bool.and_eq_true, decide_eq_true_eq]
    exact ⟨lt_of_lt_of_le (hlive endsAt hends) hlong, hscope⟩

end Steps

/-- A service just started, with no promise yet. -/
def start (s : MuteService) : MuteWatch where
  service := s
  effective := ∅
  promised := []

theorem kept_start {s : MuteService} (h : s.Started) : (start s).Kept := by
  have hnone : ∀ p, ¬ (start s).Outstanding p := by
    rintro p (hp | ⟨key, hp⟩)
    · cases hp
    · cases hp
  have hidle : ∀ (key : Nat) (call : MuteCall),
      (start s).service.calls[key]? ≠ some call := by
    intro key call
    change s.calls[key]? ≠ some call
    rw [h.calls]
    nofun
  refine ⟨fun p hp => absurd hp (hnone p), fun p hp => absurd hp (hnone p),
    nofun, ?_, ?_, ?_⟩
  · intro _ topic stableID
    change stableID ∈ s.config.mutedSet topic ↔ _
    rw [h.config]
    exact mem_mutedSet_normalize
  · intro key _ call _ hcall
    exact absurd hcall (hidle key call)
  · intro key call hcall
    exact absurd hcall (hidle key call)

end MuteWatch

/-- In every run of careful steps, a node whose mute succeeded is in the mute
set of every topic the mute covers until the mute runs out, the node is
unmuted, or a prune does not find it in the proxy list. -/
theorem mutes_kept {s : MuteService} (hstart : s.Started)
    {events : List MuteEvent}
    (hrun : Admissible MuteWatch.step (fun w e => w.service.Careful e)
      (MuteWatch.start s) events) :
    let w := run MuteWatch.step (MuteWatch.start s) events
    ∀ p ∈ w.promised, p.Live w.service.now → ∀ topic,
      p.scope.covers topic = true →
        w.service.muteSet topic p.stableID = true := by
  have hkept := run_invariant MuteWatch.Kept hrun
    (MuteWatch.kept_start hstart)
    fun w e h hcareful => MuteWatch.kept_step h hcareful
  intro w p hp hlive topic hcovers
  exact hkept.muted hp hlive hcovers

namespace Sample

/-- One monitored node. -/
def oneNode : MuteService where
  config := {}
  configFile := none
  mutes := ∅
  alertFile := none
  proxies := ["node"]
  paused := []
  unaccounted := []
  now := 0
  calls := ∅

theorem oneNode_started : oneNode.Started :=
  ⟨rfl, rfl⟩

/-- The node is silenced for eight minutes. -/
def silenced : List MuteEvent :=
  [.request 0 (.muteNodeFor "node" "all" 8), .advance 0 .written,
    .advance 0 .written]

theorem silenced_careful :
    Admissible MuteWatch.step (fun w e => w.service.Careful e)
      (MuteWatch.start oneNode) silenced := by
  rw [silenced, admissible_cons, admissible_cons, admissible_cons]
  refine ⟨trivial, ?_, ?_, admissible_nil _⟩
  · intro call hcall
    obtain rfl : call = .muteFor "node" .all 8 :=
      Option.some.inj (hcall.symm.trans (by decide))
    intro old hold
    cases hold
  · intro call hcall
    obtain rfl : call = .saving :=
      Option.some.inj (hcall.symm.trans (by decide))
    refine ⟨nofun, fun _ stableID mute hmute _ => ?_⟩
    change ((∅ : GoMap Text NodeMute).insert "node" ⟨.all, 8⟩)[stableID]? =
      some mute at hmute
    rw [GoMap.get_insert] at hmute
    split at hmute
    · subst_vars
      decide
    · cases hmute

theorem mutes_kept_silenced :
    (run MuteWatch.step (MuteWatch.start oneNode)
      silenced).service.muteSet .alerts "node" = true :=
  mutes_kept oneNode_started silenced_careful ⟨"node", .all, some 8⟩
    (by decide)
    (fun endsAt hends => Option.some.inj hends ▸ by decide) .alerts rfl

/-- The mute succeeds, the node goes into maintenance, and the next prune drops
the countdown of a node that is still in the proxy list. -/
def paused : List MuteEvent :=
  silenced ++
    [.maintenance "node" true, .request 0 .pruneInactiveMutedNodes,
      .advance 0 .written, .advance 0 .written, .advance 0 .written,
      .advance 0 .written, .maintenance "node" false]

theorem paused_node_loses_mute :
    oneNode.Started ∧
      (⟨"node", .all, some 8⟩ : MutePromise) ∈
        (run MuteWatch.step (MuteWatch.start oneNode) paused).promised ∧
      (run MuteWatch.step (MuteWatch.start oneNode) paused).service.now < 8 ∧
      (run MuteWatch.step (MuteWatch.start oneNode)
        paused).service.muteSet .alerts "node" = false := by
  refine ⟨oneNode_started, ?_⟩
  decide +kernel

end Sample

end XrayChecker.Telegram

import XrayChecker.Subsource.Store
import XrayChecker.Machine.Run

/-
Calls of the store in any interleaving.  A call changes the list under the
lock and writes the list it left after the lock is released, so the order in
which the calls save need not be the one in which they changed the list.
-/

namespace XrayChecker.Subsource

open Go Machine

/-- A call of `Add`, `Update` or `Delete` with its arguments. -/
inductive Request where
  | add (input : Source)
  | update (id : Text) (input : Source)
  | delete (id : Text)
deriving DecidableEq

/-- How far a call is.  The commits of a run are numbered. -/
inductive Stage where
  | begun
  /-- An `Update` past its read lock, with the URL it goes on with. -/
  | resolved (input : Source)
  | saving (commit : Nat) (snapshot : List Source) (answer : Option Source)
  | returned (commit : Option Nat) (result : Except Text (Option Source))
deriving DecidableEq

/-- A call, with the source an `Update` replaced and its replacement. -/
structure Call where
  request : Request
  stage : Stage := .begun
  replaced : Option (Source × Source) := none
deriving DecidableEq

/-- What a call makes of the list under the lock. -/
structure Commit where
  sources : List Source
  answer : Option Source
  replaced : Option (Source × Source) := none

/-- The part of a call under the lock, with the checks in front of it; `none`
where the call is elsewhere. -/
def Call.attempt (call : Call) (sources : List Source) (now : Time)
    (random : Except Text (Fin 16 → UInt8)) : Option (Except Text Commit) :=
  match call.request, call.stage with
  | .add input, .begun =>
      some <| (add sources input now random).map fun (after, added) =>
        { sources := after, answer := some added }
  | .update id _, .resolved input =>
      some <|
        if trimSpace id = [] then .error "source id is required"
        else (update sources (trimSpace id) input now random).map
          fun (after, previous, updated) =>
            { sources := after, answer := some updated
              replaced := some (previous, updated) }
  | .delete id, .begun =>
      some <|
        if trimSpace id = [] then .error "source id is required"
        else (delete sources (trimSpace id)).map fun after =>
          { sources := after, answer := none }
  | _, _ => none

/-- How a `save` ends; one that fails may leave the file in any state. -/
inductive SaveOutcome where
  | done (now : Time)
  | failed (text : Text) (left : Option FileContent)

/-- The store, its file and the calls begun so far, with the list every
commit left and the commit whose list was written last. -/
structure World where
  sources : List Source
  file : Option FileContent
  calls : List Call := []
  commits : List (List Source) := []
  written : Option Nat := none

inductive Event where
  | call (request : Request)
  | read (i : Nat)
  | commit (i : Nat) (now : Time) (random : Except Text (Fin 16 → UInt8))
  | save (i : Nat) (outcome : SaveOutcome)

namespace World

/-- The calls, with one of them further on. -/
def move (w : World) (i : Nat) (call : Call) (stage : Stage) : World :=
  { w with calls := w.calls.set i { call with stage := stage } }

/-- The read lock of `Update`. -/
def readURL (w : World) (i : Nat) (call : Call) : World :=
  match call.request, call.stage with
  | .update id input, .begun =>
      w.move i call (.resolved (resolveURL w.sources (trimSpace id) input))
  | _, _ => w

def commit (w : World) (i : Nat) (call : Call) (now : Time)
    (random : Except Text (Fin 16 → UInt8)) : World :=
  match call.attempt w.sources now random with
  | none => w
  | some (.error text) => w.move i call (.returned none (.error text))
  | some (.ok made) =>
      { w with
        sources := made.sources
        commits := w.commits ++ [made.sources]
        calls := w.calls.set i
          { call with
            stage := .saving w.commits.length made.sources made.answer
            replaced := made.replaced } }

def save (w : World) (i : Nat) (call : Call) (outcome : SaveOutcome) : World :=
  match call.stage, outcome with
  | .saving commit snapshot answer, .done now =>
      { w.move i call (.returned (some commit) (.ok answer)) with
        file := some (.state stateVersion now snapshot)
        written := some commit }
  | .saving commit _ _, .failed text left =>
      { w.move i call (.returned (some commit) (.error text)) with
        file := left }
  | _, _ => w

/-- The call an event moves on. -/
def withCall (w : World) (i : Nat) (next : Call → World) : World :=
  match w.calls[i]? with
  | none => w
  | some call => next call

def step (w : World) : Event → World
  | .call request => { w with calls := w.calls ++ [{ request := request }] }
  | .read i => w.withCall i (w.readURL i)
  | .commit i now random => w.withCall i fun call => w.commit i call now random
  | .save i outcome => w.withCall i fun call => w.save i call outcome

end World

/-- The change a call was answered with is in the list. -/
def Reflects (sources : List Source) : Request → Option Source → Prop
  | .delete id, _ => ∀ source ∈ sources, source.id ≠ trimSpace id
  | _, some source => source ∈ sources
  | _, none => False

/-- The file holds these sources, and loading it gives them back. -/
def Holds (file : Option FileContent) (sources : List Source) : Prop :=
  (∃ now, file = some (.state stateVersion now sources)) ∧
    load file = .ok sources

/-- The sources on disk and in memory agree. -/
structure Agrees (w : World) : Prop where
  /-- A call that returned an error has not changed the list. -/
  refused : ∀ call ∈ w.calls, ∀ commit text,
    call.stage = .returned commit (.error text) → commit = none
  /-- The file holds the list a call that returned success left, or the one a
  later commit left. -/
  reflected : ∀ call ∈ w.calls, ∀ commit answer,
    call.stage = .returned commit (.ok answer) →
      ∃ k j own newer, commit = some k ∧ k ≤ j ∧
        w.commits[k]? = some own ∧ Reflects own call.request answer ∧
        w.commits[j]? = some newer ∧ Holds w.file newer
  /-- With no call in progress, and something saved, the file holds the
  sources in memory. -/
  settled : (∀ call ∈ w.calls, ∃ commit result,
      call.stage = .returned commit result) →
    w.commits ≠ [] → Holds w.file w.sources
  /-- An update with a blank URL keeps the one current at its commit. -/
  kept : ∀ call ∈ w.calls, ∀ id input previous updated,
    call.request = .update id input → trimSpace input.url = [] →
    call.replaced = some (previous, updated) → updated.url = previous.url
  distinct : (w.sources.map Source.url).Nodup

/-- A commit that keeps the URLs apart and the one a blank URL stands for: the
last source of the ID still has the URL that was read, and no other source of
that ID has the new one. -/
def Call.Current (sources : List Source) (call : Call) : Prop :=
  match call.request, call.stage with
  | .update id input, .resolved resolved =>
      (trimSpace input.url = [] →
        ∀ previous ∈ (twins sources (trimSpace id)).getLast?,
          previous.url = trimSpace resolved.url) ∧
      ∀ twin ∈ (twins sources (trimSpace id)).dropLast,
        twin.url ≠ trimSpace resolved.url
  | _, _ => True

/-- A save that writes, and does so before any later commit is written. -/
def Call.InOrder (written : Option Nat) (outcome : SaveOutcome)
    (call : Call) : Prop :=
  match call.stage, outcome with
  | .saving commit _ _, .done _ => ∀ j ∈ written, j < commit
  | .saving _ _ _, .failed _ _ => False
  | _, _ => True

instance (sources : List Source) :
    (call : Call) → Decidable (call.Current sources)
  | ⟨.update _ _, .resolved _, _⟩ => inferInstanceAs (Decidable (_ ∧ _))
  | ⟨.update _ _, .begun, _⟩ => isTrue trivial
  | ⟨.update _ _, .saving .., _⟩ => isTrue trivial
  | ⟨.update _ _, .returned .., _⟩ => isTrue trivial
  | ⟨.add _, _, _⟩ => isTrue trivial
  | ⟨.delete _, _, _⟩ => isTrue trivial

instance (written : Option Nat) : (outcome : SaveOutcome) → (call : Call) →
    Decidable (call.InOrder written outcome)
  | .done _, ⟨_, .saving .., _⟩ => inferInstanceAs (Decidable (∀ _ ∈ _, _))
  | .failed .., ⟨_, .saving .., _⟩ => isFalse id
  | _, ⟨_, .begun, _⟩ => isTrue trivial
  | _, ⟨_, .resolved _, _⟩ => isTrue trivial
  | _, ⟨_, .returned .., _⟩ => isTrue trivial

/-- The condition on a run. -/
def Ordered (w : World) : Event → Prop
  | .commit i _ _ => ∀ call ∈ w.calls[i]?, call.Current w.sources
  | .save i outcome => ∀ call ∈ w.calls[i]?, call.InOrder w.written outcome
  | _ => True

/-- The number of the commit a call made. -/
def Stage.commit? : Stage → Option Nat
  | .saving commit _ _ => some commit
  | .returned commit _ => commit
  | _ => none

instance (w : World) : (event : Event) → Decidable (Ordered w event)
  | .call _ => isTrue trivial
  | .read _ => isTrue trivial
  | .commit _ _ _ => inferInstanceAs (Decidable (∀ _ ∈ _, _))
  | .save _ _ => inferInstanceAs (Decidable (∀ _ ∈ _, _))

section Attempts

variable {sources : List Source} {call : Call} {made : Commit} {now : Time}
  {random : Except Text (Fin 16 → UInt8)}

/-- A list of sources as the store keeps it. -/
structure Kept (sources : List Source) : Prop where
  valid : ∀ source ∈ sources, source.Valid
  sorted : sources.Pairwise Source.le
  distinct : (sources.map Source.url).Nodup

theorem Kept.sorting {unsorted : List Source}
    (hvalid : ∀ source ∈ unsorted, source.Valid)
    (hdistinct : (unsorted.map Source.url).Nodup) :
    Kept (sortSources unsorted) where
  valid source hsource :=
    hvalid source ((sortSources_perm unsorted).mem_iff.mp hsource)
  sorted := sortSources_sorted unsorted
  distinct := ((sortSources_perm unsorted).map Source.url).nodup_iff.mpr
    hdistinct

theorem Kept.add (h : Kept sources) {input added : Source}
    {after : List Source}
    (hadd : add sources input now random = .ok (after, added)) :
    Kept after ∧ added ∈ after := by
  obtain ⟨hvalid, hfresh, rfl⟩ := add_ok hadd
  constructor
  · apply Kept.sorting
    · intro source hsource
      rcases List.mem_append.mp hsource with hold | hnew
      · exact h.valid source hold
      · exact List.mem_singleton.mp hnew ▸ hvalid
    · rw [List.map_append, List.nodup_append]
      refine ⟨h.distinct, List.nodup_singleton _, ?_⟩
      intro url hold new hnew hsame
      obtain ⟨source, hsource, rfl⟩ := List.mem_map.mp hold
      rw [List.map_singleton, List.mem_singleton] at hnew
      exact hfresh source hsource (hsame.trans hnew)
  · apply (sortSources_perm _).mem_iff.mpr
    exact List.mem_append_right _ List.mem_cons_self

theorem Kept.update (h : Kept sources) {id : Text}
    {input previous updated : Source} {after : List Source}
    (hupdate : update sources id input now random =
      .ok (after, previous, updated))
    (hapart : ∀ twin ∈ (twins sources id).dropLast,
      twin.url ≠ trimSpace input.url) :
    Kept after ∧ updated ∈ after := by
  obtain ⟨hvalid, hurl, -, -, -, before, tail, hsplit, rfl, hother⟩ :=
    update_ok h.valid hupdate
  have hsources : ∀ source ∈ before ++ tail, source ∈ sources := by
    intro source hsource
    rw [hsplit]
    rcases List.mem_append.mp hsource with hbefore | htail
    · exact List.mem_append_left _ hbefore
    · exact List.mem_append_right _ (List.mem_cons_of_mem _ htail)
  have hperm : (before ++ updated :: tail).Perm
      (updated :: (before ++ tail)) := List.perm_middle
  constructor
  · apply Kept.sorting
    · intro source hsource
      rcases List.mem_cons.mp (hperm.mem_iff.mp hsource) with rfl | hold
      · exact hvalid
      · exact h.valid source (hsources source hold)
    · rw [(hperm.map Source.url).nodup_iff, List.map_cons, List.nodup_cons]
      constructor
      · intro hmem
        obtain ⟨source, hsource, hsame⟩ := List.mem_map.mp hmem
        exact hapart source (hother source hsource hsame) (hsame.trans hurl)
      · have hdistinct := h.distinct
        rw [hsplit, (List.perm_middle.map Source.url).nodup_iff,
          List.map_cons, List.nodup_cons] at hdistinct
        exact hdistinct.2
  · apply (sortSources_perm _).mem_iff.mpr
    exact List.mem_append_right _ List.mem_cons_self

theorem Kept.delete (h : Kept sources) {id : Text} {after : List Source}
    (hdelete : delete sources id = .ok after) :
    Kept after ∧ ∀ source ∈ after, source.id ≠ id := by
  obtain rfl := delete_ok hdelete
  constructor
  · exact ⟨fun source hsource =>
        h.valid source (List.mem_of_mem_filter hsource),
      h.sorted.filter _,
      h.distinct.sublist (List.filter_sublist.map Source.url)⟩
  · intro source hsource
    simpa using (List.mem_filter.mp hsource).2

/-- A call only commits from where it has not committed. -/
theorem Call.attempt_stage {result : Except Text Commit}
    (h : call.attempt sources now random = some result) :
    call.stage.commit? = none := by
  obtain ⟨request, stage, replaced⟩ := call
  cases request <;> cases stage <;> first | rfl | exact nomatch h

/-- What one commit keeps: the list stays normalized, sorted and apart, it
reflects the call, and a blank URL stands for the one replaced. -/
theorem Kept.attempt (h : Kept sources) (hcurrent : call.Current sources)
    (hattempt : call.attempt sources now random = some (.ok made)) :
    Kept made.sources ∧ Reflects made.sources call.request made.answer ∧
      ∀ id input previous updated, call.request = .update id input →
        trimSpace input.url = [] →
        made.replaced = some (previous, updated) →
        updated.url = previous.url := by
  obtain ⟨request, stage, replaced⟩ := call
  cases request with
  | add input =>
      cases stage with
      | begun =>
          obtain hmap := Option.some.inj hattempt
          cases hadd : Subsource.add sources input now random with
          | error text =>
              rw [hadd] at hmap
              exact nomatch hmap
          | ok pair =>
              obtain ⟨after, added⟩ := pair
              rw [hadd] at hmap
              obtain rfl := Except.ok.inj hmap
              obtain ⟨hkept, hmem⟩ := h.add hadd
              exact ⟨hkept, hmem, nofun⟩
      | resolved input => exact nomatch hattempt
      | saving commit snapshot answer => exact nomatch hattempt
      | returned commit result => exact nomatch hattempt
  | update id input =>
      cases stage with
      | begun => exact nomatch hattempt
      | resolved resolved =>
          obtain hmap := Option.some.inj hattempt
          split_ifs at hmap
          cases hupdate : Subsource.update sources (trimSpace id) resolved now
              random with
          | error text =>
              rw [hupdate] at hmap
              exact nomatch hmap
          | ok triple =>
              obtain ⟨after, previous, updated⟩ := triple
              rw [hupdate] at hmap
              obtain rfl := Except.ok.inj hmap
              obtain ⟨hblank, hapart⟩ := hcurrent
              obtain ⟨hkept, hmem⟩ := h.update hupdate hapart
              obtain ⟨-, hurl, -, -, hlast, -⟩ := update_ok h.valid hupdate
              refine ⟨hkept, hmem, ?_⟩
              intro id' input' previous' updated' hrequest hempty hreplaced
              obtain ⟨-, rfl⟩ := Request.update.inj hrequest
              obtain ⟨rfl, rfl⟩ := Prod.mk.inj (Option.some.inj hreplaced)
              rw [hurl, hblank hempty previous hlast]
      | saving commit snapshot answer => exact nomatch hattempt
      | returned commit result => exact nomatch hattempt
  | delete id =>
      cases stage with
      | begun =>
          obtain hmap := Option.some.inj hattempt
          split_ifs at hmap
          cases hdelete : Subsource.delete sources (trimSpace id) with
          | error text =>
              rw [hdelete] at hmap
              exact nomatch hmap
          | ok after =>
              rw [hdelete] at hmap
              obtain rfl := Except.ok.inj hmap
              obtain ⟨hkept, hgone⟩ := h.delete hdelete
              exact ⟨hkept, hgone, nofun⟩
      | resolved input => exact nomatch hattempt
      | saving commit snapshot answer => exact nomatch hattempt
      | returned commit result => exact nomatch hattempt

end Attempts

/-- What holds of a call, with the lists the commits left and the one written
last. -/
structure Call.Sound (commits : List (List Source)) (written : Option Nat)
    (call : Call) : Prop where
  saving : ∀ k snapshot answer, call.stage = .saving k snapshot answer →
    commits[k]? = some snapshot ∧ Reflects snapshot call.request answer
  failed : ∀ commit text, call.stage = .returned commit (.error text) →
    commit = none
  succeeded : ∀ commit answer, call.stage = .returned commit (.ok answer) →
    ∃ k j own, commit = some k ∧ written = some j ∧ k ≤ j ∧
      commits[k]? = some own ∧ Reflects own call.request answer
  kept : ∀ id input previous updated,
    call.request = .update id input → trimSpace input.url = [] →
    call.replaced = some (previous, updated) → updated.url = previous.url

/-- The invariant of the runs that save in order. -/
structure World.Sound (w : World) : Prop where
  list : Kept w.sources
  /-- The list of the last commit is the one in memory. -/
  latest : ∀ sources ∈ w.commits.getLast?, sources = w.sources
  loadable : ∀ sources ∈ w.commits,
    (∀ source ∈ sources, source.Valid) ∧ sources.Pairwise Source.le
  held : ∀ j ∈ w.written, ∃ snapshot now, w.commits[j]? = some snapshot ∧
    w.file = some (.state stateVersion now snapshot)
  calls : ∀ call ∈ w.calls, call.Sound w.commits w.written
  /-- Every commit is that of a call. -/
  claimed : ∀ k < w.commits.length, ∃ (i : Nat) (call : Call),
    w.calls[i]? = some call ∧ call.stage.commit? = some k

theorem World.Sound.agrees {w : World} (h : w.Sound) : Agrees w where
  refused call hcall commit text hstage :=
    (h.calls call hcall).failed commit text hstage
  reflected call hcall commit answer hstage := by
    obtain ⟨k, j, own, hk, hj, hle, hown, hreflects⟩ :=
      (h.calls call hcall).succeeded commit answer hstage
    obtain ⟨newer, now, hnewer, hfile⟩ := h.held j hj
    obtain ⟨hvalid, hsorted⟩ := h.loadable newer (List.mem_of_getElem? hnewer)
    refine ⟨k, j, own, newer, hk, hle, hown, hreflects, hnewer,
      ⟨now, hfile⟩, ?_⟩
    rw [hfile]
    exact load_state now hvalid hsorted
  settled hidle hcommits := by
    -- The call of the last commit has returned, so its list is written.
    have hlast : w.commits.length - 1 < w.commits.length := by
      have := List.length_pos_of_ne_nil hcommits
      omega
    obtain ⟨i, call, hcall, hcommit⟩ := h.claimed _ hlast
    have hmem := List.mem_of_getElem? hcall
    obtain ⟨commit, result, hstage⟩ := hidle call hmem
    rw [hstage, Stage.commit?] at hcommit
    subst hcommit
    cases result with
    | error text =>
        exact nomatch (h.calls call hmem).failed _ _ hstage
    | ok answer =>
        obtain ⟨k, j, own, hk, hj, hle, -⟩ :=
          (h.calls call hmem).succeeded _ _ hstage
        obtain rfl := Option.some.inj hk
        obtain ⟨newer, now, hnewer, hfile⟩ := h.held j hj
        have hbound := (List.getElem?_eq_some_iff.mp hnewer).1
        have hj : j = w.commits.length - 1 := by omega
        rw [hj, ← List.getLast?_eq_getElem?] at hnewer
        rw [h.latest newer hnewer] at hfile
        rw [hfile]
        exact ⟨⟨now, rfl⟩, load_state now h.list.valid h.list.sorted⟩
  kept call hcall := (h.calls call hcall).kept
  distinct := h.list.distinct

namespace Call.Sound

variable {commits : List (List Source)} {written : Option Nat} {call : Call}

theorem getElem?_later {k : Nat} {own : List Source} (after : List Source)
    (h : commits[k]? = some own) : (commits ++ [after])[k]? = some own := by
  rw [List.getElem?_append_left (List.getElem?_eq_some_iff.mp h).1, h]

/-- A later commit changes nothing for a call. -/
theorem mono (h : call.Sound commits written) (after : List Source) :
    call.Sound (commits ++ [after]) written where
  saving k snapshot answer hstage := by
    obtain ⟨hk, hreflects⟩ := h.saving k snapshot answer hstage
    exact ⟨getElem?_later after hk, hreflects⟩
  failed := h.failed
  succeeded commit answer hstage := by
    obtain ⟨k, j, own, hk, hj, hle, hown, hreflects⟩ :=
      h.succeeded commit answer hstage
    exact ⟨k, j, own, hk, hj, hle, getElem?_later after hown, hreflects⟩
  kept := h.kept

/-- Nor does the write of a later commit. -/
theorem write (h : call.Sound commits written) {k : Nat}
    (hnext : ∀ j ∈ written, j < k) : call.Sound commits (some k) where
  saving := h.saving
  failed := h.failed
  succeeded commit answer hstage := by
    obtain ⟨own, j, snapshot, hown, hj, hle, hrest⟩ :=
      h.succeeded commit answer hstage
    exact ⟨own, k, snapshot, hown, rfl, hle.trans (hnext j hj).le, hrest⟩
  kept := h.kept

/-- A call that has not committed may be anywhere before its commit. -/
theorem before (h : call.Sound commits written) {stage : Stage}
    (hsaving : ∀ k snapshot answer, stage ≠ .saving k snapshot answer)
    (hreturned : ∀ commit result, stage = .returned commit result →
      commit = none ∧ result.isOk = false) :
    ({ call with stage := stage } : Call).Sound commits written where
  saving k snapshot answer hstage := absurd hstage (hsaving k snapshot answer)
  failed commit _ hstage := (hreturned commit _ hstage).1
  succeeded commit _ hstage :=
    Bool.noConfusion (hreturned commit _ hstage).2
  kept := h.kept

/-- A call whose list is written returns its answer. -/
theorem answered (h : call.Sound commits written) {k : Nat}
    {own : List Source} {answer : Option Source} (hown : commits[k]? = some own)
    (hreflects : Reflects own call.request answer) :
    ({ call with stage := .returned (some k) (.ok answer) } : Call).Sound
      commits (some k) where
  saving _ _ _ hstage := Stage.noConfusion hstage
  failed _ _ hstage := nomatch (Stage.returned.inj hstage).2
  succeeded commit result hstage := by
    obtain ⟨rfl, hresult⟩ := Stage.returned.inj hstage
    obtain rfl := Except.ok.inj hresult
    exact ⟨k, k, own, rfl, rfl, le_rfl, hown, hreflects⟩
  kept := h.kept

end Call.Sound

namespace World.Sound

variable {w : World} {i : Nat} {call : Call}

/-- A call moves on without a commit or a write. -/
theorem move (h : w.Sound) (hcall : w.calls[i]? = some call) {stage : Stage}
    (hsound : ({ call with stage := stage } : Call).Sound w.commits w.written)
    (hcommit : call.stage.commit? = none) : (w.move i call stage).Sound where
  list := h.list
  latest := h.latest
  loadable := h.loadable
  held := h.held
  calls other hother := by
    rcases List.mem_or_eq_of_mem_set hother with hold | rfl
    · exact h.calls other hold
    · exact hsound
  claimed k hk := by
    obtain ⟨j, other, hother, hclaim⟩ := h.claimed k hk
    have hne : i ≠ j := by
      rintro rfl
      obtain rfl := Option.some.inj (hcall.symm.trans hother)
      exact nomatch hcommit.symm.trans hclaim
    exact ⟨j, other, by rw [World.move, List.getElem?_set_ne hne, hother],
      hclaim⟩

theorem begin (h : w.Sound) (request : Request) :
    (w.step (.call request)).Sound where
  list := h.list
  latest := h.latest
  loadable := h.loadable
  held := h.held
  calls other hother := by
    rcases List.mem_append.mp hother with hold | hnew
    · exact h.calls other hold
    · obtain rfl := List.mem_singleton.mp hnew
      exact ⟨nofun, nofun, nofun, nofun⟩
  claimed k hk := by
    obtain ⟨j, other, hother, hclaim⟩ := h.claimed k hk
    exists j, other
    have hbound := (List.getElem?_eq_some_iff.mp hother).1
    exact ⟨(List.getElem?_append_left hbound).trans hother, hclaim⟩

theorem readURL (h : w.Sound) (hcall : w.calls[i]? = some call) :
    (w.readURL i call).Sound := by
  have hsound := h.calls call (List.mem_of_getElem? hcall)
  rw [World.readURL]
  split
  next hbegun =>
    apply h.move hcall
    · exact hsound.before (fun _ _ _ hstage => Stage.noConfusion hstage)
        fun _ _ hstage => Stage.noConfusion hstage
    · rw [hbegun]
      rfl
  · exact h

theorem commit (h : w.Sound) (hcall : w.calls[i]? = some call) {now : Time}
    {random : Except Text (Fin 16 → UInt8)}
    (hcurrent : call.Current w.sources) :
    (w.commit i call now random).Sound := by
  have hsound := h.calls call (List.mem_of_getElem? hcall)
  rw [World.commit]
  split
  · exact h
  next text hattempt =>
    apply h.move hcall
    · apply hsound.before
      · exact fun _ _ _ hstage => Stage.noConfusion hstage
      · intro commit result hstage
        obtain ⟨rfl, rfl⟩ := Stage.returned.inj hstage
        exact ⟨rfl, rfl⟩
    · exact Call.attempt_stage hattempt
  next made hattempt =>
    obtain ⟨hkept, hreflects, hblank⟩ := h.list.attempt hcurrent hattempt
    have hfresh := Call.attempt_stage hattempt
    refine ⟨hkept, ?_, ?_, ?_, ?_, ?_⟩
    · intro sources hsources
      rw [List.getLast?_concat] at hsources
      exact (Option.some.inj hsources).symm
    · intro sources hsources
      rcases List.mem_append.mp hsources with hold | hnew
      · exact h.loadable sources hold
      · obtain rfl := List.mem_singleton.mp hnew
        exact ⟨hkept.valid, hkept.sorted⟩
    · intro j hj
      obtain ⟨snapshot, now, hsnapshot, hfile⟩ := h.held j hj
      exact ⟨snapshot, now, Call.Sound.getElem?_later _ hsnapshot, hfile⟩
    · intro other hother
      rcases List.mem_or_eq_of_mem_set hother with hold | rfl
      · exact (h.calls other hold).mono made.sources
      · refine ⟨?_, fun _ _ hstage => Stage.noConfusion hstage,
          fun _ _ hstage => Stage.noConfusion hstage, hblank⟩
        intro k snapshot answer hstage
        obtain ⟨rfl, rfl, rfl⟩ := Stage.saving.inj hstage
        exact ⟨List.getElem?_concat_length, hreflects⟩
    · intro k hk
      have hbound := (List.getElem?_eq_some_iff.mp hcall).1
      rcases Nat.lt_or_ge k w.commits.length with hold | hnew
      · obtain ⟨j, other, hother, hclaim⟩ := h.claimed k hold
        have hne : i ≠ j := by
          rintro rfl
          obtain rfl := Option.some.inj (hcall.symm.trans hother)
          exact nomatch hfresh.symm.trans hclaim
        exact ⟨j, other, by rw [List.getElem?_set_ne hne, hother], hclaim⟩
      · have hlast : k = w.commits.length := by
          simp only [List.length_append, List.length_singleton] at hk
          omega
        exact ⟨i, _, List.getElem?_set_self hbound, by rw [hlast]; rfl⟩

/-- The list of a commit is written. -/
theorem written (h : w.Sound) (hcall : w.calls[i]? = some call) {k : Nat}
    {snapshot : List Source} {answer : Option Source} (now : Time)
    (hstage : call.stage = .saving k snapshot answer)
    (horder : ∀ j ∈ w.written, j < k) :
    ({ w.move i call (.returned (some k) (.ok answer)) with
      file := some (.state stateVersion now snapshot)
      written := some k } : World).Sound where
  list := h.list
  latest := h.latest
  loadable := h.loadable
  held j hj := by
    obtain rfl := Option.some.inj hj
    exact ⟨snapshot, now, ((h.calls call (List.mem_of_getElem? hcall)).saving
      _ _ _ hstage).1, rfl⟩
  calls other hother := by
    have hsound := h.calls call (List.mem_of_getElem? hcall)
    rcases List.mem_or_eq_of_mem_set hother with hold | rfl
    · exact (h.calls other hold).write horder
    · obtain ⟨hown, hreflects⟩ := hsound.saving _ _ _ hstage
      exact hsound.answered hown hreflects
  claimed j hj := by
    obtain ⟨n, other, hother, hclaim⟩ := h.claimed j hj
    by_cases hsame : i = n
    · subst hsame
      obtain rfl := Option.some.inj (hcall.symm.trans hother)
      rw [hstage] at hclaim
      exact ⟨i, _, List.getElem?_set_self
        (List.getElem?_eq_some_iff.mp hcall).1, hclaim⟩
    · exact ⟨n, other, (List.getElem?_set_ne hsame).trans hother, hclaim⟩

theorem save (h : w.Sound) (hcall : w.calls[i]? = some call)
    {outcome : SaveOutcome} (horder : call.InOrder w.written outcome) :
    (w.save i call outcome).Sound := by
  rw [World.save.eq_def]
  split
  next hstage =>
    rw [Call.InOrder.eq_def, hstage] at horder
    exact h.written hcall _ hstage horder
  next hstage =>
    rw [Call.InOrder.eq_def, hstage] at horder
    exact horder.elim
  · exact h

theorem step (h : w.Sound) {event : Event} (hordered : Ordered w event) :
    (w.step event).Sound := by
  cases event with
  | call request => exact h.begin request
  | read i =>
      rw [World.step, withCall]
      split
      · exact h
      next call hcall => exact h.readURL hcall
  | commit i now random =>
      rw [World.step, withCall]
      split
      · exact h
      next call hcall => exact h.commit hcall (hordered call hcall)
  | save i outcome =>
      rw [World.step, withCall]
      split
      · exact h
      next call hcall => exact h.save hcall (hordered call hcall)

end World.Sound

/-- The store as a start finds it. -/
def opened (file : Option FileContent) (sources : List Source) : World where
  sources := sources
  file := file

theorem opened_sound {file : Option FileContent} {sources : List Source}
    (hload : load file = .ok sources)
    (hdistinct : (sources.map Source.url).Nodup) :
    (opened file sources).Sound where
  list := ⟨(load_valid hload).1, (load_valid hload).2, hdistinct⟩
  latest sources hlast := absurd hlast (Option.not_mem_none sources)
  loadable _ hmem := absurd hmem List.not_mem_nil
  held j hj := absurd hj (Option.not_mem_none j)
  calls _ hmem := absurd hmem List.not_mem_nil
  claimed _ hk := absurd hk (Nat.not_lt_zero _)

/-- In a run whose saves succeed, one commit after the other, and whose
updates find the URL they read, disk and memory agree in every state. -/
theorem run_agrees {file : Option FileContent} {sources : List Source}
    {events : List Event} (hload : load file = .ok sources)
    (hdistinct : (sources.map Source.url).Nodup)
    (hrun : Admissible World.step Ordered (opened file sources) events) :
    Agrees (run World.step (opened file sources) events) :=
  (run_invariant World.Sound hrun (opened_sound hload hdistinct)
    fun _ _ hsound hordered => hsound.step hordered).agrees

namespace Sample

/-- A source of the checker's own profile. -/
def source (url : Text) : Source := { url := url }

/-- An add of `url` at `now`, up to its save. -/
def adds (i : Nat) (url : Text) (now : Time) : List Event :=
  [.call (.add (source url)), .commit i now (.error [])]

/-- Two adds that save in turn, an edit without the URL and a deletion. -/
def inTurn : List Event :=
  adds 0 "http://a" 1 ++ adds 1 "http://b" 2 ++
    [.save 0 (.done 3), .save 1 (.done 4),
      .call (.update "src-1" { source [] with name := "A" }), .read 2,
      .commit 2 5 (.error []), .save 2 (.done 6),
      .call (.delete "src-2"), .commit 3 7 (.error []), .save 3 (.done 8)]

theorem run_agrees_sample :
    Agrees (run World.step (opened none []) inTurn) :=
  run_agrees rfl (by decide) (by decide)

/-- The second add is answered with an error and stays in the list. -/
def failing : List Event :=
  adds 0 "http://a" 1 ++ [.save 0 (.failed "disk full" none)]

/-- The first add saves after the second one. -/
def swapped : List Event :=
  adds 0 "http://a" 1 ++ adds 1 "http://b" 2 ++
    [.save 1 (.done 3), .save 0 (.done 4)]

/-- A source as an add stores it. -/
def stored (url : Text) (now : Time) : Source where
  id := newID now
  url := url
  mode := modeFull
  profile := { profile := clientProfileChecker }
  createdAt := now
  updatedAt := now

theorem unordered_saves_disagree :
    ((run World.step (opened none []) failing).sources =
        [stored "http://a" 1] ∧
      (run World.step (opened none []) failing).file = none ∧
      ¬ Agrees (run World.step (opened none []) failing)) ∧
    ((run World.step (opened none []) swapped).sources =
        [stored "http://a" 1, stored "http://b" 2] ∧
      (run World.step (opened none []) swapped).file =
        some (.state stateVersion 4 [stored "http://a" 1]) ∧
      ¬ Agrees (run World.step (opened none []) swapped)) := by
  have hfailed : (run World.step (opened none []) failing).calls =
      [{ request := .add (source "http://a")
         stage := .returned (some 0) (.error "disk full") }] := by
    decide
  have hsaved : (run World.step (opened none []) swapped).calls =
      [{ request := .add (source "http://a")
         stage := .returned (some 0) (.ok (some (stored "http://a" 1))) },
        { request := .add (source "http://b")
          stage := .returned (some 1) (.ok (some (stored "http://b" 2))) }] :=
    by decide
  have hsources : (run World.step (opened none []) swapped).sources =
      [stored "http://a" 1, stored "http://b" 2] := by
    decide
  have hfile : (run World.step (opened none []) swapped).file =
      some (.state stateVersion 4 [stored "http://a" 1]) := by
    decide
  have hcommits : (run World.step (opened none []) swapped).commits ≠ [] := by
    decide
  refine ⟨⟨by decide, by decide, ?_⟩, hsources, hfile, ?_⟩
  · intro h
    have hrefused := h.refused _ (hfailed ▸ List.mem_cons_self) _ _ rfl
    exact nomatch hrefused
  · intro h
    have hidle : ∀ call ∈ (run World.step (opened none []) swapped).calls,
        ∃ commit result, call.stage = .returned commit result := by
      rw [hsaved]
      simp
    obtain ⟨⟨now, hholds⟩, -⟩ := h.settled hidle hcommits
    rw [hfile, hsources] at hholds
    have hlength := congrArg List.length
      (FileContent.state.inj (Option.some.inj hholds)).2.2
    exact nomatch hlength

end Sample

end XrayChecker.Subsource

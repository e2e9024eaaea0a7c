import XrayChecker.Subsource.Store
import XrayChecker.Xray.Deduplicate

/-
The parallel fetch of several subscriptions: what `ReadFromFeeds` hands back
of each feed, in whatever order the fetches complete.
-/

namespace XrayChecker.Subscription

open Go Subsource Xray

/-- One subscription to fetch. -/
structure Feed where
  url : Text
  profile : ClientProfile := {}
  name : Text := []
  sourceID : Text := []
deriving DecidableEq

def feedsFromURLs (urls : List Text) : List Feed :=
  urls.map fun url => { url := url }

/-- `allSubscriptionFeeds`, with the sources of the store. -/
def allSubscriptionFeeds (urls : List Text) (sources : List Source) :
    List Feed :=
  feedsFromURLs urls ++
    (sources.filter Source.enabled).map fun source =>
      { url := source.url, profile := source.profile
        name := source.name, sourceID := source.id }

/-- What `Parse` made of a subscription. -/
structure ParseResult where
  configs : List (Option ProxyConfig)
  name : Text
deriving DecidableEq

/-- A feed with the outcome of its fetch. -/
structure Fetch where
  feed : Feed
  parsed : Except Text ParseResult
deriving DecidableEq

section Read

variable (isPlaceholderServer : Text → Bool)

/-- `dropPlaceholderNodes`, with the names of the nodes it dropped. -/
def dropPlaceholderNodes (configs : List (Option ProxyConfig)) :
    List ProxyConfig × List Text :=
  let present := configs.filterMap id
  (present.filter fun cfg => !isPlaceholderServer cfg.server,
    (present.filter fun cfg => isPlaceholderServer cfg.server).map
      ProxyConfig.name)

/-- `ReadFromFeed`. -/
def readFromFeed (fetch : Fetch) : Except Text (List ProxyConfig × Text) :=
  match fetch.parsed with
  | .error text => .error text
  | .ok result =>
      let trimmed := trimSpace fetch.feed.name
      let name := if trimmed = [] then result.name else trimmed
      let (configs, dropped) :=
        dropPlaceholderNodes isPlaceholderServer result.configs
      if configs = [] ∧ dropped ≠ [] then
        .error ("subscription returned only placeholder entries (" ++
          itoa dropped.length ++ "), which usually means the panel refused " ++
          "it — most often an exhausted HWID device limit")
      else .ok (configs, name)

/-- A feed whose fetch succeeded. -/
def Fetch.succeeds (fetch : Fetch) : Bool :=
  (readFromFeed isPlaceholderServer fetch).isOk

/-- The nodes of a feed, labelled as its fetch labels them. -/
def Fetch.nodes (fetch : Fetch) : List ProxyConfig :=
  match readFromFeed isPlaceholderServer fetch with
  | .error _ => []
  | .ok (configs, name) => configs.map fun cfg =>
      { cfg with subName := name, sourceID := fetch.feed.sourceID }

/-- A node pointer: the feed whose fetch allocated it, and which one it is. -/
abbrev Pointer := Nat × Nat

/-- The pointers a fetch allocates. -/
def Fetch.pointers (i : Nat) (fetch : Fetch) : List Pointer :=
  (List.range (fetch.nodes isPlaceholderServer).length).map fun p => (i, p)

abbrev Heap := Pointer → ProxyConfig

/-- The nodes once every fetch has labelled its own. -/
def fetchedHeap (fetches : List Fetch) : Heap := fun (i, p) =>
  match fetches[i]? with
  | none => {}
  | some fetch => ((fetch.nodes isPlaceholderServer)[p]?).getD {}

/-- `subscriptionResult`. -/
structure SubscriptionResult where
  url : Text := []
  name : Text := []
  configs : List Pointer := []
  error : Option Text := none
deriving DecidableEq

/-- What the fetch of a feed puts into the map of the results. -/
def subscriptionResult (i : Nat) (fetch : Fetch) : SubscriptionResult :=
  match readFromFeed isPlaceholderServer fetch with
  | .error text => { url := fetch.feed.url, error := some text }
  | .ok (_, name) =>
      { url := fetch.feed.url, name := name
        configs := fetch.pointers isPlaceholderServer i }

/-- One fetch completes. -/
def complete (fetches : List Fetch)
    (resultMap : GoMap Text SubscriptionResult) (i : Nat) :
    GoMap Text SubscriptionResult :=
  match fetches[i]? with
  | none => resultMap
  | some fetch => resultMap.insert fetch.feed.url
      (subscriptionResult isPlaceholderServer i fetch)

/-- The results when every fetch has completed, in this order. -/
def resultMap (fetches : List Fetch) (order : List Nat) :
    GoMap Text SubscriptionResult :=
  order.foldl (complete isPlaceholderServer fetches) ∅

end Read

/-- What the loop over the feeds gathers. -/
structure Gathered where
  allConfigs : List Pointer := []
  errors : List (Text × Text) := []
  firstName : Text := []
  successCount : Nat := 0
deriving DecidableEq

/-- One iteration of that loop. -/
def gatherStep (results : GoMap Text SubscriptionResult) (acc : Gathered)
    (feed : Feed) : Gathered :=
  let result := results[feed.url]?.getD {}
  match result.error with
  | some text => { acc with errors := acc.errors ++ [(result.url, text)] }
  | none =>
      { acc with
        allConfigs := acc.allConfigs ++ result.configs
        firstName :=
          if acc.firstName = [] then result.name else acc.firstName
        successCount := acc.successCount + 1 }

/-- `allConfigs[i].Index = i`, through the pointers. -/
def assignIndexes (allConfigs : List Pointer) (heap : Heap) : Heap :=
  allConfigs.zipIdx.foldl (fun heap (pointer, i) =>
    Function.update heap pointer { heap pointer with index := i }) heap

inductive FeedsError where
  | noURLs
  | failed (text : Text)
  | allFailed (errors : List (Text × Text))

/-- The nodes `ReadFromFeeds` returns, what their pointers lead to, and the
subscription name it sets. -/
structure Fetched where
  nodes : List Pointer
  heap : Heap
  subscriptionName : Option Text

/-- A name is set unless it is empty. -/
def nameToSet (name : Text) : Option Text :=
  if name = [] then none else some name

/-- `ReadFromFeeds`, the fetches completing in the given order. -/
def readFromFeeds (isPlaceholderServer : Text → Bool) (fetches : List Fetch)
    (order : List Nat) : Except FeedsError Fetched :=
  match fetches with
  | [] => .error .noURLs
  | [fetch] =>
      match readFromFeed isPlaceholderServer fetch with
      | .error text => .error (.failed text)
      | .ok (_, name) =>
          .ok
            { nodes := fetch.pointers isPlaceholderServer 0
              heap := fetchedHeap isPlaceholderServer fetches
              subscriptionName := nameToSet name }
  | fetches =>
      let gathered := (fetches.map Fetch.feed).foldl
        (gatherStep (resultMap isPlaceholderServer fetches order)) {}
      if gathered.successCount = 0 then .error (.allFailed gathered.errors)
      else
        .ok
          { nodes := gathered.allConfigs
            heap := assignIndexes gathered.allConfigs
              (fetchedHeap isPlaceholderServer fetches)
            subscriptionName := nameToSet gathered.firstName }

section Ownership

variable (isPlaceholderServer : Text → Bool) (digest : Text → Text)

/-- The nodes of every feed in feed order, as its own fetch labelled them. -/
def offered (fetches : List Fetch) : List (Pointer × ProxyConfig) :=
  fetches.zipIdx.flatMap fun (fetch, i) =>
    (fetch.nodes isPlaceholderServer).zipIdx.map fun (cfg, p) => ((i, p), cfg)

/-- What is returned are the nodes of the feeds that succeeded, each one once
and with the labels of its feed.  After the copies are dropped, a node that
one of the first `environment` feeds offers has no source. -/
structure OwnFeeds (environment : Nat) (fetches : List Fetch)
    (fetched : Fetched) : Prop where
  nodes : fetched.nodes = (offered isPlaceholderServer fetches).map Prod.fst
  once : fetched.nodes.Nodup
  labels : ∀ node ∈ offered isPlaceholderServer fetches,
    { fetched.heap node.1 with index := node.2.index } = node.2
  unsourced : ∀ kept, some kept ∈ (deduplicateByStableID digest
      (fetched.nodes.map fun pointer => some (fetched.heap pointer))).1 →
    (∃ node ∈ offered isPlaceholderServer fetches, node.1.1 < environment ∧
      copyKey digest node.2 = copyKey digest kept) →
    kept.sourceID = []

/-- `ReadFromFeeds` fails only if every feed does. -/
def Answers (environment : Nat) (fetches : List Fetch) :
    Except FeedsError Fetched → Prop
  | .ok fetched =>
      OwnFeeds isPlaceholderServer digest environment fetches fetched
  | .error _ => ∀ fetch ∈ fetches, fetch.succeeds isPlaceholderServer = false

/-- No two feeds of one URL yield nodes, and if a fetch succeeds then all
those of some URL do. -/
structure Separate (fetches : List Fetch) : Prop where
  apart : ∀ (i j : Nat) (a b : Fetch), i ≠ j →
    fetches[i]? = some a → fetches[j]? = some b →
    a.feed.url = b.feed.url → a.nodes isPlaceholderServer = []
  answered : (∃ a ∈ fetches, a.succeeds isPlaceholderServer = true) →
    ∃ a ∈ fetches, ∀ b ∈ fetches, b.feed.url = a.feed.url →
      b.succeeds isPlaceholderServer = true

end Ownership

section Results

variable {isPlaceholderServer : Text → Bool} {fetches : List Fetch}

theorem complete_of_get {results : GoMap Text SubscriptionResult} {i : Nat}
    {fetch : Fetch} (h : fetches[i]? = some fetch) :
    complete isPlaceholderServer fetches results i =
      results.insert fetch.feed.url
        (subscriptionResult isPlaceholderServer i fetch) := by
  rw [complete, h]

/-- The result under a URL is that of the last fetch of this URL. -/
theorem foldl_complete (results : GoMap Text SubscriptionResult)
    (order : List Nat) {i : Nat} {fetch : Fetch} (hi : i ∈ order)
    (hfetch : fetches[i]? = some fetch) :
    ∃ l ∈ order, ∃ last, fetches[l]? = some last ∧
      last.feed.url = fetch.feed.url ∧
      (order.foldl (complete isPlaceholderServer fetches)
        results)[fetch.feed.url]? =
          some (subscriptionResult isPlaceholderServer l last) := by
  induction order using List.reverseRecOn with
  | nil => exact absurd hi List.not_mem_nil
  | append_singleton before l ih =>
      rw [List.foldl_concat]
      cases hlast : fetches[l]? with
      | none =>
          have hbefore : i ∈ before := by
            rcases List.mem_append.mp hi with hbefore | hl
            · exact hbefore
            · rw [List.mem_singleton.mp hl, hlast] at hfetch
              exact nomatch hfetch
          obtain ⟨k, hk, last, hget, hurl, hresult⟩ := ih hbefore
          refine ⟨k, List.mem_append_left _ hk, last, hget, hurl, ?_⟩
          rw [complete, hlast]
          exact hresult
      | some last =>
          rw [complete_of_get hlast, GoMap.get_insert]
          by_cases hurl : last.feed.url = fetch.feed.url
          · rw [if_pos hurl]
            exact ⟨l, by simp, last, hlast, hurl, rfl⟩
          · rw [if_neg hurl]
            have hbefore : i ∈ before := by
              rcases List.mem_append.mp hi with hbefore | hl
              · exact hbefore
              · rw [List.mem_singleton.mp hl, hlast] at hfetch
                exact absurd (congrArg (·.feed.url)
                  (Option.some.inj hfetch)) hurl
            obtain ⟨k, hk, other, hget, hsame, hresult⟩ := ih hbefore
            exact ⟨k, List.mem_append_left _ hk, other, hget, hsame, hresult⟩

/-- The loop over the feeds, feed by feed. -/
theorem gather_eq (results : GoMap Text SubscriptionResult)
    (feeds : List Feed) (start : Gathered) :
    (feeds.foldl (gatherStep results) start).allConfigs =
        start.allConfigs ++ feeds.flatMap (fun feed =>
          if (results[feed.url]?.getD {}).error.isNone then
            (results[feed.url]?.getD {}).configs
          else []) ∧
      (feeds.foldl (gatherStep results) start).successCount =
        start.successCount + feeds.countP fun feed =>
          (results[feed.url]?.getD {}).error.isNone := by
  induction feeds generalizing start with
  | nil => simp
  | cons feed rest ih =>
      rw [List.foldl_cons, (ih _).1, (ih _).2, List.flatMap_cons,
        List.countP_cons, gatherStep]
      cases (results[feed.url]?.getD {}).error with
      | none =>
          simp only [Option.isNone_none, ↓reduceIte, List.append_assoc,
            true_and]
          omega
      | some text => simp

end Results

section Offered

variable {isPlaceholderServer : Text → Bool} {fetches : List Fetch}

theorem subscriptionResult_error (i : Nat) (fetch : Fetch) :
    (subscriptionResult isPlaceholderServer i fetch).error.isNone =
      fetch.succeeds isPlaceholderServer := by
  rw [subscriptionResult, Fetch.succeeds]
  cases readFromFeed isPlaceholderServer fetch <;> rfl

theorem nodes_of_failed {fetch : Fetch}
    (h : fetch.succeeds isPlaceholderServer = false) :
    fetch.nodes isPlaceholderServer = [] := by
  rw [Fetch.succeeds] at h
  rw [Fetch.nodes]
  cases hread : readFromFeed isPlaceholderServer fetch with
  | error text => rfl
  | ok read =>
      rw [hread] at h
      exact Bool.noConfusion h

theorem pointers_of_no_nodes {fetch : Fetch} (i : Nat)
    (h : fetch.nodes isPlaceholderServer = []) :
    fetch.pointers isPlaceholderServer i = [] := by
  rw [Fetch.pointers, h]
  rfl

theorem subscriptionResult_configs (i : Nat) (fetch : Fetch) :
    (subscriptionResult isPlaceholderServer i fetch).configs =
      fetch.pointers isPlaceholderServer i := by
  rw [subscriptionResult]
  cases hread : readFromFeed isPlaceholderServer fetch with
  | error text =>
      have hfailed : fetch.succeeds isPlaceholderServer = false := by
        rw [Fetch.succeeds, hread]
        rfl
      exact (pointers_of_no_nodes i (nodes_of_failed hfailed)).symm
  | ok read => rfl

theorem mem_offered {node : Pointer × ProxyConfig} :
    node ∈ offered isPlaceholderServer fetches ↔
      ∃ fetch, fetches[node.1.1]? = some fetch ∧
        (fetch.nodes isPlaceholderServer)[node.1.2]? = some node.2 := by
  rw [offered, List.mem_flatMap]
  constructor
  · rintro ⟨⟨fetch, i⟩, hfetch, hnode⟩
    obtain ⟨⟨cfg, p⟩, hcfg, rfl⟩ := List.mem_map.mp hnode
    exact ⟨fetch, List.mem_zipIdx_iff_getElem?.mp hfetch,
      List.mem_zipIdx_iff_getElem?.mp hcfg⟩
  · rintro ⟨fetch, hfetch, hcfg⟩
    exact ⟨(fetch, node.1.1), List.mem_zipIdx_iff_getElem?.mpr hfetch,
      List.mem_map.mpr ⟨(node.2, node.1.2),
        List.mem_zipIdx_iff_getElem?.mpr hcfg, rfl⟩⟩

theorem offered_pointers :
    (offered isPlaceholderServer fetches).map Prod.fst =
      fetches.zipIdx.flatMap fun (fetch, i) =>
        fetch.pointers isPlaceholderServer i := by
  rw [offered, List.map_flatMap]
  congr 1
  funext (fetch, i)
  have hrange : (fetch.nodes isPlaceholderServer).zipIdx.map Prod.snd =
      List.range (fetch.nodes isPlaceholderServer).length := by
    rw [List.zipIdx_map_snd, List.range_eq_range']
  change _ = fetch.pointers isPlaceholderServer i
  rw [Fetch.pointers, ← hrange, List.map_map, List.map_map]
  rfl

/-- Where the nodes of a feed stand among those of all feeds. -/
def Before (a b : Pointer × ProxyConfig) : Prop :=
  a.1.1 < b.1.1 ∨ a.1.1 = b.1.1 ∧ a.1.2 < b.1.2

theorem zipIdx_pairwise {α : Type} (items : List α) :
    items.zipIdx.Pairwise fun a b => a.2 < b.2 := by
  rw [List.pairwise_iff_getElem]
  intro i j hi hj hij
  simpa using hij

theorem offered_pairwise :
    (offered isPlaceholderServer fetches).Pairwise Before := by
  rw [offered, List.pairwise_flatMap]
  constructor
  · rintro ⟨fetch, i⟩ -
    rw [List.pairwise_map]
    exact (zipIdx_pairwise _).imp fun hlt => Or.inr ⟨rfl, hlt⟩
  · refine (zipIdx_pairwise fetches).imp ?_
    rintro ⟨a, i⟩ ⟨b, j⟩ hlt x hx y hy
    obtain ⟨-, -, rfl⟩ := List.mem_map.mp hx
    obtain ⟨-, -, rfl⟩ := List.mem_map.mp hy
    exact Or.inl hlt

theorem offered_nodup :
    ((offered isPlaceholderServer fetches).map Prod.fst).Nodup := by
  rw [List.nodup_iff_pairwise_ne, List.pairwise_map]
  refine offered_pairwise.imp ?_
  rintro a b hbefore hsame
  rw [Before, hsame] at hbefore
  omega

theorem fetchedHeap_offered {node : Pointer × ProxyConfig}
    (h : node ∈ offered isPlaceholderServer fetches) :
    fetchedHeap isPlaceholderServer fetches node.1 = node.2 := by
  obtain ⟨fetch, hfetch, hcfg⟩ := mem_offered.mp h
  rw [fetchedHeap, hfetch]
  simp only [hcfg, Option.getD_some]

/-- The loop over the indexes changes nothing but the indexes. -/
theorem assignIndexes_same (allConfigs : List Pointer) (heap : Heap)
    (pointer : Pointer) (k : Int) :
    { assignIndexes allConfigs heap pointer with index := k } =
      { heap pointer with index := k } := by
  rw [assignIndexes]
  induction allConfigs.zipIdx generalizing heap with
  | nil => rfl
  | cons head rest ih =>
      obtain ⟨target, i⟩ := head
      rw [List.foldl_cons, ih]
      by_cases hpointer : pointer = target
      · simp only [hpointer, Function.update_self]
      · simp only [Function.update_of_ne hpointer]

/-- The node of a pointer among the nodes of the feeds, wherever the labels
are kept. -/
theorem unsourced_of_first {digest : Text → Text} {heap : Heap}
    {environment : Nat}
    (hlabels : ∀ node ∈ offered isPlaceholderServer fetches,
      { heap node.1 with index := node.2.index } = node.2)
    (henvironment : ∀ node ∈ offered isPlaceholderServer fetches,
      node.1.1 < environment → node.2.sourceID = [])
    {kept : ProxyConfig}
    (hkept : some kept ∈ (deduplicateByStableID digest
      (((offered isPlaceholderServer fetches).map Prod.fst).map fun pointer =>
        some (heap pointer))).1)
    (hshared : ∃ node ∈ offered isPlaceholderServer fetches,
      node.1.1 < environment ∧
        copyKey digest node.2 = copyKey digest kept) :
    kept.sourceID = [] := by
  obtain ⟨before, after, hsplit, hfirst⟩ := deduplicateByStableID_first hkept
  rw [List.map_map, List.map_eq_append_iff] at hsplit
  obtain ⟨front, back, hoffered, rfl, hback⟩ := hsplit
  obtain ⟨own, rest, rfl, hown, rfl⟩ := List.map_eq_cons_iff.mp hback
  obtain ⟨node, hnode, henv, hkey⟩ := hshared
  have hownmem : own ∈ offered isPlaceholderServer fetches := by
    rw [hoffered]
    simp
  have hownkept : heap own.1 = kept := Option.some.inj hown
  have hsource : kept.sourceID = own.2.sourceID := by
    rw [← hownkept, ← hlabels own hownmem]
  have hsamekey : copyKey digest (heap node.1) =
      copyKey digest kept := by
    rw [← hkey, ← hlabels node hnode]
    rfl
  -- The first node of the identity stands no later than the one offered.
  have hle : own.1.1 ≤ node.1.1 := by
    have hpairwise := @offered_pairwise isPlaceholderServer fetches
    rw [hoffered] at hnode hpairwise
    rcases List.mem_append.mp hnode with hfront | hrest
    · exact absurd hsamekey
        (hfirst _ (List.mem_map.mpr ⟨node, hfront, rfl⟩))
    · rcases List.mem_cons.mp hrest with rfl | hlater
      · exact le_rfl
      · have hbefore := (List.pairwise_cons.mp
          (List.pairwise_append.mp hpairwise).2.1).1 node hlater
        rw [Before] at hbefore
        omega
  rw [hsource]
  exact henvironment own hownmem (by omega)

end Offered

section Orders

variable {isPlaceholderServer : Text → Bool} {digest : Text → Text}
  {fetches : List Fetch} {order : List Nat} {environment : Nat}

/-- The result the loop reads for a feed. -/
def readBack (isPlaceholderServer : Text → Bool) (fetches : List Fetch)
    (order : List Nat) (feed : Feed) : SubscriptionResult :=
  ((resultMap isPlaceholderServer fetches order)[feed.url]?).getD {}

theorem readBack_of_mem (isPlaceholderServer : Text → Bool) {i : Nat}
    {fetch : Fetch} (before : List Nat) {after : List Nat} (hi : i ∈ after)
    (hfetch : fetches[i]? = some fetch) :
    ∃ l ∈ after, ∃ last, fetches[l]? = some last ∧
      last.feed.url = fetch.feed.url ∧
      readBack isPlaceholderServer fetches (before ++ after) fetch.feed =
        subscriptionResult isPlaceholderServer l last := by
  obtain ⟨l, hl, last, hlast, hurl, hresult⟩ :=
    @foldl_complete isPlaceholderServer fetches
      (resultMap isPlaceholderServer fetches before) after i fetch hi hfetch
  refine ⟨l, hl, last, hlast, hurl, ?_⟩
  rw [readBack, resultMap, List.foldl_append]
  change Option.getD ((after.foldl (complete isPlaceholderServer fetches)
    (resultMap isPlaceholderServer fetches before))[fetch.feed.url]?) {} = _
  rw [hresult]
  rfl

/-- What several feeds hand back: the pointers read back for each of them,
unless every one of them failed. -/
theorem readFromFeeds_many (hmany : 2 ≤ fetches.length) :
    readFromFeeds isPlaceholderServer fetches order =
      let gathered := (fetches.map Fetch.feed).foldl
        (gatherStep (resultMap isPlaceholderServer fetches order)) {}
      if gathered.successCount = 0 then .error (.allFailed gathered.errors)
      else
        .ok
          { nodes := gathered.allConfigs
            heap := assignIndexes gathered.allConfigs
              (fetchedHeap isPlaceholderServer fetches)
            subscriptionName := nameToSet gathered.firstName } := by
  match fetches, hmany with
  | _ :: _ :: _, _ => rfl

theorem gathered_nodes :
    ((fetches.map Fetch.feed).foldl
        (gatherStep (resultMap isPlaceholderServer fetches order))
        {}).allConfigs =
      fetches.zipIdx.flatMap fun (fetch, _) =>
        if (readBack isPlaceholderServer fetches order
            fetch.feed).error.isNone then
          (readBack isPlaceholderServer fetches order fetch.feed).configs
        else [] := by
  have hzip : ∀ g : Fetch → List Pointer,
      fetches.flatMap g = fetches.zipIdx.flatMap fun entry => g entry.1 := by
    intro g
    conv_lhs => rw [← List.zipIdx_map_fst 0 fetches, List.flatMap_map]
  rw [(gather_eq _ _ _).1, List.flatMap_map, hzip]
  rfl

theorem gathered_success :
    ((fetches.map Fetch.feed).foldl
        (gatherStep (resultMap isPlaceholderServer fetches order))
        {}).successCount = 0 ↔
      ∀ fetch ∈ fetches, (readBack isPlaceholderServer fetches order
        fetch.feed).error.isNone = false := by
  rw [(gather_eq _ _ _).2, Nat.zero_add, List.countP_eq_zero,
    List.forall_mem_map]
  simp only [readBack, Bool.not_eq_true]

/-- In whatever order the fetches complete, separate feeds get their own
nodes back. -/
theorem Separate.answers (h : Separate isPlaceholderServer fetches)
    (hmany : 2 ≤ fetches.length)
    (horder : order.Perm (List.range fetches.length))
    (henvironment : ∀ node ∈ offered isPlaceholderServer fetches,
      node.1.1 < environment → node.2.sourceID = []) :
    Answers isPlaceholderServer digest environment fetches
      (readFromFeeds isPlaceholderServer fetches order) := by
  have hread : ∀ (i : Nat) (fetch : Fetch), fetches[i]? = some fetch →
      ∃ l last, fetches[l]? = some last ∧ last.feed.url = fetch.feed.url ∧
        readBack isPlaceholderServer fetches order fetch.feed =
          subscriptionResult isPlaceholderServer l last := by
    intro i fetch hfetch
    have hi : i ∈ order := horder.mem_iff.mpr
      (List.mem_range.mpr (List.getElem?_eq_some_iff.mp hfetch).1)
    obtain ⟨l, -, hrest⟩ := readBack_of_mem isPlaceholderServer [] hi hfetch
    exact ⟨l, hrest⟩
  have hnodes : ((fetches.map Fetch.feed).foldl
      (gatherStep (resultMap isPlaceholderServer fetches order))
      {}).allConfigs = (offered isPlaceholderServer fetches).map Prod.fst := by
    rw [gathered_nodes, offered_pointers]
    apply List.flatMap_congr
    rintro ⟨fetch, i⟩ hmem
    have hfetch := List.mem_zipIdx_iff_getElem?.mp hmem
    obtain ⟨l, last, hlast, hurl, hresult⟩ := hread i fetch hfetch
    have hown : last.pointers isPlaceholderServer l =
        fetch.pointers isPlaceholderServer i := by
      by_cases hsame : i = l
      · rw [hsame] at hfetch ⊢
        rw [Option.some.inj (hlast.symm.trans hfetch)]
      · rw [pointers_of_no_nodes i (h.apart i l fetch last hsame hfetch hlast
          hurl.symm), pointers_of_no_nodes l (h.apart l i last fetch
          (Ne.symm hsame) hlast hfetch hurl)]
    change (if (readBack isPlaceholderServer fetches order
      fetch.feed).error.isNone then _ else _) =
        fetch.pointers isPlaceholderServer i
    rw [hresult, subscriptionResult_error, subscriptionResult_configs]
    split
    · exact hown
    next hfailed =>
      rw [← hown, pointers_of_no_nodes l
        (nodes_of_failed (Bool.eq_false_iff.mpr hfailed))]
  rw [readFromFeeds_many hmany]
  dsimp only
  split
  next hnone =>
    rw [gathered_success] at hnone
    intro fetch hmem
    by_contra hsucceeds
    obtain ⟨a, ha, hall⟩ := h.answered
      ⟨fetch, hmem, by simpa using hsucceeds⟩
    obtain ⟨i, hi⟩ := List.mem_iff_getElem?.mp ha
    obtain ⟨l, last, hlast, hurl, hresult⟩ := hread i a hi
    have hfailed := hnone a ha
    rw [hresult, subscriptionResult_error,
      hall last (List.mem_of_getElem? hlast) hurl] at hfailed
    exact Bool.noConfusion hfailed
  next =>
    have hlabels : ∀ node ∈ offered isPlaceholderServer fetches,
        { assignIndexes ((offered isPlaceholderServer fetches).map Prod.fst)
            (fetchedHeap isPlaceholderServer fetches) node.1 with
          index := node.2.index } = node.2 := by
      intro node hnode
      rw [assignIndexes_same, fetchedHeap_offered hnode]
    rw [hnodes]
    exact ⟨rfl, offered_nodup, hlabels, fun kept hkept hshared =>
      unsourced_of_first hlabels henvironment hkept hshared⟩

theorem perm_last {n i : Nat} (hi : i < n) :
    ((List.range n).erase i ++ [i]).Perm (List.range n) :=
  (List.perm_append_singleton i _).trans
    (List.perm_cons_erase (List.mem_range.mpr hi)).symm

theorem disjoint_of_nodup_flatMap {α β : Type} {f : α → List β}
    {items : List α} (h : (items.flatMap f).Nodup) {a b : α} (ha : a ∈ items)
    (hb : b ∈ items) (hne : a ≠ b) : (f a).Disjoint (f b) :=
  have : Std.Symm (Function.onFun List.Disjoint f) :=
    ⟨fun _ _ hdisjoint => hdisjoint.symm⟩
  (List.nodup_flatMap.mp h).2.forall ha hb hne

/-- If nodes come back whatever fetch completes last, feeds of one URL yield
no nodes. -/
theorem apart_of_answers (hmany : 2 ≤ fetches.length)
    (h : ∀ order : List Nat, order.Perm (List.range fetches.length) →
      Answers isPlaceholderServer digest environment fetches
        (readFromFeeds isPlaceholderServer fetches order))
    {i j : Nat} {a b : Fetch} (hne : i ≠ j) (ha : fetches[i]? = some a)
    (hb : fetches[j]? = some b) (hurl : a.feed.url = b.feed.url) :
    a.nodes isPlaceholderServer = [] := by
  by_contra hnodes
  have hi := (List.getElem?_eq_some_iff.mp ha).1
  have hanswers := h _ (perm_last hi)
  have hback : ∀ (k : Nat) (fetch : Fetch), fetches[k]? = some fetch →
      fetch.feed.url = a.feed.url →
      readBack isPlaceholderServer fetches
        ((List.range fetches.length).erase i ++ [i]) fetch.feed =
          subscriptionResult isPlaceholderServer i a := by
    intro k fetch hfetch hsame
    obtain ⟨l, hl, last, hlast, -, hresult⟩ :=
      readBack_of_mem isPlaceholderServer ((List.range fetches.length).erase i)
        (List.mem_singleton_self i) ha
    rw [List.mem_singleton.mp hl] at hlast hresult
    obtain rfl := Option.some.inj (ha.symm.trans hlast)
    rw [← hresult, readBack, readBack, hsame]
  have hsucceeds : a.succeeds isPlaceholderServer = true := by
    by_contra hfailed
    exact hnodes (nodes_of_failed (Bool.eq_false_iff.mpr hfailed))
  rw [readFromFeeds_many hmany] at hanswers
  dsimp only at hanswers
  split at hanswers
  · rw [hanswers a (List.mem_of_getElem? ha)] at hsucceeds
    exact Bool.noConfusion hsucceeds
  · have hnodup := hanswers.once
    rw [gathered_nodes] at hnodup
    have hentries : (a, i) ≠ (b, j) :=
      fun hsame => hne (congrArg Prod.snd hsame)
    have hdisjoint := disjoint_of_nodup_flatMap hnodup
      (List.mem_zipIdx_iff_getElem?.mpr ha)
      (List.mem_zipIdx_iff_getElem?.mpr hb) hentries
    have hfirst : (i, 0) ∈ a.pointers isPlaceholderServer i := by
      rw [Fetch.pointers, List.mem_map]
      exact ⟨0, List.mem_range.mpr (List.length_pos_of_ne_nil hnodes), rfl⟩
    have hread : ∀ (k : Nat) (fetch : Fetch), fetches[k]? = some fetch →
        fetch.feed.url = a.feed.url →
        (i, 0) ∈ if (readBack isPlaceholderServer fetches
            ((List.range fetches.length).erase i ++ [i])
            fetch.feed).error.isNone then
          (readBack isPlaceholderServer fetches
            ((List.range fetches.length).erase i ++ [i]) fetch.feed).configs
        else [] := by
      intro k fetch hfetch hsame
      rw [hback k fetch hfetch hsame, subscriptionResult_error, hsucceeds,
        subscriptionResult_configs]
      exact hfirst
    exact hdisjoint (hread i a ha rfl) (hread j b hb hurl.symm)

/-- If an answer comes back when the failing fetches complete last, all the
fetches of some URL succeed. -/
theorem answered_of_answers (hmany : 2 ≤ fetches.length)
    (h : ∀ order : List Nat, order.Perm (List.range fetches.length) →
      Answers isPlaceholderServer digest environment fetches
        (readFromFeeds isPlaceholderServer fetches order))
    (hsome : ∃ a ∈ fetches, a.succeeds isPlaceholderServer = true) :
    ∃ a ∈ fetches, ∀ b ∈ fetches, b.feed.url = a.feed.url →
      b.succeeds isPlaceholderServer = true := by
  by_contra hnone
  push Not at hnone
  let fails : Nat → Bool := fun i =>
    fetches[i]?.any fun fetch => !fetch.succeeds isPlaceholderServer
  have hperm : ((List.range fetches.length).filter (fun i => !fails i) ++
      (List.range fetches.length).filter fails).Perm
      (List.range fetches.length) :=
    List.perm_append_comm.trans (List.filter_append_perm fails _)
  have hanswers := h _ hperm
  rw [readFromFeeds_many hmany] at hanswers
  dsimp only at hanswers
  rw [if_pos] at hanswers
  · obtain ⟨a, ha, hsucceeds⟩ := hsome
    rw [hanswers a ha] at hsucceeds
    exact Bool.noConfusion hsucceeds
  · rw [gathered_success]
    intro fetch hmem
    obtain ⟨b, hb, hurl, hfailed⟩ := hnone fetch hmem
    obtain ⟨j, hj⟩ := List.mem_iff_getElem?.mp hb
    have hfails : j ∈ (List.range fetches.length).filter fails := by
      rw [List.mem_filter, List.mem_range]
      refine ⟨(List.getElem?_eq_some_iff.mp hj).1, ?_⟩
      simpa [fails, hj] using hfailed
    obtain ⟨l, hl, last, hlast, -, hresult⟩ :=
      readBack_of_mem isPlaceholderServer
        ((List.range fetches.length).filter fun i => !fails i) hfails hj
    have hlastfails : last.succeeds isPlaceholderServer = false := by
      have hfilter := (List.mem_filter.mp hl).2
      simpa [fails, hlast] using hfilter
    rw [readBack, ← hurl, ← readBack, hresult, subscriptionResult_error,
      hlastfails]

/-- One feed gets its own nodes back. -/
theorem answers_one (fetch : Fetch)
    (henvironment : ∀ node ∈ offered isPlaceholderServer [fetch],
      node.1.1 < environment → node.2.sourceID = []) :
    Answers isPlaceholderServer digest environment [fetch]
      (readFromFeeds isPlaceholderServer [fetch] order) := by
  rw [readFromFeeds]
  cases hread : readFromFeed isPlaceholderServer fetch with
  | error text =>
      intro other hother
      rw [List.mem_singleton.mp hother, Fetch.succeeds, hread]
      rfl
  | ok read =>
      have hnodes : fetch.pointers isPlaceholderServer 0 =
          (offered isPlaceholderServer [fetch]).map Prod.fst := by
        rw [offered_pointers]
        exact (List.append_nil _).symm
      have hlabels : ∀ node ∈ offered isPlaceholderServer [fetch],
          { fetchedHeap isPlaceholderServer [fetch] node.1 with
            index := node.2.index } = node.2 := by
        intro node hnode
        rw [fetchedHeap_offered hnode]
      dsimp only
      rw [hnodes]
      exact ⟨rfl, offered_nodup, hlabels, fun kept hkept hshared =>
        unsourced_of_first hlabels henvironment hkept hshared⟩

theorem separate_one (fetch : Fetch) :
    Separate isPlaceholderServer [fetch] where
  apart i j a b hne ha hb := by
    have hi := (List.getElem?_eq_some_iff.mp ha).1
    have hj := (List.getElem?_eq_some_iff.mp hb).1
    simp only [List.length_singleton] at hi hj
    omega
  answered := by
    rintro ⟨a, ha, hsucceeds⟩
    refine ⟨a, ha, fun b hb _ => ?_⟩
    rw [List.mem_singleton.mp hb, ← List.mem_singleton.mp ha, hsucceeds]

/-- Every feed gets its own nodes back in every order of completion exactly
when the feeds are separate. -/
theorem answers_iff_separate
    (henvironment : ∀ node ∈ offered isPlaceholderServer fetches,
      node.1.1 < environment → node.2.sourceID = []) :
    (∀ order : List Nat, order.Perm (List.range fetches.length) →
      Answers isPlaceholderServer digest environment fetches
        (readFromFeeds isPlaceholderServer fetches order)) ↔
      Separate isPlaceholderServer fetches := by
  match fetches with
  | [] =>
      refine iff_of_true (fun _ _ fetch hfetch =>
        absurd hfetch List.not_mem_nil) ⟨?_, ?_⟩
      · intro i j a b _ ha
        exact nomatch ha
      · rintro ⟨a, ha, -⟩
        exact absurd ha List.not_mem_nil
  | [fetch] =>
      exact iff_of_true (fun _ _ => answers_one fetch henvironment)
        (separate_one fetch)
  | first :: second :: rest =>
      have hmany : 2 ≤ (first :: second :: rest).length := by
        simp only [List.length_cons]
        omega
      constructor
      · intro h
        exact ⟨fun i j a b hne ha hb hurl =>
            apart_of_answers hmany h hne ha hb hurl,
          answered_of_answers hmany h⟩
      · intro h order horder
        exact h.answers hmany horder henvironment

end Orders

/-- The feeds of a refresh with the outcomes of their fetches. -/
def fetched (urls : List Text) (sources : List Source)
    (outcome : Nat → Except Text ParseResult) : List Fetch :=
  (allSubscriptionFeeds urls sources).zipIdx.map fun (feed, i) =>
    { feed := feed, parsed := outcome i }

/-- The feeds of the environment come first and have no source. -/
theorem fetched_environment {isPlaceholderServer : Text → Bool}
    {urls : List Text} {sources : List Source}
    {outcome : Nat → Except Text ParseResult} {node : Pointer × ProxyConfig}
    (h : node ∈ offered isPlaceholderServer (fetched urls sources outcome))
    (henv : node.1.1 < urls.length) : node.2.sourceID = [] := by
  obtain ⟨fetch, hfetch, hcfg⟩ := mem_offered.mp h
  have hsource : fetch.feed.sourceID = [] := by
    rw [fetched, List.getElem?_map, List.getElem?_zipIdx, allSubscriptionFeeds,
      List.getElem?_append_left (by simpa [feedsFromURLs] using henv),
      feedsFromURLs, List.getElem?_map, List.getElem?_eq_getElem henv] at hfetch
    obtain rfl := Option.some.inj hfetch
    rfl
  have hmem := List.mem_of_getElem? hcfg
  rw [Fetch.nodes] at hmem
  split at hmem
  · exact absurd hmem List.not_mem_nil
  · obtain ⟨cfg, -, hlabelled⟩ := List.mem_map.mp hmem
    rw [← hlabelled]
    exact hsource

/-- In every order of completion each feed of a refresh gets its own nodes
back, and an environment node stays without a source, exactly when the feeds
are separate. -/
theorem refresh_reads_own_feeds (isPlaceholderServer : Text → Bool)
    (digest : Text → Text) (urls : List Text) (sources : List Source)
    (outcome : Nat → Except Text ParseResult) :
    (∀ order : List Nat,
      order.Perm (List.range (fetched urls sources outcome).length) →
      Answers isPlaceholderServer digest urls.length
        (fetched urls sources outcome)
        (readFromFeeds isPlaceholderServer (fetched urls sources outcome)
          order)) ↔
      Separate isPlaceholderServer (fetched urls sources outcome) :=
  answers_iff_separate fun _ hnode henv => fetched_environment hnode henv

namespace SameURL

/-- A source of the panel with the URL of the environment, read as Happ. -/
def source : Source where
  id := "src-1"
  url := "https://p/sub"
  name := "Panel"
  profile := { profile := clientProfileHapp }

/-- The panel answers each client with a node of its own. -/
def outcome (i : Nat) : Except Text ParseResult :=
  .ok
    { configs :=
        [some { protocol := "vless", server := if i = 0 then "a" else "b" }]
      name := "Own" }

def fetches : List Fetch :=
  fetched ["https://p/sub"] [source] outcome

/-- The fetch of the panel completes last: its node is returned for both
feeds, and the node of the environment is gone. -/
theorem same_url_swaps_nodes :
    [0, 1].Perm (List.range fetches.length) ∧
    ((fetches.map Fetch.feed).foldl
      (gatherStep (resultMap (fun _ => false) fetches [0, 1]))
      {}).allConfigs = [(1, 0), (1, 0)] ∧
    (fetchedHeap (fun _ => false) fetches (1, 0)).sourceID = "src-1".toList ∧
    ¬ Answers (fun _ => false) id 1 fetches
      (readFromFeeds (fun _ => false) fetches [0, 1]) := by
  have hconfigs : ((fetches.map Fetch.feed).foldl
      (gatherStep (resultMap (fun _ => false) fetches [0, 1]))
      {}).allConfigs = [(1, 0), (1, 0)] := by
    decide
  have hcount : ((fetches.map Fetch.feed).foldl
      (gatherStep (resultMap (fun _ => false) fetches [0, 1]))
      {}).successCount ≠ 0 := by
    decide
  refine ⟨by decide, hconfigs, by decide, ?_⟩
  rw [readFromFeeds_many (by decide)]
  dsimp only
  rw [if_neg hcount, hconfigs]
  intro h
  have hnodup := h.once
  exact absurd hnodup (by decide)

end SameURL

end XrayChecker.Subscription

import XrayChecker.Remnawave.Announce

/-
The texts of an announce: the configurable scenarios, their placeholders, and
the choice of a text that still fits when names are put into it.
-/

namespace XrayChecker.Remnawave

open Go

def messageTokenLocation : Text := "{location}"
def messageTokenLocations : Text := "{locations}"
def messageTokenUnavailable : Text := "{unavailable}"
def messageTokenAffected : Text := "{affected}"
def messageTokenTotal : Text := "{total}"

def defaultSingleLocationTemplate : Text :=
  "⚠️ Временно недоступна локация «{location}». " ++
    "Остальные доступные вам локации работают."
def defaultMultipleLocationsTemplate : Text :=
  "⚠️ Временно недоступны локации: {locations}. " ++
    "Остальные доступные вам локации работают."
def defaultAllLocationsTemplate : Text :=
  "⚠️ Все доступные вам локации временно недоступны. " ++
    "Идёт восстановление работы."
def defaultPartialSingleLocationTemplate : Text :=
  "⚠️ Часть серверов локации «{location}» временно недоступна. " ++
    "Если подключение не работает, выберите другой сервер этой локации."
def defaultPartialMultipleLocationsTemplate : Text :=
  "⚠️ Часть серверов временно недоступна в локациях: {locations}. " ++
    "Если подключение не работает, выберите другой сервер."
def defaultMaintenanceSingleLocationTemplate : Text :=
  "🔧 Серверы локации «{location}» находятся на обслуживании. " ++
    "Могут наблюдаться проблемы в работе."
def defaultMaintenanceMultipleLocationsTemplate : Text :=
  "🔧 Серверы локаций {locations} находятся на обслуживании. " ++
    "Могут наблюдаться проблемы в работе."
def defaultHealthyTemplate : Text := "Всё стабильно"
def defaultPartialFallbackTemplate : Text :=
  "⚠️ Временно недоступны несколько локаций. " ++
    "Остальные доступные вам локации работают."
def defaultPartialAvailabilityFallbackTemplate : Text :=
  "⚠️ Часть серверов в нескольких локациях временно недоступна. " ++
    "Если подключение не работает, выберите другой сервер."
def defaultMaintenanceFallbackTemplate : Text :=
  "🔧 Серверы в {affected} локациях находятся на обслуживании. " ++
    "Могут наблюдаться проблемы в работе."
def defaultMaintenanceMixedFallbackTemplate : Text :=
  "⚠️ Недоступны {unavailable} локаций; ещё {affected} локаций находятся " ++
    "на обслуживании. Могут наблюдаться проблемы в работе."

/-- What the placeholders of a template stand for. -/
structure MessageTemplateData where
  labels : List Text := []
  unavailable : Nat := 0
  affected : Nat := 0
  total : Nat := 0

def defaultMessageScenarios : MessageScenarios where
  singleLocation := ⟨true, defaultSingleLocationTemplate⟩
  multipleLocations := ⟨true, defaultMultipleLocationsTemplate⟩
  allLocations := ⟨true, defaultAllLocationsTemplate⟩
  partialSingleLocation := ⟨true, defaultPartialSingleLocationTemplate⟩
  partialMultipleLocations := ⟨true, defaultPartialMultipleLocationsTemplate⟩
  maintenanceSingleLocation := ⟨true, defaultMaintenanceSingleLocationTemplate⟩
  maintenanceMultipleLocations :=
    ⟨true, defaultMaintenanceMultipleLocationsTemplate⟩
  healthy := ⟨false, defaultHealthyTemplate⟩
  partialFallback := defaultPartialFallbackTemplate
  partialAvailabilityFallback := defaultPartialAvailabilityFallbackTemplate
  maintenanceFallback := defaultMaintenanceFallbackTemplate
  maintenanceMixedFallback := defaultMaintenanceMixedFallbackTemplate

/-- `strings.TrimSpace(text) == ""`. -/
def isBlank (text : Text) : Bool :=
  trimSpace text == []

def partialAvailabilityScenariosMissing (messages : MessageScenarios) : Bool :=
  isBlank messages.partialSingleLocation.template &&
    isBlank messages.partialMultipleLocations.template &&
    isBlank messages.partialAvailabilityFallback

def maintenanceScenariosMissing (messages : MessageScenarios) : Bool :=
  isBlank messages.maintenanceSingleLocation.template &&
    isBlank messages.maintenanceMultipleLocations.template &&
    isBlank messages.maintenanceFallback &&
    isBlank messages.maintenanceMixedFallback

def messageScenariosMissing (messages : MessageScenarios) : Bool :=
  isBlank messages.singleLocation.template &&
    isBlank messages.multipleLocations.template &&
    isBlank messages.allLocations.template &&
    isBlank messages.partialSingleLocation.template &&
    isBlank messages.partialMultipleLocations.template &&
    isBlank messages.maintenanceSingleLocation.template &&
    isBlank messages.maintenanceMultipleLocations.template &&
    isBlank messages.healthy.template &&
    isBlank messages.partialFallback &&
    isBlank messages.partialAvailabilityFallback &&
    isBlank messages.maintenanceFallback &&
    isBlank messages.maintenanceMixedFallback

def normalizeScenario (scenario fallback : MessageScenario) :
    MessageScenario :=
  if trimSpace scenario.template = [] then fallback
  else { scenario with template := trimSpace scenario.template }

def normalizeFallback (text fallback : Text) : Text :=
  if trimSpace text = [] then fallback else trimSpace text

def normalizeMessageScenarios (messages : MessageScenarios) :
    MessageScenarios :=
  let defaults := defaultMessageScenarios
  { singleLocation :=
      normalizeScenario messages.singleLocation defaults.singleLocation
    multipleLocations :=
      normalizeScenario messages.multipleLocations defaults.multipleLocations
    allLocations :=
      normalizeScenario messages.allLocations defaults.allLocations
    partialSingleLocation :=
      normalizeScenario messages.partialSingleLocation
        defaults.partialSingleLocation
    partialMultipleLocations :=
      normalizeScenario messages.partialMultipleLocations
        defaults.partialMultipleLocations
    maintenanceSingleLocation :=
      normalizeScenario messages.maintenanceSingleLocation
        defaults.maintenanceSingleLocation
    maintenanceMultipleLocations :=
      normalizeScenario messages.maintenanceMultipleLocations
        defaults.maintenanceMultipleLocations
    healthy := normalizeScenario messages.healthy defaults.healthy
    partialFallback :=
      normalizeFallback messages.partialFallback defaults.partialFallback
    partialAvailabilityFallback :=
      normalizeFallback messages.partialAvailabilityFallback
        defaults.partialAvailabilityFallback
    maintenanceFallback :=
      normalizeFallback messages.maintenanceFallback
        defaults.maintenanceFallback
    maintenanceMixedFallback :=
      normalizeFallback messages.maintenanceMixedFallback
        defaults.maintenanceMixedFallback }

def validateMessageTemplate (name value : Text) (allowed : List Text) :
    Except Text Unit := do
  reject (isBlank value) (name ++ " must not be empty")
  validateDisplayText name value maxMessageRunes
  let remaining :=
    allowed.foldl (fun remaining token => replaceAll remaining token [])
      value
  reject (containsAny remaining "\x7b\x7d")
    (name ++ " contains an unknown or unsupported placeholder")

/-- A scenario text to be checked: its field path, its value and the
placeholders it may use. -/
structure TemplateCheck where
  name : Text
  value : Text
  allowed : List Text

/-- The table `validateMessageScenarios` goes through, in its order. -/
def templateChecks (messages : MessageScenarios) : List TemplateCheck :=
  [ ⟨"messages.singleLocation.template", messages.singleLocation.template,
      [messageTokenLocation, messageTokenUnavailable, messageTokenTotal]⟩,
    ⟨"messages.multipleLocations.template",
      messages.multipleLocations.template,
      [messageTokenLocations, messageTokenUnavailable, messageTokenTotal]⟩,
    ⟨"messages.allLocations.template", messages.allLocations.template,
      [messageTokenUnavailable, messageTokenTotal]⟩,
    ⟨"messages.partialSingleLocation.template",
      messages.partialSingleLocation.template,
      [messageTokenLocation, messageTokenAffected, messageTokenTotal]⟩,
    ⟨"messages.partialMultipleLocations.template",
      messages.partialMultipleLocations.template,
      [messageTokenLocations, messageTokenAffected, messageTokenTotal]⟩,
    ⟨"messages.maintenanceSingleLocation.template",
      messages.maintenanceSingleLocation.template,
      [messageTokenLocation, messageTokenAffected, messageTokenTotal]⟩,
    ⟨"messages.maintenanceMultipleLocations.template",
      messages.maintenanceMultipleLocations.template,
      [messageTokenLocations, messageTokenAffected, messageTokenTotal]⟩,
    ⟨"messages.healthy.template", messages.healthy.template,
      [messageTokenUnavailable, messageTokenTotal]⟩,
    ⟨"messages.partialFallback", messages.partialFallback,
      [messageTokenUnavailable, messageTokenTotal]⟩,
    ⟨"messages.partialAvailabilityFallback",
      messages.partialAvailabilityFallback,
      [messageTokenAffected, messageTokenTotal]⟩,
    ⟨"messages.maintenanceFallback", messages.maintenanceFallback,
      [messageTokenAffected, messageTokenTotal]⟩,
    ⟨"messages.maintenanceMixedFallback", messages.maintenanceMixedFallback,
      [messageTokenUnavailable, messageTokenAffected, messageTokenTotal]⟩ ]

def validateMessageScenarios (messages : MessageScenarios) :
    Except Text Unit :=
  checkAll (fun check =>
    validateMessageTemplate check.name check.value check.allowed)
    (templateChecks messages)

/-- The text of a template with its placeholders filled in. -/
def expandTemplate (template : Text) (data : MessageTemplateData) : Text :=
  replacer
    [ (messageTokenLocation, data.labels.headD []),
      (messageTokenLocations,
        join (data.labels.map fun label => '«' :: label ++ "»") ", "),
      (messageTokenUnavailable, itoa data.unavailable),
      (messageTokenAffected, itoa data.affected),
      (messageTokenTotal, itoa data.total) ]
    template

def renderMessageTemplate (name template : Text)
    (data : MessageTemplateData) : Except Text Text := do
  validateDisplayText name (expandTemplate template data) maxMessageRunes
  return expandTemplate template data

/-- The names of the three texts a class of affected locations can be
announced with, as the errors give them. -/
structure ScenarioNames where
  single : Text
  multiple : Text
  fallback : Text

/-- The message for some affected locations: one has a text of its own, up to
three are named, and a text without names is used for more of them or when the
names do not fit. -/
def locationsMessage (names : ScenarioNames)
    (single multiple : MessageScenario) (fallback : Text)
    (data : MessageTemplateData) : Except Text Text :=
  if data.labels.length = 1 then
    if !single.enabled then .ok []
    else renderMessageTemplate names.single single.template data
  else if !multiple.enabled then .ok []
  else if data.labels.length ≤ 3 then
    match renderMessageTemplate names.multiple multiple.template data with
    | .ok message => .ok message
    | .error _ => renderMessageTemplate names.fallback fallback data
  else renderMessageTemplate names.fallback fallback data

def sortedLabels (groups : GoMap Text Text) : List Text :=
  sortStrings groups.values

def outageMessage (messages : MessageScenarios) (groups : GoMap Text Text)
    (totalGroups : Nat) : Except Text Text :=
  let labels := sortedLabels groups
  let data : MessageTemplateData :=
    { labels := labels, unavailable := labels.length, total := totalGroups }
  if 0 < totalGroups ∧ groups.size = totalGroups then
    if !messages.allLocations.enabled then .ok []
    else
      renderMessageTemplate "all-locations announce"
        messages.allLocations.template data
  else
    locationsMessage
      ⟨"single-location announce", "multiple-locations announce",
        "partial-outage fallback announce"⟩
      messages.singleLocation messages.multipleLocations
      messages.partialFallback data

def healthyMessage (messages : MessageScenarios) (totalGroups : Nat) :
    Except Text Text :=
  if !messages.healthy.enabled then .ok []
  else
    renderMessageTemplate "healthy announce" messages.healthy.template
      { total := totalGroups }

def partialAvailabilityMessage (messages : MessageScenarios)
    (groups : GoMap Text Text) (totalGroups : Nat) : Except Text Text :=
  let labels := sortedLabels groups
  locationsMessage
    ⟨"partial single-location announce",
      "partial multiple-locations announce",
      "partial-availability fallback announce"⟩
    messages.partialSingleLocation messages.partialMultipleLocations
    messages.partialAvailabilityFallback
    { labels := labels, affected := labels.length, total := totalGroups }

def maintenanceMessage (messages : MessageScenarios)
    (groups : GoMap Text Text) (totalGroups : Nat) : Except Text Text :=
  let labels := sortedLabels groups
  locationsMessage
    ⟨"maintenance single-location announce",
      "maintenance multiple-locations announce",
      "maintenance fallback announce"⟩
    messages.maintenanceSingleLocation messages.maintenanceMultipleLocations
    messages.maintenanceFallback
    { labels := labels, affected := labels.length, total := totalGroups }

def combineOutageAndMaintenanceMessages (messages : MessageScenarios)
    (outage maintenance : Text) (unavailable affected total : Nat) :
    Except Text Text :=
  if outage = [] then .ok maintenance
  else if maintenance = [] then .ok outage
  else
    let combined := outage ++ ' ' :: maintenance
    match validateDisplayText "combined outage and maintenance announce"
        combined maxMessageRunes with
    | .ok _ => .ok combined
    | .error _ =>
        renderMessageTemplate "mixed outage and maintenance fallback announce"
          messages.maintenanceMixedFallback
          { unavailable := unavailable, affected := affected, total := total }

/-- A text that may be published, possibly none. -/
abbrev Publishable (message : Text) : Prop :=
  Displayable message maxMessageRunes

theorem renderMessageTemplate_eq_ok {name template message : Text}
    {data : MessageTemplateData} :
    renderMessageTemplate name template data = .ok message ↔
      message = expandTemplate template data ∧ Publishable message := by
  rw [renderMessageTemplate, bind_unit_eq_ok, validateDisplayText_eq_ok]
  constructor
  · rintro ⟨hfits, hmessage⟩
    obtain rfl := Except.ok.inj hmessage
    exact ⟨rfl, hfits⟩
  · rintro ⟨rfl, hfits⟩
    exact ⟨hfits, rfl⟩

theorem locationsMessage_publishable {names : ScenarioNames}
    {single multiple : MessageScenario} {fallback message : Text}
    {data : MessageTemplateData}
    (h : locationsMessage names single multiple fallback data = .ok message) :
    Publishable message := by
  unfold locationsMessage at h
  split_ifs at h
  · obtain rfl := Except.ok.inj h
    exact displayable_nil _
  · exact (renderMessageTemplate_eq_ok.mp h).2
  · obtain rfl := Except.ok.inj h
    exact displayable_nil _
  · split at h
    · rename_i named hnamed
      obtain rfl := Except.ok.inj h
      exact (renderMessageTemplate_eq_ok.mp hnamed).2
    · exact (renderMessageTemplate_eq_ok.mp h).2
  · exact (renderMessageTemplate_eq_ok.mp h).2

theorem outageMessage_publishable {messages : MessageScenarios}
    {groups : GoMap Text Text} {total : Nat} {message : Text}
    (h : outageMessage messages groups total = .ok message) :
    Publishable message := by
  unfold outageMessage at h
  dsimp only at h
  split_ifs at h
  · obtain rfl := Except.ok.inj h
    exact displayable_nil _
  · exact (renderMessageTemplate_eq_ok.mp h).2
  · exact locationsMessage_publishable h

theorem healthyMessage_publishable {messages : MessageScenarios}
    {total : Nat} {message : Text}
    (h : healthyMessage messages total = .ok message) :
    Publishable message := by
  unfold healthyMessage at h
  split_ifs at h
  · obtain rfl := Except.ok.inj h
    exact displayable_nil _
  · exact (renderMessageTemplate_eq_ok.mp h).2

theorem combineOutageAndMaintenanceMessages_publishable
    {messages : MessageScenarios} {outage maintenance message : Text}
    {unavailable affected total : Nat} (houtage : Publishable outage)
    (hmaintenance : Publishable maintenance)
    (h : combineOutageAndMaintenanceMessages messages outage maintenance
      unavailable affected total = .ok message) :
    Publishable message := by
  unfold combineOutageAndMaintenanceMessages at h
  dsimp only at h
  split_ifs at h
  · obtain rfl := Except.ok.inj h
    exact hmaintenance
  · obtain rfl := Except.ok.inj h
    exact houtage
  · split at h
    · rename_i hcombined
      obtain rfl := Except.ok.inj h
      exact validateDisplayText_eq_ok.mp hcombined
    · exact (renderMessageTemplate_eq_ok.mp h).2

end XrayChecker.Remnawave

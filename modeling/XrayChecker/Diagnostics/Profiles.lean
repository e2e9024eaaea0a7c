import XrayChecker.Diagnostics.Types

/-
The catalogues shared by the controller and the agents: test profiles and
speed-test servers, both addressed by ID.  Labels, summaries and the places of
the servers are for display only and left out.
-/

namespace XrayChecker.Diagnostics

open Go

def capabilityControlV1 : Text := "control-v1"
def capabilityDiagnosticV1 : Text := "diagnostic-v1"
def capabilityDiagnosticV2 : Text := "diagnostic-v2"
def capabilitySpeedServersV1 : Text := "speed-servers-v1"

structure ProfileDescriptor where
  id : Text
  method : ProbeMethod
  capability : Text
  tunnelled : Bool
deriving DecidableEq

def profileIP : Text := "default-ip"
def profileStatus : Text := "default-status"
def profileDownload : Text := "default-download"
def profileLatency : Text := "default-latency"
def profileStability : Text := "default-stability"
def profileTLS : Text := "default-tls"
def profileDNS : Text := "default-dns"

def profileCatalogue : List ProfileDescriptor :=
  [⟨profileStatus, .status, capabilityDiagnosticV1, true⟩,
    ⟨profileIP, .ip, capabilityDiagnosticV1, true⟩,
    ⟨profileDownload, .download, capabilityDiagnosticV1, true⟩,
    ⟨profileLatency, .latency, capabilityDiagnosticV2, true⟩,
    ⟨profileStability, .stability, capabilityDiagnosticV2, true⟩,
    ⟨profileTLS, .tls, capabilityDiagnosticV2, false⟩,
    ⟨profileDNS, .dns, capabilityDiagnosticV2, false⟩]

/-- `ProfileByID`. -/
def profileByID (id : Text) : Option ProfileDescriptor :=
  profileCatalogue.find? (·.id = trimSpace id)

/-- `ProfileForCheckMethod`. -/
def profileForCheckMethod (method : Text) : Option ProfileDescriptor :=
  if trimSpace method = "ip" then profileByID profileIP
  else if trimSpace method = "status" then profileByID profileStatus
  else if trimSpace method = "download" then profileByID profileDownload
  else none

/-- `TestProfileFor`. -/
def ProfileDescriptor.testProfileFor (descriptor : ProfileDescriptor)
    (alternativeID : Text) : TestProfile :=
  { id := descriptor.id
    method := descriptor.method
    alternativeProfileID := trimSpace alternativeID }

/-- `AlternativeFor`. -/
def alternativeFor (id : Text) : Option Text :=
  if id = profileStatus then some profileIP
  else if id = profileIP ∨ id = profileDownload ∨ id = profileLatency then
    some profileStatus
  else none

structure SpeedServer where
  id : Text
  url : Text
deriving DecidableEq

def speedServerCatalogue : List SpeedServer :=
  [⟨"hetzner-falkenstein-fsn1", "https://fsn1-speed.hetzner.com/100MB.bin"⟩,
    ⟨"hostkey-frankfurt", "https://spd-desrv.hostkey.com/files/100mb.bin"⟩,
    ⟨"edis-frankfurt", "https://de.edisglobal.com/100MB.test"⟩,
    ⟨"leaseweb-frankfurt-fra1",
      "http://speedtest.fra1.de.leaseweb.net/100mb.bin"⟩,
    ⟨"hostkey-amsterdam", "https://spd-nlsrv.hostkey.com/files/100mb.bin"⟩,
    ⟨"edis-amsterdam", "https://nl.edisglobal.com/100MB.test"⟩,
    ⟨"leaseweb-amsterdam-ams1",
      "http://speedtest.ams1.nl.leaseweb.net/100mb.bin"⟩,
    ⟨"leaseweb-amsterdam-ams2",
      "http://speedtest.ams2.nl.leaseweb.net/100mb.bin"⟩,
    ⟨"edis-tallinn", "https://ee.edisglobal.com/100MB.test"⟩,
    ⟨"fairyhosting-estonia", "https://lg.fairyhosting.com/100MB.test"⟩,
    ⟨"hostkey-helsinki", "https://spd-fisrv.hostkey.com/files/100mb.bin"⟩,
    ⟨"edis-helsinki", "https://fi.edisglobal.com/100MB.test"⟩,
    ⟨"mynymbox-helsinki", "https://fi-lg.mynymbox.io/100MB.bin"⟩,
    ⟨"hetzner-helsinki-hel1", "https://hel1-speed.hetzner.com/100MB.bin"⟩,
    ⟨"hostkey-new-york", "https://spd-uswb.hostkey.com/files/1000mb.bin"⟩,
    ⟨"edis-new-york", "https://us.edisglobal.com/100MB.test"⟩,
    ⟨"leaseweb-new-york-nyc1",
      "http://speedtest.nyc1.us.leaseweb.net/100mb.bin"⟩,
    ⟨"leaseweb-washington-wdc2",
      "http://speedtest.wdc2.us.leaseweb.net/100mb.bin"⟩,
    ⟨"edis-los-angeles", "https://uslax.edisglobal.com/100MB.test"⟩,
    ⟨"leaseweb-los-angeles-lax12",
      "http://speedtest.lax12.us.leaseweb.net/100mb.bin"⟩,
    ⟨"edis-miami", "https://usmia.edisglobal.com/100MB.test"⟩,
    ⟨"hostkey-london", "http://spd-uksrv.hostkey.com/files/100mb.bin"⟩,
    ⟨"leaseweb-london-lon1",
      "http://speedtest.lon1.uk.leaseweb.net/100mb.bin"⟩,
    ⟨"edis-london", "https://uk.edisglobal.com/100MB.test"⟩,
    ⟨"hostkey-reykjavik", "https://spd-icsrv.hostkey.com/files/100mb.bin"⟩,
    ⟨"edis-hafnarfjordur", "https://is.edisglobal.com/100MB.test"⟩,
    ⟨"hostkey-paris", "https://spd-frsrv.hostkey.com/files/100mb.bin"⟩,
    ⟨"edis-paris", "https://fr.edisglobal.com/100MB.test"⟩,
    ⟨"ovh-proof", "https://proof.ovh.net/files/100Mb.dat"⟩,
    ⟨"hostkey-madrid", "https://spd-essrv.hostkey.com/files/100mb.bin"⟩,
    ⟨"edis-seville", "https://es.edisglobal.com/100MB.test"⟩,
    ⟨"hostkey-milan", "https://spd-itsrv.hostkey.com/files/100mb.bin"⟩,
    ⟨"edis-milan", "https://it.edisglobal.com/100MB.test"⟩,
    ⟨"hostkey-istanbul", "http://spd-tr.hostkey.com/files/100mb.bin"⟩,
    ⟨"hostkey-warsaw", "http://spd-plsrv.hostkey.com/files/100mb.bin"⟩,
    ⟨"edis-warsaw", "https://pl.edisglobal.com/100MB.test"⟩,
    ⟨"hostkey-zurich", "http://spd-chsrv.hostkey.com/files/100mb.bin"⟩,
    ⟨"edis-zurich", "https://ch.edisglobal.com/100MB.test"⟩]

/-- `SpeedServerByID`. -/
def speedServerByID (id : Text) : Option SpeedServer :=
  if trimSpace id = [] then none
  else speedServerCatalogue.find? (·.id = trimSpace id)

/-- `validSpeedServerID`. -/
def validSpeedServerID (id : Text) : Bool :=
  (speedServerByID id).isSome

/-- Every profile of the catalogue is found under its own ID. -/
theorem profileByID_catalogue {descriptor : ProfileDescriptor}
    (h : descriptor ∈ profileCatalogue) :
    profileByID descriptor.id = some descriptor := by
  revert descriptor
  decide

theorem profileByID_mem {id : Text} {descriptor : ProfileDescriptor}
    (h : profileByID id = some descriptor) :
    descriptor ∈ profileCatalogue ∧ descriptor.id = trimSpace id := by
  have hid := List.find?_some h
  exact ⟨List.mem_of_find?_eq_some h, by simpa using hid⟩

/-- A profile is tunnelled as its method is, and its method is one of the
schema's. -/
theorem profileCatalogue_method {descriptor : ProfileDescriptor}
    (h : descriptor ∈ profileCatalogue) :
    descriptor.tunnelled = descriptor.method.tunnelled ∧
      descriptor.method.valid = true := by
  revert descriptor
  decide

end XrayChecker.Diagnostics

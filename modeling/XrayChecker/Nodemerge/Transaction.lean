import XrayChecker.Go.Bytes
import XrayChecker.Machine.DiskProc
import XrayChecker.Nodemerge.Merge

/-
The node merge as a transaction on the data directory: staging it, installing
the merged files at the next startup, and confirming or rolling back what was
installed.  Folders and files are where the code puts them; what it encodes
with JSON, hashes or validates is given by the formats.
-/

namespace XrayChecker.Nodemerge

open Go NodeArchive Machine DiskProc

def pendingDirName : Text := ".node-merge-pending"
def appliedDirName : Text := ".node-merge-applied"
def rollbackDirName : Text := ".node-merge-rollback"
def stageDirPrefix : Text := ".node-merge-stage-"
def instructionFileName : Text := "merge.json"
def commitMarkerName : Text := ".confirmed"
def nodeRegistryName : Text := "node_registry.json"
def speedResultsName : Text := "speedtest_results.json"

def stateFileNames : List Text := [nodeRegistryName, speedResultsName]

def restoreDirNames : List Text :=
  [".restore-pending", ".restore-applied", ".restore-rollback"]

def transactionFormatVersion : Int := 1

/-- `"confirmed\n"`. -/
def confirmed : Bytes :=
  [0x63, 0x6f, 0x6e, 0x66, 0x69, 0x72, 0x6d, 0x65, 0x64, 0x0a]

structure PendingInstruction where
  formatVersion : Int
  createdAt : Time
  sourceStableID : Text
  targetStableID : Text
  confirmationToken : Text
deriving DecidableEq

structure ConfirmationIdentity where
  sourceStableID : Text
  targetStableID : Text
  sourceRetired : Time
  name : Text
  subName : Text
  server : Text
  port : Int
  protocol : Text
deriving DecidableEq

/-- What the code leaves to other packages: the JSON of its files, the digest
of an identity, and whether `backup.ValidateDataFile` finds a fault. -/
structure Formats (Run : Type) where
  decodeInstruction : Bytes → Option PendingInstruction
  encodeInstruction : PendingInstruction → Bytes
  decodeRegistry : Bytes → Option StateFile
  encodeRegistry : StateFile → Bytes
  decodeSpeed : Bytes → Option (SpeedResultState Run)
  encodeSpeed : SpeedResultState Run → Bytes
  encodeResult : Result → Text
  digest : ConfirmationIdentity → Text
  fault : Text → Bytes → Option Text

/-- A procedure on the data directory. -/
abbrev Action := Proc (World Text UInt8) Text

/-- What is there, or the error when nothing is. -/
def required {A : Type} (found : Option A) (message : Text) : Except Text A :=
  match found with
  | some a => .ok a
  | none => .error message

/-- `if bad { return err }`. -/
def refuse (bad : Bool) (message : Text) : Action Unit :=
  Proc.ofExcept (reject bad message)

/-- `info.Mode().IsRegular()`. -/
def isRegular : Option (Found UInt8) → Bool
  | some (.entry (.file _)) => true
  | _ => false

def inspectStateDir (name : Text) : Action Bool := do
  match ← lstat (.top name) ("inspect " ++ name) with
  | none => return false
  | some .folder => return true
  | some (.entry _) => Proc.fail (name ++ " is not a regular directory")

/-- Whether there is a pending, an applied and a rollback folder. -/
def inspectTransactionDirs : Action (Bool × Bool × Bool) := do
  let pending ← inspectStateDir pendingDirName
  let applied ← inspectStateDir appliedDirName
  let rollback ← inspectStateDir rollbackDirName
  return (pending, applied, rollback)

def ensureNoRestoreTransaction : Action Unit :=
  Proc.each
    (fun name => do
      refuse (← inspectStateDir name)
        "node merge cannot run while a backup restore is pending or being applied")
    restoreDirNames

def regularFileExists (path : Path Text) (label : Text) : Action Bool := do
  match ← lstat path ("inspect " ++ label) with
  | none => return false
  | some (.entry (.file _)) => return true
  | some _ => Proc.fail (label ++ " is not regular")

/-- What `writeDurableStateFile` does about a file that is there already. -/
def removeStaged (path : Path Text) (base : Text) : Action Unit := do
  match ← lstat path ("inspect staged node merge file " ++ base) with
  | some (.entry (.file _)) =>
      remove path ("replace staged node merge file " ++ base)
  | some _ =>
      Proc.fail ("staged node merge file " ++ base ++ " is not regular")
  | none => return ()

/-- `writeDurableStateFile`; `base` is the last part of the path. -/
def writeDurableStateFile (path : Path Text) (base : Text) (data : Bytes) :
    Action Unit := do
  removeStaged path base
  create path ("create staged node merge file " ++ base)
  fill path data ("write staged node merge file " ++ base)
  touch ("sync staged node merge file " ++ base)
  touch ("close staged node merge file " ++ base)

def commitMarked : Action Bool := do
  let marker := Path.inside rollbackDirName commitMarkerName
  if !(← regularFileExists marker "node merge commit marker") then
    return false
  let data ← readFile marker "read node merge commit marker"
  refuse (data ≠ confirmed) "node merge commit marker has invalid contents"
  return true

def writeCommitMarker : Action Unit := do
  if ← commitMarked then
    return ()
  writeDurableStateFile (.inside rollbackDirName commitMarkerName)
    commitMarkerName confirmed

def cleanupTransactionLocked (appliedExists rollbackExists : Bool) :
    Action Unit := do
  Proc.when appliedExists
    (removeAll appliedDirName "remove applied node merge directory")
  Proc.when rollbackExists
    (removeAll rollbackDirName "remove node merge rollback directory")

/-- One round of the loop of `rollbackTransactionLocked`. -/
def rollbackFile (stateDirName name : Text) : Action Unit := do
  let destinationExists ←
    regularFileExists (.top name) ("node merge target " ++ name)
  let stagedExists ←
    regularFileExists (.inside stateDirName name)
      ("staged node merge file " ++ name)
  let originalExists ←
    regularFileExists (.inside rollbackDirName name)
      ("node merge rollback file " ++ name)
  if !originalExists then
    return ()
  (if !stagedExists && destinationExists then
    rename (.top name) (.inside stateDirName name)
      ("return merged " ++ name ++ " to staging")
  else
    refuse destinationExists
      ("node merge target " ++ name ++
        " unexpectedly exists while original is staged"))
  rename (.inside rollbackDirName name) (.top name)
    ("restore original node merge file " ++ name)

def rollbackTransactionLocked (stateDirName : Text) (keepState : Bool) :
    Action Unit := do
  Proc.each (rollbackFile stateDirName) stateFileNames
  removeAll rollbackDirName "remove node merge rollback directory"
  Proc.when (!keepState)
    (removeAll stateDirName "remove node merge state directory")

def confirmApplied : Action Unit := do
  let (pendingExists, appliedExists, rollbackExists) ← inspectTransactionDirs
  if pendingExists && !appliedExists && !rollbackExists then
    return ()
  if !pendingExists && !appliedExists && !rollbackExists then
    return ()
  refuse (!appliedExists || !rollbackExists)
    "node merge transaction is incomplete and cannot be confirmed"
  writeCommitMarker
  cleanupTransactionLocked appliedExists rollbackExists

def rollbackApplied : Action Unit := do
  let (_, appliedExists, rollbackExists) ← inspectTransactionDirs
  if !appliedExists && !rollbackExists then
    return ()
  refuse (!appliedExists || !rollbackExists)
    "node merge transaction is incomplete and cannot be rolled back"
  refuse (← commitMarked) "node merge transaction is already confirmed"
  rollbackTransactionLocked appliedDirName false

def recoverUnconfirmed : Action Bool := do
  let (pendingExists, appliedExists, rollbackExists) ← inspectTransactionDirs
  if !appliedExists && !rollbackExists then
    return false
  let marked ← (if rollbackExists then commitMarked else return false)
  if marked then
    cleanupTransactionLocked appliedExists true
    return true
  if appliedExists && rollbackExists then
    rollbackTransactionLocked appliedDirName false
    return true
  if pendingExists && rollbackExists then
    rollbackTransactionLocked pendingDirName true
    return true
  if appliedExists then
    removeAll appliedDirName "remove incomplete applied node merge"
    return true
  Proc.fail
    "node merge rollback directory exists without pending or applied state"

section Formats

variable {Run : Type} (formats : Formats Run)

def loadInstruction (dir : Text) : Action PendingInstruction := do
  let data ← readFile (.inside dir instructionFileName) "read pending node merge"
  let instruction ← Proc.ofExcept
    (required (formats.decodeInstruction data) "decode pending node merge")
  refuse (instruction.formatVersion ≠ transactionFormatVersion ∨
      instruction.createdAt.isZero ∨
      trimSpace instruction.sourceStableID = [] ∨
      trimSpace instruction.targetStableID = [] ∨
      trimSpace instruction.confirmationToken = [])
    "pending node merge instruction is incomplete or unsupported"
  return instruction

def readValidatedStateFile (name : Text) : Action Bytes := do
  let info ← lstat (.top name) ("inspect node merge state file " ++ name)
  refuse (info = none) ("inspect node merge state file " ++ name)
  refuse (!isRegular info)
    ("node merge state file " ++ name ++ " is not regular")
  let data ← readFile (.top name) ("read node merge state file " ++ name)
  match formats.fault name data with
  | some error => Proc.fail error
  | none => return data

def confirmationToken (source target : NodeRecord) : Text :=
  formats.digest
    { sourceStableID := trimSpace source.stableID
      targetStableID := trimSpace target.stableID
      sourceRetired := source.retiredAt
      name := normalizeIdentity target.name
      subName := normalizeIdentity target.subName
      server := normalizeIdentity target.server
      port := target.port
      protocol := normalizeIdentity target.protocol }

/-- The part of `ApplyPending` between reading the files and writing the
merged ones. -/
def mergedData (instruction : PendingInstruction) (now : Time)
    (registryData speedData : Bytes) : Except Text (Bytes × Bytes) := do
  let registry ← required (formats.decodeRegistry registryData)
    "decode node registry for merge"
  let speedState ← required (formats.decodeSpeed speedData)
    "decode speed-test results for merge"
  let source ← required registry.nodes[instruction.sourceStableID]?
    ("node merge source " ++ instruction.sourceStableID ++
      " is missing from node registry")
  let target ← required registry.nodes[instruction.targetStableID]?
    ("node merge target " ++ instruction.targetStableID ++
      " is missing from node registry")
  -- Older registries may hold a record without its id.
  let source := { source with stableID := instruction.sourceStableID }
  let target := { target with stableID := instruction.targetStableID }
  let registry := { registry with
    nodes := (registry.nodes.insert instruction.sourceStableID source).insert
      instruction.targetStableID target }
  reject source.active "node merge source must remain retired"
  validateIdentityMatch source target
  reject (confirmationToken formats source target ≠
      instruction.confirmationToken)
    "node merge identity changed after confirmation; preview it again"
  let registry ← mergeNodeState registry instruction.sourceStableID
    instruction.targetStableID now
  let speedState := mergeSpeedState formats.encodeResult speedState
    instruction.sourceStableID instruction.targetStableID target now
  let registryData := formats.encodeRegistry registry
  wrapped "validate merged node registry"
    (match formats.fault nodeRegistryName registryData with
      | some error => .error error
      | none => .ok ())
  let speedData := formats.encodeSpeed speedState
  wrapped "validate merged speed-test results"
    (match formats.fault speedResultsName speedData with
      | some error => .error error
      | none => .ok ())
  return (registryData, speedData)

/-- One round of the loop that installs the merged files. -/
def installFile (name : Text) : Action Unit := do
  rename (.top name) (.inside rollbackDirName name)
    ("stage original " ++ name ++ " for node merge rollback")
  rename (.inside pendingDirName name) (.top name) ("install merged " ++ name)
  touch ("set merged " ++ name ++ " permissions")

/-- The part of `ApplyPending` that is rolled back when it fails. -/
def install : Action Unit := do
  Proc.each installFile stateFileNames
  rename (.top pendingDirName) (.top appliedDirName)
    "finalize applied node merge"

def installOrRollback : Action Bool := do
  match ← Proc.attempt install with
  | .ok () => return true
  | .error cause =>
      match ← Proc.attempt (rollbackTransactionLocked pendingDirName true) with
      | .ok () => Proc.fail cause
      | .error rollbackErr => Proc.fail (cause ++ "\n" ++ rollbackErr)

def applyPending (active : Text → Bool) (now : Time) : Action Bool := do
  ensureNoRestoreTransaction
  let (pendingExists, appliedExists, rollbackExists) ← inspectTransactionDirs
  if appliedExists || rollbackExists then
    return false
  if !pendingExists then
    return false
  let instruction ← loadInstruction formats pendingDirName
  refuse (!active instruction.targetStableID)
    ("node merge target " ++ instruction.targetStableID ++
      " is no longer active")
  refuse (active instruction.sourceStableID)
    ("node merge source " ++ instruction.sourceStableID ++
      " became active again")
  let registryData ← readValidatedStateFile formats nodeRegistryName
  let speedData ← readValidatedStateFile formats speedResultsName
  let (registryData, speedData) ← Proc.ofExcept
    (mergedData formats instruction now registryData speedData)
  writeDurableStateFile (.inside pendingDirName nodeRegistryName)
    nodeRegistryName registryData
  writeDurableStateFile (.inside pendingDirName speedResultsName)
    speedResultsName speedData
  mkdir rollbackDirName "create node merge rollback directory"
  installOrRollback

/-- What `Coordinator.Stage` does about a merge staged earlier: whether it is
this one, which is kept. -/
def replacePending (instruction : PendingInstruction) : Action Bool := do
  let existing ← loadInstruction formats pendingDirName
  if existing.sourceStableID = instruction.sourceStableID ∧
      existing.targetStableID = instruction.targetStableID ∧
      existing.confirmationToken = instruction.confirmationToken then
    return true
  removeAll pendingDirName "replace pending node merge"
  return false

/-- The part of `Coordinator.Stage` that is cleaned up when it fails. -/
def publish (instruction : PendingInstruction) (stageDir : Text) :
    Action Unit := do
  create (.inside stageDir instructionFileName) "write node merge instruction"
  fill (.inside stageDir instructionFileName)
    (formats.encodeInstruction instruction) "write node merge instruction"
  rename (.top stageDir) (.top pendingDirName) "publish pending node merge"

def publishNew (instruction : PendingInstruction) (stageDir : Text) :
    Action Unit := do
  mkdir stageDir "create node merge staging directory"
  match ← Proc.attempt (publish formats instruction stageDir) with
  | .ok () => return ()
  | .error cause =>
      let _ ← Proc.attempt (removeAll stageDir "")
      Proc.fail cause

/-- `Coordinator.Stage` once the preview has answered and its token has been
confirmed: `instruction` is made of the preview and the clock, `random` ends
the name of the staging folder. -/
def stageConfirmed (instruction : PendingInstruction) (random : Text) :
    Action Unit := do
  ensureNoRestoreTransaction
  let (pendingExists, appliedExists, rollbackExists) ← inspectTransactionDirs
  refuse (appliedExists || rollbackExists)
    "another node merge is already pending or being applied"
  let staged ←
    (if pendingExists then replacePending formats instruction
    else return false)
  if staged then
    return ()
  publishNew formats instruction (stageDirPrefix ++ random)

end Formats

end XrayChecker.Nodemerge

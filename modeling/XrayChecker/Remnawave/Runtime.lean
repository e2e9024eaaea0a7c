import XrayChecker.Remnawave.Announce

/-
The ownership file: which announce values the checker has written and which
operator texts it has put back.
-/

namespace XrayChecker.Remnawave

open Go

def defaultRuntime : RuntimeFile where
  version := runtimeVersion

def normalizeRuntime (runtime : RuntimeFile) : RuntimeFile :=
  { runtime with
    version :=
      if 0 ≤ runtime.version ∧ runtime.version < runtimeVersion then
        runtimeVersion
      else runtime.version }

def validateManaged (entry : Text × ManagedAnnouncement) :
    Except Text Unit := do
  let externalUUID := entry.1
  let managed := entry.2
  reject (invalidIdentifier externalUUID)
    "managed announce contains an invalid external squad UUID"
  reject (managed.message == [])
    ("managed announce for " ++ externalUUID ++
      " has an empty status message")
  reject (!hasPrefix managed.value announceValuePrefix)
    ("managed announce for " ++ externalUUID ++ " has an invalid value")
  reject (managed.basePresent && !isManagedBaseAnnounce managed.baseValue)
    ("managed announce for " ++ externalUUID ++ " has an invalid base value")
  reject (!managed.basePresent && managed.baseValue != [])
    ("managed announce for " ++ externalUUID ++
      " has a base value without basePresent")
  reject (managed.value != composeManagedAnnounce managed.basePresent
      managed.baseValue managed.message)
    ("managed announce for " ++ externalUUID ++
      " has inconsistent value and message")
  validateDisplayText "managed announce" managed.message maxMessageRunes

def validateRestored (entry : Text × Text) : Except Text Unit := do
  reject (invalidIdentifier entry.1)
    "restored announce contains an invalid external squad UUID"
  reject (!isManagedBaseAnnounce entry.2)
    ("restored announce for " ++ entry.1 ++ " has an invalid base value")

def validateRuntime (runtime : RuntimeFile) : Except Text Unit := do
  reject (runtime.version != runtimeVersion)
    ("unsupported Remnawave runtime version " ++ itoaInt runtime.version)
  checkAll validateManaged runtime.managed.toList
  checkAll validateRestored runtime.restored.toList

/-- `readRuntimeFile`: `none` stands for a missing file. -/
def readRuntimeFile : Option RuntimeFile → Except Text RuntimeFile
  | none => .ok defaultRuntime
  | some document => do
      let runtime := normalizeRuntime document
      validateRuntime runtime
      return runtime

/-- The document as it is stamped for writing. -/
def stampRuntime (runtime : RuntimeFile) (now : Time) : RuntimeFile :=
  { runtime with version := runtimeVersion, updatedAt := now }

/-- `writeRuntimeFile`: the document it writes; `disk` is the outcome of
`writeJSONAtomic`. -/
def writeRuntimeFile (disk : Except Text Unit) (runtime : RuntimeFile)
    (now : Time) : Except Text RuntimeFile := do
  let runtime := normalizeRuntime (stampRuntime runtime now)
  validateRuntime runtime
  disk
  return runtime

end XrayChecker.Remnawave

import XrayChecker.Remnawave.BaseRestoration

/-
Which announce values one pass writes over.  Apart from its own values and
absent headers, a pass with a message replaces a value only where one of the
takeover rules vouches for it; the rule for adopted bases compares without
looking at where the adopted text ends.
-/

namespace XrayChecker.Remnawave

open Go

/-- What is known about a squad when its iteration starts. -/
structure SquadFacts where
  adopted : Option Text
  managed : Option ManagedAnnouncement
  restored : Option Text
  target : DesiredAnnouncement
  squad : ExternalSquad

namespace SquadFacts

def current (facts : SquadFacts) : HeaderLookup :=
  headerValue facts.squad.responseHeadersAdd announceHeader

/-- The outcome of the iteration. -/
def outcome (facts : SquadFacts) (send : GoMap Text Text → Except Text Unit)
    (now : Time) : SquadOutcome :=
  reconcileSquad facts.adopted send now facts.target facts.squad facts.managed
    facts.restored

end SquadFacts

/-- The facts about a squad that the loop over the desired announcements
reaches. -/
structure Reaches (bases : GoMap Text Text)
    (desired : GoMap Text DesiredAnnouncement) (runtime : RuntimeFile)
    (externalByUUID : GoMap Text ExternalSquad) (externalUUID : Text)
    (facts : SquadFacts) : Prop where
  adopted : facts.adopted = bases[externalUUID]?
  managed : facts.managed = runtime.managed[externalUUID]?
  restored : facts.restored = runtime.restored[externalUUID]?
  target : desired[externalUUID]? = some facts.target
  squad : externalByUUID[externalUUID]? = some facts.squad

section Pass

variable (bases : GoMap Text Text)
    (update : Text → GoMap Text Text → Except Text Unit) (now : Time)
    (desired : GoMap Text DesiredAnnouncement) (runtime : RuntimeFile)
    (externalByUUID : GoMap Text ExternalSquad)

end Pass

namespace Sample

end Sample

end XrayChecker.Remnawave

import OnboardStorage.Layout.Config
import OnboardStorage.Proofs.Layout.Store

/-!
# Configurations are read back

Every field of a configuration is written, so no standard value comes in when it is read.
Its values need not describe a platform.
-/

namespace OnboardStorage

open Datum

@[simp]
theorem VirtualChannels.ofDatum?_toDatum (origin : Origin) (range : VirtualChannels) :
    ofDatum? origin range.toDatum = some range := by
  rw [toDatum, ofDatum?, fields?_record (by simp)]
  simp (disch := decide) [lookup_cons_of_ne, required]

@[simp]
theorem Capabilities.ofDatum?_toDatum (origin : Origin) (capabilities : Capabilities) :
    ofDatum? origin capabilities.toDatum = some capabilities := by
  rw [toDatum, ofDatum?, fields?_record (by simp)]
  simp (disch := decide) [lookup_cons_of_ne, defaulted, flag?]

@[simp]
theorem Route.ofDatum?_toDatum (origin : Origin) (route : Route) :
    ofDatum? origin route.toDatum = some route := by
  rw [toDatum, ofDatum?, fields?_record (by simp)]
  simp (disch := decide) [lookup_cons_of_ne, required]

/-- Every configuration is read back from its written form. -/
@[simp]
theorem Config.ofDatum?_toDatum (origin : Origin) (config : Config) :
    ofDatum? origin config.toDatum = some config := by
  have routes : (Datum.list (config.routes.map Route.toDatum)).listOf?
      (Route.ofDatum? origin) = some config.routes :=
    listOf?_map fun route _ => route.ofDatum?_toDatum origin
  rw [toDatum, ofDatum?, fields?_record (by simp)]
  simp (disch := decide) [lookup_cons_of_ne, defaulted, text?, routes]

end OnboardStorage

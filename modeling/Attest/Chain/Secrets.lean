import Attest.Attempt
import Attest.Settings

/-!
# Secrets

A secret is looked up by name, first in the keyring under the service of the settings and then in
the environment. Each look into the keyring is recorded.
-/
namespace Attest

/-- Where secrets are kept, and the record of looks into the keyring. -/
structure Secrets where
  /-- The keyring. -/
  keyring : Table String String := []
  /-- The environment. -/
  environment : Table String String := []
  /-- The service and name of each look into the keyring. -/
  lookups : List (String × String) := []

namespace Secrets

/-- Look up a secret. One without characters in the keyring does not count. -/
def find (settings : Settings) (name : String) : Attempt Secrets (Option String) := do
  modify fun secrets =>
    { secrets with lookups := secrets.lookups ++ [(settings.service, name)] }
  let secrets ← get
  return ((secrets.keyring.get? name).filter (! ·.isEmpty)).or (secrets.environment.get? name)

end Secrets

end Attest

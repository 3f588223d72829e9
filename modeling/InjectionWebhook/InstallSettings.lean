/-
# Install settings of a Pod

A Pod can adjust the installation of the agent by annotations; what it does not set takes a default.
-/
import InjectionWebhook.Capability
import InjectionWebhook.Text.FormUrl

namespace InjectionWebhook

/-- What the install container is told about the Pod's wishes. -/
structure InstallSettings where
  /-- The technologies to instrument, form-encoded. -/
  technologies : String
  /-- Where the agent is found inside application containers. -/
  installPath : String
  /-- Where to download the agent, empty for the usual place. -/
  installerUrl : String
  /-- What to do when the installation fails. -/
  failurePolicy : String
  /-- Image of the install container. -/
  image : String
deriving DecidableEq

/-- The settings that annotations ask for, with the image of the install container. -/
def InstallSettings.ofAnnotations (annotations : Dict String) (image : String) : InstallSettings :=
  { technologies := Text.formEncoded (annotations.textOr "oneagent.beacon.dev/technologies" "all")
    installPath :=
      annotations.textOr "oneagent.beacon.dev/install-path" "/opt/beacon/oneagent-paas"
    installerUrl := annotations.textOr "oneagent.beacon.dev/installer-url" ""
    failurePolicy := annotations.textOr "oneagent.beacon.dev/failure-policy" "silent"
    image }

end InjectionWebhook

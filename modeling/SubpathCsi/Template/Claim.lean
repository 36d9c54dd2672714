import SubpathCsi.Kube.Claim
import SubpathCsi.Template

/-!
# What templates of a claim refer to

The names, labels and annotations of a claim, of the node that was chosen for it and of its volume.
-/

namespace SubpathCsi.Template

/-- What references are resolved against for a claim, a node if one was chosen, and a volume. -/
def Names.ofClaim (claim : Claim) (node : Option ObjectMeta) (volume : String) : Names where
  claim := claim.name
  space := claim.metadata.space.getD ""
  labels := claim.metadata.labelMap
  annotations := claim.metadata.annotationMap
  node := (node.map (·.name)).getD ""
  nodeLabels := (node.map (·.labelMap)).getD []
  volume

end SubpathCsi.Template

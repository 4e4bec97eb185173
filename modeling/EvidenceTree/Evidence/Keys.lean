/-!
# Well-known evidence keys

The keys under which measurements of a screen and a graphics processor are published.
-/

namespace EvidenceTree.Evidence

/-- The well-known keys. -/
def wellKnownKeys : List String :=
  ["screenwidth", "screenheight", "screenratio", "colorgamut", "hash2d", "hash3d",
    "benchmarkaverage", "benchmarkstddev", "gpufamily", "gpurenderer"]

end EvidenceTree.Evidence

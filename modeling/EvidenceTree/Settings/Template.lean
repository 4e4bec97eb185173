/-!
# A template for settings

The document that a user starts from: every setting with its default, behind the mark of a comment.
-/

namespace EvidenceTree.Settings

/-- The lines of the template. -/
def templateLines : List String :=
  ["# proftree configuration",
    "#",
    "# Locations (by precedence, lowest to highest):",
    "#   Global: ~/.config/proftree/proftree.toml",
    "#   File:   --config <file>",
    "#   Env:    PROFTREE_* environment variables, e.g. PROFTREE_MATCHING__KEY_POLICY=explicit",
    "",
    "# Tree data file used when no --data is given",
    "# data_file = \"~/.local/share/proftree/tree.json\"",
    "",
    "[matching]",
    "# Compare literal values case-sensitively",
    "# case_sensitive = true",
    "",
    "# Evidence key for nodes that do not name one:",
    "#   \"inherit\"  - use the nearest ancestor's key",
    "#   \"explicit\" - skip the node",
    "# key_policy = \"inherit\""]

/-- The template, each line ended. -/
def template : String := String.join (templateLines.map (· ++ "\n"))

end EvidenceTree.Settings

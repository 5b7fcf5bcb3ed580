import DocLint.Settings

/-!
# A settings file to start from

The file names every setting with its default, so that it changes nothing until it is edited.
-/

namespace DocLint

/-- The text of a new settings file. -/
def Settings.starter : String :=
"# kdoc-lint configuration

# recommended | strict | minimal
preset = \"recommended\"

# Lowest severity that makes `kdoc-lint check` exit non-zero
# fail_on = \"error\"

[analyzer]
# Root directory to analyze (default: current directory)
# root = \"./app/src\"

# Glob patterns to exclude from analysis
exclude = [
    \"**/build/**\",
    \"**/.gradle/**\",
]

# Respect .gitignore files
respect_gitignore = true

# Rule configurations
# Each rule can be enabled/disabled and have its severity overridden

[rules.file-header]
enabled = true
# Organization named on the copyright line; any name when unset
# organization = \"Acme Widgets\"
# Report every broken clause, not only the first structural failure
attribute_clauses = false

[rules.function-doc]
enabled = true

[rules.forbidden-log-call]
enabled = true
wrapper = \"TLog\"

# [rules.too-many-functions]
# enabled = true
# max_functions = 2
# severity = \"info\"
"

end DocLint

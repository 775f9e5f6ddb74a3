/-! The texts that tell how the commands are used. -/

namespace LuauLayout.Help

/-- The lines, each ended by a line feed. -/
def page (lines : List String) : String := String.join (lines.map fun line => line ++ "\n")

def program : String := page
  ["Usage: python . \x7bcommand\x7d [args]",
    "",
    "=== Export ===",
    "  export     Export a layout JSON file as a Roblox Luau script",
    "",
    "=== Configuration ===",
    "  env        Show configuration variables",
    "",
    "=== Development ===",
    "  dev        Development workflows (test)",
    "",
    "Examples:",
    "  python . export layout.json                 # Script to stdout",
    "  python . export layout.json -o ui/          # ui/Generated_UI.lua",
    "  python . export layout.json --safe-text     # Robust text quoting",
    "  python . export layout.json --strict        # Fail on warnings",
    "  python . env export                         # Export settings",
    "  python . dev test --unit                    # Run unit tests"]

def development : String := page
  ["Development workflow commands",
    "",
    "Usage: python . dev \x7bcommand\x7d [args]",
    "",
    "Commands:",
    "  test       Run pytest with tier options",
    "",
    "Examples:",
    "  python . dev test --unit           # Fast unit tests",
    "  python . dev test --integration    # CLI and file tests"]

def exportUsage : String := page
  ["usage: python . export [-h] [--output OUTPUT] [--unique-names] [--safe-text]",
    "                       [--strict]",
    "                       layout"]

/-- The form of an export command and what its arguments mean. -/
def exportHelp : String := exportUsage ++ page
  ["",
    "Export a layout JSON file as a Roblox Luau script",
    "",
    "positional arguments:",
    "  layout                Path to the layout JSON file ('-' reads stdin)",
    "",
    "options:",
    "  -h, --help            show this help message and exit",
    "  --output OUTPUT, -o OUTPUT",
    "                        Output file or directory (directories get",
    "                        Generated_UI.lua)",
    "  --unique-names        Rename colliding identifiers with numeric suffixes",
    "  --safe-text           Quote text so that ']]' cannot end the string early",
    "  --strict              Exit with status 1 when the export produced warnings"]

end LuauLayout.Help

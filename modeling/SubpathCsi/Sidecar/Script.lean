import SubpathCsi.Config
import SubpathCsi.Text.Split

/-!
# The script that waits for a mount

A sidecar runs this script after its start. The script waits until the filesystem is mounted, makes
the subpath and sets the quota.
-/

namespace SubpathCsi

/-- How often the script looks whether the filesystem is mounted. -/
def defaultRetries : Int := 60

/-- The lines of the script. -/
def checkMountLines (cli : String) (retries : Int) : List String :=
  ["#!/bin/bash",
   "# Managed by cfs-csi-controller",
   "set -o pipefail",
   "",
   "mount_path=\"$1\"",
   "for i in $(seq 1 " ++ toString retries ++ "); do",
   "  if mountpoint -q \"$mount_path\"; then",
   "    break",
   "  fi",
   "  sleep 1",
   "done",
   "if ! mountpoint -q \"$mount_path\"; then",
   "  echo \"$(date) $mount_path is not mounted after " ++ toString retries ++ "s\"",
   "  exit 1",
   "fi",
   "",
   "if [ -n \"$subpath\" ]; then",
   "  mkdir -p \"$mount_path/$subpath\"",
   "fi",
   "",
   "if [ -n \"$quotaPath\" ] && [ \"$capacity\" -gt 0 ]; then",
   "  if [ \"$community\" = \"ce\" ]; then",
   "    " ++ cli ++ " quota set \"$metaurl\" --path \"$quotaPath\" --capacity \"$capacity\"",
   "  else",
   "    " ++ cli ++ " quota set \"$name\" --path \"$quotaPath\" --capacity \"$capacity\"",
   "  fi",
   "fi",
   "echo \"$(date) $mount_path is ready\""]

/-- The script. -/
def checkMountScript (c : Config) (retries : Int) : String :=
  joined "\n" (checkMountLines c.ceCliPath retries)

end SubpathCsi

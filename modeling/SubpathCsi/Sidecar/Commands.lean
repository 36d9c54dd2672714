import SubpathCsi.Config
import SubpathCsi.Settings.Basic
import SubpathCsi.Settings.FormatOptions

/-!
# Commands of a sidecar

The lines of shell that a sidecar runs: the one that mounts the filesystem, the one that lets an
enterprise client authenticate, and the one that waits for the mount and sets the quota. Texts from
outside are quoted.
-/

namespace SubpathCsi

/-- Two parts of a path; a second part that begins at the root stands alone. -/
def joinPath (base part : String) : String :=
  if beginsWith "/" part then part
  else if base.isEmpty || base.toList.getLast? = some '/' then base ++ part
  else base ++ "/" ++ part

namespace MountSettings

/-- The directory that the last option `subdir` names, seen from the root; empty if none does. -/
def subdir (s : MountSettings) : String :=
  s.options.foldl (fun dir option =>
    match fields '=' option with
    | ["subdir", value] => joinPath "/" value
    | _ => dir) ""

/-- The directory that the quota is set on. -/
def quotaPath (s : MountSettings) : String :=
  if s.subdir.isEmpty then s.subpath else joinPath s.subdir s.subpath

/-- The mount options, in the foreground and at the subpath, if there is one. -/
def mountOptions (s : MountSettings) : List String :=
  let options :=
    if s.subpath.isEmpty then s.options
    else s.options.filter (!beginsWith "subdir=" ·) ++ ["subdir=" ++ s.subpath]
  if options.contains "foreground" then options else options ++ ["foreground"]

/-- The kind of filesystem, as the script that waits for the mount knows it. -/
def community (s : MountSettings) : String := if s.isCe then "ce" else "ee"

/-- The line that waits for the mount and sets the quota. -/
def checkMountLine (c : Config) (s : MountSettings) (capacityGib : Int) : String :=
  "time subpath=" ++ Shell.quote s.subpath ++ " name=" ++ Shell.quote s.name ++
    " capacity=" ++ toString capacityGib ++ " community=" ++ s.community ++
    " quotaPath=" ++ Shell.quote s.quotaPath ++ " " ++ c.checkMountScriptPath ++ " " ++
    Shell.quote s.mountPath ++ " >> /proc/1/fd/1"

/-- What runs after the start; for tests the line is only shown. -/
def postStartCommand (c : Config) (s : MountSettings) (capacityGib : Int) : List String :=
  let line := s.checkMountLine c capacityGib
  if c.testMode then ["sh", "-c", "echo \"" ++ line ++ "\""] else ["bash", "-c", line]

/-- The line that authenticates an enterprise client. Credentials are left to the shell, which takes
them from the environment. -/
def authCommand (c : Config) (s : MountSettings) : Except Failure String := do
  let parsed ← FormatOptions.parse s.formatOptions
  let credentials := s.credentials.mergeSort fun a b => !(b.1 < a.1)
  let flags := FormatOptions.flags (Keyed.keys s.credentials) (parsed ++ credentials)
  return joined " " ([c.ceCliPath, "auth", Shell.quote s.name] ++ flags)

/-- The lines that mount the filesystem. -/
def mountCommand (c : Config) (s : MountSettings) : Except Failure String := do
  let path := Shell.quote s.mountPath
  let options := joined "," (s.mountOptions.filter (!·.isEmpty))
  let make := "mkdir -p " ++ path
  if s.isCe then
    return joined "\n"
      [make, "exec " ++ c.ceMountPath ++ " $\x7bmetaurl\x7d " ++ path ++ " -o " ++ options]
  else
    let auth ← s.authCommand c
    return joined "\n"
      [make, auth,
       "exec " ++ c.eeMountPath ++ " " ++ Shell.quote s.name ++ " " ++ path ++ " -o " ++ options]

/-- The line that unmounts the filesystem. -/
def unmountCommand (s : MountSettings) : String :=
  "umount " ++ Shell.quote s.mountPath ++ " -l && rmdir " ++ Shell.quote s.mountPath

end MountSettings

end SubpathCsi

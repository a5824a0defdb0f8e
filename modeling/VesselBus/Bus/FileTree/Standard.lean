import VesselBus.Bus.FileTree

/-!
# The standard file tree

The folders of the hierarchy standard, the devices that every system has, and some files that are always
there.
-/

namespace VesselBus

namespace FileTree

def within (folder names : List String) : List (List String) := names.map (folder ++ [·])

def standardFolders : List (List String) :=
  within [] ["bin", "boot", "dev", "etc", "home", "lib", "lib64", "media", "mnt", "opt", "proc", "root",
    "run", "sbin", "srv", "sys", "tmp", "usr", "var"] ++
  within ["dev"] ["fd", "pts", "shm"] ++
  within ["proc"] ["1", "net", "self", "sys"] ++
  within ["sys"] ["block", "bus", "class", "dev", "devices", "firmware", "fs", "kernel", "module", "power"] ++
  within ["usr"] ["bin", "games", "include", "lib", "lib64", "libexec", "local", "sbin", "share", "src"] ++
  within ["usr", "local"] ["bin", "etc", "games", "include", "lib", "sbin", "share", "src"] ++
  within ["var"] ["cache", "lib", "local", "lock", "log", "mail", "opt", "run", "spool", "tmp"]

/-- Devices, each with what it does with text. -/
def standardDevices : List (List String × FileKind) :=
  (within ["dev"] ["null", "zero", "random", "urandom", "stdin", "stdout", "stderr"]).map (·, .discarding) ++
  [(["dev", "full"], .refusing "No space left on device (os error 28)"),
   (["dev", "tty"], .blocked .noDevice)]

/-- Files that the kernel only lets read. -/
def standardReports : List (List String × FileKind) :=
  (within ["proc"] ["cmdline", "cpuinfo", "filesystems", "loadavg", "meminfo", "mounts", "stat", "uptime",
    "version"]).map (·, .refusing "Input/output error (os error 5)")

def standardFiles : List (List String × FileKind) :=
  (within ["etc"] ["fstab", "group", "hostname", "hosts", "os-release", "passwd", "profile", "resolv.conf",
      "shadow"] ++
    within ["usr", "bin"] ["cat", "env", "ls", "sh", "true"] ++
    within ["bin"] ["cat", "ls", "sh", "true"]).map (·, .plain)

def standard : FileTree where
  folders := standardFolders
  files := standardDevices ++ standardReports ++ standardFiles
  closed := [(["proc"], .missing), (["sys"], .denied), (["dev", "pts"], .denied)]

end FileTree

end VesselBus

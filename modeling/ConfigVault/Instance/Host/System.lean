import ConfigVault.Instance.Host.Disk

/-!
# The disk of a plain system

The folders, the few files and the programs that are there before anything is written.
-/

namespace ConfigVault.Host

def standardMode : Nat := 0o644

def systemPrograms : List String :=
  ["[", "arch", "awk", "base32", "base64", "basename", "bash", "cat", "chmod", "chown", "cksum", "cmp",
    "comm", "cp", "cut", "dash", "date", "dd", "df", "diff", "dirname", "du", "echo", "egrep", "env",
    "expand", "expr", "factor", "false", "fgrep", "find", "fmt", "fold", "gawk", "grep", "groups",
    "gunzip", "gzip", "head", "hostname", "id", "join", "kill", "ln", "ls", "mawk", "md5sum", "mkdir",
    "mktemp", "mv", "nice", "nl", "nohup", "nproc", "od", "paste", "perl", "printenv", "printf", "ps",
    "pwd", "readlink", "realpath", "rev", "rm", "rmdir", "sed", "seq", "sh", "sha1sum", "sha256sum",
    "shuf", "sleep", "sort", "split", "stat", "stty", "sum", "sync", "tac", "tail", "tar", "tee",
    "test", "timeout", "touch", "tr", "true", "truncate", "tsort", "tty", "uname", "unexpand", "uniq",
    "unlink", "wc", "which", "whoami", "xargs", "yes"]

def systemFolders : List String :=
  ["boot", "dev", "dev/shm", "etc", "etc/ssl", "home", "media", "mnt", "opt", "proc", "proc/self",
    "root", "run", "srv", "sys", "tmp", "usr", "usr/bin", "usr/include", "usr/lib", "usr/local",
    "usr/local/bin", "usr/local/lib", "usr/sbin", "usr/share", "usr/src", "var", "var/cache", "var/lib",
    "var/log", "var/run", "var/tmp"]

def systemLinks : List (String × String) :=
  [("bin", "usr/bin"), ("sbin", "usr/sbin"), ("lib", "usr/lib"), ("lib64", "usr/lib")]

def systemDevices : List (String × Device) :=
  [("dev/null", .null), ("dev/zero", .zero), ("dev/stdin", .stream 0), ("dev/stdout", .stream 1),
    ("dev/stderr", .stream 2), ("dev/fd/0", .stream 0), ("dev/fd/1", .stream 1),
    ("dev/fd/2", .stream 2)]

def systemFiles : List (String × String) :=
  [("etc/passwd", "root:x:0:0:root:/root:/bin/bash\n"), ("etc/group", "root:x:0:\n"),
    ("etc/shadow", "root:*:19000:0:99999:7:::\n"), ("etc/hostname", "host\n"),
    ("etc/hosts", "127.0.0.1\tlocalhost\n"), ("etc/resolv.conf", "nameserver 127.0.0.11\n"),
    ("etc/fstab", "# UNCONFIGURED FSTAB FOR BASE SYSTEM\n"), ("etc/shells", "/bin/sh\n")]

def systemDisk : Disk :=
  KeyMap.ofList
    (systemFolders.map (·, Node.folder) ++ [("dev/fd", Node.folder)] ++
      systemLinks.map (fun l => (l.1, .link l.2)) ++
      systemDevices.map (fun d => (d.1, .device d.2)) ++
      systemFiles.map (fun f => (f.1, .file f.2 standardMode)) ++
      systemPrograms.map (fun name => ("usr/bin/" ++ name, .program)))

end ConfigVault.Host

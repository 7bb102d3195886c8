import RunMeter.Files

/-!
# The system

What every machine has before anybody puts files on it: directories, links, devices, a list of users
and the programs of the usual tools. The programs are files without content; what they do is decided
by their names.
-/

set_option autoImplicit false

namespace RunMeter.Shell.System

/-- The names of the tools. -/
def tools : List String :=
  ["[", "arch", "base32", "base64", "basename", "bash", "cat", "chgrp", "chmod", "chown", "cksum",
    "cmp", "comm", "cp", "cut", "dash", "date", "dd", "diff", "dirname", "echo", "egrep", "env",
    "expand", "expr", "factor", "false", "fgrep", "find", "fold", "getconf", "grep", "groups",
    "head", "hostid", "id", "join", "kill", "ln", "logname", "ls", "mawk", "md5sum", "mkdir",
    "mktemp", "mv", "nice", "nl", "nohup", "nproc", "numfmt", "od", "paste", "printenv", "printf",
    "pwd", "readlink", "realpath", "rev", "rm", "rmdir", "sed", "seq", "setsid", "sha1sum",
    "sha224sum", "sha256sum", "sha384sum", "sha512sum", "shuf", "sleep", "sort", "split", "stat",
    "stdbuf", "sum", "sync", "tac", "tail", "tee", "test", "timeout", "touch", "tr", "true",
    "truncate", "tsort", "tty", "uname", "unexpand", "uniq", "unlink", "wc", "which", "whoami",
    "xargs", "yes"]

/-- The directories. -/
def directories : List Path :=
  [["boot"], ["dev"], ["dev", "pts"], ["dev", "shm"], ["etc"], ["etc", "alternatives"], ["home"],
    ["media"], ["mnt"], ["opt"], ["proc"], ["proc", "self"], ["proc", "self", "fd"], ["root"],
    ["run"], ["srv"], ["sys"], ["tmp"], ["usr"], ["usr", "bin"], ["usr", "games"],
    ["usr", "include"], ["usr", "lib"], ["usr", "local"], ["usr", "local", "bin"],
    ["usr", "local", "lib"], ["usr", "local", "sbin"], ["usr", "sbin"], ["usr", "share"],
    ["usr", "src"], ["var"], ["var", "cache"], ["var", "lib"], ["var", "log"], ["var", "tmp"]]

/-- The links and their targets. -/
def links : List (Path × String) :=
  [(["bin"], "usr/bin"), (["lib"], "usr/lib"), (["sbin"], "usr/sbin"), (["usr", "bin", "sh"], "dash"),
    (["usr", "bin", "awk"], "/etc/alternatives/awk"),
    (["etc", "alternatives", "awk"], "/usr/bin/mawk"), (["dev", "fd"], "/proc/self/fd"),
    (["dev", "stdin"], "/proc/self/fd/0"), (["dev", "stdout"], "/proc/self/fd/1"),
    (["dev", "stderr"], "/proc/self/fd/2"), (["var", "run"], "/run"), (["etc", "mtab"], "/proc/mounts")]

/-- The devices. -/
def devices : List (Path × Device) :=
  [(["dev", "null"], .null), (["dev", "zero"], .zero), (["dev", "full"], .full),
    (["dev", "random"], .random), (["dev", "urandom"], .random), (["dev", "tty"], .terminal)]

/-- The list of users. -/
def users : String :=
  "root:x:0:0:root:/root:/bin/bash\n" ++
  "daemon:x:1:1:daemon:/usr/sbin:/usr/sbin/nologin\n" ++
  "bin:x:2:2:bin:/bin:/usr/sbin/nologin\n" ++
  "sys:x:3:3:sys:/dev:/usr/sbin/nologin\n" ++
  "sync:x:4:65534:sync:/bin:/bin/sync\n" ++
  "games:x:5:60:games:/usr/games:/usr/sbin/nologin\n" ++
  "man:x:6:12:man:/var/cache/man:/usr/sbin/nologin\n" ++
  "lp:x:7:7:lp:/var/spool/lpd:/usr/sbin/nologin\n" ++
  "mail:x:8:8:mail:/var/mail:/usr/sbin/nologin\n" ++
  "news:x:9:9:news:/var/spool/news:/usr/sbin/nologin\n" ++
  "uucp:x:10:10:uucp:/var/spool/uucp:/usr/sbin/nologin\n" ++
  "proxy:x:13:13:proxy:/bin:/usr/sbin/nologin\n" ++
  "www-data:x:33:33:www-data:/var/www:/usr/sbin/nologin\n" ++
  "backup:x:34:34:backup:/var/backups:/usr/sbin/nologin\n" ++
  "list:x:38:38:Mailing List Manager:/var/list:/usr/sbin/nologin\n" ++
  "irc:x:39:39:ircd:/run/ircd:/usr/sbin/nologin\n" ++
  "_apt:x:42:65534::/nonexistent:/usr/sbin/nologin\n" ++
  "nobody:x:65534:65534:nobody:/nonexistent:/usr/sbin/nologin\n"

/-- The home directory of a user. -/
def homeOf? (user : String) : Option String :=
  (users.splitOn "\n").findSome? fun line =>
    match line.splitOn ":" with
    | name :: _ :: _ :: _ :: _ :: home :: _ => if name == user then some home else none
    | _ => none

/-- All of it. -/
def entries : List (Path × FileNode) :=
  (directories.map fun path => ("/" :: path, .plainDirectory)) ++
    links.map (fun (path, target) => ("/" :: path, .link target)) ++
    devices.map (fun (path, device) => ("/" :: path, .device device)) ++
    [(["/", "etc", "passwd"], .file users.toUTF8 FileNode.plainPermissions)] ++
    tools.map fun name => (["/", "usr", "bin", name], .file ByteArray.empty FileNode.programPermissions)

/-- The files of somebody on a machine. -/
def withFiles (files : Files) : Files :=
  if (files.lookup? ["/", "dev", "null"]).isSome then files
  else { entries := entries ++ files.entries }

/-- The tool whose program lies at a path. -/
def tool? : Path → Option String
  | ["/", "usr", "bin", name] => if tools.contains name then some name else none
  | _ => none

/-- The descriptor that a path stands for. -/
def descriptor? : Path → Option Nat
  | ["/", "proc", "self", "fd", number] => number.toNat?
  | _ => none

end RunMeter.Shell.System

import RunMeter.Shell.Launch
import RunMeter.Shell.Print
import RunMeter.Shell.Tool.Checksums
import RunMeter.Shell.Tool.Clock
import RunMeter.Shell.Tool.Columns
import RunMeter.Shell.Tool.Difference
import RunMeter.Shell.Tool.Edit
import RunMeter.Shell.Tool.Encode
import RunMeter.Shell.Tool.Judge
import RunMeter.Shell.Tool.Launching
import RunMeter.Shell.Tool.Listing
import RunMeter.Shell.Tool.Names
import RunMeter.Shell.Tool.Numbers
import RunMeter.Shell.Tool.Order
import RunMeter.Shell.Tool.Pieces
import RunMeter.Shell.Tool.Place
import RunMeter.Shell.Tool.Scan
import RunMeter.Shell.Tool.Search
import RunMeter.Shell.Tool.Show
import RunMeter.Shell.Tool.Surroundings
import RunMeter.Shell.Tool.Translate
import RunMeter.Shell.Tool.Units
import RunMeter.Shell.Tool.Walk

/-!
# Tools

The programs that start no others, by name. A tool that could not write all it had to say complains
about that last.
-/

set_option autoImplicit false

namespace RunMeter.Shell.Tool

/-- Prints words. -/
def echo (args : List String) (run : Run) : Run := (run.print (Print.echoToolLine args)).ended 0

/-- Prints words by a format. -/
def printf (args : List String) (run : Run) : Run :=
  let args := match args with
    | "--" :: rest => rest
    | args => args
  match args with
  | [] => misuse run "missing operand"
  | format :: words =>
    let printed := Print.formatted .tool format words
    let run := (run.print printed.text).ended 0
    printed.faults.foldl
      (fun run fault =>
        if fault.isFatal then fail run fault.toolMessage
        else run.write 2 (run.process.name ++ ": " ++ fault.toolMessage ++ "\n"))
      run

/-- The tool with a name. -/
def tool? (name : String) : Option (List String → Run → Run) :=
  match name with
  | "true" => some fun _ run => run.ended 0
  | "false" => some fun _ run => run.ended 1
  | "echo" => some echo
  | "printf" => some printf
  | "test" => some test
  | "[" => some bracket
  | "cat" => some cat
  | "tac" => some tac
  | "rev" => some rev
  | "head" => some head
  | "tail" => some tail
  | "nl" => some nl
  | "fold" => some fold
  | "expand" => some expand
  | "unexpand" => some unexpand
  | "tee" => some tee
  | "yes" => some yes
  | "wc" => some wc
  | "cut" => some cut
  | "paste" => some paste
  | "comm" => some comm
  | "join" => some join
  | "cmp" => some cmp
  | "sort" => some sort
  | "uniq" => some uniq
  | "tr" => some tr
  | "basename" => some basename
  | "dirname" => some dirname
  | "readlink" => some readlink
  | "realpath" => some realpath
  | "pwd" => some pwd
  | "ls" => some ls
  | "stat" => some stat
  | "chmod" => some chmod
  | "touch" => some touch
  | "mkdir" => some mkdir
  | "truncate" => some truncate
  | "rm" => some rm
  | "unlink" => some unlink
  | "rmdir" => some rmdir
  | "cp" => some cp
  | "mv" => some mv
  | "ln" => some ln
  | "expr" => some expr
  | "seq" => some seq
  | "factor" => some factor
  | "grep" => some (grep .basic)
  | "egrep" => some (grep .extended)
  | "fgrep" => some (grep .fixed)
  | "sed" => some sed
  | "sleep" => some sleep
  | "date" => some date
  | "md5sum" | "sha1sum" | "sha224sum" | "sha256sum" | "sha384sum" | "sha512sum" => some (digests name)
  | "cksum" => some cksum
  | "sum" => some sum
  | "base64" => some (encoded alphabet64)
  | "base32" => some (encoded alphabet32)
  | "od" => some od
  | "diff" => some diff
  | "dd" => some dd
  | "split" => some split
  | "shuf" => some shuf
  | "tsort" => some tsort
  | "mktemp" => some mktemp
  | "chown" | "chgrp" => some chown
  | "numfmt" => some numfmt
  | "id" => some identity
  | "whoami" => some whoami
  | "groups" => some groupNames
  | "logname" => some logname
  | "uname" => some uname
  | "arch" => some arch
  | "tty" => some tty
  | "nproc" => some nproc
  | "hostid" => some hostid
  | "sync" => some sync
  | "getconf" => some getconf
  | "printenv" => some printenv
  | "which" => some which
  | _ => none

/-- What a tool says if it cannot write, and its status. -/
def writeComplaint (name reason : String) : String × Nat :=
  match name with
  | "head" | "tail" => ("error writing 'standard output': " ++ reason, 1)
  | "grep" | "egrep" | "fgrep" => ("write error: " ++ reason, 2)
  | "sort" => ("write failed: 'standard output': " ++ reason, 2)
  | "sed" => ("couldn't flush stdout: " ++ reason, 4)
  | "tee" => ("'standard output': " ++ reason, 1)
  | "yes" => ("standard output: " ++ reason, 1)
  | _ => ("write error: " ++ reason, 1)

/-- Whether a tool says nothing before it has read everything. -/
def awaitsEnd (name : String) : Bool :=
  ["tac", "tail", "wc", "sort"].contains name

/-- Runs the tool with a name. -/
def run? (name : String) (args : List String) (run : Run) : Option Run :=
  (tool? name).map fun tool =>
    let before := run
    let run := tool args { run with unwritten := none }
    if run.control == .exhausted && awaitsEnd name then before.exhausting
    else
    match run.unwritten with
    | some fault =>
      let (text, status) := writeComplaint name (faultText fault)
      failWith status { run with unwritten := none } text
    | none => run

/-- The tool with a name, if it starts programs. -/
def launching? (name : String) : Option (Launcher → List String → Run → Run) :=
  match name with
  | "env" => some env
  | "find" => some find
  | "mawk" => some awk
  | "nice" => some nice
  | "nohup" => some nohup
  | "setsid" => some setsid
  | "stdbuf" => some stdbuf
  | "timeout" => some timeout
  | "xargs" => some xargs
  | _ => none

end RunMeter.Shell.Tool

import BuoyGateway.Shell.Account
import BuoyGateway.Shell.Utility

/-!
# Installation

What is on a disk before anything else is put there: the directories of the machine, its devices,
a few texts, and a file for each utility.
-/

namespace BuoyGateway.Shell.Installation

def directories : List Location :=
  [["bin"], ["boot"], ["dev"], ["fd", "dev"], ["shm", "dev"], ["etc"], ["home"], ["lib"],
   ["media"], ["mnt"], ["opt"], ["proc"],
   ["self", "proc"], ["fd", "self", "proc"], ["root"], ["run"], ["sbin"], ["srv"], ["sys"], ["tmp"],
   ["usr"], ["bin", "usr"], ["include", "usr"], ["lib", "usr"], ["sbin", "usr"], ["share", "usr"],
   ["src", "usr"], ["local", "usr"], ["bin", "local", "usr"], ["etc", "local", "usr"],
   ["lib", "local", "usr"], ["sbin", "local", "usr"], ["share", "local", "usr"], ["var"],
   ["cache", "var"], ["lib", "var"], ["log", "var"], ["mail", "var"], ["spool", "var"],
   ["tmp", "var"]]

def devices : List Location :=
  [["null", "dev"], ["zero", "dev"], ["full", "dev"], ["random", "dev"], ["urandom", "dev"],
   ["tty", "dev"], ["stdin", "dev"], ["stdout", "dev"], ["stderr", "dev"]]

def links : List (Location × String) :=
  [(["bin"], "usr/bin"), (["sbin"], "usr/sbin"), (["lib"], "usr/lib")]

def texts : List (Location × List String) :=
  [(["passwd", "etc"], Account.all.map Account.line), (["hostname", "etc"], ["buoy"]),
   (["hosts", "etc"], ["127.0.0.1\tlocalhost"])]

def home : Location := ["bin", "usr"]

def shells : List String := ["sh", "dash", "bash"]

def disk (now : Time.Instant) : Disk :=
  let blank := Disk.blank now
  let withDirectories := directories.foldl
    (fun (disk : Disk) loc => disk.insert loc ⟨.directory, now⟩) blank
  let withDevices := devices.foldl
    (fun (disk : Disk) loc => disk.insert loc ⟨.file [] false, now⟩) withDirectories
  let withTexts := texts.foldl
    (fun (disk : Disk) entry =>
      disk.insert entry.1
        ⟨.file (Text.toOctets (entry.2.flatMap (fun l => l.toList ++ ['\n']))) false, now⟩)
    withDevices
  (shells.map (fun name => (name, "sh")) ++ Utility.names.map (fun name => (name, name))).foldl
    (fun (disk : Disk) entry =>
      disk.insert (entry.1 :: home) ⟨.file (utilityFile entry.2) true, now⟩)
    withTexts

end BuoyGateway.Shell.Installation

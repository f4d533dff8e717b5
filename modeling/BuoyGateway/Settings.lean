import BuoyGateway.Launch.Invocation
import BuoyGateway.Disk.Path

/-!
# Settings

Where the gateway finds its scripts and its spool, how many messages fill the store, and how often
the inbox is looked at. A file of settings overlays the defaults key by key.
-/

namespace BuoyGateway

structure Settings where
  bootDir : String
  bootCommand : Invocation
  scriptsDir : String
  upgradeScript : String
  rebootDir : String
  rebootCommand : String
  ulpmScript : String
  spoolDir : String
  /-- The number of messages at which the store counts as full. -/
  storageCapacity : UInt64
  /-- Milliseconds between two looks at the inbox. -/
  pollInterval : UInt64
  deriving DecidableEq, Repr

namespace Settings

def home : String := "/home/root"

def default : Settings where
  bootDir := home
  bootCommand := ⟨"./boot.sh", []⟩
  scriptsDir := Path.join home "sms_scripts"
  upgradeScript := "./upgrade.sh"
  rebootDir := home
  rebootCommand := "/sbin/reboot"
  ulpmScript := "./ulpm.sh"
  spoolDir := Path.join home "sms_spool"
  storageCapacity := 30
  pollInterval := 1000

/-- Settings that keep everything below one directory, with a small store and a short interval. -/
def within (dir : String) : Settings :=
  { default with
    bootDir := dir
    scriptsDir := Path.join dir "sms_scripts"
    rebootDir := dir
    spoolDir := Path.join dir "sms_spool"
    storageCapacity := 5
    pollInterval := 10 }

def pathField (name : String) (set : Settings → String → Settings) : Json.Field Settings :=
  .of name false (Json.string .path) set

/-- Settings as a record, every field of which may be left out. -/
def shape : Json.Shape Settings where
  name := "Config"
  start := default
  fields :=
    [pathField "boot_dir" (fun s bootDir => { s with bootDir }),
     .of "boot_command" false Invocation.shape.reader (fun s bootCommand => { s with bootCommand }),
     pathField "scripts_dir" (fun s scriptsDir => { s with scriptsDir }),
     pathField "upgrade_script" (fun s upgradeScript => { s with upgradeScript }),
     pathField "reboot_dir" (fun s rebootDir => { s with rebootDir }),
     pathField "reboot_command" (fun s rebootCommand => { s with rebootCommand }),
     pathField "ulpm_script" (fun s ulpmScript => { s with ulpmScript }),
     pathField "spool_dir" (fun s spoolDir => { s with spoolDir }),
     .of "storage_capacity" false (Json.word .size)
       (fun s storageCapacity => { s with storageCapacity }),
     .of "poll_interval_ms" false (Json.word .word) (fun s pollInterval => { s with pollInterval })]

def toJson (s : Settings) : Json.Value :=
  .object
    [("boot_dir", .string s.bootDir), ("boot_command", s.bootCommand.toJson),
     ("scripts_dir", .string s.scriptsDir), ("upgrade_script", .string s.upgradeScript),
     ("reboot_dir", .string s.rebootDir), ("reboot_command", .string s.rebootCommand),
     ("ulpm_script", .string s.ulpmScript), ("spool_dir", .string s.spoolDir),
     ("storage_capacity", .number s.storageCapacity.toNat),
     ("poll_interval_ms", .number s.pollInterval.toNat)]

def read (text : List Char) : Except Json.Error Settings := shape.reader.parse text

end Settings

end BuoyGateway

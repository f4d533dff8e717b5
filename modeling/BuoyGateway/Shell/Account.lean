import BuoyGateway.Shell.Signal

/-!
# Accounts

The accounts of the machine. A tilde before the name of an account stands for its home, and the
list of all accounts is a file of the machine.
-/

namespace BuoyGateway.Shell

structure Account where
  name : String
  user : Nat
  group : Nat
  title : String
  home : String
  program : String
  deriving DecidableEq, Repr

namespace Account

def all : List Account :=
  [⟨"root", 0, 0, "root", "/root", "/bin/bash"⟩,
   ⟨"daemon", 1, 1, "daemon", "/usr/sbin", "/usr/sbin/nologin"⟩,
   ⟨"bin", 2, 2, "bin", "/bin", "/usr/sbin/nologin"⟩,
   ⟨"sys", 3, 3, "sys", "/dev", "/usr/sbin/nologin"⟩,
   ⟨"sync", 4, 65534, "sync", "/bin", "/bin/sync"⟩,
   ⟨"games", 5, 60, "games", "/usr/games", "/usr/sbin/nologin"⟩,
   ⟨"man", 6, 12, "man", "/var/cache/man", "/usr/sbin/nologin"⟩,
   ⟨"lp", 7, 7, "lp", "/var/spool/lpd", "/usr/sbin/nologin"⟩,
   ⟨"mail", 8, 8, "mail", "/var/mail", "/usr/sbin/nologin"⟩,
   ⟨"news", 9, 9, "news", "/var/spool/news", "/usr/sbin/nologin"⟩,
   ⟨"uucp", 10, 10, "uucp", "/var/spool/uucp", "/usr/sbin/nologin"⟩,
   ⟨"proxy", 13, 13, "proxy", "/bin", "/usr/sbin/nologin"⟩,
   ⟨"www-data", 33, 33, "www-data", "/var/www", "/usr/sbin/nologin"⟩,
   ⟨"backup", 34, 34, "backup", "/var/backups", "/usr/sbin/nologin"⟩,
   ⟨"list", 38, 38, "Mailing List Manager", "/var/list", "/usr/sbin/nologin"⟩,
   ⟨"irc", 39, 39, "ircd", "/run/ircd", "/usr/sbin/nologin"⟩,
   ⟨"_apt", 42, 65534, "", "/nonexistent", "/usr/sbin/nologin"⟩,
   ⟨"nobody", 65534, 65534, "nobody", "/nonexistent", "/usr/sbin/nologin"⟩]

def named? (name : String) : Option Account := all.find? (fun a => a.name = name)

def line (a : Account) : String :=
  String.intercalate ":"
    [a.name, "x", Signal.numeral a.user, Signal.numeral a.group, a.title, a.home, a.program]

end Account

end BuoyGateway.Shell

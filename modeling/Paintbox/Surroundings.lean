import Paintbox.Path

/-!
# What a disk holds of itself

A path may leave the folder in which a program runs.  It then meets the directories, the devices
and the files that a disk of this kind always has.  Only those are listed that a path may well
name, and of a file no more than what it is: a text without any settings in it, or no text.

* `Surroundings.directories` — the directories.
* `Surroundings.sinks`, `Surroundings.full`, `Surroundings.detached` — the devices.
* `Surroundings.texts`, `Surroundings.programs` — the files.
* `Surroundings.refusal?` — where no file can be made.
-/

namespace Paintbox.Surroundings

def inside (directory : Location) (names : List String) : List Location :=
  names.map (· :: directory)

def directories : List Location :=
  inside [] ["bin", "boot", "dev", "etc", "home", "lib", "lib64", "media", "mnt", "opt", "proc",
    "root", "run", "sbin", "srv", "sys", "tmp", "usr", "var"] ++
  inside ["dev"] ["fd", "pts", "shm"] ++
  inside ["etc"] ["ssl"] ++
  inside ["proc"] ["self", "sys"] ++
  inside ["sys"] ["class", "devices", "kernel"] ++
  inside ["usr"] ["bin", "include", "lib", "local", "sbin", "share", "src"] ++
  inside ["local", "usr"] ["bin", "lib", "share"] ++
  inside ["var"] ["cache", "lib", "log", "run", "spool", "tmp"]

/-- The devices that take what is written to them and keep none of it. -/
def sinks : List Location :=
  inside ["dev"] ["null", "random", "stderr", "stdin", "stdout", "urandom", "zero"]

def full : List Location := inside ["dev"] ["full"]

/-- The device that cannot be opened, because the program runs without a terminal. -/
def detached : List Location := inside ["dev"] ["tty"]

def texts : List Location :=
  inside ["etc"] ["fstab", "group", "hostname", "hosts", "passwd", "resolv.conf"] ++
  inside ["proc"] ["cpuinfo", "meminfo", "uptime", "version"]

def programs : List Location :=
  inside ["bin"] ["cat", "ls", "sh"] ++ inside ["bin", "usr"] ["cat", "env", "ls", "sh"]

/-- Why no file can be made in a directory, if none can.  These directories show the state of the
machine, and the same holds for all that is inside them. -/
def refusal? (here : Location) : Option PathFault :=
  if ["proc"].isSuffixOf here ∨ ["fd", "dev"].isSuffixOf here then some .missing
  else if ["sys"].isSuffixOf here ∨ ["pts", "dev"].isSuffixOf here then some .denied
  else none

end Paintbox.Surroundings

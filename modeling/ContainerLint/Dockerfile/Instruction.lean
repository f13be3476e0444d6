/-
The instructions of a Dockerfile. Arguments keep the difference between the shell
form, one text, and the exec form, a list of items; flags are read into records,
so that a check matches on meaning and never on raw text.
-/
import ContainerLint.Dockerfile.Image

namespace ContainerLint.Dockerfile

open ContainerLint.Text

/-! ## Arguments and flags -/

/-- The arguments of an instruction. -/
inductive Arguments where
  /-- One text, to be read by a shell. -/
  | shell (text : String)
  /-- A list of items, taken as they are. -/
  | exec (items : List String)
  deriving Repr, DecidableEq

namespace Arguments

/-- The arguments are in exec form. -/
def isExec : Arguments → Bool
  | .shell _ => false
  | .exec _ => true

/-- The words of the shell text, or the items. -/
def words : Arguments → List String
  | .shell text => wordsOf text
  | .exec items => items

/-- The shell text, or the items with a space between neighbours. -/
def asText : Arguments → String
  | .shell text => text
  | .exec items => joinWith " " items

end Arguments

/-- What a build mount provides. -/
inductive MountType where
  | bind
  | cache
  | tmpfs
  | secret
  | ssh
  deriving Repr, DecidableEq

/-- The mount type as it is written. -/
def MountType.label : MountType → String
  | .bind => "bind"
  | .cache => "cache"
  | .tmpfs => "tmpfs"
  | .secret => "secret"
  | .ssh => "ssh"

/-- One mount of a RUN instruction. -/
structure Mount where
  type : MountType := .bind
  target : Option String := none
  source : Option String := none
  origin : Option String := none
  id : Option String := none
  sharing : Option String := none
  mode : Option String := none
  uid : Option Nat := none
  gid : Option Nat := none
  readonly : Bool := false
  required : Bool := false
  size : Option String := none
  deriving Repr, DecidableEq

/-- The flags of a RUN instruction. -/
structure RunFlags where
  mounts : List Mount := []
  network : Option String := none
  security : Option String := none
  deriving Repr, DecidableEq

/-- The flags of a COPY instruction; `origin` is the stage or image copied from. -/
structure CopyFlags where
  origin : Option String := none
  chown : Option String := none
  chmod : Option String := none
  link : Bool := false
  deriving Repr, DecidableEq

/-- The flags of an ADD instruction. -/
structure AddFlags where
  chown : Option String := none
  chmod : Option String := none
  checksum : Option String := none
  link : Bool := false
  deriving Repr, DecidableEq

/-- A transport protocol. -/
inductive Protocol where
  | tcp
  | udp
  | sctp
  deriving Repr, DecidableEq

/-- The protocol as it is written. -/
def Protocol.label : Protocol → String
  | .tcp => "tcp"
  | .udp => "udp"
  | .sctp => "sctp"

/-- What an exposed port names. -/
inductive PortSpec where
  /-- A port, or a range of ports with its upper end. -/
  | number (first : Nat) (last : Option Nat)
  /-- A build variable, with its dollar sign. -/
  | buildVariable (text : String)
  deriving Repr, DecidableEq

/-- An exposed port. -/
structure Port where
  spec : PortSpec
  protocol : Protocol := .tcp
  deriving Repr, DecidableEq

/-- The command of a health check and its timing. -/
structure HealthCommand where
  arguments : Arguments
  interval : Option String := none
  timeout : Option String := none
  startPeriod : Option String := none
  startInterval : Option String := none
  retries : Option Nat := none
  deriving Repr, DecidableEq

/-! ## Instructions -/

/-- An instruction, or a comment. -/
inductive Instruction where
  | comment (text : String)
  | base (image : Image)
  | run (arguments : Arguments) (flags : RunFlags)
  | copy (sources : List String) (destination : String) (flags : CopyFlags)
  | add (sources : List String) (destination : String) (flags : AddFlags)
  | env (pairs : List (String × String))
  | label (pairs : List (String × String))
  | expose (ports : List Port)
  | arg (name : String) (default : Option String)
  | entrypoint (arguments : Arguments)
  | cmd (arguments : Arguments)
  | shell (arguments : Arguments)
  | user (user : String)
  | workdir (path : String)
  | volume (paths : List String)
  | maintainer (name : String)
  | stopSignal (signal : String)
  /-- No command means that health checks are switched off. -/
  | healthcheck (check : Option HealthCommand)
  /-- Runs when the image becomes a base. -/
  | onBuild (inner : Instruction)
  deriving Repr, DecidableEq

namespace Instruction

/-- The keyword that starts the instruction. -/
def keyword : Instruction → String
  | .comment _ => "#"
  | .base _ => "FROM"
  | .run .. => "RUN"
  | .copy .. => "COPY"
  | .add .. => "ADD"
  | .env _ => "ENV"
  | .label _ => "LABEL"
  | .expose _ => "EXPOSE"
  | .arg .. => "ARG"
  | .entrypoint _ => "ENTRYPOINT"
  | .cmd _ => "CMD"
  | .shell _ => "SHELL"
  | .user _ => "USER"
  | .workdir _ => "WORKDIR"
  | .volume _ => "VOLUME"
  | .maintainer _ => "MAINTAINER"
  | .stopSignal _ => "STOPSIGNAL"
  | .healthcheck _ => "HEALTHCHECK"
  | .onBuild _ => "ONBUILD"

/-- The instruction is a comment. -/
def isComment : Instruction → Bool
  | .comment _ => true
  | _ => false

/-- An instruction that may not be deferred: one that is deferred already. -/
inductive DeferError where
  | nested
  deriving Repr, DecidableEq

/-- The wording of a deferral error. -/
def DeferError.message : DeferError → String
  | .nested => "ONBUILD cannot wrap another ONBUILD instruction"

/-- Defers an instruction to the builds that start from this image. -/
def defer? : Instruction → Except DeferError Instruction
  | .onBuild _ => .error .nested
  | i => .ok (.onBuild i)

/-- The nodes that a check sees for one instruction: itself, and then the instruction
that it defers. -/
def nodes : Instruction → List Instruction
  | .onBuild inner => [.onBuild inner, inner]
  | i => [i]

/-- The endings of file names that ADD unpacks. -/
def archiveEndings : List String := [
  ".tar", ".tar.gz", ".tgz", ".tar.bz2", ".tbz2", ".tar.xz", ".txz", ".zip", ".gz", ".bz2",
  ".xz", ".Z", ".lz", ".lzma"]

/-- Some source is a web address. -/
def hasUrl (sources : List String) : Bool :=
  sources.any fun s => startsWith s "http://" || startsWith s "https://"

/-- Some source is an archive by its name. -/
def hasArchive (sources : List String) : Bool :=
  sources.any fun s => archiveEndings.any (endsWith s)

end Instruction

/-- An instruction with the place it was read from. -/
structure Positioned where
  /-- The instruction. -/
  instruction : Instruction
  /-- The number of its first physical line, from one. -/
  line : Nat
  /-- Its physical lines, as they stand. -/
  source : String
  deriving Repr, DecidableEq

end ContainerLint.Dockerfile

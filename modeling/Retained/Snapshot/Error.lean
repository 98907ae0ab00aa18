import Retained.Disk

/-!
# Failed snapshots

Why a snapshot could not be written or read. The disk, the file's frame, the document within it
and the availability of what is asked for are told apart, each with its causes; `message` is the
text.
-/

namespace Retained.Snapshot

inductive Corruption where
  | truncatedHeader
  | bodyLength (expected found : Nat)
  | checksum
  /-- The state machine refused the snapshot of a directory. -/
  | refused (dir : Path)
  | other (text : String)
  deriving Repr, DecidableEq

inductive CodecFault where
  | unreadable
  | version (found : Nat)
  | other (text : String)
  deriving Repr, DecidableEq

inductive Absence where
  | noSnapshot (dir : Path)
  | notListed (file : String) (dir : Path)
  | callbackDropped
  | loopStopped
  | requestDropped
  | other (text : String)
  deriving Repr, DecidableEq

inductive IoFault where
  | disk (e : Disk.Error)
  | notRegistered (file : String)
  /-- A save was reported as failed without a cause. -/
  | saveFailed
  | other (text : String)
  deriving Repr, DecidableEq

/-- Why a snapshot could not be written or read. -/
inductive Error where
  | io (fault : IoFault)
  | corrupt (fault : Corruption)
  | codec (fault : CodecFault)
  | unavailable (cause : Absence)
  deriving Repr, DecidableEq

def Corruption.message : Corruption → String
  | truncatedHeader => "truncated header"
  | bodyLength expected found => s!"expected {expected} body bytes, found {found}"
  | checksum => "CRC mismatch"
  | refused dir => s!"snapshot {dir.quoted} could not be loaded"
  | other text => text

def CodecFault.message : CodecFault → String
  | unreadable => "unreadable document"
  | version found => s!"unsupported snapshot version {found}"
  | other text => text

def Absence.message : Absence → String
  | noSnapshot dir => s!"no snapshot in {dir.quoted}"
  | notListed file dir => s!"{file} not listed in {dir.quoted}"
  | callbackDropped => "snapshot callback dropped"
  | loopStopped => "apply loop stopped"
  | requestDropped => "apply loop dropped the request"
  | other text => text

def IoFault.message : IoFault → String
  | disk e => e.message
  | notRegistered file => s!"failed to register {file}"
  | saveFailed => "snapshot save failed"
  | other text => text

namespace Error

/-- The text within a message that tells the cause. -/
def detail : Error → String
  | io fault => fault.message
  | corrupt fault => fault.message
  | codec fault => fault.message
  | unavailable cause => cause.message

def message (e : Error) : String :=
  match e with
  | io _ => s!"snapshot I/O error: {e.detail}"
  | corrupt _ => s!"snapshot corrupt: {e.detail}"
  | codec _ => s!"snapshot codec error: {e.detail}"
  | unavailable _ => s!"snapshot unavailable: {e.detail}"

end Error

end Retained.Snapshot

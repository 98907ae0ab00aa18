import Retained.Replicated

/-!
# The apply loop

Writes, saves, loads and questions for the applied index reach a state machine through one queue
and are handled strictly in their order. The index counts the writes, refused ones too, in a word
of 64 bits, in which zero follows the greatest number; a load sets it to the snapshot's. A crash
of the state machine ends the loop: the command at hand and those queued behind it are dropped,
and later ones find the loop stopped.
-/

namespace Retained

inductive Command where
  | write (r : WriteRequest)
  /-- Saves a snapshot in a directory, under a time of creation. -/
  | save (dir : Path) (createdAt : String)
  | load (dir : Path)
  | index

inductive Reply where
  | written (response : Response)
  /-- The index of the snapshot that was saved or loaded. -/
  | snapshot (result : Except Snapshot.Error Nat)
  | index (n : Nat)

inductive Refusal where
  /-- The loop ended before it was done with the command. -/
  | dropped
  /-- The loop had ended before the command came. -/
  | stopped
  deriving Repr, DecidableEq

def Refusal.absence : Refusal → Snapshot.Absence
  | dropped => .requestDropped
  | stopped => .loopStopped

def Command.refuse (why : Refusal) : Command → Reply
  | write _ => .written (.failure Rejection.internalKind why.absence.message)
  | save .. | load _ => .snapshot (.error (.unavailable why.absence))
  | index => .index 0

/-- The loop of a state machine, with the number of the last write applied. -/
structure ApplyLoop (σ : Type) where
  machine : σ
  index : UInt64 := 0
  isRunning : Bool := true

namespace ApplyLoop

variable {σ : Type} [Replicated σ]

def save (dir : Path) (createdAt : String) (l : ApplyLoop σ) (disk : Disk) :
    Option (Except Snapshot.Error Nat) × ApplyLoop σ × Disk :=
  match Snapshot.Staging.start dir l.index.toNat disk with
  | (.error e, disk) => (some (.error e), l, disk)
  | (.ok w, disk) =>
    let (report, w, disk, machine) := Replicated.save w disk l.machine
    let l := { l with machine }
    match report with
    | .crashed => (none, l, disk)
    | .dropped => (some (.error (.unavailable .callbackDropped)), l, disk)
    | .reported false cause => (some (.error (cause.getD (.io .saveFailed))), l, disk)
    | .reported true _ =>
      match w.publish createdAt disk with
      | (some e, disk) => (some (.error e), l, disk)
      | (none, disk) => (some (.ok l.index.toNat), l, disk)

def load (dir : Path) (l : ApplyLoop σ) (disk : Disk) :
    Option (Except Snapshot.Error Nat) × ApplyLoop σ :=
  match Snapshot.openDir dir disk with
  | .error e => (some (.error e), l)
  | .ok o =>
    let (accepted, machine) := Replicated.load o.source disk l.machine
    let l := { l with machine }
    match accepted with
    | none => (none, l)
    | some false => (some (.error (.corrupt (.refused dir))), l)
    | some true =>
      let index : UInt64 := .ofNat o.info.appliedIndex
      (some (.ok index.toNat), { l with index })

/-- Handles a command. There is no reply in a crash. -/
def handle (c : Command) (l : ApplyLoop σ) (disk : Disk) : Option Reply × ApplyLoop σ × Disk :=
  match c with
  | .write r =>
    let (response, machine) := Replicated.write r l.machine
    (response.map .written, { l with machine, index := l.index + 1 }, disk)
  | .save dir createdAt =>
    let (result, l, disk) := l.save dir createdAt disk
    (result.map .snapshot, l, disk)
  | .load dir =>
    let (result, l) := l.load dir disk
    (result.map .snapshot, l, disk)
  | .index => (some (.index l.index.toNat), l, disk)

/-- Handles queued commands in order, up to a crash that drops those behind it. -/
def drain (l : ApplyLoop σ) (disk : Disk) : List Command → List Reply × ApplyLoop σ × Disk
  | [] => ([], l, disk)
  | c :: queue =>
    match l.handle c disk with
    | (some reply, l, disk) =>
      let (replies, l, disk) := l.drain disk queue
      (reply :: replies, l, disk)
    | (none, l, disk) =>
      ((c :: queue).map (Command.refuse .dropped), { l with isRunning := false }, disk)

/-- Queues commands all at once and waits for their replies. -/
def submit (cs : List Command) (l : ApplyLoop σ) (disk : Disk) :
    List Reply × ApplyLoop σ × Disk :=
  if l.isRunning then l.drain disk cs else (cs.map (Command.refuse .stopped), l, disk)

def stop (l : ApplyLoop σ) : ApplyLoop σ := { l with isRunning := false }

end ApplyLoop

/-- A replica of the retained store: writes go through its loop, reads straight to its store. -/
abbrev Replica := ApplyLoop Store

namespace Replica

def empty (limits : Limits) : Replica := { machine := .empty limits }

def read (r : ReadRequest) (replica : Replica) : Response × Replica :=
  let (response, machine) := replica.machine.read r
  (response, { replica with machine })

end Replica

end Retained

import Retained.Main
import Retained.Proofs.ApplyLoop
import Retained.Proofs.Replica.Acknowledgement
import Retained.Proofs.Replica.Isolation
import Retained.Proofs.Replica.LastWrite
import Retained.Proofs.Replica.LocalReads
import Retained.Proofs.Replica.Writes
import Retained.Proofs.Snapshot.Damage
import Retained.Proofs.Snapshot.Whole
import Retained.Proofs.Store.Addressable
import Retained.Proofs.Store.Canonical
import Retained.Proofs.Store.Matching
import Retained.Proofs.Store.NamespaceKeys
import Retained.Proofs.Topic.Erasure
import Retained.Proofs.Topic.Pruning
